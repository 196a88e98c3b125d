import TreePipeline.Time.Civil.Reader
import TreePipeline.Tools.Basic

/-! Small programs that show times and set those of files. -/

namespace TreePipeline.Tools

open Shell Host

def zoneOf (env : Env) : Zone :=
  match env.lookup (Octets.ofAscii "TZ") with
  | some v => Zone.ofSetting (ofOctets v)
  | none => .universal

def presentNanos : Act Int := do
  match ← Act.call .now with
  | .number n => return n
  | _ => return 0

def instantOf (nanos : Int) : Int × Nat :=
  (nanos.fdiv 1000000000, (nanos.fmod 1000000000).toNat)

namespace Dates

def usualPattern : Chars := "%a %b %e %H:%M:%S %Z %Y".toList

def chooseWord? (words : List String) (given : Chars) : Option String :=
  match words.find? fun w => w.toList = given with
  | some w => some w
  | none =>
    match words.filter fun w => given.isPrefixOf w.toList with
    | [w] => some w
    | _ => none

def refuseWord (tool : String) (option : String) (lines : List (List String)) (given : Chars) : Act Nat := do
  complain tool ("invalid argument ".toList ++ inPlainQuotes given ++ " for '".toList ++ option.toList ++
    "'\nValid arguments are:".toList ++ lines.flatMap fun ws => "\n  - ".toList ++
      ", ".toList.intercalate (ws.map fun w => '\'' :: w.toList ++ ['\'']))
  let _ ← Act.write 2
    (toOctets ("Try '".toList ++ tool.toList ++ " --help' for more information.\n".toList))
  return 1

def isoPattern (word : String) : String :=
  match word with
  | "hours" => "%Y-%m-%dT%H%:z"
  | "minutes" => "%Y-%m-%dT%H:%M%:z"
  | "seconds" => "%Y-%m-%dT%H:%M:%S%:z"
  | "ns" => "%Y-%m-%dT%H:%M:%S,%N%:z"
  | _ => "%Y-%m-%d"

def plainPattern (word : String) : String :=
  match word with
  | "seconds" => "%Y-%m-%d %H:%M:%S%:z"
  | "ns" => "%Y-%m-%d %H:%M:%S.%N%:z"
  | _ => "%Y-%m-%d"

def showEach (tool : String) (pattern : Chars) (zone : Zone) : List Chars → (status : Nat) → Act Nat
  | [], status => return status
  | text :: r, status => do
    let (now, nanos) := instantOf (← presentNanos)
    match Civil.momentOf? now nanos zone text with
    | some (secs, nanos) =>
      say tool ((Civil.ofInstant secs nanos zone).format (pattern.length + 1) pattern ++ ['\n'])
      showEach tool pattern zone r status
    | none =>
      complain tool ("invalid date ".toList ++ inQuotes text)
      showEach tool pattern zone r 1

def ofDigits? (now : Int) (zone : Zone) (yearFirst : Bool) (cs : Chars) : Option Int :=
  let front := cs.takeWhile (· ≠ '.')
  let rest := cs.drop front.length
  let second? : Option Nat := match rest with
    | [] => some 0
    | [_, a, b] => number? [a, b]
    | _ => none
  let extra := front.length - 8
  let (yearDigits, body) := if yearFirst then (front.take extra, front.drop extra) else (front.drop 8, front.take 8)
  let year? : Option Int := match number? yearDigits, yearDigits.length with
    | _, 0 => some (Civil.ofInstant now 0 zone).year
    | some y, 2 => some (if y < 69 then 2000 + y else 1900 + y : Nat)
    | some y, 4 => some y
    | _, _ => none
  let two (i : Nat) : Nat := (number? ((body.drop i).take 2)).getD 99
  match second?, year? with
  | some s, some y =>
    if body.length ≠ 8 ∨ !front.all Char.isDigit then none
    else
      let c : Civil := ⟨y, two 0, two 2, two 4, two 6, s, 0, zone⟩
      if c.month = 0 ∨ 12 < c.month ∨ c.day = 0 ∨ Timestamp.daysInMonth y c.month < c.day ∨
          23 < c.hour ∨ 59 < c.minute ∨ 60 < s then none
      else some c.instant
  | _, _ => none

end Dates

open Dates in
def date : Tool := fun tool args env => do
  let table := "d,date= f,file= I,iso-8601=? R,rfc-email,rfc-822,rfc-2822 rfc-3339= r,reference= " ++
    "s,set= u,utc,universal debug"
  withTable tool table args fun os operands => do
    let zone := if os.has "u" then Zone.universal else zoneOf env
    let isoWords := ["hours", "minutes", "date", "seconds", "ns"]
    let plainWords := ["date", "seconds", "ns"]
    let iso := (os.values "I").getLast?
    match iso.filter fun v => (chooseWord? isoWords v).isNone,
        (os.value? "rfc-3339").filter fun v => (chooseWord? plainWords v).isNone with
    | some v, _ => refuseWord tool "--iso-8601" (isoWords.map ([·])) v
    | none, some v => refuseWord tool "--rfc-3339" (plainWords.map ([·])) v
    | none, none =>
    let asked : List Chars :=
      (if os.has "I" then [(isoPattern (((iso.bind (chooseWord? isoWords)).getD "date"))).toList] else []) ++
        (if os.has "R" then ["%a, %d %b %Y %H:%M:%S %z".toList] else []) ++
        ((os.value? "rfc-3339").bind (chooseWord? plainWords)).toList.map fun w => (plainPattern w).toList
    let sources := (["d", "f", "r"].filter os.has).length
    if 1 < sources then
      return ← misuse tool "the options to specify dates for printing are mutually exclusive".toList
    if os.has "s" ∧ 0 < sources then
      return ← misuse tool "the options to print and set the time may not be used together".toList
    let (patterns, settings) := operands.partition fun a => a.head? = some '+'
    match operands with
    | _ :: extra :: _ => misuse tool ("extra operand ".toList ++ inQuotes extra)
    | _ =>
    match settings with
    | a :: _ =>
      if 0 < sources ∨ os.has "s" then
        misuse tool ("the argument ".toList ++ inQuotes a ++
          (" lacks a leading '+';\nwhen using an option to specify date(s), any non-option\n" ++
            "argument must be a format string beginning with '+'").toList)
      else
        let (now, _) := instantOf (← presentNanos)
        match ofDigits? now zone false a with
        | none =>
          complain tool ("invalid date ".toList ++ inQuotes a)
          return 1
        | some secs =>
          complain tool "cannot set date: Operation not permitted".toList
          say tool ((Civil.ofInstant secs 0 zone).format (usualPattern.length + 1) usualPattern ++ ['\n'])
          return 1
    | [] =>
      let formats := asked ++ patterns.map (·.drop 1)
      if 1 < formats.length then
        complain tool "multiple output formats specified".toList
        return 1
      let pattern := formats.headD usualPattern
      let show_ (secs : Int) (nanos : Nat) : Act Unit :=
        say tool ((Civil.ofInstant secs nanos zone).format (pattern.length + 1) pattern ++ ['\n'])
      match os.value? "s", os.value? "d", os.value? "f", os.value? "r" with
      | some text, _, _, _ =>
        let (now, nanos) := instantOf (← presentNanos)
        match Civil.momentOf? now nanos zone text with
        | none =>
          complain tool ("invalid date ".toList ++ inQuotes text)
          return 1
        | some (secs, nanos) =>
          complain tool "cannot set date: Operation not permitted".toList
          show_ secs nanos
          return 1
      | none, some text, _, _ => showEach tool pattern zone [text] 0
      | none, none, some path, _ =>
        match ← contentOf tool path with
        | none => return 1
        | some content =>
          showEach tool pattern zone
            ((linesOf content).map fun l => ofOctets (l.filter (· ≠ newline))) 0
      | none, none, none, some path =>
        let fs ← Act.tree
        match fs.locate false (toOctets path) with
        | .error e =>
          complain tool (asWord path ++ ": ".toList ++ faultText e)
          return 1
        | .ok l =>
          let (secs, nanos) := instantOf (fs.modifiedAt l)
          show_ secs nanos
          return 0
      | none, none, none, none =>
        let (secs, nanos) := instantOf (← presentNanos)
        show_ secs nanos
        return 0

def touchEach (tool : String) (create keepLink : Bool) (time : Option Int) :
    List Chars → (status : Nat) → Act Nat
  | [], status => return status
  | p :: r, status => do
    let path := toOctets p
    let set (fs : FileSystem) : Except SystemError FileSystem := do
      let l ← fs.locate keepLink path
      return match time with
        | some t => fs.setModifiedAt l t
        | none => fs
    let make (fs : FileSystem) : Except SystemError FileSystem := do
      if (fs.stat path).toBool ∨ (keepLink ∧ (fs.lstat path).toBool) then set fs
      else if !create then
        let _ ← fs.target false path
        return fs
      else set (← fs.writeFile path [])
    match ← if p = ['-'] then pure (.ok ()) else Act.files make with
    | .ok () => touchEach tool create keepLink time r status
    | .error e =>
      if !create ∧ e.isNotFound then touchEach tool create keepLink time r status
      else
        complainOf tool (if e = .os .isDirectory then "setting times of " else "cannot touch ") p
          (if e = .os .isDirectory then .os .noEntry else e)
        touchEach tool create keepLink time r 1

def touch : Tool := fun tool args env => do
  let table := "a c,no-create d,date= f h,no-dereference m r,reference= t= time="
  withTable tool table args fun os paths => do
    let zone := zoneOf env
    let lines := [["atime", "access", "use"], ["mtime", "modify"]]
    let words := lines.flatten
    match (os.value? "time").filter fun v => (Dates.chooseWord? words v).isNone with
    | some v => Dates.refuseWord tool "--time" lines v
    | none =>
    let kind := (os.value? "time").bind (Dates.chooseWord? words)
    let access := os.has "a" || kind.any ["atime", "access", "use"].contains
    let change := os.has "m" || kind.any ["mtime", "modify"].contains
    let now ← presentNanos
    let refuseDate (v : Chars) : Act Nat := do
      complain tool ("invalid date format ".toList ++ inQuotes v)
      return 1
    let go (time : Int) : Act Nat := do
      if paths.isEmpty then misuse tool "missing file operand".toList
      else touchEach tool (!os.has "c") (os.has "h") (if access && !change then none else some time) paths 0
    if os.has "t" ∧ (os.has "d" ∨ os.has "r") then
      return ← misuse tool "cannot specify times from more than one source".toList
    match os.value? "r", os.value? "d", os.value? "t" with
    | some p, d, _ =>
      let fs ← Act.tree
      match fs.locate (os.has "h") (toOctets p) with
      | .error e =>
        complainOf tool "failed to get attributes of " p e
        return 1
      | .ok l =>
        let (secs, nanos) := instantOf (fs.modifiedAt l)
        match d with
        | none => go (fs.modifiedAt l)
        | some v =>
          match Civil.momentOf? secs nanos zone v with
          | some (s, n) => go (s * 1000000000 + n)
          | none => refuseDate v
    | none, some v, _ =>
      let (secs, nanos) := instantOf now
      match Civil.momentOf? secs nanos zone v with
      | some (s, n) => go (s * 1000000000 + n)
      | none => refuseDate v
    | none, none, some v =>
      match Dates.ofDigits? (instantOf now).1 zone true v with
      | some s => go (s * 1000000000)
      | none => refuseDate v
    | none, none, none =>
      let fs ← Act.tree
      go fs.stamp

end TreePipeline.Tools
