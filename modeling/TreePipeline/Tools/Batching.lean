import TreePipeline.Stage.Result
import TreePipeline.Tools.Format
import TreePipeline.Tools.Launching

/-!
Running a command on what is read: the input is taken apart into words or lines, and the command gets
as many of them at a time as it is allowed to.
-/

namespace TreePipeline.Tools

open Shell Host

namespace Batch

/-! The parts of the input. -/

inductive Phase where
  | gap
  | word
  | quoted (quote : Char)
  | escaped
  deriving DecidableEq

inductive Grammar where
  | at_ (separator : Char)
  | words
  | lines
  deriving DecidableEq

inductive Part where
  | item (text : Chars)
  | line
  | unclosed (quote : Char)

structure Splitter where
  phase : Phase := .gap
  text : Chars := []
  isThere : Bool := false
  previous : Char := '\x00'

namespace Splitter

def isSpace (c : Char) : Bool := c = ' ' || ('\t' ≤ c && c ≤ '\r')

def isBlank (c : Char) : Bool := c = ' ' || c = '\t'

def finished (s : Splitter) : Splitter := { s with phase := .gap, text := [], isThere := false }

def inWord (g : Grammar) (s : Splitter) (c : Char) : Splitter × List Part :=
  if c = '\n' then
    let line := if isBlank s.previous then [] else [Part.line]
    if s.text.isEmpty ∧ !s.isThere then ({ s with phase := .gap }, line)
    else (s.finished, .item s.text.reverse :: line)
  else if g = .words ∧ isBlank c then (s.finished, [.item s.text.reverse])
  else if c = '\\' then ({ s with phase := .escaped, isThere := true }, [])
  else if c = '\'' ∨ c = '"' then ({ s with phase := .quoted c, isThere := true }, [])
  else ({ s with phase := .word, text := c :: s.text, isThere := true }, [])

def step (g : Grammar) (s : Splitter) (c : Char) : Splitter × List Part :=
  match g with
  | .at_ separator =>
    if c = separator then ({}, [.item s.text.reverse, .line])
    else ({ s with text := c :: s.text, isThere := true }, [])
  | g =>
    let (t, parts) := match s.phase with
      | .gap => if isSpace c then (s, []) else s.inWord g c
      | .word => s.inWord g c
      | .quoted q =>
        if c = '\n' then (s, [.unclosed q])
        else if c = q then ({ s with phase := .word, isThere := true }, [])
        else ({ s with text := c :: s.text }, [])
      | .escaped => ({ s with phase := .word, text := c :: s.text }, [])
    ({ t with previous := c }, parts)

def finish (g : Grammar) (s : Splitter) : List Part :=
  match g, s.phase with
  | .at_ _, _ => if s.isThere then [.item s.text.reverse, .line] else []
  | _, .quoted q => [.unclosed q]
  | _, _ => if s.isThere then [.item s.text.reverse] else []

end Splitter

/-! The runs. -/

structure Plan where
  tool : String
  env : Env
  command : List Chars
  grammar : Grammar
  hole : Option Chars
  perRun : Option Nat
  linesPerRun : Option Nat
  size : Nat
  trace : Bool
  skipEmpty : Bool
  exitIfTooLong : Bool
  slots : Nat
  last : Option Chars
  quietInput : Bool

structure Progress where
  splitter : Splitter := {}
  items : List Chars := []
  count : Nat := 0
  size : Nat := 0
  lines : Nat := 0
  running : List Nat := []
  status : Nat := 0
  started : Bool := false
  warned : Bool := false
  isOver : Bool := false

def Plan.ownSize (p : Plan) : Nat := (p.command.map fun a => a.length + 1).foldl Nat.add 0

def judge (p : Plan) (status : UInt32) (before : Nat) : Act Nat := do
  let name := p.command.headD []
  match WaitStatus.exitCode? status, WaitStatus.signal? status with
  | some 255, _ =>
    complain p.tool (name ++ ": exited with status 255; aborting".toList)
    Act.exit 124
  | some 0, _ => return before
  | some _, _ => return 123
  | none, some n =>
    complain p.tool (name ++ ": terminated by signal ".toList ++ (toString n).toList)
    Act.exit 125
  | none, none => return before

def settle (p : Plan) (limit : Nat) : (fuel : Nat) → Progress → Act Progress
  | 0, s => return s
  | fuel + 1, s =>
    match s.running with
    | [] => return s
    | pid :: rest =>
      if s.running.length ≤ limit then return s
      else do
        let word ← awaitEnd pid
        let status ← judge p word s.status
        settle p limit fuel { s with running := rest, status := status }

def settleAll (p : Plan) (s : Progress) : Act Progress := settle p 0 (s.running.length + 1) s

def traced (cs : Chars) : Chars := if Quoting.needed false cs then inQuotes cs else cs

def start (p : Plan) (words : List Chars) (s : Progress) : Act Progress := do
  let words := words.map fun w => w.takeWhile (· ≠ '\x00')
  let s ← if p.slots = 0 then pure s else settle p (p.slots - 1) (s.running.length + 1) s
  if p.trace then
    let _ ← Act.write 2 (toOctets ([' '].intercalate (words.map traced) ++ ['\n']))
  match ← Act.call .makePipe with
  | .pair input output =>
    let child : Act Nat := do
      Act.close input
      if p.quietInput then
        match ← Act.openFile (Octets.ofAscii "/dev/null") .read with
        | .ok fd =>
          let _ ← Act.call (.duplicate fd 0)
          Act.close fd
        | .error _ => pure ()
      -- The descriptor does not outlast the change to another program.
      let mark ← match ← Act.call (.save output 10) with
        | .number n => pure n.toNat
        | _ => pure output
      Act.close output
      let e ← executeNamed words p.env
      complain p.tool (words.headD [] ++ ": ".toList ++ e.description.toList)
      let _ ← Act.write mark [if e = Errno.noEntry then 127 else 126]
      return if e = Errno.noEntry then 127 else 126
    let pid ← Act.fork child.run
    Act.close output
    let failure ← Act.read input 1
    Act.close input
    match failure with
    | .ok [status] => Act.exit status.toNat
    | _ => return { s with running := s.running ++ [pid], started := true, items := [], count := 0, size := 0, lines := 0 }
  | _ => return s

def startCollected (p : Plan) (s : Progress) : Act Progress := start p (p.command ++ s.items.reverse) s

def refuse (p : Plan) (s : Progress) (text : Chars) : Act Progress := do
  let s ← if p.hole.isSome ∨ s.items.isEmpty ∨ p.exitIfTooLong then pure s else startCollected p s
  complain p.tool text
  let _ ← settleAll p s
  Act.exit 1

def fill (hole line : Chars) : (fuel : Nat) → Chars → Chars
  | 0, cs => cs
  | _, [] => []
  | fuel + 1, c :: r =>
    if hole.isPrefixOf (c :: r) then line ++ fill hole line fuel ((c :: r).drop hole.length)
    else c :: fill hole line fuel r

def takeItem (p : Plan) (text : Chars) (s : Progress) : Act Progress := do
  let isWord : Bool := match p.grammar with
    | .at_ _ => false
    | _ => true
  if isWord ∧ p.last = some text then return { s with isOver := true }
  let s ← if isWord && text.contains '\x00' && !s.warned then do
      complain p.tool ("WARNING: a NUL character occurred in the input.  It cannot be passed through in the " ++
        "argument list.  Did you mean to use the --null option?").toList
      pure { s with warned := true }
    else pure s
  match p.hole with
  | some hole =>
    let words := p.command.zipIdx.map fun (w, i) => if i = 0 then w else fill hole text (w.length + 1) w
    start p words s
  | none =>
    let own := p.ownSize
    let length := text.length + 1
    if p.size < own + length then
      return ← refuse p s "argument line too long".toList
    let s ← if own + s.size + length ≤ p.size then pure s
      else if p.exitIfTooLong ∧ (p.perRun.isSome ∨ p.linesPerRun.isSome) then
        refuse p s "argument list too long".toList
      else startCollected p s
    let s := { s with items := text :: s.items, count := s.count + 1, size := s.size + length }
    if p.perRun.any fun n => n ≤ s.count then startCollected p s else return s

def takePart (p : Plan) (s : Progress) : Part → Act Progress
  | .item text => if s.isOver then return s else takeItem p text s
  | .line => do
    let s := { s with lines := s.lines + 1 }
    if !s.isOver ∧ (p.linesPerRun.any fun n => n ≤ s.lines) ∧ !s.items.isEmpty then startCollected p s else return s
  | .unclosed q =>
    if s.isOver then return s
    else
      refuse p s ("unmatched ".toList ++ (if q = '"' then "double" else "single").toList ++
        " quote; by default quotes are special to ".toList ++ p.tool.toList ++
        " unless you use the -0 option".toList)

def takeText (p : Plan) : Chars → Progress → Act Progress
  | [], s => return s
  | c :: cs, s =>
    if s.isOver then return s
    else do
      let (splitter, parts) := s.splitter.step p.grammar c
      let s ← parts.foldlM (takePart p) { s with splitter := splitter }
      takeText p cs s

def readSize : Nat := 4096

def takeInput (p : Plan) (fd : Nat) : (fuel : Nat) → Progress → Act Progress
  | 0, s => return s
  | fuel + 1, s => do
    if s.isOver then return s
    match ← Act.read fd readSize with
    | .ok [] =>
      (s.splitter.finish p.grammar).foldlM (takePart p) s
    | .ok bs =>
      let s ← takeText p (ofOctets bs) s
      takeInput p fd fuel s
    | .error _ => return s

def run (p : Plan) (fd : Nat) : Act Nat := do
  let s ← takeInput p fd maxReads {}
  let s ← if p.hole.isNone ∧ (!s.items.isEmpty ∨ (!s.started ∧ !p.skipEmpty)) then startCollected p s
    else pure s
  let s ← settleAll p s
  return s.status

/-! The arguments. -/

def table : String :=
  "0,null a,arg-file= d,delimiter= E= e,eof=? I= i,replace=? L= l,max-lines=? n,max-args= o,open-tty " ++
    "P,max-procs= p,interactive process-slot-var= r,no-run-if-empty s,max-chars= show-limits t,verbose x,exit"

def largestSize : Nat := 2095013

def usualSize : Nat := 131072

def names : String → String × String
  | "n" => ("max-args", "--max-args/-n")
  | "L" => ("max-lines", "-L")
  | "l" => ("max-lines", "--max-lines/-l")
  | _ => ("replace", "--replace/-I/-i")

def division : Options → Option (String × Option Chars) → List Chars →
    Option (String × Option Chars) × List Chars
  | [], now, said => (now, said)
  | (k, v) :: r, now, said =>
    if !(["n", "L", "l", "I", "i"].contains k) then division r now said
    else
      match now with
      | none => division r (some (k, v)) said
      | some (old, _) =>
        let (oldName, _) := names old
        let (newName, newText) := names k
        if oldName = newName then division r (some (k, v)) said
        else if k = "n" ∧ oldName = "replace" ∧ (v.bind number?) = some 1 then division r now said
        else
          division r (some (k, v)) (said ++ [("warning: options --" ++ oldName ++ " and " ++ newText ++
            " are mutually exclusive, ignoring previous --" ++ oldName ++ " value").toList])

inductive NumberFault where
  | invalid
  | small

def readNumber (least : Nat) (cs : Chars) : Except NumberFault Nat :=
  match cs with
  | '-' :: ds => if (number? ds).isSome then .error .small else .error .invalid
  | ds =>
    match number? (if ds.head? = some '+' then ds.drop 1 else ds) with
    | none => .error .invalid
    | some n => if n < least then .error .small else .ok n

def numberFault (os : Options) : Option Chars :=
  let check (key : String) (least : Nat) : Option Chars :=
    (os.values key).findSome? fun v =>
      match readNumber least v with
      | .ok _ => none
      | .error .invalid => some ("invalid number \"".toList ++ v ++ "\" for -".toList ++ key.toList ++ " option".toList)
      | .error .small =>
        if key = "s" then none
        else
          some ("value ".toList ++ v ++ " for -".toList ++ key.toList ++ " option should be >= ".toList ++
            (toString least).toList)
  [("n", 1), ("L", 1), ("l", 1), ("P", 0), ("s", 1)].findSome? fun (k, n) => check k n

def separator (v : Chars) : Except Chars Char :=
  let bad (text : Chars) : Except Chars Char := .error ("Invalid escape sequence ".toList ++ v ++ text)
  match v with
  | [c] => .ok c
  | '\\' :: c :: r =>
    let coded (base : Nat) (ds : Chars) (largest : String) : Except Chars Char :=
      let own := ds.takeWhile fun d => Arithmetic.digitValue d < base
      let n := own.foldl (fun n d => n * base + Arithmetic.digitValue d) 0
      let rest := ds.drop own.length
      if 255 < n then
        bad (" in input delimiter specification; character values must not exceed ".toList ++ largest.toList ++ ['.'])
      else if !rest.isEmpty then
        bad (" in input delimiter specification; trailing characters ".toList ++ rest ++ " not recognised.".toList)
      else .ok (Char.ofNat n)
    if c = 'x' then coded 16 r "ff"
    else if c = '0' then coded 8 r "377"
    else
      match (if r.isEmpty then Format.simpleEscape? c else none) with
      | some e => .ok e
      | none => if c = '\\' ∧ r.isEmpty then .ok '\\' else bad " in input delimiter specification.".toList
  | v =>
    .error ("Invalid input delimiter specification ".toList ++ v ++ (": the delimiter must be either a single " ++
      "character or an escape sequence starting with \\.").toList)

end Batch

open Batch in
def xargs : Tool := fun tool args env =>
  withTableElse 1 false tool table args fun os command => do
    match numberFault os with
    | some text => misuse tool text
    | none =>
    let refuse (text : Chars) : Act Nat := do
      complain tool text
      return 1
    match (os.values "d").findSome? fun v => match separator v with
        | .ok _ => none
        | .error e => some e with
    | some text => refuse text
    | none =>
    let (chosen, said) := division os none []
    for text in said do
      complain tool text
    let size := match os.value? "s" with
      | none => usualSize
      | some v => match readNumber 1 v with
        | .ok n => min n largestSize
        | .error _ => 1
    for v in os.values "s" do
      match readNumber 1 v with
      | .ok n => if largestSize < n then
          complain tool ("value ".toList ++ v ++ " for -s option should be <= ".toList ++ (toString largestSize).toList)
      | .error _ => complain tool ("value ".toList ++ v ++ " for -s option should be >= 1".toList)
    let command := if command.isEmpty then ["echo".toList] else command
    let separated : Option Char := (os.filter fun o => o.1 = "0" ∨ o.1 = "d").getLast?.bind fun o =>
      match o with
      | ("d", some v) => (separator v).toOption
      | _ => some '\x00'
    let last : Option Chars := ((os.filter fun o => o.1 = "E" ∨ o.1 = "e").getLast?.bind Prod.snd).filter (!·.isEmpty)
    if separated.isSome ∧ last.isSome then
      complain tool "warning: the -E option has no effect if -0 or -d is used.\n".toList
    let (key, value) := chosen.getD ("", none)
    let count : Option Nat := match value with
      | some v => number? v
      | none => some 1
    let hole : Option Chars := if key = "I" ∨ key = "i" then some (value.getD "\x7b\x7d".toList) else none
    let plan : Plan := {
      tool := tool, env := env, command := command, hole := hole, size := size
      grammar := match separated with
        | some c => .at_ c
        | none => if hole.isSome then .lines else .words
      perRun := if key = "n" then count else none
      linesPerRun := if key = "L" ∨ key = "l" then count else none
      trace := os.has "t" || os.has "p", skipEmpty := os.has "r"
      exitIfTooLong := os.has "x" || hole.isSome || key = "L" || key = "l"
      slots := ((os.value? "P").bind number?).getD 1, last := last, quietInput := !os.has "a" }
    if hole = some [] then return ← refuse "command too long".toList
    if hole.isNone ∧ plan.size < plan.ownSize then return ← refuse "cannot fit single argument within argument list size limit".toList
    let plan := if os.has "process-slot-var" then
        { plan with env := plan.env ++ [(toOctets ((os.value? "process-slot-var").getD []), [0x30])] }
      else plan
    match os.value? "a" with
    | none => run plan 0
    | some path =>
      match ← openInput path with
      | .ok fd => run plan fd
      | .error e =>
        refuse ("Cannot open input file ".toList ++ inQuotes path ++ ": ".toList ++ faultText e)

end TreePipeline.Tools
