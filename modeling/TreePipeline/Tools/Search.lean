import TreePipeline.Tools.Basic
import TreePipeline.Tools.Regular.Reader

/-! A small program that finds lines, and the pieces of lines, in which an expression fits. -/

namespace TreePipeline.Tools

open Shell Host

def withoutEnd (l : Octets) : Octets := if l.getLast? = some newline then l.dropLast else l

structure Search where
  matchers : List Matcher
  invert : Bool
  onlyPieces : Bool
  count : Bool
  quiet : Bool
  silent : Bool
  listMatching : Bool
  listOthers : Bool
  names : Bool
  nameEnd : Chars
  numbers : Bool
  offsets : Bool
  tabbed : Bool
  asText : Bool
  skipBinary : Bool
  before : Nat
  after : Nat
  divider : Option Chars
  most : Option Nat
  label : Chars
  ending : UInt8
  descend : Bool
  skipDirectories : Bool
  wanted : Chars → Bool
  entered : Chars → Bool

namespace Search

def findFrom (q : Search) (line : Chars) (before : Option Char) (place : Nat) (rest : Chars) :
    Option Match :=
  q.matchers.foldl (fun best m =>
    match best, m.findFrom false line before place rest with
    | some a, some b =>
      if b.start < a.start ∨ (b.start = a.start ∧ a.stop < b.stop) then some b else some a
    | none, b => b
    | a, none => a) none

def pieces (q : Search) (line : Chars) : Nat → (before : Option Char) → (place : Nat) →
    (rest : Chars) → List (Nat × Chars)
  | 0, _, _, _ => []
  | fuel + 1, before, place, rest =>
    match q.findFrom line before place rest with
    | none => []
    | some m =>
      let piece := (rest.drop (m.start - place)).take (m.stop - m.start)
      let after := rest.drop (m.stop - place)
      if piece.isEmpty then
        match after with
        | [] => []
        | c :: r => q.pieces line fuel (some c) (m.stop + 1) r
      else (m.start, piece) :: q.pieces line fuel piece.getLast? m.stop after

def selects (q : Search) (line : Chars) : Bool :=
  (q.matchers.any fun m => m.isIn line) != q.invert

def front (q : Search) (name : Chars) (mark : Char) (number offset : Nat) : Chars :=
  (if q.names then name ++ (if q.nameEnd = ['\x00'] then ['\x00'] else [mark]) else []) ++
    (if q.numbers then padded number ++ [mark] else []) ++
    (if q.offsets then padded offset ++ [mark] else []) ++
    (if q.tabbed && (q.names || q.numbers || q.offsets) then ['\t'] else [])
where
  padded (n : Nat) : Chars :=
    let ds := (toString n).toList
    List.replicate ((if q.tabbed then 19 else 0) - ds.length) ' ' ++ ds

end Search

structure Hunt where
  read : Nat := 0
  offset : Nat := 0
  found : Nat := 0
  behind : List (Nat × Nat × Octets) := []
  due : Nat := 0
  last : Option Nat := none
  binary : Bool := false
  stopped : Bool := false
  unread : Nat := 0
  text : List Octets := []

namespace Hunt

def shows (q : Search) (h : Hunt) : Bool :=
  !q.count && !q.quiet && !q.listMatching && !q.listOthers && !h.binary

def add (q : Search) (name : Chars) (mark : Char) (number offset : Nat) (l : Octets) (h : Hunt) :
    Hunt :=
  { h with
    last := some number
    text := (toOctets (q.front name mark number offset) ++ l ++ [q.ending]) :: h.text }

def addBehind (q : Search) (name : Chars) (h : Hunt) : Hunt :=
  let first := match h.behind.getLast? with
    | some (n, _) => n
    | none => h.read + 1
  let apart := (h.last.map fun n => decide (n + 1 < first)).getD false
  let h := match apart && (0 < q.before || 0 < q.after), q.divider with
    | true, some d => { h with text := toOctets (d ++ ['\n']) :: h.text }
    | _, _ => h
  let h := h.behind.reverse.foldl (fun h (n, offset, l) => h.add q name '-' n offset l) h
  { h with behind := [] }

def pass (q : Search) (name : Chars) (l : Octets) (h : Hunt) : Hunt :=
  let n := h.read + 1
  if 0 < h.due ∧ h.shows q then { h.add q name '-' n h.offset l with due := h.due - 1 }
  else if 0 < q.before then
    { h with behind := ((n, h.offset, l) :: h.behind).take q.before }
  else h

def hit (q : Search) (name : Chars) (l : Octets) (h : Hunt) : Hunt :=
  let h := { h with found := h.found + 1 }
  let full := (q.most.map fun n => decide (n ≤ h.found)).getD false
  if !h.shows q then
    { h with stopped := full || (!q.count && (q.quiet || q.listMatching || q.listOthers || h.binary)) }
  else
    let h := h.addBehind q name
    let line := ofOctets l
    let h :=
      if q.onlyPieces then
        let ps := if q.invert then [] else q.pieces line (line.length + 1) none 0 line
        { ps.foldl (fun h (place, piece) =>
            h.add q name ':' (h.read + 1) (h.offset + place) (toOctets piece)) h with
          last := some (h.read + 1) }
      else h.add q name ':' (h.read + 1) h.offset l
    { h with due := q.after, stopped := full && q.after = 0 }

def line (q : Search) (name : Chars) (l : Octets) (h : Hunt) : Hunt :=
  let full := (q.most.map fun n => decide (n ≤ h.found)).getD false
  let selected := q.selects (ofOctets l)
  let h :=
    if full then
      if selected || h.due = 0 then { h with stopped := true } else h.pass q name l
    else if selected then h.hit q name l
    else h.pass q name l
  if full && h.stopped then h
  else { h with read := h.read + 1, offset := h.offset + l.length + 1 }

end Hunt

namespace Search

def cutLines (ending : UInt8) (held data : Octets) : List Octets × Octets :=
  match (Octets.splitOn ending (held ++ data)).reverse with
  | [] => ([], [])
  | last :: r => (r.reverse, last)

def takeLines (q : Search) (name : Chars) : List Octets → Hunt → List Octets × Hunt
  | [], h => ([], h)
  | l :: r, h =>
    let h := h.line q name l
    if h.stopped then (if h.read = 0 then l :: r else r, h) else takeLines q name r h

def through (q : Search) (tool : String) (name : Chars) (fd : Nat) :
    Nat → (held : Octets) → Hunt → Act (Except SystemError Hunt)
  | 0, _, h => return .ok h
  | fuel + 1, held, h => do
    match ← Act.read fd 32768 with
    | .error e => return .error e
    | .ok [] =>
      if held.isEmpty then return .ok h else return .ok (h.line q name held)
    | .ok bs =>
      let binary := h.binary || (!q.asText && q.ending = newline && bs.contains 0)
      if binary && q.skipBinary then return .ok { h with found := 0 }
      let (ls, rest) := cutLines q.ending held bs
      let (left, h) := q.takeLines name ls { h with binary := binary }
      let h ← flushed h
      if h.stopped then
        return .ok { h with unread := (left.map fun l => l.length + 1).foldl Nat.add rest.length }
      else through q tool name fd fuel rest h
where
  flushed (h : Hunt) : Act Hunt := do
    if (h.text.map List.length).foldl Nat.add 0 < blockSize then return h
    put tool h.text.reverse.flatten
    return { h with text := [] }

def show_ (q : Search) (tool : String) (name : Chars) (h : Hunt) : Act Unit := do
  put tool h.text.reverse.flatten
  if q.quiet then return ()
  if q.count then
    say tool ((if q.names then name ++ (if q.nameEnd = ['\x00'] then q.nameEnd else [':']) else []) ++
      (toString h.found).toList ++ ['\n'])
  if (q.listMatching ∧ 0 < h.found) ∨ (q.listOthers ∧ h.found = 0) then say tool (name ++ q.nameEnd)
  else if h.binary ∧ 0 < h.found ∧ !q.count ∧ !q.listOthers then
    complain tool (name ++ ": binary file matches".toList)

def isOutput (q : Search) (fd : Nat) : Act Bool := do
  if q.quiet || q.listMatching || q.listOthers || (q.most.map fun n => decide (n ≤ 1)).getD false then
    return false
  match ← Act.call (.feeds 1 fd) with
  | .number 1 => return true
  | _ => return false

def input (q : Search) (tool : String) (path : Chars) : Act (Bool × Bool) := do
  let name := if path = ['-'] then q.label else path
  let refuse (text : Chars) : Act (Bool × Bool) := do
    if !q.silent then complain tool (name ++ ": ".toList ++ text)
    return (false, true)
  match ← openInput path with
  | .error e => refuse (faultText e)
  | .ok fd =>
    if ← q.isOutput fd then
      if fd ≠ 0 then Act.close fd
      return ← refuse "input file is also the output".toList
    let h ←
      if q.most = some 0 then pure (Except.ok {}) else q.through tool name fd maxReads [] {}
    match h with
    | .error e =>
      if fd ≠ 0 then Act.close fd
      if q.skipDirectories && e = .os .isDirectory then return (false, false)
      refuse (faultText e)
    | .ok h =>
      if fd ≠ 0 then Act.close fd
      else if 0 < h.unread ∧ q.most.isSome ∧ !q.quiet then
        let _ ← Act.call (.seek 0 (-(h.unread : Int)) .current)
      q.show_ tool name h
      return (0 < h.found, false)

def inputs (q : Search) (tool : String) : List Chars → (found failed : Bool) → Act Nat
  | [], found, failed => return if failed then 2 else if found then 0 else 1
  | p :: r, found, failed => do
    let (here, fault) ← q.input tool p
    if here ∧ q.quiet then return 0
    q.inputs tool r (found || here) (failed || fault)

def filesBelow (q : Search) (fs : FileSystem) : Nat → (path : Octets) → List Octets
  | 0, _ => []
  | fuel + 1, path =>
    match fs.lstat path with
    | .ok .directory =>
      match fs.listDirectory path with
      | .ok (_, names) => names.flatMap fun n =>
        let below := Path.join path n
        match fs.lstat below with
        | .ok .directory => if q.entered (ofOctets n) then filesBelow q fs fuel below else []
        | .ok (.file ..) => if q.wanted (ofOctets n) then [below] else []
        | _ => []
      | .error _ => [path]
    | _ => [path]

end Search

def nameMatches (pattern : Chars) (name : Chars) : Bool :=
  Pattern.accepts (pattern.map fun c => (c, false)) name

namespace Search

def table : String :=
  "E,extended-regexp F,fixed-strings G,basic-regexp P,perl-regexp e,regexp= f,file= " ++
  "i,y,ignore-case no-ignore-case w,word-regexp x,line-regexp z,null-data s,no-messages " ++
  "v,invert-match V,version help m,max-count= b,byte-offset n,line-number line-buffered " ++
  "H,with-filename h,no-filename label= o,only-matching q,quiet,silent binary-files= a,text I " ++
  "d,directories= D,devices= r,recursive R,dereference-recursive include= exclude= " ++
  "exclude-from= exclude-dir= L,files-without-match l,files-with-matches c,count T,initial-tab " ++
  "Z,null B,before-context= A,after-context= C,context= color,colour=? U,binary u " ++
  "group-separator= no-group-separator 0 1 2 3 4 5 6 7 8 9"

def usage (tool : String) (text : Option Chars) : Act Nat := do
  match text with
  | some t => complain tool t
  | none => pure ()
  let name := String.ofList (baseName tool.toList)
  let _ ← Act.write 2 (Octets.ofAscii ("Usage: " ++ name ++ " [OPTION]... PATTERNS [FILE]...\nTry '" ++
    name ++ " --help' for more information.\n"))
  return 2

def expressionOf (kind : Option String) (pattern : Chars) : Except Regular.Fault Regular.Reading :=
  match kind with
  | some "F" => .ok ⟨Regular.ofChars pattern, 0, []⟩
  | some "E" => Regular.read .extended pattern
  | some "P" => Regular.read .lettered pattern
  | _ => Regular.read .basic pattern

def bounded (line word : Bool) (a : Regular) : Regular :=
  if line then .sequence (.spot .textStart) (.sequence a (.spot .textEnd))
  else if word then .sequence (.spot .afterNoWord) (.sequence a (.spot .beforeNoWord))
  else a

def count? (os : Options) (keys : List String) : Except Chars (Option Nat) :=
  match ((os.filter fun o => keys.contains o.1).getLast?).bind Prod.snd with
  | none => .ok none
  | some v =>
    match number? v with
    | some n => .ok (some n)
    | none => .error v

def patternsIn (tool : String) (path : Chars) : Act (Option (List Chars)) := do
  match ← contentOf tool path with
  | none => return none
  | some bs => return some ((linesOf bs).map fun l => ofOctets (withoutEnd l))

def givenPatterns (tool : String) : Options → Act (Option (List Chars))
  | [] => return some []
  | (key, value) :: r => do
    let here ← match key, value with
      | "e", some p => pure (some ((Octets.splitOn newline (toOctets p)).map ofOctets))
      | "f", some p => patternsIn tool p
      | _, _ => pure (some [])
    match here with
    | none => return none
    | some ps => return (← givenPatterns tool r).map (ps ++ ·)

def ofOptions (os : Options) (matchers : List Matcher) (most : Option Nat) (before after : Nat)
    (several : Bool) : Search :=
  let kinds := os.last? ["d", "r", "R"]
  let descend := kinds = some "r" || kinds = some "R" ||
    (kinds = some "d" && os.value? "d" = some "recurse".toList)
  let naming := os.last? ["H", "h"]
  let excluded := os.values "exclude"
  let included := os.values "include"
  let kept := os.values "exclude-dir"
  let binaries := os.last? ["a", "I", "binary-files"]
  let kind := if binaries = some "binary-files" then os.value? "binary-files" else none
  { matchers := matchers
    invert := os.has "v", onlyPieces := os.has "o", count := os.has "c", quiet := os.has "q",
    silent := os.has "s"
    listMatching := os.last? ["l", "L"] = some "l", listOthers := os.last? ["l", "L"] = some "L"
    names := naming = some "H" || (naming.isNone && (several || descend))
    nameEnd := if os.has "Z" then ['\x00']
      else if os.has "l" || os.has "L" then ['\n'] else [':']
    numbers := os.has "n", offsets := os.has "b", tabbed := os.has "T"
    asText := binaries = some "a" || kind = some "text".toList
    skipBinary := binaries = some "I" || kind = some "without-match".toList
    before := before, after := after
    divider := match os.last? ["group-separator", "no-group-separator"] with
      | some "group-separator" => os.value? "group-separator"
      | some _ => none
      | none => some ['-', '-']
    most := most
    label := (os.value? "label").getD "(standard input)".toList
    ending := if os.has "z" then 0 else newline
    descend := descend
    skipDirectories := kinds = some "d" && os.value? "d" = some "skip".toList
    wanted := fun n => !excluded.any (nameMatches · n) &&
      (included.isEmpty || included.any (nameMatches · n))
    entered := fun n => !kept.any (nameMatches · n) }

def context (os : Options) : Except Chars (Nat × Nat) := do
  let digits := os.flatMap fun o =>
    if o.1.length = 1 && o.1.all Char.isDigit then o.1.toList else []
  let both ← count? os ["C"]
  let both := both.or (number? digits)
  let before ← count? os ["B"]
  let after ← count? os ["A"]
  return ((before.or both).getD 0, (after.or both).getD 0)

def goals (q : Search) (paths : List Chars) : Act (List Chars) := do
  if !q.descend then return inputsOr paths
  let found ← Act.askNames fun fs =>
    (if paths.isEmpty then [['.']] else paths).flatMap fun p => q.filesBelow fs 100 (toOctets p)
  let found := found.map ofOctets
  return if paths.isEmpty then found.map fun p => p.drop 2 else found

def run (tool : String) (os : Options) (patterns : List Chars) (paths : List Chars) : Act Nat := do
  match patterns.mapM (expressionOf (os.last? ["E", "F", "G", "P"])) with
  | .error e =>
    complain tool e.message.toList
    return 2
  | .ok es =>
    for e in es do
      for w in e.warnings do
        complain tool ("warning: " ++ w).toList
    let fold := os.last? ["i", "no-ignore-case"] = some "i"
    let matchers := es.map fun e =>
      Matcher.ofRegular fold 0 (bounded (os.has "x") (os.has "w") e.expression)
    match count? os ["m"], context os with
    | .error _, _ =>
      complain tool "invalid max count".toList
      return 2
    | _, .error v =>
      complain tool (v ++ ": invalid context length argument".toList)
      return 2
    | .ok most, .ok (before, after) =>
      let q := ofOptions os matchers most before after (1 < paths.length)
      let goals ← q.goals paths
      q.inputs tool goals false false

end Search

def grep : Tool := fun tool args _ => do
  match Options.ofArgs Search.table true args with
  | .error e => Search.usage tool (some e)
  | .ok (os, paths) =>
    match ← Search.givenPatterns tool os with
    | none => return 2
    | some given =>
      if os.has "e" || os.has "f" then Search.run tool os given paths
      else
        match paths with
        | [] => Search.usage tool none
        | p :: r => Search.run tool os ((Octets.splitOn newline (toOctets p)).map ofOctets) r

def egrep : Tool := fun _ args env => grep "grep" (['-', 'E'] :: args) env

def fgrep : Tool := fun _ args env => grep "grep" (['-', 'F'] :: args) env

end TreePipeline.Tools
