import TreePipeline.Tools.Editor.Script

/-!
How scripts of the stream editor are read. A fault is told with the place up to which the script
was read.
-/

namespace TreePipeline.Tools.Editor

open Shell

inductive Source where
  | expression (n : Nat)
  | file (path : Chars)

structure Dialect where
  extended : Bool
  sandbox : Bool

structure ReadState where
  source : Source
  dialect : Dialect
  rest : Chars
  count : Nat
  line : Nat
  opening : Bool
  commands : Array Command
  blocks : List (Nat × Nat)
  labels : List (Chars × Nat)
  outputs : List Chars
  quiet : Bool
  openText : Option Nat

abbrev Reading := StateT ReadState (Except Chars)

namespace Reading

def faultAt (s : ReadState) (count line : Nat) (text : Chars) : Chars :=
  match s.source with
  | .expression n =>
    "-e expression #".toList ++ (toString n).toList ++ ", char ".toList ++ (toString count).toList ++
      ": ".toList ++ text
  | .file path =>
    "file ".toList ++ path ++ " line ".toList ++ (toString line).toList ++ ": ".toList ++ text

def fault {α : Type} (text : String) : Reading α := do
  let s ← get
  throw (faultAt s s.count s.line text.toList)

def faultWith {α : Type} (text : Chars) : Reading α := do
  let s ← get
  throw (faultAt s s.count s.line text)

def peek : Reading (Option Char) := return (← get).rest.head?

def take : Reading (Option Char) := do
  let s ← get
  match s.rest with
  | [] => return none
  | c :: r =>
    set { s with rest := r, count := s.count + 1, line := if c = '\n' then s.line + 1 else s.line }
    return some c

def takeMany (n : Nat) : Reading Unit := do
  for _ in List.range n do
    let _ ← take

def isGap (c : Char) : Bool := c = ' ' || c = '\t'

def isSpace (c : Char) : Bool := c = ' ' || ('\t' ≤ c && c ≤ '\r')

def takeWhile (p : Char → Bool) : Reading Chars := do
  let cs := (← get).rest.takeWhile p
  takeMany cs.length
  return cs

def skipGaps : Reading Unit := do
  let _ ← takeWhile isGap

def peekAfterGaps : Reading (Option Char) := do
  skipGaps
  peek

def number : Reading Nat := do
  return (number? (← takeWhile Char.isDigit)).getD 0

def endOfCommand : Reading Unit := do
  match ← peekAfterGaps with
  | some '\x7d' => return ()
  | some '#' => return ()
  | none => return ()
  | some '\n' => let _ ← take
  | some ';' => let _ ← take
  | some _ =>
    let _ ← take
    fault "extra characters after command"

end Reading

open Reading

def bracketLength : Nat → (inside : Chars) → Option Nat
  | fuel, inside =>
    let start := match inside with
      | '^' :: ']' :: _ => 2
      | '^' :: _ => 1
      | ']' :: _ => 1
      | _ => 0
    go fuel (inside.drop start) start
where
  go : Nat → Chars → Nat → Option Nat
    | 0, _, _ => none
    | _ + 1, [], _ => none
    | fuel + 1, c :: r, n =>
      if c = '\n' then none
      else if c = ']' then some (n + 1)
      else if c = '[' ∧ (r.head? = some ':' ∨ r.head? = some '.' ∨ r.head? = some '=') then
        let mark := r.headD ' '
        match endOfClass mark (r.drop 1) 0 with
        | some k => go fuel (r.drop (k + 1)) (n + k + 2)
        | none => go fuel r (n + 1)
      else go fuel r (n + 1)
  endOfClass (mark : Char) : Chars → Nat → Option Nat
    | a :: b :: r, k =>
      if a = mark ∧ b = ']' then some (k + 2) else endOfClass mark (b :: r) (k + 1)
    | _, _ => none

def delimited (delimiter : Char) (expression : Bool) : Nat → (acc : Chars) → Reading (Option Chars)
  | 0, _ => return none
  | fuel + 1, acc => do
    match ← peek with
    | none => return none
    | some '\n' => return none
    | some c =>
      let _ ← take
      if c = delimiter then return some acc.reverse
      else if c = '\\' then
        match ← take with
        | none => return none
        | some d =>
          if d = delimiter then
            delimited delimiter expression fuel
              (if !expression ∧ d = '&' then d :: '\\' :: acc else d :: acc)
          else if d = 'n' ∧ expression then delimited delimiter expression fuel ('\n' :: acc)
          else if d = '\n' then
            delimited delimiter expression fuel (if expression then d :: acc else d :: '\\' :: acc)
          else delimited delimiter expression fuel (d :: '\\' :: acc)
      else if c = '[' ∧ expression then
        let rest := (← get).rest
        match bracketLength (rest.length + 1) rest with
        | some n =>
          let inside := rest.take n
          takeMany n
          delimited delimiter expression fuel ((bracketText inside).reverse ++ c :: acc)
        | none =>
          takeMany (rest.takeWhile (· ≠ '\n')).length
          return none
      else delimited delimiter expression fuel (c :: acc)
where
  bracketText : Chars → Chars
    | '\\' :: 'n' :: r => '\n' :: bracketText r
    | '\\' :: c :: r => if c = delimiter then c :: bracketText r else '\\' :: c :: bracketText r
    | c :: r => c :: bracketText r
    | [] => []

def numbered? (base digits : Nat) (cs : Chars) : Option (Char × Chars) :=
  let value (c : Char) : Nat := (Octets.hexValue? c).getD 99
  let ds := (cs.take digits).takeWhile fun c => value c < base
  if ds.isEmpty then none
  else
    some (Char.ofNat (ds.foldl (fun n c => base * n + value c) 0 % 256), cs.drop ds.length)

def escape? (cs : Chars) : Option (Char × Chars) :=
  match cs with
  | 'a' :: r => some ('\x07', r)
  | 'f' :: r => some ('\x0c', r)
  | 'r' :: r => some ('\r', r)
  | 't' :: r => some ('\t', r)
  | 'v' :: r => some ('\x0b', r)
  | 'c' :: '\\' :: '\\' :: r => some (Char.ofNat 0x1c, r)
  | 'c' :: c :: r => some (Char.ofNat (c.toUpper.toNat ^^^ 0x40), r)
  | 'd' :: r => numbered? 10 3 r
  | 'o' :: r => numbered? 8 3 r
  | 'x' :: r => numbered? 16 2 r
  | _ => none

def plainExpression : Nat → Chars → Chars
  | 0, cs => cs
  | _ + 1, [] => []
  | fuel + 1, '\\' :: r =>
    match escape? r, r with
    | some (c, r), _ => c :: plainExpression fuel r
    | none, d :: r => '\\' :: d :: plainExpression fuel r
    | none, [] => ['\\']
  | fuel + 1, c :: r => c :: plainExpression fuel r

def plainText : Nat → Chars → Chars
  | 0, _ => []
  | _ + 1, [] => []
  | fuel + 1, '\\' :: r =>
    match escape? r, r with
    | some (c, r), _ => c :: plainText fuel r
    | none, 'n' :: r => '\n' :: plainText fuel r
    | none, d :: r => d :: plainText fuel r
    | none, [] => []
  | fuel + 1, c :: r => c :: plainText fuel r

def piecesOf : Nat → Chars → (acc : Chars) → List Piece
  | 0, _, acc => [.text acc.reverse]
  | _ + 1, [], acc => if acc.isEmpty then [] else [.text acc.reverse]
  | fuel + 1, c :: r, acc =>
    let flush (ps : List Piece) : List Piece :=
      if acc.isEmpty then ps else .text acc.reverse :: ps
    if c = '&' then flush (.group 0 :: piecesOf fuel r [])
    else if c = '\\' then
      match escape? r, r with
      | some (d, r), _ => piecesOf fuel r (d :: acc)
      | none, d :: r =>
        if d.isDigit then flush (.group (d.toNat - 48) :: piecesOf fuel r [])
        else
          match d with
          | 'n' => piecesOf fuel r ('\n' :: acc)
          | 'U' => flush (.mark .upper :: piecesOf fuel r [])
          | 'L' => flush (.mark .lower :: piecesOf fuel r [])
          | 'u' => flush (.mark .upperNext :: piecesOf fuel r [])
          | 'l' => flush (.mark .lowerNext :: piecesOf fuel r [])
          | 'E' => flush (.mark .stop :: piecesOf fuel r [])
          | d => piecesOf fuel r (d :: acc)
      | none, [] => piecesOf fuel [] acc
    else piecesOf fuel r (c :: acc)

def letters? : Nat → Chars → Chars
  | 0, _ => []
  | _ + 1, [] => []
  | fuel + 1, '\\' :: r =>
    match escape? r, r with
    | some (c, r), _ => c :: letters? fuel r
    | none, '\\' :: r => '\\' :: letters? fuel r
    | none, 'n' :: r => '\n' :: letters? fuel r
    | none, c :: r => c :: letters? fuel r
    | none, [] => []
  | fuel + 1, c :: r => c :: letters? fuel r

def bareFault (f : Regular.Fault) : Bool := f = .bareClass

def soughtOf (fold byLine : Bool) (text : Chars) : Reading (Sought × Nat) := do
  if text.isEmpty then
    if fold || byLine then fault "cannot specify modifiers on empty regexp" else return (none, 9)
  else
    let s ← get
    let text := plainExpression (text.length + 1) text
    match Regular.read (.editing s.dialect.extended byLine) text with
    | .ok e => return (some (Matcher.ofRegular fold e.groups e.expression), e.groups)
    | .error f => if bareFault f then throw f.message.toList else faultWith f.message.toList

def addressMarks : Nat → (fold byLine : Bool) → Reading (Bool × Bool)
  | 0, fold, byLine => return (fold, byLine)
  | fuel + 1, fold, byLine => do
    match ← peekAfterGaps with
    | some 'I' =>
      let _ ← take
      addressMarks fuel true byLine
    | some 'M' =>
      let _ ← take
      addressMarks fuel fold true
    | _ => return (fold, byLine)

inductive Place where
  | address (a : Address)
  | after (n : Nat)
  | multiple (n : Nat)

def place? : Reading (Option Place) := do
  let matching (delimiter : Char) : Reading (Option Place) := do
    let fuel := (← get).rest.length + 1
    match ← delimited delimiter true fuel [] with
    | none => fault "unterminated address regex"
    | some text =>
      let (fold, byLine) ← addressMarks fuel false false
      let (m, _) ← soughtOf fold byLine text
      return some (.address (.matching m))
  match ← peek with
  | some '/' =>
    let _ ← take
    matching '/'
  | some '\\' =>
    let _ ← take
    match ← take with
    | none => fault "unterminated address regex"
    | some d => matching d
  | some '$' =>
    let _ ← take
    return some (.address .last)
  | some '+' =>
    let _ ← take
    skipGaps
    return some (.after (← number))
  | some '~' =>
    let _ ← take
    skipGaps
    return some (.multiple (← number))
  | some c =>
    if c.isDigit then
      let n ← number
      if (← peekAfterGaps) = some '~' then
        let _ ← take
        skipGaps
        let step ← number
        return some (.address (if step = 0 then .line n else .every n step))
      else return some (.address (.line n))
    else return none
  | none => return none

def rangeEndOf : Place → RangeEnd
  | .address (.line n) => .line n
  | .address (.every n _) => .line n
  | .address .last => .last
  | .address (.matching m) => .matching m
  | .after n => .after n
  | .multiple n => .multiple n

def addresses : Reading (Option Address × Option RangeEnd) := do
  match ← place? with
  | none => return (none, none)
  | some (.after _) => badFirst
  | some (.multiple _) => badFirst
  | some (.address a) =>
    let last ←
      if (← peekAfterGaps) = some ',' then do
        let _ ← take
        skipGaps
        match ← place? with
        | some p => pure (some (rangeEndOf p))
        | none =>
          let _ ← take
          fault "unexpected \x60,'"
      else pure none
    return (some a, last)
where
  badFirst : Reading (Option Address × Option RangeEnd) :=
    fault "invalid usage of +N or ~N as first address"

def textLines : Nat → (acc : Chars) → Reading Chars
  | 0, acc => return (('\n' :: acc).reverse)
  | fuel + 1, acc => do
    match ← take with
    | none => return (('\n' :: acc).reverse)
    | some '\n' => return (('\n' :: acc).reverse)
    | some '\\' =>
      match ← take with
      | none => return (('\n' :: acc).reverse)
      | some d => textLines fuel (d :: '\\' :: acc)
    | some c => textLines fuel (c :: acc)

def readText : Reading Chars := do
  let text ← textLines ((← get).rest.length + 1) []
  return plainText (text.length + 1) text

def commandText : Reading (Option Chars) := do
  match ← peekAfterGaps with
  | none => fault "expected \\ after \x60a', \x60c' or \x60i'"
  | some '\\' =>
    let _ ← take
    let ahead := (← get).rest.dropWhile isGap
    match ahead with
    | '\n' :: _ =>
      skipGaps
      let _ ← take
      return some (← readText)
    | [] =>
      skipGaps
      return none
    | _ => return some (← readText)
  | some _ => return some (← readText)

def readPath : Reading Chars := do
  skipGaps
  let path ← takeWhile (· ≠ '\n')
  let _ ← take
  if path.isEmpty then fault "missing filename in r/R/w/W commands" else return path

def readOutput : Reading Chars := do
  let path ← readPath
  modify fun s => { s with
    outputs := if s.outputs.contains path then s.outputs else s.outputs ++ [path] }
  return path

def readLabel : Reading Chars := do
  skipGaps
  takeWhile fun c => !isSpace c && c ≠ ';' && c ≠ '\x7d'

def refuseInSandbox : Reading Unit := do
  if (← get).dialect.sandbox then fault "e/r/w commands disabled in sandbox mode"

def substitutionMarks : Nat → (fold byLine : Bool) → Substitution →
    Reading (Bool × Bool × Substitution)
  | 0, fold, byLine, s => return (fold, byLine, s)
  | fuel + 1, fold, byLine, s => do
    match ← peek with
    | none => return (fold, byLine, s)
    | some '\x7d' => return (fold, byLine, s)
    | some '#' => return (fold, byLine, s)
    | some c =>
      if c.isDigit then
        if s.from_ ≠ 0 then
          let _ ← take
          fault "multiple number options to \x60s' command"
        let n ← number
        if n = 0 then fault "number option to \x60s' command may not be zero"
        substitutionMarks fuel fold byLine { s with from_ := n }
      else
        let _ ← take
        match c with
        | '\n' => return (fold, byLine, s)
        | ';' => return (fold, byLine, s)
        | ' ' => substitutionMarks fuel fold byLine s
        | '\t' => substitutionMarks fuel fold byLine s
        | 'i' => substitutionMarks fuel true byLine s
        | 'I' => substitutionMarks fuel true byLine s
        | 'm' => substitutionMarks fuel fold true s
        | 'M' => substitutionMarks fuel fold true s
        | 'e' =>
          refuseInSandbox
          substitutionMarks fuel fold byLine { s with runs := true }
        | 'p' =>
          if s.prints then fault "multiple \x60p' options to \x60s' command"
          substitutionMarks fuel fold byLine { s with prints := true }
        | 'g' =>
          if s.everywhere then fault "multiple \x60g' options to \x60s' command"
          substitutionMarks fuel fold byLine { s with everywhere := true }
        | 'w' =>
          refuseInSandbox
          let path ← readOutput
          return (fold, byLine, { s with output := some path })
        | _ => fault "unknown option to \x60s'"

def highestGroup (ps : List Piece) : Nat :=
  ps.foldl (fun n p => match p with
    | .group k => max n k
    | _ => n) 0

def substitution : Reading Substitution := do
  let fuel := (← get).rest.length + 1
  let unterminated {α : Type} : Reading α := fault "unterminated \x60s' command"
  match ← take with
  | none => unterminated
  | some d =>
    let some text ← delimited d true fuel [] | unterminated
    let some new ← delimited d false fuel [] | unterminated
    let pieces := piecesOf (new.length + 1) new []
    let (fold, byLine, s) ← substitutionMarks fuel false false
      { sought := none, pieces := pieces, everywhere := false, from_ := 0, prints := false,
        runs := false, output := none }
    let (m, groups) ← soughtOf fold byLine text
    let n := highestGroup pieces
    if groups < n then
      fault ("invalid reference \\" ++ toString n ++ " on \x60s' command's RHS")
    return { s with sought := m, from_ := max s.from_ 1 }

def letterExchange : Reading Action := do
  let fuel := (← get).rest.length + 1
  let unterminated {α : Type} : Reading α := fault "unterminated \x60y' command"
  match ← take with
  | none => unterminated
  | some d =>
    let some a ← delimited d false fuel [] | unterminated
    let some b ← delimited d false fuel [] | unterminated
    let source := letters? (a.length + 1) a
    let target := letters? (b.length + 1) b
    if source.length ≠ target.length then fault "strings for \x60y' command are different lengths"
    endOfCommand
    return .exchangeLetters source target

def exitStatus : Reading Nat := do
  skipGaps
  let n ← number
  endOfCommand
  return n

def plain (a : Action) : Reading (Option Action) := do
  endOfCommand
  return some a

def actionOf (first : Option Address) (last : Option RangeEnd) (letter : Char) :
    Reading (Option Action) := do
  match letter with
  | '=' => plain .lineNumber
  | 'd' => plain .delete
  | 'D' => plain .deleteFirst
  | 'F' => plain .fileName
  | 'g' => plain .get
  | 'G' => plain .getAppend
  | 'h' => plain .hold
  | 'H' => plain .holdAppend
  | 'n' => plain .next
  | 'N' => plain .nextAppend
  | 'p' => plain .print
  | 'P' => plain .printFirst
  | 'x' => plain .exchange
  | 'z' => plain .clear
  | 'a' => return (← commandText).map .append
  | 'i' => return (← commandText).map .insert
  | 'c' => return (← commandText).map .change
  | 'e' =>
    refuseInSandbox
    skipGaps
    let command ← takeWhile (· ≠ '\n')
    let _ ← take
    return some (.run command)
  | 'l' => width .list
  | 'L' => width .list
  | 'q' =>
    if last.isSome then fault "command only uses one address"
    return some (.quit (← exitStatus))
  | 'Q' =>
    if last.isSome then fault "command only uses one address"
    return some (.leave (← exitStatus))
  | 'r' =>
    refuseInSandbox
    return some (.readFile (← readPath))
  | 'R' =>
    refuseInSandbox
    return some (.readLine (← readPath))
  | 'w' =>
    refuseInSandbox
    return some (.write (← readOutput))
  | 'W' =>
    refuseInSandbox
    return some (.writeFirst (← readOutput))
  | 's' => return some (.substitute (← substitution))
  | 'y' => return some (← letterExchange)
  | 'b' => return some (.jump (← readLabel))
  | 't' => return some (.jumpIf (← readLabel))
  | 'T' => return some (.jumpUnless (← readLabel))
  | ':' =>
    if first.isSome then fault ": doesn't want any addresses"
    let label ← readLabel
    if label.isEmpty then fault "\":\" lacks a label"
    modify fun s => { s with labels := s.labels ++ [(label, s.commands.size)] }
    return some .nothing
  | 'v' =>
    let wanted ← readLabel
    if wanted.headD '0' > '4' then fault "expected newer version of sed"
    return some .nothing
  | '\x7b' =>
    modify fun s => { s with blocks := (s.commands.size, s.line) :: s.blocks }
    return some (.block 0)
  | '\x7d' =>
    match (← get).blocks with
    | [] => fault "unexpected \x60\x7d'"
    | (start, _) :: more =>
      if first.isSome then fault "\x60\x7d' doesn't want any addresses"
      endOfCommand
      modify fun s => { s with
        blocks := more
        commands := s.commands.modify start fun c => { c with action := .block s.commands.size } }
      return some .blockEnd
  | c => fault ("unknown command: \x60" ++ String.singleton c ++ "'")
where
  width (act : Option Nat → Action) : Reading (Option Action) := do
    skipGaps
    let ds ← takeWhile Char.isDigit
    plain (act (number? ds))

def comment (first : Option Address) : Reading Unit := do
  if first.isSome then fault "comments don't accept any addresses"
  let s ← get
  let body ← takeWhile (· ≠ '\n')
  let _ ← take
  if s.opening ∧ s.count = 1 ∧ body.head? = some 'n' then modify fun s => { s with quiet := true }

def readCommands : Nat → Reading Unit
  | 0 => return ()
  | fuel + 1 => do
    let _ ← takeWhile fun c => isSpace c || c = ';'
    if (← peek).isNone then return ()
    let (first, last) ← addresses
    let isRegex : Bool := match last with
      | some (.matching _) => true
      | _ => false
    let some c ← peekAfterGaps | fault "missing command"
    let zero : Bool := match first with
      | some (.line 0) => !isRegex && c ≠ 'r'
      | _ => false
    let _ ← take
    if zero then fault "invalid usage of line address 0"
    let negated := c = '!'
    let c ←
      if negated then do
        match ← peekAfterGaps with
        | none => fault "missing command"
        | some d =>
          let _ ← take
          if d = '!' then fault "multiple \x60!'s" else pure d
      else pure c
    if c = '#' then comment first
    else
      let action ← actionOf first last c
      let place := (← get).commands.size
      let given := action.getD (match c with
        | 'a' => .append []
        | 'i' => .insert []
        | _ => .change [])
      modify fun s => { s with
        commands := s.commands.push ⟨first, last, negated, given⟩
        openText := if action.isNone then some place else none }
    readCommands fuel

def continueText : Reading Unit := do
  match (← get).openText with
  | none => return ()
  | some i =>
    let text ← readText
    modify fun s => { s with
      openText := none
      commands := s.commands.modify i fun c => { c with action := match c.action with
        | .append _ => .append text
        | .insert _ => .insert text
        | _ => .change text } }

namespace ReadState

def start (dialect : Dialect) : ReadState where
  source := .expression 0
  dialect := dialect
  rest := []
  count := 0
  line := 1
  opening := true
  commands := #[]
  blocks := []
  labels := []
  outputs := []
  quiet := false
  openText := none

def add (s : ReadState) (dialect : Dialect) (source : Source) (text : Chars) :
    Except Chars ReadState := do
  let s := { s with source := source, dialect := dialect, rest := text, count := 0, line := 1 }
  let ((), s) ← (continueText >>= fun _ => readCommands (text.length + 1)).run s
  return { s with opening := false }

def lostLabel? (s : ReadState) : Option Chars :=
  s.commands.toList.findSome? fun c =>
    let label := match c.action with
      | .jump l => l
      | .jumpIf l => l
      | .jumpUnless l => l
      | _ => []
    if label.isEmpty || s.labels.any fun e => e.1 = label then none else some label

def finish (s : ReadState) : Except Chars Script := do
  match s.blocks with
  | (_, line) :: _ => throw (faultAt s 0 line "unmatched \x60\x7b'".toList)
  | [] => pure ()
  match s.lostLabel? with
  | some l => throw ("can't find label for jump to \x60".toList ++ l ++ ['\''])
  | none => return ⟨s.commands, s.labels, s.outputs, s.quiet⟩

end ReadState

end TreePipeline.Tools.Editor
