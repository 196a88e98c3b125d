import TreePipeline.Shell.Enclosure

/-!
Reading commands. A script is read one complete command at a time, so what stands before a fault in
it has been carried out when the fault is met.
-/

namespace TreePipeline.Shell

inductive ReadError where
  | unterminatedQuote
  | unexpected (token : String) (expecting : Option String)
  | openBackQuote
  | missing (closer : String)
  | badLoopVariable
  | badFunctionName
  deriving DecidableEq

def ReadError.message : ReadError → String
  | .unterminatedQuote => "Syntax error: Unterminated quoted string"
  | .openBackQuote => "Syntax error: EOF in backquote substitution"
  | .badLoopVariable => "Syntax error: Bad for loop variable"
  | .badFunctionName => "Syntax error: Bad function name"
  | .missing closer => "Syntax error: Missing '" ++ closer ++ "'"
  | .unexpected token (some "word") =>
    "Syntax error: " ++ token ++ " unexpected (expecting word)"
  | .unexpected token none => "Syntax error: " ++ token ++ " unexpected"
  | .unexpected token (some e) =>
    "Syntax error: " ++ token ++ " unexpected (expecting \"" ++ e ++ "\")"

structure ReadFailure where
  cause : ReadError
  line : Nat
  deriving DecidableEq

structure Input where
  rest : Chars
  line : Nat
  passed : Nat
  aliases : List (String × Chars) := []
  opened : List (String × Nat × Bool) := []

def Input.ofSource (source : Source) : Input where
  rest := source.text
  line := source.line
  passed := 0

abbrev Reader := StateT Input (Except ReadFailure)

namespace Reader

def fail {α : Type} (e : ReadError) : Reader α := do throw ⟨e, (← get).line⟩

def failAtEnd {α : Type} (e : ReadError) : Reader α := do
  let s ← get
  throw ⟨e, s.line + s.rest.count '\n' + s.passed⟩

def rest : Reader Chars := do return (← get).rest

def skip (n : Nat) : Reader Unit :=
  modify fun s =>
    let lines := (s.rest.take n).count '\n'
    if lines = 0 then { s with rest := s.rest.drop n }
    else { s with rest := s.rest.drop n, line := s.line + lines + s.passed, passed := 0 }

def isMeta : Char → Bool := Enclosure.isMeta

def isNameStart (c : Char) : Bool := c.isAlpha || c = '_'

def isNameChar (c : Char) : Bool := c.isAlphanum || c = '_'

def isGoodName (cs : Chars) : Bool :=
  match cs with
  | c :: r => isNameStart c && r.all isNameChar
  | [] => false

def skipBlanks : Nat → Reader Unit
  | 0 => pure ()
  | fuel + 1 => do
    match ← rest with
    | ' ' :: _ => skip 1; skipBlanks fuel
    | '\t' :: _ => skip 1; skipBlanks fuel
    | '\\' :: '\n' :: _ => skip 2; skipBlanks fuel
    | '#' :: r => skip (1 + (r.takeWhile (· ≠ '\n')).length)
    | _ => pure ()

def blanks : Reader Unit := do skipBlanks ((← rest).length + 1)

def skipLines : Nat → Reader Unit
  | 0 => pure ()
  | fuel + 1 => do
    blanks
    match ← rest with
    | '\n' :: _ => skip 1; skipLines fuel
    | _ => pure ()

def lines : Reader Unit := do skipLines ((← rest).length + 1)

def backQuoted (inQuotes : Bool) : Chars → Option (Chars × Nat)
  | [] => none
  | '\\' :: c :: r => do
    let (t, n) ← backQuoted inQuotes r
    if c = '\n' then some (t, n + 2)
    else if c = '\x60' ∨ c = '\\' ∨ c = '$' ∨ (inQuotes ∧ c = '"') then some (c :: t, n + 2)
    else some ('\\' :: c :: t, n + 2)
  | c :: r =>
    if c = '\x60' then some ([], 1) else (backQuoted inQuotes r).map fun (t, n) => (c :: t, n + 1)

def formOf (cs : Chars) : Option (Form × Nat) :=
  match cs with
  | ':' :: '-' :: _ => some (.orElse true, 2)
  | ':' :: '=' :: _ => some (.assign true, 2)
  | ':' :: '?' :: _ => some (.complain true, 2)
  | ':' :: '+' :: _ => some (.instead true, 2)
  | '-' :: _ => some (.orElse false, 1)
  | '=' :: _ => some (.assign false, 1)
  | '?' :: _ => some (.complain false, 1)
  | '+' :: _ => some (.instead false, 1)
  | '#' :: '#' :: _ => some (.trimFront true, 2)
  | '#' :: _ => some (.trimFront false, 1)
  | '%' :: '%' :: _ => some (.trimBack true, 2)
  | '%' :: _ => some (.trimBack false, 1)
  | [] => some (.plain, 0)
  | _ => none

def isSpecial (c : Char) : Bool := "@*#?-$!".toList.contains c || c.isDigit

def braceName (cs : Chars) : Chars :=
  match cs with
  | [] => []
  | c :: r =>
    if isNameStart c then c :: r.takeWhile isNameChar
    else if c.isDigit then c :: r.takeWhile Char.isDigit
    else if isSpecial c then [c]
    else []

def braced (inside : Source) (inQuotes : Bool) : Reader Part := do
  let parameter (name : Chars) (form : Form) (operand : Chars) : Part :=
    .parameter (String.ofList name) form { inside with text := operand } inQuotes
  match inside.text with
  | '#' :: c :: r =>
    let name := braceName (c :: r)
    if name.length = r.length + 1 then return parameter name .length []
  | _ => pure ()
  let name := braceName inside.text
  let after := inside.text.drop name.length
  match formOf after with
  | some (form, n) =>
    return parameter name (if name.isEmpty then .bad else form) (after.drop n)
  | none => return parameter name .bad []

def openError : Enclosure → ReadError
  | .commands => .unexpected "end of file" (some ")")
  | .cases => .unexpected "end of file" (some ")")
  | .expression => .missing "))"
  | .brackets => .missing "))"
  | .operand inQuotes => if inQuotes then .unterminatedQuote else .missing "\x7d"
  | .quotes => .unterminatedQuote

def failOpen {α : Type} (e : Enclosure) : Reader α := failAtEnd (openError e)

def dollar (inQuotes : Bool) : Reader Part := do
  skip 1
  let line := (← get).line
  match ← rest with
  | '(' :: '(' :: r =>
    match Enclosure.span .expression r with
    | .ok n => skip (n + 4); return .arithmetic ⟨r.take n, line⟩ inQuotes
    | .error e => failOpen e
  | '(' :: r =>
    match Enclosure.span .commands r with
    | .ok n => skip (n + 2); return .command ⟨r.take n, line⟩ inQuotes
    | .error e => failOpen e
  | '\x7b' :: r =>
    match Enclosure.span (.operand inQuotes) r with
    | .ok n => skip (n + 2); braced ⟨r.take n, line⟩ inQuotes
    | .error e =>
      if (r.drop (braceName r).length).head? = some '\n' then fail (openError e) else failOpen e
  | c :: r =>
    if isNameStart c then
      let name := c :: r.takeWhile isNameChar
      skip name.length
      return .parameter (String.ofList name) .plain ⟨[], line⟩ inQuotes
    else if isSpecial c then
      skip 1
      return .parameter (String.ofList [c]) .plain ⟨[], line⟩ inQuotes
    else if inQuotes then return .quoted ['$'] else return .plain ['$']
  | [] => if inQuotes then return .quoted ['$'] else return .plain ['$']

def backQuote (inQuotes : Bool) : Reader Part := do
  skip 1
  match backQuoted inQuotes (← rest) with
  | some (text, n) => skip n; return .command ⟨text, 1⟩ inQuotes
  | none => failAtEnd .openBackQuote

def inDoubleQuotes : Nat → List Part → Reader (List Part)
  | 0, _ => failAtEnd .unterminatedQuote
  | fuel + 1, acc => do
    match ← rest with
    | [] => failAtEnd .unterminatedQuote
    | '"' :: _ => skip 1; return acc.reverse
    | '\\' :: c :: _ =>
      skip 2
      if c = '\n' then inDoubleQuotes fuel acc
      else if c = '$' ∨ c = '\x60' ∨ c = '"' ∨ c = '\\' then
        inDoubleQuotes fuel (.quoted [c] :: acc)
      else inDoubleQuotes fuel (.quoted ['\\', c] :: acc)
    | '$' :: _ => do
      let p ← dollar true
      inDoubleQuotes fuel (p :: acc)
    | c :: r =>
      if c = '\x60' then do
        let p ← backQuote true
        inDoubleQuotes fuel (p :: acc)
      else
        let stop (c : Char) : Bool := c = '"' || c = '\\' || c = '$' || c = '\x60'
        let text := c :: r.takeWhile fun c => !stop c
        skip text.length
        inDoubleQuotes fuel (.quoted text :: acc)

def wordParts (stop : Char → Bool) : Nat → List Part → Reader (List Part)
  | 0, acc => return acc.reverse
  | fuel + 1, acc => do
    match ← rest with
    | [] => return acc.reverse
    | '\\' :: '\n' :: _ => skip 2; wordParts stop fuel acc
    | '\\' :: c :: _ => skip 2; wordParts stop fuel (.quoted [c] :: acc)
    | '\'' :: r =>
      let text := r.takeWhile (· ≠ '\'')
      if text.length = r.length then failAtEnd .unterminatedQuote
      else
        skip (text.length + 2)
        wordParts stop fuel (.quoted text :: acc)
    | '"' :: _ => do
      skip 1
      let ps ← inDoubleQuotes ((← rest).length + 1) []
      wordParts stop fuel ((if ps.isEmpty then [.quoted []] else ps).reverse ++ acc)
    | '$' :: _ => do
      let p ← dollar false
      wordParts stop fuel (p :: acc)
    | c :: r =>
      if stop c then return acc.reverse
      else if c = '\x60' then do
        let p ← backQuote false
        wordParts stop fuel (p :: acc)
      else
        let ends (c : Char) : Bool :=
          stop c || c = '\\' || c = '\'' || c = '"' || c = '$' || c = '\x60'
        let text := c :: r.takeWhile fun c => !ends c
        skip text.length
        wordParts stop fuel (.plain text :: acc)

def word : Reader Word := do wordParts isMeta ((← rest).length + 1) []

def quotedParts (operand : Bool) : Nat → List Part → Reader (List Part)
  | 0, acc => return acc.reverse
  | fuel + 1, acc => do
    match ← rest with
    | [] => return acc.reverse
    | '\\' :: c :: _ =>
      skip 2
      let escaped := "$\x60\\".toList.contains c || (operand && (c = '"' || c = '\x7d'))
      if c = '\n' then quotedParts operand fuel acc
      else quotedParts operand fuel (.quoted (if escaped then [c] else ['\\', c]) :: acc)
    | '$' :: _ => do
      let p ← dollar true
      quotedParts operand fuel (p :: acc)
    | c :: _ =>
      if c = '\x60' then do
        let p ← backQuote true
        quotedParts operand fuel (p :: acc)
      else
        skip 1
        quotedParts operand fuel (if operand ∧ c = '"' then acc else .quoted [c] :: acc)

def wordOfText (source : Source) : Except ReadFailure Word :=
  (wordParts (fun _ => false) (source.text.length + 1) []).run' (.ofSource source)

def quotedText (source : Source) : Except ReadFailure Word :=
  (quotedParts false (source.text.length + 1) []).run' (.ofSource source)

def operandText (inQuotes : Bool) (source : Source) : Except ReadFailure Word :=
  if inQuotes then (quotedParts true (source.text.length + 1) []).run' (.ofSource source)
  else wordOfText source

def reserved : List String :=
  ["if", "then", "else", "elif", "fi", "do", "done", "case", "esac", "while", "until", "for",
    "\x7b", "\x7d", "!", "in"]

def plainWord : Reader (Option String) := do
  blanks
  let w := (← rest).takeWhile fun c => !isMeta c
  if w.isEmpty || w.any (fun c => "\\'\"$\x60".toList.contains c) then return none
  else return some (String.ofList w)

def openAliases : Nat → Reader Unit
  | 0 => pure ()
  | fuel + 1 => do
    match ← plainWord with
    | none => pure ()
    | some w => do
      let s ← get
      let inside := s.opened.filter fun e => e.2.1 < s.rest.length
      match s.aliases.lookup w with
      | none => pure ()
      | some text =>
        if !reserved.contains w && !inside.any fun e => e.1 = w then
          let after := s.rest.drop w.length
          let blank := text.getLast? = some ' ' || text.getLast? = some '\t'
          set { s with rest := text ++ after, opened := (w, after.length, blank) :: inside }
          openAliases fuel

def aliasesHere : Reader Unit := do
  let s ← get
  if !s.aliases.isEmpty then openAliases (s.aliases.length + s.rest.length + 1)

def aliasesAfter : Reader Unit := do
  let s ← get
  if !s.opened.isEmpty then
    blanks
    let left := (← rest).length
    let (inside, past) := s.opened.partition fun e => e.2.1 < left
    modify fun s => { s with opened := inside }
    if past.any fun e => e.2.2 then aliasesHere

def plainText : Word → Option Chars
  | [.plain t] => some t
  | _ => none

def markText (w : Word) : Chars × Bool :=
  w.foldl (fun (text, q) p =>
    match p with
    | .plain t => (text ++ t, q)
    | .quoted t => (text ++ t, true)
    | _ => (text, q)) ([], false)

def hereBody (mark : Chars) (stripTabs : Bool) : Reader Source := do
  let s ← get
  let (now, later) := Enclosure.cutLine s.rest
  let (body, after) := Enclosure.hereLines mark stripTabs (later.length + 1) later
  let lines := later.count '\n' - after.count '\n'
  set { s with rest := now ++ '\n' :: after, passed := s.passed + lines }
  return ⟨body, s.line + s.passed + 1⟩

def directionOf (cs : Chars) : Option (Direction × Nat × Nat) :=
  match cs with
  | '<' :: '<' :: '-' :: _ => some (.here, 3, 0)
  | '<' :: '<' :: _ => some (.here, 2, 0)
  | '<' :: '&' :: _ => some (.duplicate, 2, 0)
  | '<' :: '>' :: _ => some (.both, 2, 0)
  | '<' :: _ => some (.input, 1, 0)
  | '>' :: '>' :: _ => some (.append, 2, 1)
  | '>' :: '&' :: _ => some (.duplicate, 2, 1)
  | '>' :: '|' :: _ => some (.replace, 2, 1)
  | '>' :: _ => some (.output, 1, 1)
  | _ => none

def closers : List String := ["then", "else", "elif", "fi", "do", "done", "esac", "\x7d"]

def quotedName (s : String) : String := "\"" ++ s ++ "\""

def nextToken : Reader String := do
  blanks
  match ← rest with
  | [] => return "end of file"
  | '\n' :: _ => return "newline"
  | '&' :: '&' :: _ => return quotedName "&&"
  | '|' :: '|' :: _ => return quotedName "||"
  | ';' :: ';' :: _ => return quotedName ";;"
  | '<' :: _ => return "redirection"
  | '>' :: _ => return "redirection"
  | c :: r =>
    if isMeta c then return quotedName (String.ofList [c])
    else
      let w := String.ofList (c :: r.takeWhile fun c => !isMeta c)
      return if reserved.contains w then quotedName w else "word"

def failAtToken {α : Type} (e : ReadError) : Reader α := do
  let s ← get
  throw ⟨e, s.line + if s.rest.head? = some '\n' then s.passed + 1 else 0⟩

def unexpected {α : Type} (expecting : Option String) : Reader α := do
  let next ← nextToken
  failAtToken (.unexpected next expecting)

def unexpectedWord {α : Type} (expecting : String) : Reader α := do
  if (← rest).head? = some '\n' then unexpected (some expecting)
  let next ← nextToken
  let isWord := !(((← rest).head?.map isMeta).getD true)
  fail (.unexpected (if isWord then "word" else next) (some expecting))

def redirection : Reader (Option Redirection) := do
  blanks
  let cs ← rest
  let ds := cs.takeWhile Char.isDigit
  match directionOf (cs.drop ds.length) with
  | none => return none
  | some (direction, n, standard) =>
    let stripTabs := direction = .here && n = 3
    skip (ds.length + n)
    blanks
    let goal ← word
    if goal.isEmpty then unexpected none
    let fd := if ds.isEmpty then standard else (String.ofList ds).toNat?.getD 0
    if direction = .here then
      let (mark, isQuoted) := markText goal
      let body ← hereBody mark stripTabs
      if isQuoted then return some ⟨fd, .here, [.quoted body.text]⟩
      else
        match quotedText body with
        | .ok w => return some ⟨fd, .here, w⟩
        | .error e => throw e
    else return some ⟨fd, direction, goal⟩

def redirections : Nat → List Redirection → Reader (List Redirection)
  | 0, acc => return acc.reverse
  | fuel + 1, acc => do
    match ← redirection with
    | some r => redirections fuel (r :: acc)
    | none => return acc.reverse

def allRedirections : Reader (List Redirection) := do redirections ((← rest).length + 1) []

def assignment? (w : Word) : Option (String × Word) :=
  match w with
  | .plain t :: r =>
    let name := t.takeWhile isNameChar
    let after := t.drop name.length
    match name, after with
    | c :: _, '=' :: v =>
      if isNameStart c then some (String.ofList name, if v.isEmpty then r else .plain v :: r)
      else none
    | _, _ => none
  | _ => none

def simpleRest (line : Nat) : Nat → List (String × Word) → List Word → List Redirection →
    Reader Command
  | 0, as, ws, rs => return .simple as.reverse ws.reverse rs.reverse line
  | fuel + 1, as, ws, rs => do
    if ws.isEmpty then aliasesHere else aliasesAfter
    match ← redirection with
    | some r => simpleRest line fuel as ws (r :: rs)
    | none =>
      let w ← word
      if w.isEmpty then
        if as.isEmpty ∧ rs.isEmpty ∧ ws.length = 1 ∧ (← rest).head? = some '(' then
          skip 1
          blanks
          if (← rest).head? = some ')' then fail .badFunctionName else unexpectedWord ")"
        return .simple as.reverse ws.reverse rs.reverse line
      else
        match ws, assignment? w with
        | [], some a => simpleRest line fuel (a :: as) ws rs
        | _, _ => simpleRest line fuel as (w :: ws) rs

def expectWord (w : String) : Reader Unit := do
  lines
  if (← plainWord) = some w then skip w.length else unexpected (some w)

def atEnd : Reader Bool := do
  blanks
  aliasesHere
  match ← rest with
  | [] => return true
  | ')' :: _ => return true
  | ';' :: ';' :: _ => return true
  | _ =>
    match ← plainWord with
    | some w => return closers.contains w
    | none => return false

def wordsHere : Nat → List Word → Reader (List Word)
  | 0, acc => return acc.reverse
  | fuel + 1, acc => do
    blanks
    let w ← word
    if w.isEmpty then return acc.reverse else wordsHere fuel (w :: acc)

def patterns : Nat → List Word → Reader (List Word)
  | 0, acc => return acc.reverse
  | fuel + 1, acc => do
    blanks
    let w ← word
    if w.isEmpty then skip 1
    blanks
    match ← rest with
    | '|' :: _ => skip 1; patterns fuel (w :: acc)
    | ')' :: _ => skip 1; return (w :: acc).reverse
    | _ => unexpectedWord ")"

def wrap (line : Nat) (c : Command) : Reader Command := do
  let rs ← allRedirections
  if rs.isEmpty then return c else return .onLine line (.group c rs)

def grouped (line : Nat) (c : Command) (rs : List Redirection) : Command :=
  if rs.isEmpty then c
  else
    match c with
    | .onLine inner (.subshell body _) => .onLine inner (.subshell body rs)
    | c => .onLine line (.group c rs)

def isFunction (w : String) : Reader Bool := do
  let cs := (← rest).drop w.length
  match cs.dropWhile fun c => c = ' ' || c = '\t' with
  | '(' :: r =>
    skip ((← rest).length - r.length)
    blanks
    match ← rest with
    | ')' :: _ =>
      skip 1
      if isGoodName w.toList ∧ w ∉ specialCommands then return true else fail .badFunctionName
    | _ => unexpectedWord ")"
  | _ => return false

def simple : Reader Command := do
  let s ← get
  let texts := (s.aliases.map fun e => e.2.length + 1).foldl Nat.add 0
  let c ← simpleRest s.line ((s.rest.length + 1) * (texts + 1)) [] [] []
  match c with
  | .simple [] [] [] _ => unexpected none
  | c => return c

mutual

def list (across : Bool) : Nat → Reader Command
  | 0 => return .nothing
  | fuel + 1 => do
    if across then lines
    if ← atEnd then return .nothing
    let c ← andOr fuel
    blanks
    match ← rest with
    | '&' :: _ =>
      skip 1
      blanks
      listRest across fuel (.background c)
    | ';' :: ';' :: _ => return c
    | ';' :: _ =>
      skip 1
      blanks
      listRest across fuel c
    | '\n' :: _ => if across then listRest across fuel c else return c
    | _ => return c

def inside : Nat → Reader Command
  | 0 => return .nothing
  | fuel + 1 => do
    match ← list true fuel with
    | .nothing => if (← rest).isEmpty then return .nothing else unexpected none
    | c => return c

def listRest (across : Bool) : Nat → Command → Reader Command
  | 0, c => return c
  | fuel + 1, c => do
    if across then lines
    if ← atEnd then return c
    if !across && (← rest).head? = some '\n' then return c
    match ← rest with
    | ';' :: _ => unexpected none
    | '&' :: _ => unexpected none
    | '|' :: _ => unexpected none
    | _ =>
      let d ← list across fuel
      match d with
      | .nothing => return c
      | d => return .sequence c d

def andOr : Nat → Reader Command
  | 0 => return .nothing
  | fuel + 1 => do
    let c ← pipeline fuel
    andOrRest fuel c

def andOrRest : Nat → Command → Reader Command
  | 0, c => return c
  | fuel + 1, c => do
    blanks
    match ← rest with
    | '&' :: '&' :: _ =>
      skip 2
      lines
      let d ← pipeline fuel
      andOrRest fuel (.both c d)
    | '|' :: '|' :: _ =>
      skip 2
      lines
      let d ← pipeline fuel
      andOrRest fuel (.either c d)
    | _ => return c

def pipeline : Nat → Reader Command
  | 0 => return .nothing
  | fuel + 1 => do
    aliasesHere
    if (← plainWord) = some "!" then
      skip 1
      blanks
      if (← rest).isEmpty ∨ (← plainWord) = some "!" then unexpected none
      let c ← pipeline fuel
      return .negated c
    else
      let c ← command fuel
      let cs ← pipelineRest fuel
      if cs.isEmpty then return c else return .pipeline (c :: cs)

def pipelineRest : Nat → Reader (List Command)
  | 0 => return []
  | fuel + 1 => do
    blanks
    match ← rest with
    | '|' :: '|' :: _ => return []
    | '|' :: _ =>
      skip 1
      lines
      let c ← command fuel
      let cs ← pipelineRest fuel
      return c :: cs
    | _ => return []

def command : Nat → Reader Command
  | 0 => return .nothing
  | fuel + 1 => do
    blanks
    aliasesHere
    let line := (← get).line
    match ← rest with
    | '(' :: _ =>
      skip 1
      let c ← inside fuel
      lines
      if (← rest).head? = some ')' then
        skip 1
        return .onLine line (.subshell c (← allRedirections))
      else unexpected (some ")")
    | _ =>
      match ← plainWord with
      | some "\x7b" =>
        skip 1
        let c ← inside fuel
        expectWord "\x7d"
        return grouped line c (← allRedirections)
      | some "if" =>
        skip 2
        let c ← branches fuel
        wrap line c
      | some "while" =>
        skip 5
        let c ← loopRest false fuel
        wrap line c
      | some "until" =>
        skip 5
        let c ← loopRest true fuel
        wrap line c
      | some "for" =>
        skip 3
        let c ← forRest fuel
        wrap line (.onLine line c)
      | some "case" =>
        skip 4
        let c ← caseRest fuel
        wrap line (.onLine line c)
      | some w =>
        if closers.contains w then unexpected none
        else if (assignment? [.plain w.toList]).isSome then simple
        else if (← isFunction w) then
          blanks
          lines
          let body ← command fuel
          return .function w body
        else simple
      | none => simple

def branches : Nat → Reader Command
  | 0 => return .nothing
  | fuel + 1 => do
    let condition ← inside fuel
    expectWord "then"
    let yes ← inside fuel
    lines
    match ← plainWord with
    | some "elif" =>
      skip 4
      let no ← branches fuel
      return .branch condition yes no
    | some "else" =>
      skip 4
      let no ← inside fuel
      expectWord "fi"
      return .branch condition yes no
    | _ =>
      expectWord "fi"
      return .branch condition yes .nothing

def loopRest (stopWhen : Bool) : Nat → Reader Command
  | 0 => return .nothing
  | fuel + 1 => do
    let condition ← inside fuel
    expectWord "do"
    let body ← inside fuel
    expectWord "done"
    return .loop stopWhen condition body

def forRest : Nat → Reader Command
  | 0 => return .nothing
  | fuel + 1 => do
    match ← plainWord with
    | none => failAtToken .badLoopVariable
    | some name =>
      if !isGoodName name.toList then fail .badLoopVariable
      skip name.length
      lines
      let words ← match ← plainWord with
        | some "in" => do
          skip 2
          let ws ← wordsHere ((← rest).length + 1) []
          if !("\n;".toList.contains ((← rest).headD ' ')) then unexpected none
          pure (some ws)
        | _ => pure none
      blanks
      if (← rest).head? = some ';' then skip 1
      expectWord "do"
      let body ← inside fuel
      expectWord "done"
      return .each name words body

def caseRest : Nat → Reader Command
  | 0 => return .nothing
  | fuel + 1 => do
    blanks
    let w ← word
    if w.isEmpty then unexpected (some "word")
    expectWord "in"
    let cases ← casesRest fuel
    return .choice w cases

def casesRest : Nat → Reader (List (List Word × Command))
  | 0 => return []
  | fuel + 1 => do
    lines
    if (← plainWord) = some "esac" then
      skip 4
      return []
    else
      if (← rest).head? = some '(' then skip 1
      let ps ← patterns ((← rest).length + 1) []
      let body ← list true fuel
      lines
      match ← rest with
      | ';' :: ';' :: _ =>
        skip 2
        let more ← casesRest fuel
        return (ps, body) :: more
      | _ =>
        if (← plainWord) = some "esac" then
          skip 4
          return [(ps, body)]
        else unexpected (some ";;")

end

def complete : Reader (Option Command) := do
  lines
  let s ← get
  if s.rest.isEmpty then return none
  let texts := (s.aliases.map fun e => e.2.length + 1).foldl Nat.add 0
  let c ← list false ((4 * s.rest.length + 64) * (texts + 1))
  blanks
  match ← rest with
  | [] => return some c
  | '\n' :: _ => skip 1; return some c
  | _ => unexpected none

end Reader

end TreePipeline.Shell
