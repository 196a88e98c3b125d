import TreePipeline.Number.Amount
import TreePipeline.Tools.Records.Script

/-!
Tokens of scripts. Ends of line count only where a statement can end; a statement in front of a
closing brace needs no end of its own, because one is put there. What cannot be a token becomes a
fault, which is of interest only if the reader gets that far.
-/

namespace TreePipeline.Tools.Records

open Shell

inductive Token where
  | number (x : Float) (spelled : Chars)
  | text (cs : Chars)
  | regular (source : Chars)
  | name (s : String) (called : Bool)
  | keyword (s : String)
  | function (f : Function) (s : String)
  | sign (s : String)
  | newline
  | ending
  | extra
  | finish
  | fault (complaint : Chars) (numbered : Bool)

instance : Inhabited Token := ⟨.finish⟩

structure Located where
  token : Token
  line : Nat

instance : Inhabited Located := ⟨⟨.finish, 1⟩⟩

def keywords : List String :=
  ["BEGIN", "END", "if", "else", "while", "for", "do", "in", "print", "printf", "getline", "delete",
    "break", "continue", "next", "nextfile", "exit", "return", "function", "split", "sub", "gsub"]

def functionNames : List (String × Function) :=
  [("length", .length), ("substr", .substr), ("index", .index), ("match", .match_), ("sprintf", .sprintf),
    ("tolower", .toLower), ("toupper", .toUpper), ("int", .int), ("sin", .sin), ("cos", .cos),
    ("atan2", .atan2), ("exp", .exp), ("log", .log), ("sqrt", .sqrt), ("rand", .rand),
    ("srand", .srand), ("system", .system), ("close", .close), ("fflush", .flush),
    ("systime", .sysTime), ("mktime", .makeTime), ("strftime", .formatTime)]

namespace Token

def shown : Token → Chars
  | number _ spelled => spelled
  | text cs => cs
  | regular source => '/' :: source ++ ['/']
  | name s _ => if s == "NF" then ['$'] else s.toList
  | keyword s => s.toList
  | function _ s => s.toList
  | sign s => s.toList
  | newline => "end of line".toList
  | ending => ['\x7d']
  | extra => ['\x7d']
  | finish => "end of file".toList
  | fault complaint _ => complaint

def isSign (s : String) : Token → Bool
  | sign t => s == t
  | _ => false

def isKeyword (s : String) : Token → Bool
  | keyword t => s == t
  | _ => false

def isEnd : Token → Bool
  | newline => true
  | ending => true
  | t => t.isSign ";"

def isOperand : Token → Bool
  | number .. => true
  | text _ => true
  | regular _ => true
  | name .. => true
  | keyword s => s == "getline"
  | sign s => s == ")" || s == "]"
  | _ => false

def joinsLines : Token → Bool
  | newline => true
  | sign s => [";", "\x7b", "\x7d", "&&", "||", ","].contains s
  | _ => false

end Token

def signs : List String :=
  ["+=", "++", "+", "-=", "--", "-", "*=", "*", "/=", "/", "%=", "%", "^=", "^", "==", "=", "!=", "!~",
    "!", "<=", "<", ">=", ">>", ">", "~", "&&", "||", "|", "?", ":", ",", "(", ")", "[", "]", "\x7b",
    "\x7d", ";", "$"]

def isNameStart (c : Char) : Bool := c.isAlpha || c = '_'

def isNamePart (c : Char) : Bool := c.isAlphanum || c = '_'

def readNumeral (cs : Chars) : Float × Chars :=
  match Amount.readDigits 10 cs with
  | (v, places, _, r) =>
    let (e, r) := Amount.readExponent 'e' 'E' r
    let (n, d) := Amount.scaled 10 v (e - places)
    (Float.ofBits (Binary64.ofQuotient false n d).bits, r)

def readEscape (cs : Chars) : Chars × Chars :=
  let digits (base limit : Nat) (cs : Chars) : Chars :=
    (cs.take limit).takeWhile fun c => Amount.digitValue c < base
  let valueOf (base : Nat) (ds : Chars) : Char :=
    Char.ofNat (ds.foldl (fun v c => base * v + Amount.digitValue c) 0 % 256)
  match cs with
  | [] => (['\\'], [])
  | 'a' :: r => (['\x07'], r)
  | 'b' :: r => (['\x08'], r)
  | 'f' :: r => (['\x0c'], r)
  | 'n' :: r => (['\n'], r)
  | 'r' :: r => (['\r'], r)
  | 't' :: r => (['\t'], r)
  | 'v' :: r => (['\x0b'], r)
  | '"' :: r => (['"'], r)
  | '\\' :: r => (['\\'], r)
  | c :: r =>
    let octals := digits 8 3 cs
    let hexadecimals := if c = 'x' then digits 16 2 r else []
    if !octals.isEmpty then ([valueOf 8 octals], cs.drop octals.length)
    else if !hexadecimals.isEmpty then ([valueOf 16 hexadecimals], r.drop hexadecimals.length)
    else (['\\', c], r)

def unescaped : Nat → Chars → Chars
  | 0, cs => cs
  | _ + 1, [] => []
  | fuel + 1, '\\' :: r =>
    let (t, r) := readEscape r
    t ++ unescaped fuel r
  | fuel + 1, c :: r => c :: unescaped fuel r

def readText : Chars → Option (Chars × Nat × Chars)
  | [] => none
  | '"' :: r => some ([], 0, r)
  | '\n' :: _ => none
  | '\\' :: '\n' :: r => (readText r).map fun (t, n, r) => (t, n + 1, r)
  | '\\' :: c :: r => (readText r).map fun (t, n, r) => ('\\' :: c :: t, n, r)
  | c :: r => (readText r).map fun (t, n, r) => (c :: t, n, r)

inductive Bracketing where
  | outside
  | opened
  | inside
  | inClass
  deriving DecidableEq

def readRegular : Bracketing → Chars → Option (Chars × Chars)
  | _, [] => none
  | _, '\n' :: _ => none
  | s, '\\' :: '/' :: r => (readRegular (if s = .outside then s else .inside) r).map fun (t, r) => ('/' :: t, r)
  | s, '\\' :: c :: r =>
    if c = '\n' then none
    else (readRegular (if s = .outside then s else .inside) r).map fun (t, r) => ('\\' :: c :: t, r)
  | .outside, '/' :: r => some ([], r)
  | .outside, '[' :: '^' :: r => (readRegular .opened r).map fun (t, r) => ('[' :: '^' :: t, r)
  | .outside, '[' :: r => (readRegular .opened r).map fun (t, r) => ('[' :: t, r)
  | .inClass, ':' :: ']' :: r => (readRegular .inside r).map fun (t, r) => (':' :: ']' :: t, r)
  | .inClass, c :: r => (readRegular .inClass r).map fun (t, r) => (c :: t, r)
  | .inside, ']' :: r => (readRegular .outside r).map fun (t, r) => (']' :: t, r)
  | .opened, '[' :: ':' :: r => (readRegular .inClass r).map fun (t, r) => ('[' :: ':' :: t, r)
  | .inside, '[' :: ':' :: r => (readRegular .inClass r).map fun (t, r) => ('[' :: ':' :: t, r)
  | .outside, c :: r => (readRegular .outside r).map fun (t, r) => (c :: t, r)
  | _, c :: r => (readRegular .inside r).map fun (t, r) => (c :: t, r)

def skipBlanks (lines : Bool) : Nat → (line : Nat) → Chars → Nat × Chars
  | 0, line, cs => (line, cs)
  | fuel + 1, line, cs =>
    match cs with
    | '\\' :: '\n' :: r => skipBlanks lines fuel (line + 1) r
    | '#' :: r => skipBlanks lines fuel line (r.dropWhile (· ≠ '\n'))
    | '\n' :: r => if lines then skipBlanks lines fuel (line + 1) r else (line, cs)
    | c :: r => if Amount.isBlank c then skipBlanks lines fuel line r else (line, cs)
    | [] => (line, [])

def runaway (what : String) (cs : Chars) : Token :=
  .fault (what.toList ++ (cs.takeWhile (· ≠ '\n')).take 10 ++ " ...".toList) true

def unexpected (c : Char) : Token :=
  .fault ("unexpected character '".toList ++ [c, '\'']) false

def nextToken (before : Token) (cs : Chars) : Token × Nat × Chars :=
  match cs with
  | [] => (.finish, 0, [])
  | '\n' :: r => (.newline, 1, r)
  | '"' :: r =>
    match readText r with
    | some (t, n, r) => (.text (unescaped (t.length + 1) t), n, r)
    | none => (runaway "runaway string constant \"" r, 0, [])
  | c :: r =>
    if isNameStart c then
      let s := String.ofList (cs.takeWhile isNamePart)
      let r := cs.dropWhile isNamePart
      if keywords.contains s then (.keyword s, 0, r)
      else
        match functionNames.lookup s with
        | some f => (.function f s, 0, r)
        | none => (.name s (r.head? = some '('), 0, r)
    else if c.isDigit ∨ (c = '.' ∧ r.head?.any Char.isDigit) then
      let (x, r) := readNumeral cs
      (.number x (cs.take (cs.length - r.length)), 0, r)
    else if c = '/' ∧ !before.isOperand then
      match readRegular .outside r with
      | some (t, r) => (.regular t, 0, r)
      | none => (runaway "runaway regular expression /" r, 0, [])
    else
      match signs.find? fun s => s.toList.isPrefixOf cs with
      | some s => (.sign s, 0, cs.drop s.length)
      | none => (unexpected c, 0, r)

def tokensFrom : Nat → (before : Token) → (depth line : Nat) → Chars → List Located
  | 0, _, _, line, _ => [⟨.finish, line⟩]
  | fuel + 1, before, depth, line, cs =>
    let (line, cs) := skipBlanks before.joinsLines (cs.length + 1) line cs
    match cs with
    | [] => [⟨.finish, line⟩]
    | '\x7d' :: r =>
      if depth = 0 then
        ⟨.extra, line⟩ :: tokensFrom fuel .ending depth line r
      else if before.isEnd ∨ before.isSign "\x7d" then
        let r := if depth = 1 then afterSemicolon r else r
        ⟨.sign "\x7d", line⟩ :: tokensFrom fuel (.sign "\x7d") (depth - 1) line r
      else ⟨.ending, line⟩ :: tokensFrom fuel .ending depth line cs
    | cs =>
      let (t, lines, r) := nextToken before cs
      let depth := if t.isSign "\x7b" then depth + 1 else depth
      ⟨t, line⟩ :: tokensFrom fuel t depth (line + lines) r
where
  afterSemicolon (r : Chars) : Chars :=
    match r.dropWhile fun c => c = ' ' ∨ c = '\t' with
    | ';' :: r => r
    | _ => r

def tokensOf (script : Chars) : List Located :=
  let script := script ++ ['\n']
  tokensFrom (2 * script.length + 2) .newline 0 1 script

end TreePipeline.Tools.Records
