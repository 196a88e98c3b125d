import TreePipeline.Text.Numeral
import TreePipeline.Text.Expression
import TreePipeline.Text.Octets

/-!
How a pattern is written: `|` between branches, `*`, `+` and `?` after a piece, each with one more
`?` if it is to stop as early as it can, round brackets around a group, square ones around a set.
Named sets hold the characters of ASCII that belong to them. Counts in braces are refused, and so
are back references, looking around, the edges of words unless they are words of ASCII, and what
stands deeper within itself than a limit allows.
-/

namespace TreePipeline.Text.Expression

structure Switches where
  anyCase : Bool
  spaced : Bool
  exchanged : Bool
  characters : Bool

def Switches.standard : Switches := ⟨false, false, false, true⟩

def Switches.setTo (s : Switches) (on : Bool) (c : Char) : Option Switches :=
  match c with
  | 'i' => some { s with anyCase := on }
  | 'x' => some { s with spaced := on }
  | 'U' => some { s with exchanged := on }
  | 'u' => some { s with characters := on }
  | 'm' => some s
  | 's' => some s
  | 'R' => some s
  | _ => none

def readSwitches (s : Switches) (on : Bool) (seen : List Char) :
    List Char → Option (Switches × Bool × List Char)
  | ':' :: r => if seen.head? = some '-' then none else some (s, true, r)
  | ')' :: r => if seen.isEmpty ∨ seen.head? = some '-' then none else some (s, false, r)
  | '-' :: r => if on then readSwitches s false ('-' :: seen) r else none
  | c :: r =>
    if seen.contains c then none
    else (s.setTo on c).bind fun s => readSwitches s on (c :: seen) r
  | [] => none

def isSpaceMark (c : Char) : Bool := isBlank c || c = '\u200e' || c = '\u200f'

def skipSpace : List Char → List Char
  | [] => []
  | '#' :: r =>
    match (r.dropWhile (· ≠ '\n')) with
    | [] => []
    | _ => skipComment r
  | c :: r => if isSpaceMark c then skipSpace r else c :: r
where
  skipComment : List Char → List Char
    | [] => []
    | '\n' :: r => skipSpace r
    | _ :: r => skipComment r

def Switches.skip (s : Switches) (cs : List Char) : List Char :=
  if s.spaced then skipSpace cs else cs

def asciiRanges (rs : List (Char × Char)) : CharSet :=
  .unionOf (rs.map fun (a, b) => .range a b)

def digits : CharSet := .range '0' '9'

def letters : CharSet := asciiRanges [('a', 'z'), ('A', 'Z')]

def blanks : CharSet := asciiRanges [('\t', '\r'), (' ', ' ')]

def wordMarks : CharSet := asciiRanges [('0', '9'), ('A', 'Z'), ('_', '_'), ('a', 'z')]

def bracketSet? (name : String) : Option CharSet :=
  match name with
  | "alnum" => some (.union digits letters)
  | "alpha" => some letters
  | "ascii" => some (.range '\x00' '\x7f')
  | "blank" => some (asciiRanges [('\t', '\t'), (' ', ' ')])
  | "cntrl" => some (asciiRanges [('\x00', '\x1f'), ('\x7f', '\x7f')])
  | "digit" => some digits
  | "graph" => some (.range '!' '~')
  | "lower" => some (.range 'a' 'z')
  | "print" => some (.range ' ' '~')
  | "punct" => some (asciiRanges [('!', '/'), (':', '@'), ('[', '\x60'), ('\x7b', '~')])
  | "space" => some blanks
  | "upper" => some (.range 'A' 'Z')
  | "word" => some wordMarks
  | "xdigit" => some (asciiRanges [('0', '9'), ('A', 'F'), ('a', 'f')])
  | _ => none

def categorySet? (c : Char) : Option CharSet :=
  match c.toLower with
  | 'l' => some letters
  | 'n' => some digits
  | 'z' => some (.single ' ')
  | 'c' => some (asciiRanges [('\x00', '\x1f'), ('\x7f', '\x7f')])
  | 'm' => some .none
  | 's' => some (.unionOf ("$+<=>^\x60|~".toList.map .single))
  | 'p' => some (.unionOf ("!\"#%&'()*,-./:;?@[\\]_\x7b\x7d".toList.map .single))
  | _ => none

inductive Escape where
  | char (c : Char)
  | set (s : CharSet) (complemented : Bool)
  | start
  | finish
  | edge (e : WordEdge)

def hexNumber? (cs : List Char) : Option Nat :=
  cs.foldl (fun n c => do return 16 * (← n) + (← Octets.hexValue? c)) (some 0)

def readNumbered (width : Nat) (cs : List Char) : Option (Escape × List Char) := do
  let n ← if cs.length < width then none else hexNumber? (cs.take width)
  if n.isValidChar then some (.char (Char.ofNat n), cs.drop width) else none

def readEscape (switches : Switches) : List Char → Option (Escape × List Char)
  | [] => none
  | c :: r =>
    match c with
    | 'd' => some (.set digits false, r)
    | 'D' => some (.set digits true, r)
    | 's' => some (.set blanks false, r)
    | 'S' => some (.set blanks true, r)
    | 'w' => some (.set wordMarks false, r)
    | 'W' => some (.set wordMarks true, r)
    | 'a' => some (.char '\x07', r)
    | 'f' => some (.char '\x0c', r)
    | 't' => some (.char '\t', r)
    | 'n' => some (.char '\n', r)
    | 'r' => some (.char '\r', r)
    | 'v' => some (.char '\x0b', r)
    | 'A' => some (.start, r)
    | 'z' => some (.finish, r)
    | 'x' => readNumbered 2 r
    | 'u' => readNumbered 4 r
    | 'U' => readNumbered 8 r
    | 'p' => category false r
    | 'P' => category true r
    | 'b' => edge .any r
    | 'B' => edge .none r
    | '<' => edge .start r
    | '>' => edge .finish r
    | c => if c.toNat < 128 ∧ !c.isAlphanum then some (.char c, r) else none
where
  edge (e : WordEdge) (r : List Char) : Option (Escape × List Char) :=
    if switches.characters then none else some (.edge e, r)
  category (complemented : Bool) : List Char → Option (Escape × List Char)
    | [] => none
    | c :: r =>
      if switches.characters then (categorySet? c).map fun s => (.set s complemented, r) else none

def Switches.setOf? (switches : Switches) (s : CharSet) (complemented : Bool) : Option CharSet :=
  let s := if switches.anyCase then .anyCase s else s
  if !complemented then some s
  else if switches.characters then some (.complement s) else none

def Switches.ofChar (switches : Switches) (c : Char) : CharSet :=
  if switches.anyCase then .anyCase (.single c) else .single c

def readMember (switches : Switches) : List Char → Option ((Char ⊕ CharSet) × List Char)
  | [] => none
  | '\\' :: r =>
    match readEscape switches r with
    | some (.char c, r) => some (.inl c, r)
    | some (.set s complemented, r) => do return (.inr (← switches.setOf? s complemented), r)
    | _ => none
  | c :: r => some (.inl c, r)

def readRange (switches : Switches) (cs : List Char) : Option (CharSet × List Char) := do
  let (first, r) ← readMember switches cs
  let r := switches.skip r
  let alone : CharSet := match first with
    | .inl c => switches.ofChar c
    | .inr s => s
  match r with
  | [] => none
  | '-' :: r' =>
    match switches.skip r' with
    | ']' :: _ => some (alone, r)
    | '-' :: _ => some (alone, r)
    | r' => do
      let (last, r') ← readMember switches r'
      match first, last with
      | .inl a, .inl b =>
        if a ≤ b then do return (← switches.setOf? (.range a b) false, r') else none
      | _, _ => none
  | r => some (alone, r)

def readNamed (switches : Switches) (cs : List Char) : Option (CharSet × List Char) :=
  match cs with
  | '[' :: ':' :: r =>
    let (complemented, r) := match r with
      | '^' :: r => (true, r)
      | r => (false, r)
    let name := r.takeWhile (· ≠ ':')
    match bracketSet? (String.ofList name), r.drop name.length with
    | some s, ':' :: ']' :: r => (switches.setOf? s complemented).map fun s => (s, r)
    | _, _ => none
  | _ => none

def combine? (a b : Char) : Option (CharSet → CharSet → CharSet) :=
  match a, b with
  | '&', '&' => some .both
  | '-', '-' => some .without
  | '~', '~' => some .inOne
  | _, _ => none

def beginSet (switches : Switches) (cs : List Char) : Bool × List CharSet × List Char :=
  let (complemented, r) := match switches.skip cs with
    | '^' :: r => (true, switches.skip r)
    | r => (false, r)
  let signs := r.takeWhile (· = '-')
  match signs, r.drop signs.length with
  | [], ']' :: r => (complemented, [switches.ofChar ']'], r)
  | signs, r => (complemented, signs.map switches.ofChar, r)

structure Layered (α : Type) where
  content : α
  depth : Nat

def depthOf (parts : List (Layered α)) : Nat :=
  match parts with
  | [a] => a.depth
  | [] => 0
  | as => as.foldl (fun n a => max n a.depth) 0 + 1

def unite (members : List (Layered CharSet)) : Layered CharSet :=
  ⟨.unionOf (members.map (·.content)), depthOf members⟩

def readSet (switches : Switches) : Nat → (complemented : Bool) →
    (combined : Layered CharSet → Layered CharSet) → (found : List (Layered CharSet)) →
    List Char → Option (Layered CharSet × List Char)
  | 0, _, _, _, _ => none
  | fuel + 1, complemented, combined, found, cs =>
    let go := readSet switches fuel complemented
    match switches.skip cs with
    | [] => none
    | ']' :: r =>
      let s := combined (unite found)
      if !complemented then some (⟨s.content, s.depth + 1⟩, r)
      else if switches.characters then some (⟨.complement s.content, s.depth + 1⟩, r) else none
    | '[' :: r =>
      match readNamed switches ('[' :: r) with
      | some (s, r) => go combined (⟨s, 0⟩ :: found) r
      | none => do
        let (inner, begun, r) := beginSet switches r
        let (s, r) ← readSet switches fuel inner id (begun.map (⟨·, 0⟩)) r
        go combined (s :: found) r
    | a :: r =>
      match r.head?.bind (combine? a) with
      | some f =>
        let left := combined (unite found)
        go (fun right => ⟨f left.content right.content, max left.depth right.depth + 1⟩) []
          (r.drop 1)
      | none => do
        let (s, r) ← readRange switches (a :: r)
        go combined (⟨s, 0⟩ :: found) r

structure Partial where
  branches : List (Layered Expression)
  pieces : List (Layered Expression)
  repeatable : Bool

namespace Partial

def start : Partial := ⟨[], [], false⟩

def push (p : Partial) (a : Layered Expression) : Partial :=
  { p with pieces := a :: p.pieces, repeatable := true }

def pushSwitches (p : Partial) : Partial :=
  { p with pieces := ⟨.empty, 0⟩ :: p.pieces, repeatable := false }

def branch (p : Partial) : Layered Expression :=
  match p.pieces.map (·.content) with
  | [] => ⟨.empty, 0⟩
  | a :: r => ⟨r.foldl (fun b a => .sequence a b) a, depthOf p.pieces⟩

def nextBranch (p : Partial) : Partial := ⟨p.branch :: p.branches, [], false⟩

def whole (p : Partial) : Layered Expression :=
  ⟨p.branches.foldl (fun b a => .either a.content b) p.branch.content,
    depthOf (p.branch :: p.branches)⟩

def repeatLast (p : Partial) (f : Expression → Expression) : Option Partial :=
  match p.pieces with
  | a :: r =>
    if p.repeatable then some { p with pieces := ⟨f a.content, a.depth + 1⟩ :: r } else none
  | [] => none

end Partial

def repetition? (c : Char) : Option (Bool → Expression → Expression) :=
  match c with
  | '*' => some fun greedy a => .optional greedy (.repeated greedy a)
  | '+' => some .repeated
  | '?' => some .optional
  | _ => none

def isNameChar (first : Bool) (c : Char) : Bool :=
  c.isAlpha || c = '_' || (!first && (c.isDigit || c = '.' || c = '[' || c = ']'))

def readName (cs : List Char) : Option (List Char × List Char) :=
  let name := cs.takeWhile (· ≠ '>')
  match name, cs.drop name.length with
  | c :: r, '>' :: rest =>
    if isNameChar true c && r.all (isNameChar false) then some (name, rest) else none
  | _, _ => none

inductive Opening where
  | group (switches : Switches) (name : Option (List Char))
  | switched (switches : Switches)

def readOpening (switches : Switches) (cs : List Char) : Option (Opening × List Char) :=
  match cs with
  | '?' :: 'P' :: '<' :: r => (readName r).map fun (n, r) => (.group switches (some n), r)
  | '?' :: '<' :: r => (readName r).map fun (n, r) => (.group switches (some n), r)
  | '?' :: r =>
    (readSwitches switches true [] r).map fun (s, group, r) =>
      (if group then .group s none else .switched s, r)
  | r => some (.group switches none, r)

def readGroup : Nat → Switches → (names : List (List Char)) → Partial → List Char →
    Option (Layered Expression × List (List Char) × List Char)
  | 0, _, _, _, _ => none
  | fuel + 1, switches, names, p, cs =>
    let piece (a : Expression) (r : List Char) := readGroup fuel switches names (p.push ⟨a, 0⟩) r
    match switches.skip cs with
    | [] => some (p.whole, names, [])
    | ')' :: r => some (p.whole, names, ')' :: r)
    | '|' :: r => readGroup fuel switches names p.nextBranch r
    | '(' :: r => do
      match ← readOpening switches r with
      | (.switched s, r) => readGroup fuel s names p.pushSwitches r
      | (.group s name, r) =>
        if name.any names.contains then none
        else
          let (a, names, r) ← readGroup fuel s (name.toList ++ names) .start r
          match r with
          | ')' :: r => readGroup fuel switches names (p.push ⟨a.content, a.depth + 1⟩) r
          | _ => none
    | '[' :: r => do
      let (complemented, begun, r) := beginSet switches r
      let (s, r) ← readSet switches (r.length + 1) complemented id (begun.map (⟨·, 0⟩)) r
      readGroup fuel switches names (p.push ⟨.one s.content, s.depth⟩) r
    | '.' :: r =>
      if switches.characters then piece (.one (.complement (.single '\n'))) r else none
    | '^' :: r => piece .start r
    | '$' :: r => piece .finish r
    | '\x7b' :: _ => none
    | '\\' :: r => do
      match ← readEscape switches r with
      | (.char c, r) => piece (.one (switches.ofChar c)) r
      | (.set s complemented, r) => piece (.one (← switches.setOf? s complemented)) r
      | (.start, r) => piece .start r
      | (.finish, r) => piece .finish r
      | (.edge e, r) => piece (.edge e) r
    | c :: r =>
      match repetition? c with
      | some f => do
        let (greedy, r) := match r with
          | '?' :: r => (false, r)
          | r => (true, r)
        readGroup fuel switches names (← p.repeatLast (f (greedy != switches.exchanged))) r
      | none => piece (.one (switches.ofChar c)) r

def depthLimit : Nat := 250

def read? (cs : List Char) : Option Expression :=
  match readGroup (cs.length + 1) .standard [] .start cs with
  | some (a, _, []) => if a.depth ≤ depthLimit then some a.content else none
  | _ => none

end TreePipeline.Text.Expression
