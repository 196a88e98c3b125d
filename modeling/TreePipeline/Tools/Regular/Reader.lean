import TreePipeline.Shell.Pattern
import TreePipeline.Tools.Regular

/-!
How regular expressions are spelled. In the basic spelling brackets, counts and alternatives are
marked by a backslash, in the extended one they are not; tools differ in what they make of an
operator that has nothing to stand for.
-/

namespace TreePipeline.Tools

open Shell

namespace Regular

structure Spelling where
  bare : Bool
  onceRepeated : Bool := false
  needsOperand : Bool := false
  loneCloser : Bool := false
  looseCounts : Bool := false
  orderedRanges : Bool := true
  byLine : Bool := false
  classNeedsBrackets : Bool := true
  moreLetters : Bool := false
  bareRepeats : Bool := false

namespace Spelling

def basic : Spelling := { bare := false }

def extended : Spelling := { bare := true, loneCloser := true, looseCounts := true }

def lettered : Spelling := { extended with moreLetters := true }

def editing (bare byLine : Bool) : Spelling :=
  { bare := bare, onceRepeated := !bare, needsOperand := bare, byLine := byLine }

def finding : Spelling := { bare := false, bareRepeats := true }

def calculating : Spelling :=
  { bare := false, onceRepeated := true, orderedRanges := false, classNeedsBrackets := false }

end Spelling

inductive Fault where
  | invalid
  | badCollation
  | badClass
  | trailingBackslash
  | badReference
  | openBracket
  | openGroup
  | openCount
  | badCount
  | badRange
  | noOperand
  | tooBig
  | lonelyCloser
  | bareClass
  deriving DecidableEq

def Fault.message : Fault → String
  | invalid => "Invalid regular expression"
  | badCollation => "Invalid collation character"
  | badClass => "Invalid character class name"
  | trailingBackslash => "Trailing backslash"
  | badReference => "Invalid back reference"
  | openBracket => "Unmatched [, [^, [:, [., or [="
  | openGroup => "Unmatched ( or \\("
  | openCount => "Unmatched \\\x7b"
  | badCount => "Invalid content of \\\x7b\\\x7d"
  | badRange => "Invalid range end"
  | noOperand => "Invalid preceding regular expression"
  | tooBig => "Regular expression too big"
  | lonelyCloser => "Unmatched ) or \\)"
  | bareClass => "character class syntax is [[:space:]], not [:space:]"

inductive Token where
  | plain (c : Char)
  | any
  | symbols (s : Symbols)
  | bracket
  | opening
  | closing
  | bar
  | star
  | plus
  | perhaps
  | count
  | countEnd
  | back (n : Nat)
  | spot (s : Spot)
  | backslash
  | finish
  deriving DecidableEq

def blankRanges : List (Char × Char) := [(' ', ' '), ('\t', '\r')]

def wordRanges : List (Char × Char) := [('0', '9'), ('A', 'Z'), ('a', 'z'), ('_', '_')]

def escaped (sp : Spelling) (c : Char) : Token :=
  let marked (t : Token) : Token := if sp.bare then .plain c else t
  let repeats (t : Token) : Token := if sp.bare ∨ sp.bareRepeats then .plain c else t
  match c with
  | '|' => marked .bar
  | '(' => marked .opening
  | ')' => marked .closing
  | '\x7b' => repeats .count
  | '\x7d' => repeats .countEnd
  | '+' => repeats .plus
  | '?' => repeats .perhaps
  | '<' => .spot .wordStart
  | '>' => .spot .wordEnd
  | 'b' => .spot .wordEdge
  | 'B' => .spot .noWordEdge
  | '\x60' => .spot .textStart
  | '\'' => .spot .textEnd
  | 'w' => .symbols ⟨false, wordRanges⟩
  | 'W' => .symbols ⟨true, wordRanges⟩
  | 's' => .symbols ⟨false, blankRanges⟩
  | 'S' => .symbols ⟨true, blankRanges⟩
  | c =>
    if '1' ≤ c ∧ c ≤ '9' then .back (c.toNat - 48)
    else if sp.moreLetters then
      match c with
      | 'd' => .symbols ⟨false, [('0', '9')]⟩
      | 'D' => .symbols ⟨true, [('0', '9')]⟩
      | 't' => .plain '\t'
      | 'n' => .plain '\n'
      | 'r' => .plain '\r'
      | 'A' => .spot .textStart
      | 'z' => .spot .textEnd
      | 'Z' => .spot .textEnd
      | c => .plain c
    else .plain c

def nextPlain (sp : Spelling) (cs : Chars) : Token × Chars :=
  let unmarked (c : Char) (t : Token) : Token := if sp.bare then t else .plain c
  let repeats (c : Char) (t : Token) : Token := if sp.bare ∨ sp.bareRepeats then t else .plain c
  match cs with
  | [] => (.finish, [])
  | ['\\'] => (.backslash, [])
  | '\\' :: c :: r => (escaped sp c, r)
  | '|' :: r => (unmarked '|' .bar, r)
  | '*' :: r => (.star, r)
  | '+' :: r => (repeats '+' .plus, r)
  | '?' :: r => (repeats '?' .perhaps, r)
  | '\x7b' :: r => (unmarked '\x7b' .count, r)
  | '\x7d' :: r => (unmarked '\x7d' .countEnd, r)
  | '(' :: r => (unmarked '(' .opening, r)
  | ')' :: r => (unmarked ')' .closing, r)
  | '[' :: r => (.bracket, r)
  | '.' :: r => (.any, r)
  | c :: r => (.plain c, r)

def next (sp : Spelling) (anchor : Bool) (cs : Chars) : Token × Chars :=
  match cs with
  | '^' :: r =>
    (if anchor || sp.bare then .spot (if sp.byLine then .lineStart else .textStart) else .plain '^', r)
  | '$' :: r =>
    let ends := match (nextPlain sp r).1 with
      | .finish => true
      | .bar => true
      | .closing => true
      | _ => sp.bare
    (if ends then .spot (if sp.byLine then .lineEnd else .textEnd) else .plain '$', r)
  | cs => nextPlain sp cs

structure Cursor where
  token : Token
  rest : Chars
  groups : Nat
  closed : List Nat
  warnings : List String

def Cursor.step (sp : Spelling) (anchor : Bool) (k : Cursor) : Cursor :=
  let (t, r) := next sp anchor k.rest
  { k with token := t, rest := r }

inductive Element where
  | one (c : Char)
  | many (ranges : List (Char × Char))

def classRanges? (name : String) : Option (List (Char × Char)) :=
  match Pattern.classRanges name with
  | [] => none
  | rs => some rs

def named (mark : Char) : Chars → Except Fault (Chars × Chars)
  | [] => .error .openBracket
  | c :: r =>
    if c = mark ∧ r.head? = some ']' then .ok ([], r.drop 1)
    else (named mark r).map fun (n, r) => (c :: n, r)

def element (cs : Chars) : Except Fault (Element × Chars) :=
  match cs with
  | [] => .error .openBracket
  | '[' :: ':' :: r => do
    let (name, r) ← named ':' r
    match classRanges? (String.ofList name) with
    | some rs => return (.many rs, r)
    | none => throw .badClass
  | '[' :: '.' :: r => single '.' r
  | '[' :: '=' :: r => single '=' r
  | c :: r => .ok (.one c, r)
where
  single (mark : Char) (r : Chars) : Except Fault (Element × Chars) := do
    let (name, r) ← named mark r
    match name with
    | [c] => return (.one c, r)
    | _ => throw .badCollation

def elements (ordered : Bool) : Nat → (first : Bool) → Chars → List (Char × Char) →
    Except Fault (List (Char × Char) × Chars)
  | 0, _, _, _ => .error .openBracket
  | fuel + 1, first, cs, acc =>
    match first, cs with
    | false, ']' :: r => .ok (acc.reverse, r)
    | _, cs => do
      let (e, r) ← element cs
      match r with
      | '-' :: ']' :: _ => elements ordered fuel false r (add e acc)
      | ['-'] => throw .openBracket
      | '-' :: r' => do
        let (f, r') ← element r'
        match e, f with
        | .one a, .one b =>
          if b < a then
            if ordered then throw .badRange else elements ordered fuel false r' acc
          else elements ordered fuel false r' ((a, b) :: acc)
        | _, _ => throw .badRange
      | r => elements ordered fuel false r (add e acc)
where
  add (e : Element) (acc : List (Char × Char)) : List (Char × Char) :=
    match e with
    | .one c => (c, c) :: acc
    | .many rs => rs ++ acc

def looksLikeClass (cs : Chars) : Bool :=
  let body := cs.takeWhile (· ≠ ']')
  match body with
  | ':' :: r => r.contains ':' && r.any (· ≠ ':') && !r.contains '[' && !r.contains '-'
  | _ => false

def bracketed (sp : Spelling) (cs : Chars) : Except Fault (Symbols × Chars) := do
  let (negated, body) := match cs with
    | '^' :: r => (true, r)
    | r => (false, r)
  if body.isEmpty then throw .invalid
  let (rs, r) ← elements sp.orderedRanges (body.length + 1) true body []
  if sp.classNeedsBrackets && looksLikeClass body then throw .bareClass
  return (⟨negated, if negated && sp.byLine then ('\n', '\n') :: rs else rs⟩, r)

def maxCount : Nat := 32767

inductive CountReading where
  | good (least : Nat) (most : Option Nat) (rest : Chars)
  | cutShort
  | bad

def readCount (bare : Bool) (cs : Chars) : CountReading :=
  let closeBrace? (r : Chars) : Option Chars :=
    match bare, r with
    | true, '\x7d' :: r => some r
    | false, '\\' :: '\x7d' :: r => some r
    | _, _ => none
  let number (ds : Chars) : Nat := ds.foldl (fun n d => min (maxCount + 1) (10 * n + (d.toNat - 48))) 0
  let ds := cs.takeWhile Char.isDigit
  let r := cs.drop ds.length
  match closeBrace? r, r with
  | some r', _ => if ds.isEmpty then .bad else .good (number ds) (some (number ds)) r'
  | none, ',' :: r =>
    let es := r.takeWhile Char.isDigit
    let r := r.drop es.length
    match closeBrace? r with
    | some r' => .good (number ds) (if es.isEmpty then none else some (number es)) r'
    | none => if hasEnd closeBrace? r then .bad else .cutShort
  | none, r => if hasEnd closeBrace? r then .bad else .cutShort
where
  hasEnd (closeBrace? : Chars → Option Chars) : Chars → Bool
    | [] => false
    | c :: r => (closeBrace? (c :: r)).isSome || hasEnd closeBrace? r

mutual

def branches (sp : Spelling) : Nat → (nest : Bool) → Cursor → Except Fault (Regular × Cursor)
  | 0, _, k => .ok (.empty, k)
  | fuel + 1, nest, k => do
    let (a, k) ← branch sp fuel nest k
    if k.token = .bar then
      let k := k.step sp true
      let (b, k) ← branches sp fuel nest k
      return (.either a b, k)
    else return (a, k)

def branch (sp : Spelling) : Nat → (nest : Bool) → Cursor → Except Fault (Regular × Cursor)
  | 0, _, k => .ok (.empty, k)
  | fuel + 1, nest, k =>
    if k.token = .bar ∨ k.token = .finish ∨ (nest ∧ k.token = .closing) then .ok (.empty, k)
    else do
      let (a, k) ← piece sp fuel nest k
      let (b, k) ← branch sp fuel nest k
      return (if b = .empty then a else .sequence a b, k)

def piece (sp : Spelling) : Nat → (nest : Bool) → Cursor → Except Fault (Regular × Cursor)
  | 0, _, k => .ok (.empty, k)
  | fuel + 1, nest, k =>
    let go (a : Regular) (k : Cursor) : Except Fault (Regular × Cursor) :=
      repetitions sp fuel a (k.step sp false)
    let operator (c : Char) (text : Option String) : Except Fault (Regular × Cursor) :=
      if sp.needsOperand then .error .noOperand
      else if sp.bare then
        let k := (k.step sp false)
        let warnings := text.toList.map fun t => t ++ " at start of expression"
        let k := { k with warnings := k.warnings ++ warnings }
        if k.token = .bar ∨ k.token = .finish ∨ k.token = .closing then .ok (.empty, k)
        else piece sp fuel nest k
      else go (.literal c) k
    match k.token with
    | .plain c => go (.literal c) k
    | .any => go (.one (if sp.byLine then ⟨true, [('\n', '\n')]⟩ else .all)) k
    | .symbols s => go (.one s) k
    | .bracket => do
      let (s, r) ← bracketed sp k.rest
      go (.one s) { k with rest := r }
    | .opening => do
      let n := k.groups + 1
      let k := { k with groups := n }.step sp true
      let (a, k) ← if k.token = .closing then pure (.empty, k) else branches sp fuel true k
      if k.token ≠ .closing then throw .openGroup
      go (.group n a) { k with closed := n :: k.closed }
    | .back n => if k.closed.contains n then go (.back n) k else .error .badReference
    | .star => operator '*' (some "*")
    | .plus => operator '+' (some "+")
    | .perhaps => operator '?' (some "?")
    | .count =>
      if sp.onceRepeated then .error .noOperand
      else if sp.bare then
        match readCount true k.rest with
        | .good .. => operator '\x7b' (some "\x7b...\x7d")
        | _ => operator '\x7b' none
      else go (.literal '\x7b') k
    | .closing => if sp.loneCloser then go (.literal ')') k else .error .lonelyCloser
    | .countEnd => go (.literal '\x7d') k
    | .spot s => .ok (.spot s, k.step sp false)
    | .backslash => .error .trailingBackslash
    | .bar => .ok (.empty, k)
    | .finish => .ok (.empty, k)

def repetitions (sp : Spelling) : Nat → Regular → Cursor → Except Fault (Regular × Cursor)
  | 0, a, k => .ok (a, k)
  | fuel + 1, a, k =>
    let go (a : Regular) (k : Cursor) : Except Fault (Regular × Cursor) :=
      if sp.onceRepeated && (k.token = .star || k.token = .count) then .error .noOperand
      else repetitions sp fuel a k
    match k.token with
    | .star => go (.star a) (k.step sp false)
    | .plus => go (.repeated a 1 none) (k.step sp false)
    | .perhaps => go (.repeated a 0 (some 1)) (k.step sp false)
    | .count =>
      match readCount sp.bare k.rest with
      | .good least most r =>
        if (most.map fun m => decide (m < least)).getD false then .error .badCount
        else if maxCount < most.getD least then .error .tooBig
        else go (.repeated a least most) ({ k with rest := r }.step sp false)
      | .cutShort => if sp.looseCounts then literal_ fuel a k else .error .openCount
      | .bad => if sp.looseCounts then literal_ fuel a k else .error .badCount
    | _ => .ok (a, k)
where
  literal_ (fuel : Nat) (a : Regular) (k : Cursor) : Except Fault (Regular × Cursor) := do
    let (b, k) ← repetitions sp fuel (.literal '\x7b') (k.step sp false)
    return (.sequence a b, k)

end

structure Reading where
  expression : Regular
  groups : Nat
  warnings : List String

def read (sp : Spelling) (cs : Chars) : Except Fault Reading := do
  let k : Cursor := ⟨.finish, cs, 0, [], []⟩
  let (a, k) ← branches sp (4 * cs.length + 8) false (k.step sp true)
  return ⟨a, k.groups, k.warnings⟩

end Regular

def Matcher.read (sp : Regular.Spelling) (fold : Bool) (cs : Chars) : Except Regular.Fault Matcher := do
  let e ← Regular.read sp cs
  return Matcher.ofRegular fold e.groups e.expression

end TreePipeline.Tools
