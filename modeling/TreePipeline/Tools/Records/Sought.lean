import TreePipeline.Shell.Pattern
import TreePipeline.Tools.Records.Token
import TreePipeline.Tools.Regular

/-!
How scripts spell what they look for. All operators stand without a backslash, which takes away the
meaning of a sign, also in brackets, and makes letters stand for characters that cannot be typed. There
are no counts, and no references back.
-/

namespace TreePipeline.Tools.Records

open Shell

inductive SoughtFault where
  | noOperand
  | openGroup
  | badClass
  | repeatedStart
  deriving DecidableEq

def SoughtFault.message : SoughtFault → String
  | noOperand => "missing operand"
  | openGroup => "missing ')'"
  | badClass => "bad class -- [], [^] or ["
  | repeatedStart => "syntax error ^* or ^+"

def SoughtFault.complaint (f : SoughtFault) (source : Chars) : Chars :=
  "regular expression compile failed (".toList ++ f.message.toList ++ ")\n".toList ++ source

namespace Sought

def escapedChar (cs : Chars) : Char × Chars :=
  match readEscape cs with
  | ([c], r) => (c, r)
  | (_, r) =>
    match cs with
    | c :: r => (c, r)
    | [] => ('\\', r)

def bracketChar (cs : Chars) : Option (Char × Chars) :=
  match cs with
  | [] => none
  | '\\' :: r => some (escapedChar r)
  | c :: r => some (c, r)

def ranges : Nat → (first : Bool) → Chars → List (Char × Char) →
    Except SoughtFault (List (Char × Char) × Chars)
  | 0, _, _, _ => .error .badClass
  | fuel + 1, first, cs, acc =>
    match first, cs with
    | false, ']' :: r => .ok (acc, r)
    | _, '[' :: ':' :: r =>
      let name := r.takeWhile (· ≠ ':')
      match r.drop name.length with
      | ':' :: ']' :: r' =>
        match Pattern.classRanges (String.ofList name) with
        | [] => .error .badClass
        | rs => ranges fuel false r' (rs ++ acc)
      | _ => ranges fuel false (':' :: r) (('[', '[') :: acc)
    | _, cs =>
      match bracketChar cs with
      | none => .error .badClass
      | some (a, '-' :: r) =>
        match r with
        | ']' :: _ => ranges fuel false ('-' :: r) ((a, a) :: acc)
        | r =>
          match bracketChar r with
          | none => .error .badClass
          | some (b, r) =>
            if b < a then ranges fuel false r ((a, a) :: ('-', '-') :: (b, b) :: acc)
            else ranges fuel false r ((a, b) :: acc)
      | some (a, r) => ranges fuel false r ((a, a) :: acc)

def brackets (cs : Chars) : Except SoughtFault (Symbols × Chars) := do
  let (negated, body) := match cs with
    | '^' :: r => (true, r)
    | r => (false, r)
  let (rs, r) ← ranges (body.length + 1) true body []
  return (⟨negated, rs⟩, r)

def repetitions : Chars → Regular → Regular × Chars
  | '*' :: r, a => repetitions r (.star a)
  | '+' :: r, a => repetitions r (.repeated a 1 none)
  | '?' :: r, a => repetitions r (.repeated a 0 (some 1))
  | cs, a => (a, cs)

mutual

def alternatives : Nat → (nested : Bool) → Chars → Except SoughtFault (Regular × Chars)
  | 0, _, cs => .ok (.empty, cs)
  | fuel + 1, nested, cs => do
    let (a, r) ← sequence fuel nested cs
    match r with
    | '|' :: r =>
      if r.isEmpty then throw .noOperand
      else if nested ∧ r.head? = some ')' then return (.either a .empty, r)
      else
        let (b, r) ← alternatives fuel nested r
        return (.either a b, r)
    | r => return (a, r)

def sequence : Nat → (nested : Bool) → Chars → Except SoughtFault (Regular × Chars)
  | 0, _, cs => .ok (.empty, cs)
  | fuel + 1, nested, cs => do
    let (a, r) ← piece fuel nested cs
    match r with
    | [] => return (a, [])
    | '|' :: _ => return (a, r)
    | c :: _ =>
      if nested ∧ c = ')' then return (a, r)
      else
        let (b, r) ← sequence fuel nested r
        return (.sequence a b, r)

def piece : Nat → (nested : Bool) → Chars → Except SoughtFault (Regular × Chars)
  | 0, _, cs => .ok (.empty, cs)
  | fuel + 1, nested, cs =>
    match cs with
    | [] => .error .noOperand
    | ['('] => .error .openGroup
    | '(' :: r => do
      let (a, r) ← alternatives fuel true r
      match r with
      | ')' :: r => return repetitions r a
      | _ => throw .openGroup
    | '[' :: r => do
      let (s, r) ← brackets r
      return repetitions r (.one s)
    | '.' :: r => .ok (repetitions r (.one .all))
    | '$' :: r => .ok (repetitions r (.spot .textEnd))
    | '^' :: r =>
      if r.head? = some '*' ∨ r.head? = some '+' then .error .repeatedStart
      else .ok (repetitions r (.spot .textStart))
    | '\\' :: r =>
      let (c, r) := escapedChar r
      .ok (repetitions r (.literal c))
    | c :: r =>
      if ['*', '+', '?', '|'].contains c ∨ (nested ∧ c = ')') then .error .noOperand
      else .ok (repetitions r (.literal c))

end

def expression (cs : Chars) : Except SoughtFault Regular :=
  if cs.isEmpty then .ok .empty
  else do
    let (a, _) ← alternatives (3 * cs.length + 3) false cs
    return a

def read (cs : Chars) : Except SoughtFault Matcher := (expression cs).map (Matcher.ofRegular false 0)

end Sought

end TreePipeline.Tools.Records
