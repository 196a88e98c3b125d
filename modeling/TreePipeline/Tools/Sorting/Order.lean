import TreePipeline.Number.Amount
import TreePipeline.Tools.Basic

/-!
Orders in which lines may be put: as texts, as numbers, as amounts with a unit, as months or as
versions. Each takes two texts and tells how the first stands to the second.
-/

namespace TreePipeline.Tools.Sorting

open Shell

def compareText : Chars → Chars → Ordering
  | [], [] => .eq
  | [], _ => .lt
  | _, [] => .gt
  | a :: r, b :: s => if a < b then .lt else if b < a then .gt else compareText r s

def compareInt (a b : Int) : Ordering := if a < b then .lt else if b < a then .gt else .eq

def isBlank (c : Char) : Bool := c = ' ' || c = '\t' || c = '\n'

structure Decimal where
  negative : Bool
  digits : Chars
  places : Nat

namespace Decimal

def read (cs : Chars) : Decimal × Chars :=
  let cs := cs.dropWhile isBlank
  let negative := cs.head? = some '-'
  let cs := if negative then cs.drop 1 else cs
  let whole := cs.takeWhile Char.isDigit
  match cs.drop whole.length with
  | '.' :: r =>
    let part := r.takeWhile Char.isDigit
    (⟨negative, whole ++ part, part.length⟩, r.drop part.length)
  | r => (⟨negative, whole, 0⟩, r)

def magnitude (d : Decimal) : Nat := d.digits.foldl (fun n c => 10 * n + (c.toNat - 48)) 0

def value (d : Decimal) : Int := if d.negative then -(d.magnitude : Int) else d.magnitude

def compare (a b : Decimal) : Ordering :=
  compareInt (a.value * Int.pow 10 b.places) (b.value * Int.pow 10 a.places)

end Decimal

def compareNumbers (a b : Chars) : Ordering := (Decimal.read a).1.compare (Decimal.read b).1

def unitRank (cs : Chars) : Int :=
  let (d, r) := Decimal.read cs
  if d.magnitude = 0 then 0
  else
    let rank : Int := match r.head? with
      | some 'k' => 1
      | some c => (("KMGTPEZYRQ".toList.findIdx? (· = c)).map fun n => (n : Int) + 1).getD 0
      | none => 0
    if d.negative then -rank else rank

def compareUnits (a b : Chars) : Ordering :=
  (compareInt (unitRank a) (unitRank b)).then (compareNumbers a b)

def compareAmounts (a b : Chars) : Ordering :=
  match Amount.read a, Amount.read b with
  | none, none => .eq
  | none, _ => .lt
  | _, none => .gt
  | some (x, _), some (y, _) =>
    let rank : Amount → Int
      | .undefined _ => 0
      | .infinite negative => if negative then 1 else 3
      | .finite .. => 2
    match x, y with
    | .finite m n d, .finite k p q =>
      let signed (negative : Bool) (n : Nat) : Int := if negative then -(n : Int) else n
      compareInt (signed m n * q) (signed k p * d)
    | x, y => compareInt (rank x) (rank y)

def monthNumber (cs : Chars) : Nat :=
  let name := String.ofList ((cs.dropWhile isBlank).take 3 |>.map Char.toUpper)
  ((["JAN", "FEB", "MAR", "APR", "MAY", "JUN", "JUL", "AUG", "SEP", "OCT", "NOV", "DEC"].findIdx?
    (· = name)).map (· + 1)).getD 0

def versionRank (cs : Chars) : Int :=
  match cs with
  | [] => -1
  | c :: _ =>
    if c.isDigit then 0 else if c.isAlpha then c.toNat else if c = '~' then -2 else c.toNat + 256

def startsPlain (cs : Chars) : Bool := (cs.head?.map fun c => !c.isDigit).getD false

def comparePlain : Nat → Chars → Chars → Ordering × Chars × Chars
  | 0, a, b => (.eq, a, b)
  | fuel + 1, a, b =>
    if startsPlain a || startsPlain b then
      match compareInt (versionRank a) (versionRank b) with
      | .eq => comparePlain fuel (a.drop 1) (b.drop 1)
      | o => (o, a, b)
    else (.eq, a, b)

def compareVersionParts : Nat → Chars → Chars → Ordering
  | 0, _, _ => .eq
  | fuel + 1, a, b =>
    if a.isEmpty && b.isEmpty then .eq
    else
      match comparePlain (a.length + b.length + 1) a b with
      | (.eq, a, b) =>
        let m := (a.takeWhile Char.isDigit).dropWhile (· = '0')
        let n := (b.takeWhile Char.isDigit).dropWhile (· = '0')
        match (compareInt m.length n.length).then (compareText m n) with
        | .eq => compareVersionParts fuel (a.dropWhile Char.isDigit) (b.dropWhile Char.isDigit)
        | o => o
      | (o, _, _) => o

def versionEnding : Nat → Chars → Chars
  | 0, _ => []
  | fuel + 1, cs =>
    let last := (cs.reverse.takeWhile (· ≠ '.')).reverse
    let front := cs.take (cs.length - last.length)
    let isLetter (c : Char) : Bool := c.isAlpha || c = '~'
    if front.getLast? = some '.' ∧ (last.head?.map isLetter).getD false ∧
        last.all (fun c => isLetter c || c.isDigit) then
      versionEnding fuel front.dropLast ++ '.' :: last
    else []

def compareVersions (a b : Chars) : Ordering :=
  let rank (cs : Chars) : Int :=
    match cs with
    | [] => 0
    | ['.'] => 1
    | ['.', '.'] => 2
    | '.' :: _ => 3
    | _ => 4
  let body (cs : Chars) : Chars := cs.take (cs.length - (versionEnding cs.length cs).length)
  match compareInt (rank a) (rank b) with
  | .eq =>
    match compareVersionParts (a.length + b.length + 1) (body a) (body b) with
    | .eq => compareVersionParts (a.length + b.length + 1) a b
    | o => o
  | o => o

end TreePipeline.Tools.Sorting
