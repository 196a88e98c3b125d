import TreePipeline.Number.Binary64

/-!
The shortest decimal text of a floating point number. Of the decimals that read back as the number
the fewest digits win, then the nearest.
-/

namespace TreePipeline.Binary64

def lowerEnd (x : Binary64) : Nat :=
  if x.significand = 0x10000000000000 ∧ 1 < x.biasedExponent then
    (4 * x.significand - 1) * Nat.pow 2 (x.unitExponent - 1074)
  else (4 * x.significand - 2) * Nat.pow 2 (x.unitExponent - 1074)

def upperEnd (x : Binary64) : Nat := (4 * x.significand + 2) * Nat.pow 2 (x.unitExponent - 1074)

def decimalQuotient (c : Nat) (p : Int) : Nat × Nat :=
  if 0 ≤ p then (c * Nat.pow 10 p.toNat, 1) else (c, Nat.pow 10 (-p).toNat)

def readsBack (x : Binary64) (c : Nat) (p : Int) : Bool :=
  let (n, d) := decimalQuotient c p
  let v := n * (4 * x.denominator)
  let low := x.lowerEnd * d
  let high := x.upperEnd * d
  if x.significand % 2 = 0 then low ≤ v && v ≤ high else low < v && v < high

def nearerToLower (x : Binary64) (c : Nat) (p : Int) : Bool :=
  let (n, d) := decimalQuotient (2 * c + 1) p
  let value := 2 * x.numerator * d
  let middle := n * x.denominator
  value < middle || (value = middle && c % 2 = 0)

def gridFloor (x : Binary64) (p : Int) : Nat :=
  if 0 ≤ p then x.numerator / (x.denominator * Nat.pow 10 p.toNat)
  else x.numerator * Nat.pow 10 (-p).toNat / x.denominator

def onGrid (x : Binary64) (p : Int) : Option Nat :=
  let c := x.gridFloor p
  match x.readsBack c p, x.readsBack (c + 1) p with
  | true, true => some (if x.nearerToLower c p then c else c + 1)
  | true, false => some c
  | false, true => some (c + 1)
  | false, false => none

def decimalExponent (x : Binary64) : Int :=
  if x.denominator ≤ x.numerator then ((Nat.toDigits 10 (x.numerator / x.denominator)).length : Int) - 1
  else
    let k := (Nat.toDigits 10 (x.denominator / x.numerator)).length
    if x.denominator ≤ x.numerator * Nat.pow 10 (k - 1) then 1 - (k : Int) else -(k : Int)

def searchGrids (x : Binary64) (p : Int) : Nat → Nat × Int
  | 0 => (x.gridFloor p, p)
  | n + 1 =>
    match x.onGrid p with
    | some c => (c, p)
    | none => searchGrids x (p - 1) n

def shortestDigits (x : Binary64) : List Char × Int :=
  let (c, p) := x.searchGrids x.decimalExponent 17
  let ds := Nat.toDigits 10 c
  (((ds.reverse.dropWhile (· = '0')).reverse), p + ds.length - 1)

def layout (ds : List Char) (e : Int) : List Char :=
  if 0 ≤ e ∧ e ≤ 15 then
    let whole := ds.take (e.toNat + 1)
    let rest := ds.drop (e.toNat + 1)
    whole ++ List.replicate (e.toNat + 1 - whole.length) '0' ++ ['.'] ++
      (if rest.isEmpty then ['0'] else rest)
  else if -5 ≤ e ∧ e < 0 then
    ['0', '.'] ++ List.replicate ((-e).toNat - 1) '0' ++ ds
  else
    ds.take 1 ++ (if ds.length ≤ 1 then [] else '.' :: ds.drop 1) ++
      ['e', if e < 0 then '-' else '+'] ++ Nat.toDigits 10 e.natAbs

def toText (x : Binary64) : String :=
  let body := if x.isZero then ['0', '.', '0'] else layout x.shortestDigits.1 x.shortestDigits.2
  String.ofList (if x.isNegative then '-' :: body else body)

end TreePipeline.Binary64
