import TreePipeline.Number.Binary64

/-!
Amounts as they are written: read from decimal and hexadecimal numerals as exact quotients, rounded
to some number of binary digits, and written with fixed places, with an exponent, or in whichever of
the two ways suits their size.
-/

namespace TreePipeline

inductive Amount where
  | finite (negative : Bool) (n d : Nat)
  | infinite (negative : Bool)
  | undefined (negative : Bool)
  deriving DecidableEq

namespace Amount

def ofInt (n : Int) : Amount := .finite (n < 0) n.natAbs 1

def isNegative : Amount → Bool
  | finite negative _ _ => negative
  | infinite negative => negative
  | undefined negative => negative

def isZero : Amount → Bool
  | finite _ n _ => n = 0
  | _ => false

def truncated : Amount → Int
  | finite negative n d => if negative then -((n / d : Nat) : Int) else ((n / d : Nat) : Int)
  | _ => 0

def neg : Amount → Amount
  | finite negative n d => .finite (!negative) n d
  | infinite negative => .infinite (!negative)
  | undefined negative => .undefined (!negative)

def rounded (bits : Nat) : Amount → Amount
  | finite negative n d =>
    if n = 0 ∨ d = 0 then .finite negative n d
    else
      let e := Binary64.floorLog2 n d - (bits - 1 : Nat)
      if 0 ≤ e then .finite negative (Binary64.roundQuotient n (d * Nat.pow 2 e.toNat) * Nat.pow 2 e.toNat) 1
      else .finite negative (Binary64.roundQuotient (n * Nat.pow 2 (-e).toNat) d) (Nat.pow 2 (-e).toNat)
  | a => a

def toBinary64 : Amount → Binary64
  | finite negative n d => .ofQuotient negative n d
  | infinite negative => ⟨if negative then 0xfff0000000000000 else 0x7ff0000000000000⟩
  | undefined negative => ⟨if negative then 0xfff8000000000000 else 0x7ff8000000000000⟩

def ofBinary64 (x : Binary64) : Amount :=
  if x.isFinite then .finite x.isNegative x.numerator x.denominator
  else if x.fraction = 0 then .infinite x.isNegative
  else .undefined x.isNegative

/-! Reading. -/

def digitValue (c : Char) : Nat :=
  if c.isDigit then c.toNat - 48
  else if 'a' ≤ c ∧ c ≤ 'f' then c.toNat - 87
  else if 'A' ≤ c ∧ c ≤ 'F' then c.toNat - 55
  else 99

def readDigits (base : Nat) (cs : List Char) : Nat × Nat × Nat × List Char :=
  let isOne (c : Char) : Bool := digitValue c < base
  let value (ds : List Char) : Nat := ds.foldl (fun v c => base * v + digitValue c) 0
  let whole := cs.takeWhile isOne
  match cs.drop whole.length with
  | '.' :: r =>
    let part := r.takeWhile isOne
    if whole.isEmpty && part.isEmpty then (0, 0, 0, cs)
    else (value (whole ++ part), part.length, whole.length + part.length, r.drop part.length)
  | r => (value whole, 0, whole.length, r)

def readExponent (a b : Char) (cs : List Char) : Int × List Char :=
  match cs with
  | c :: r =>
    if c = a ∨ c = b then
      let (negative, r') := match r with
        | '-' :: r => (true, r)
        | '+' :: r => (false, r)
        | r => (false, r)
      let ds := r'.takeWhile Char.isDigit
      if ds.isEmpty then (0, cs)
      else
        let n : Nat := min (ds.foldl (fun v c => 10 * v + (c.toNat - 48)) 0) 100000
        (if negative then -(n : Int) else n, r'.drop ds.length)
    else (0, cs)
  | [] => (0, [])

def scaled (base : Nat) (n : Nat) (e : Int) : Nat × Nat :=
  if 0 ≤ e then (n * Nat.pow base e.toNat, 1) else (n, Nat.pow base (-e).toNat)

def beginsWith (word : String) (cs : List Char) : Bool :=
  (cs.take word.length).map Char.toLower = word.toList

def readMagnitude (cs : List Char) : Option (Amount × List Char) :=
  if beginsWith "infinity" cs then some (.infinite false, cs.drop 8)
  else if beginsWith "inf" cs then some (.infinite false, cs.drop 3)
  else if beginsWith "nan" cs then some (.undefined false, cs.drop 3)
  else
    let decimal : Option (Amount × List Char) :=
      match readDigits 10 cs with
      | (_, _, 0, _) => none
      | (v, places, _, r) =>
        let (e, r) := readExponent 'e' 'E' r
        let (n, d) := scaled 10 v (e - places)
        some (.finite false n d, r)
    match cs with
    | '0' :: x :: r =>
      if x = 'x' ∨ x = 'X' then
        match readDigits 16 r with
        | (_, _, 0, _) => decimal
        | (v, places, _, r) =>
          let (e, r) := readExponent 'p' 'P' r
          let (n, d) := scaled 2 v (e - 4 * places)
          some (.finite false n d, r)
      else decimal
    | _ => decimal

def isBlank (c : Char) : Bool := c = ' ' || ('\t' ≤ c && c ≤ '\r')

def read (cs : List Char) : Option (Amount × List Char) :=
  match cs.dropWhile isBlank with
  | '-' :: r => (readMagnitude r).map fun (a, r) => (a.neg, r)
  | '+' :: r => readMagnitude r
  | r => readMagnitude r

/-! Writing. -/

def floorLog10 (n d : Nat) : Int :=
  if d ≤ n then ((Nat.toDigits 10 (n / d)).length : Int) - 1
  else
    let k := (Nat.toDigits 10 (d / n)).length
    if d ≤ n * Nat.pow 10 (k - 1) then -((k - 1 : Nat) : Int) else -(k : Int)

def withPoint (ds : List Char) (places : Nat) (point : Bool) : List Char :=
  let ds := List.replicate (places + 1 - ds.length) '0' ++ ds
  let whole := ds.take (ds.length - places)
  if places = 0 then (if point then whole ++ ['.'] else whole)
  else whole ++ '.' :: ds.drop whole.length

def fixedText (n d places : Nat) (point : Bool) : List Char :=
  withPoint (Nat.toDigits 10 (Binary64.roundQuotient (n * Nat.pow 10 places) d)) places point

def leadingDigits (n d places : Nat) : List Char × Int :=
  if n = 0 then (List.replicate (places + 1) '0', 0)
  else
    let e := floorLog10 n d
    let shift : Int := places - e
    let q := if 0 ≤ shift then Binary64.roundQuotient (n * Nat.pow 10 shift.toNat) d
      else Binary64.roundQuotient n (d * Nat.pow 10 (-shift).toNat)
    let ds := Nat.toDigits 10 q
    if ds.length = places + 2 then (ds.take (places + 1), e + 1) else (ds, e)

def exponentText (letter : Char) (e : Int) : List Char :=
  let ds := Nat.toDigits 10 e.natAbs
  letter :: (if e < 0 then '-' else '+') :: List.replicate (2 - ds.length) '0' ++ ds

def exponentialText (n d places : Nat) (point : Bool) (letter : Char) : List Char :=
  let (ds, e) := leadingDigits n d places
  withPoint ds places point ++ exponentText letter e

def withoutZeros (cs : List Char) : List Char :=
  if cs.contains '.' then
    let front := (cs.reverse.dropWhile (· = '0')).reverse
    if front.getLast? = some '.' then front.dropLast else front
  else cs

def generalText (n d precision : Nat) (point : Bool) (letter : Char) : List Char :=
  let precision := max precision 1
  let (ds, e) := leadingDigits n d (precision - 1)
  let trim (cs : List Char) : List Char := if point then cs else withoutZeros cs
  if -4 ≤ e ∧ e < precision then trim (fixedText n d (precision - 1 - e).toNat point)
  else trim (withPoint ds (precision - 1) point) ++ exponentText letter e

def hexadecimalText (bits lead n d : Nat) (precision : Option Nat) (point : Bool) : List Char :=
  if n = 0 then "0x0".toList ++ (match precision with
    | some (p + 1) => '.' :: List.replicate (p + 1) '0'
    | _ => if point then ['.'] else []) ++ "p+0".toList
  else
    let log := Binary64.floorLog2 n d
    let places : Nat := match precision with
      | some p => min p ((bits - lead) / 4)
      | none => (bits - lead) / 4
    let shift : Int := ((4 * places + (lead - 1) : Nat) : Int) - log
    let q := if 0 ≤ shift then Binary64.roundQuotient (n * Nat.pow 2 shift.toNat) d
      else Binary64.roundQuotient n (d * Nat.pow 2 (-shift).toNat)
    let text := withPoint (Nat.toDigits 16 q) places point
    let text := match precision with
      | some p => text ++ List.replicate (p - places) '0'
      | none => withoutZeros text
    let e := log - (lead - 1 : Nat)
    "0x".toList ++ text ++ 'p' :: (if e < 0 then '-' else '+') :: Nat.toDigits 10 e.natAbs

def text (a : Amount) (bits lead : Nat) (letter : Char) (precision : Option Nat) (point : Bool) :
    List Char :=
  let lower := match a with
    | infinite _ => "inf".toList
    | undefined _ => "nan".toList
    | finite _ n d =>
      match letter.toLower with
      | 'f' => fixedText n d (precision.getD 6) point
      | 'e' => exponentialText n d (precision.getD 6) point 'e'
      | 'g' => generalText n d (precision.getD 6) point 'e'
      | _ => hexadecimalText bits lead n d precision point
  if letter.isUpper then lower.map Char.toUpper else lower

end Amount

end TreePipeline
