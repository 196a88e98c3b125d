/-!
Binary floating point numbers of 64 bits. A finite number is `significand · 2 ^ exponent`; every
operation computes the exact quotient of two natural numbers and rounds it once, to the nearest
number and to the even one of two.
-/

namespace TreePipeline

structure Binary64 where
  bits : UInt64
  deriving DecidableEq

namespace Binary64

def isNegative (x : Binary64) : Bool := 0x8000000000000000 ≤ x.bits.toNat

def biasedExponent (x : Binary64) : Nat := x.bits.toNat / 0x10000000000000 % 2048

def fraction (x : Binary64) : Nat := x.bits.toNat % 0x10000000000000

def isFinite (x : Binary64) : Bool := x.biasedExponent ≠ 2047

def significand (x : Binary64) : Nat :=
  if x.biasedExponent = 0 then x.fraction else 0x10000000000000 + x.fraction

def unitExponent (x : Binary64) : Nat := x.biasedExponent - 1

def isZero (x : Binary64) : Bool := x.significand = 0

def numerator (x : Binary64) : Nat := x.significand * Nat.pow 2 (x.unitExponent - 1074)

def denominator (x : Binary64) : Nat := Nat.pow 2 (1074 - x.unitExponent)

def roundQuotient (n d : Nat) : Nat :=
  let q := n / d
  let r := n % d
  if 2 * r < d then q else if d < 2 * r then q + 1 else q + q % 2

def floorLog2 (n d : Nat) : Int :=
  let k : Int := (n.log2 : Int) - d.log2
  let low := if 0 ≤ k then d * Nat.pow 2 k.toNat ≤ n else d ≤ n * Nat.pow 2 (-k).toNat
  if low then k else k - 1

def infinityBits : Nat := 2047 * 0x10000000000000

def magnitudeBits (n d : Nat) : Nat :=
  if n = 0 then 0
  else
    let e := max (floorLog2 n d - 52) (-1074)
    let q := if 0 ≤ e then roundQuotient n (d * Nat.pow 2 e.toNat) else roundQuotient (n * Nat.pow 2 (-e).toNat) d
    min ((e + 1074).toNat * 0x10000000000000 + q) infinityBits

def ofQuotient (negative : Bool) (n d : Nat) : Binary64 :=
  ⟨((if negative then 0x8000000000000000 else 0) + magnitudeBits n d).toUInt64⟩

def ofNat (n : Nat) : Binary64 := ofQuotient false n 1

def neg (x : Binary64) : Binary64 := ⟨x.bits ^^^ 0x8000000000000000⟩

def addMagnitudes (x y : Binary64) : Binary64 :=
  ofQuotient false (x.numerator * y.denominator + y.numerator * x.denominator)
    (x.denominator * y.denominator)

def mulMagnitudes (x y : Binary64) : Binary64 :=
  ofQuotient false (x.numerator * y.numerator) (x.denominator * y.denominator)

def divMagnitudes (x y : Binary64) : Binary64 :=
  ofQuotient false (x.numerator * y.denominator) (x.denominator * y.numerator)

end Binary64

end TreePipeline
