import TreePipeline.Json.Value

/-!
Reading JSON text. An integer outside the ranges of 64 bits, signed or not, is a floating point
number, and so is `-0`. The significand of a number is cut after the digits that fit 64 bits and
scaled by one rounded power of ten, so a long numeral may be off by one unit in the last place.
-/

namespace TreePipeline.Json

def isSpace (c : Char) : Bool := c = ' ' || c = '\t' || c = '\n' || c = '\r'

def skipSpace (cs : List Char) : List Char := cs.dropWhile isSpace

namespace NumberText

def digit? (c : Char) : Option Nat := if '0' ≤ c ∧ c ≤ '9' then some (c.toNat - 48) else none

structure Scaled where
  significand : Nat
  exponent : Int

def readDigits (taken step : Int) : Scaled → (full : Bool) → List Char → Scaled × Bool × List Char
  | n, full, [] => (n, full, [])
  | n, full, c :: r =>
    match digit? c with
    | none => (n, full, c :: r)
    | some d =>
      if full ∨ 0x10000000000000000 ≤ 10 * n.significand + d then
        readDigits taken step { n with exponent := n.exponent + step } true r
      else readDigits taken step ⟨10 * n.significand + d, n.exponent + taken⟩ false r

def tooLargePower : Int := 309

def scaleDown (x : Binary64) (power : Nat) : Nat → Binary64
  | 0 => x
  | fuel + 1 =>
    if power ≤ 308 then x.divMagnitudes (Binary64.ofNat (Nat.pow 10 power))
    else if x.isZero then x
    else scaleDown (x.divMagnitudes (Binary64.ofNat (Nat.pow 10 308))) (power - 308) fuel

def Scaled.toFloat? (n : Scaled) : Option Binary64 :=
  let x := Binary64.ofNat n.significand
  if 0 ≤ n.exponent then
    if n.exponent < tooLargePower then
      let y := x.mulMagnitudes (Binary64.ofNat (Nat.pow 10 n.exponent.toNat))
      if y.isFinite then some y else none
    else if x.isZero then some x
    else none
  else some (scaleDown x (-n.exponent).toNat 8)

def signed (negative : Bool) (x : Binary64) : Json := .float (if negative then x.neg else x)

def integerValue (negative : Bool) (n : Nat) : Json :=
  if negative then
    if 0 < n ∧ n ≤ 0x8000000000000000 then .integer (-(n : Int)) else signed true (Binary64.ofNat n)
  else .integer n

def readExponent (cs : List Char) : Option (Int × List Char) :=
  let (negative, cs) := match cs with
    | '+' :: r => (false, r)
    | '-' :: r => (true, r)
    | _ => (false, cs)
  let ds := cs.takeWhile Char.isDigit
  if ds.isEmpty then none
  else
    let n : Int := (String.ofList ds).toNat?.getD 0
    some (if negative then -n else n, cs.drop ds.length)

def read (negative : Bool) (cs : List Char) : Option (Json × List Char) := do
  let ds := cs.takeWhile Char.isDigit
  guard (!ds.isEmpty && !(ds.head? = some '0' && ds.length ≠ 1))
  let (n, full, r) := readDigits 0 1 ⟨0, 0⟩ false cs
  let (n, isFloat, r) ← match r with
    | '.' :: r =>
      let (m, _, rest) := readDigits (-1) 0 n false r
      if rest.length = r.length then none else some (m, true, rest)
    | r => some (n, false, r)
  let (n, isFloat, r) ← match r with
    | c :: r' =>
      if c = 'e' ∨ c = 'E' then do
        let (e, rest) ← readExponent r'
        some ({ n with exponent := n.exponent + e }, true, rest)
      else some (n, isFloat, r)
    | [] => some (n, isFloat, [])
  if isFloat ∨ full then
    let x ← n.toFloat?
    some (signed negative x, r)
  else some (integerValue negative n.significand, r)

end NumberText

def hexQuad (cs : List Char) : Option (Nat × List Char) :=
  match cs with
  | a :: b :: c :: d :: r =>
    let digit (c : Char) : Option Nat :=
      if c.isDigit then some (c.toNat - 48)
      else if 'a' ≤ c ∧ c ≤ 'f' then some (c.toNat - 87)
      else if 'A' ≤ c ∧ c ≤ 'F' then some (c.toNat - 55)
      else none
    do
      let a ← digit a
      let b ← digit b
      let c ← digit c
      let d ← digit d
      return (((16 * a + b) * 16 + c) * 16 + d, r)
  | _ => none

def readEscape (cs : List Char) : Option (Char × List Char) :=
  match cs with
  | '"' :: r => some ('"', r)
  | '\\' :: r => some ('\\', r)
  | '/' :: r => some ('/', r)
  | 'b' :: r => some ('\x08', r)
  | 'f' :: r => some ('\x0c', r)
  | 'n' :: r => some ('\n', r)
  | 'r' :: r => some ('\r', r)
  | 't' :: r => some ('\t', r)
  | 'u' :: r => do
    let (n, r) ← hexQuad r
    if 0xdc00 ≤ n ∧ n ≤ 0xdfff then none
    else if 0xd800 ≤ n ∧ n ≤ 0xdbff then
      match r with
      | '\\' :: 'u' :: r => do
        let (m, r) ← hexQuad r
        if 0xdc00 ≤ m ∧ m ≤ 0xdfff then
          some (Char.ofNat (0x10000 + (n - 0xd800) * 0x400 + (m - 0xdc00)), r)
        else none
      | _ => none
    else some (Char.ofNat n, r)
  | _ => none

def readString : Nat → List Char → List Char → Option (String × List Char)
  | 0, _, _ => none
  | fuel + 1, acc, cs =>
    match cs with
    | [] => none
    | '"' :: r => some (String.ofList acc.reverse, r)
    | '\\' :: r => do
      let (c, r) ← readEscape r
      readString fuel (c :: acc) r
    | c :: r => if c.toNat < 32 then none else readString fuel (c :: acc) r

mutual

def readValue : Nat → List Char → Option (Json × List Char)
  | 0, _ => none
  | fuel + 1, cs =>
    match skipSpace cs with
    | 'n' :: 'u' :: 'l' :: 'l' :: r => some (.null, r)
    | 't' :: 'r' :: 'u' :: 'e' :: r => some (.bool true, r)
    | 'f' :: 'a' :: 'l' :: 's' :: 'e' :: r => some (.bool false, r)
    | '"' :: r => (readString (r.length + 1) [] r).map fun (s, r) => (.string s, r)
    | '[' :: r =>
      match skipSpace r with
      | ']' :: r => some (.array [], r)
      | r => readItems fuel [] r
    | '\x7b' :: r =>
      match skipSpace r with
      | '\x7d' :: r => some (.object [], r)
      | r => readMembers fuel [] r
    | '-' :: r => NumberText.read true r
    | r => NumberText.read false r

def readItems : Nat → List Json → List Char → Option (Json × List Char)
  | 0, _, _ => none
  | fuel + 1, acc, cs => do
    let (v, r) ← readValue fuel cs
    match skipSpace r with
    | ',' :: r => readItems fuel (v :: acc) r
    | ']' :: r => some (.array (v :: acc).reverse, r)
    | _ => none

def readMembers : Nat → Members → List Char → Option (Json × List Char)
  | 0, _, _ => none
  | fuel + 1, acc, cs =>
    match skipSpace cs with
    | '"' :: r => do
      let (name, r) ← readString (r.length + 1) [] r
      match skipSpace r with
      | ':' :: r => do
        let (v, r) ← readValue fuel r
        match skipSpace r with
        | ',' :: r => readMembers fuel (Members.put name v acc) r
        | '\x7d' :: r => some (.object (Members.put name v acc), r)
        | _ => none
      | _ => none
    | _ => none

end

def read? (s : String) : Option Json := do
  let cs := s.toList
  let (v, r) ← readValue (2 * cs.length + 2) cs
  if (skipSpace r).isEmpty then some v else none

end TreePipeline.Json
