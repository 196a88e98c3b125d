/-!
Octet sequences: the form of file names, path names and tool output. Hexadecimal digits are
lower case when written and of either case when read.
-/

namespace TreePipeline

abbrev Octets := List UInt8

namespace Octets

def ofAscii (s : String) : Octets := s.toList.map fun c => c.toNat.toUInt8

def hexDigit (n : Nat) : Char :=
  if n < 10 then Char.ofNat (48 + n) else Char.ofNat (87 + n)

def hexValue? (c : Char) : Option Nat :=
  if '0' ≤ c ∧ c ≤ '9' then some (c.toNat - 48)
  else if 'a' ≤ c ∧ c ≤ 'f' then some (c.toNat - 87)
  else if 'A' ≤ c ∧ c ≤ 'F' then some (c.toNat - 55)
  else none

def toHex (bs : Octets) : String :=
  String.ofList (bs.flatMap fun b => [hexDigit (b.toNat / 16), hexDigit (b.toNat % 16)])

def ofHexDigits? : List Char → Option Octets
  | [] => some []
  | h :: l :: r => do
    let hi ← hexValue? h
    let lo ← hexValue? l
    let rest ← ofHexDigits? r
    return (16 * hi + lo).toUInt8 :: rest
  | [_] => none

def ofHex? (s : String) : Option Octets := ofHexDigits? s.toList

def le : Octets → Octets → Bool
  | [], _ => true
  | _ :: _, [] => false
  | a :: as, b :: bs => a < b || (a == b && le as bs)

def splitOn (sep : UInt8) : Octets → List Octets
  | [] => [[]]
  | b :: r =>
    if b = sep then [] :: splitOn sep r
    else match splitOn sep r with
      | [] => [[b]]
      | p :: ps => (b :: p) :: ps

end Octets

end TreePipeline
