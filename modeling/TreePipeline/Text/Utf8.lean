import TreePipeline.Text.Octets

/-!
UTF-8. `pieces` cuts an octet sequence into characters and ill-formed pieces; a piece that is no
character is as long as some character starts with it. Strict reading refuses such a piece, lenient
reading puts one U+FFFD in its place.
-/

namespace TreePipeline.Utf8

def encode (s : String) : Octets := s.toList.flatMap String.utf8EncodeChar

inductive State where
  | start
  | inside (owed : Nat) (low high : UInt8) (bits : Nat)
  deriving DecidableEq

def lead (b : UInt8) : Option (State × Option Char) :=
  if b ≤ 0x7f then some (.start, some (Char.ofNat b.toNat))
  else if b < 0xc2 then none
  else if b ≤ 0xdf then some (.inside 1 0x80 0xbf (b.toNat - 0xc0), none)
  else if b ≤ 0xef then
    let low := if b = 0xe0 then 0xa0 else 0x80
    let high := if b = 0xed then 0x9f else 0xbf
    some (.inside 2 low high (b.toNat - 0xe0), none)
  else if b ≤ 0xf4 then
    let low := if b = 0xf0 then 0x90 else 0x80
    let high := if b = 0xf4 then 0x8f else 0xbf
    some (.inside 3 low high (b.toNat - 0xf0), none)
  else none

def accept : State → UInt8 → Option (State × Option Char)
  | .start, b => lead b
  | .inside owed low high bits, b =>
    if low ≤ b ∧ b ≤ high then
      let bits := 64 * bits + (b.toNat - 0x80)
      if owed ≤ 1 then some (.start, some (Char.ofNat bits))
      else some (.inside (owed - 1) 0x80 0xbf bits, none)
    else none

def piecesFrom : State → Octets → List (Option Char)
  | .start, [] => []
  | .inside .., [] => [none]
  | q, b :: r =>
    match accept q b with
    | some (q, c) => (c.map some).toList ++ piecesFrom q r
    | none =>
      match q with
      | .start => none :: piecesFrom .start r
      | .inside .. =>
        match lead b with
        | some (q, c) => none :: (c.map some).toList ++ piecesFrom q r
        | none => none :: none :: piecesFrom .start r

def pieces (bs : Octets) : List (Option Char) := piecesFrom .start bs

def decode? (bs : Octets) : Option String := ((pieces bs).mapM id).map String.ofList

def replacement : Char := '\ufffd'

def decodeLossy (bs : Octets) : String := String.ofList ((pieces bs).map (·.getD replacement))

end TreePipeline.Utf8
