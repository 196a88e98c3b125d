import TreePipeline.Hash.Sha
import TreePipeline.Text.Utf8

/-!
Base identifiers: `L3D_` and thirty-two lower-case hexadecimal digits. Every submission has one and
all its files are named after it, so no text from outside ever becomes part of a file name.
-/

namespace TreePipeline

def isLowerHex (c : Char) : Bool := ('0' ≤ c && c ≤ '9') || ('a' ≤ c && c ≤ 'f')

def isIdentifier (cs : List Char) : Bool :=
  match cs with
  | 'L' :: '3' :: 'D' :: '_' :: ds => ds.length = 32 && ds.all isLowerHex
  | _ => false

structure BaseId where
  text : String
  wellFormed : isIdentifier text.toList = true
  deriving DecidableEq

namespace BaseId

def parse? (s : String) : Option BaseId :=
  if h : isIdentifier s.toList = true then some ⟨s, h⟩ else none

theorem parse?_eq_some_iff {s : String} {id : BaseId} : parse? s = some id ↔ id.text = s := by
  constructor
  · intro h
    unfold parse? at h
    split at h
    · exact (congrArg BaseId.text (Option.some.inj h)).symm
    · cases h
  · intro h
    subst h
    simp [parse?, id.wellFormed]

theorem parse?_text (id : BaseId) : parse? id.text = some id := parse?_eq_some_iff.2 rfl

def zeroDigits : String := "L3D_00000000000000000000000000000000"

instance : Inhabited BaseId := ⟨⟨zeroDigits, by decide⟩⟩

theorem isLowerHex_hexDigit : ∀ n < 16, isLowerHex (Octets.hexDigit n) = true := by decide

theorem isIdentifier_toHex {bs : Octets} (h : bs.length = 16) :
    isIdentifier ("L3D_" ++ Octets.toHex bs).toList = true := by
  have hdigits : (Octets.toHex bs).toList.all isLowerHex = true := by
    simp only [Octets.toHex, String.toList_ofList, List.all_flatMap, List.all_eq_true]
    intro b _
    have hb := b.toNat_lt
    simp [isLowerHex_hexDigit (b.toNat / 16) (by omega), isLowerHex_hexDigit (b.toNat % 16) (by omega)]
  have hlength : (Octets.toHex bs).toList.length = 32 := by
    simp [Octets.toHex, List.length_flatMap, List.map_const', h]
  simp [isIdentifier, hdigits, hlength]

def markRandom (drawn : Vector UInt8 16) : Vector UInt8 16 :=
  (drawn.set 6 (drawn[6] &&& 0x0f ||| 0x40)).set 8 (drawn[8] &&& 0x3f ||| 0x80)

/-- The identifier that is made of so many random octets. -/
def generate (drawn : Vector UInt8 16) : BaseId where
  text := "L3D_" ++ Octets.toHex (markRandom drawn).toList
  wellFormed := isIdentifier_toHex (Vector.length_toList ..)

def candidate (seed k : Nat) : BaseId :=
  let hash := Sha256.hash (Octets.ofAscii (toString seed ++ "." ++ toString k))
  generate (.ofFn fun i => hash.getD i 0)

def sortUnique (ids : List BaseId) : List BaseId :=
  (ids.mergeSort fun a b => a.text ≤ b.text).eraseDups

end BaseId

end TreePipeline
