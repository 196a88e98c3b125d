import TreePipeline.Json.Value
import TreePipeline.Number.Shortest
import TreePipeline.Text.Quoted
import TreePipeline.Time.Timestamp.Reader

/-!
Reading typed data out of JSON values. A record is an object or the array of its fields in their
declared order. In an object the members are looked at in the order of their names and the first
faulty one decides the error; fields that are missing come after all of them, in declared order.
-/

namespace TreePipeline

inductive DecodeError where
  | invalidType (found expected : String)
  | invalidValue (found expected : String)
  | invalidLength (length : Nat) (expected : String)
  | missingField (name : String)
  | unknownVariant (name : String) (variants : List String)
  | refused (message : String)
  deriving DecidableEq

namespace DecodeError

def ticked (s : String) : String := "`" ++ s ++ "`"

def alternatives : List String → String
  | [] => "there are no variants"
  | [a] => "expected " ++ ticked a
  | [a, b] => "expected " ++ ticked a ++ " or " ++ ticked b
  | vs => "expected one of " ++ ", ".intercalate (vs.map ticked)

def message : DecodeError → String
  | .invalidType found expected => "invalid type: " ++ found ++ ", expected " ++ expected
  | .invalidValue found expected => "invalid value: " ++ found ++ ", expected " ++ expected
  | .invalidLength n expected => "invalid length " ++ toString n ++ ", expected " ++ expected
  | .missingField name => "missing field " ++ ticked name
  | .unknownVariant name variants =>
    "unknown variant " ++ ticked name ++ ", " ++ alternatives variants
  | .refused text => text

end DecodeError

namespace Json

abbrev Decoder (α : Type) := Json → Except DecodeError α

def describe : Json → String
  | .null => "null"
  | .bool b => "boolean " ++ DecodeError.ticked (if b then "true" else "false")
  | .integer n => "integer " ++ DecodeError.ticked (toString n)
  | .float x => "floating point " ++ DecodeError.ticked x.toText
  | .string s => "string " ++ Text.quote s
  | .array _ => "sequence"
  | .object _ => "map"

def wrongType (expected : String) (v : Json) : DecodeError := .invalidType v.describe expected

def decodeBool : Decoder Bool
  | .bool b => .ok b
  | v => .error (wrongType "a boolean" v)

def decodeText (expected : String) : Decoder String
  | .string s => .ok s
  | v => .error (wrongType expected v)

def decodeString : Decoder String := decodeText "a string"

def decodePath : Decoder String := decodeText "path string"

def decodeNat (max : Nat) (type : String) : Decoder Nat
  | .integer n =>
    if 0 ≤ n ∧ n ≤ max then .ok n.toNat else .error (.invalidValue (describe (.integer n)) type)
  | v => .error (wrongType type v)

def decodeUInt64 (type : String) : Decoder UInt64 := fun v =>
  (decodeNat (0xffffffffffffffff) type v).map Nat.toUInt64

def decodeUInt32 (type : String) : Decoder UInt32 := fun v =>
  (decodeNat (0xffffffff) type v).map Nat.toUInt32

def decodeFloat : Decoder Binary64
  | .float x => .ok x
  | .integer n => .ok (if n < 0 then (Binary64.ofNat n.natAbs).neg else Binary64.ofNat n.toNat)
  | v => .error (wrongType "f64" v)

def decodeOption {α : Type} (d : Decoder α) : Decoder (Option α)
  | .null => .ok none
  | v => (d v).map some

def decodeTimestamp : Decoder Timestamp
  | .string s =>
    match Timestamp.read s with
    | .ok t => .ok t
    | .error e => .error (.refused e.message)
  | v => .error (wrongType "an RFC 3339 formatted date and time string" v)

def decodeVariant {α : Type} (variants : List (String × α)) : Decoder α := fun v =>
  let named (name : String) : Except DecodeError α :=
    match variants.lookup name with
    | some a => .ok a
    | none => .error (.unknownVariant name (variants.map Prod.fst))
  match v with
  | .string name => named name
  | .object [(name, content)] => do
    let a ← named name
    match content with
    | .null => .ok a
    | content => .error (wrongType "unit" content)
  | .object _ => .error (.invalidValue "map" "map with a single key")
  | v => .error (wrongType "string or map" v)

structure Field where
  name : String
  optional : Bool
  check : Json → Except DecodeError Unit

def Field.required {α : Type} (name : String) (d : Decoder α) : Field :=
  ⟨name, false, fun v => (d v).map fun _ => ()⟩

def Field.maybe {α : Type} (name : String) (d : Decoder α) : Field :=
  ⟨name, true, fun v => (decodeOption d v).map fun _ => ()⟩

def checkMembers (fields : List Field) : Members → Except DecodeError Unit
  | [] => .ok ()
  | (k, v) :: r =>
    match fields.find? fun f => f.name = k with
    | none => checkMembers fields r
    | some f => do
      f.check v
      checkMembers fields r

def checkPresent (ms : Members) : List Field → Except DecodeError Unit
  | [] => .ok ()
  | f :: r =>
    if f.optional || (Members.get? ms f.name).isSome then checkPresent ms r
    else .error (.missingField f.name)

def pairItems (type : String) (count done : Nat) :
    List Field → List Json → Except DecodeError Members
  | [], [] => .ok []
  | [], _ :: _ => .ok []
  | _ :: _, [] =>
    .error (.invalidLength done (type ++ " with " ++ toString count ++ " elements"))
  | f :: fs, v :: vs => do
    f.check v
    let rest ← pairItems type count (done + 1) fs vs
    return (f.name, v) :: rest

def recordMembers (type : String) (fields : List Field) : Json → Except DecodeError Members
  | .object ms => do
    checkMembers fields (Members.sorted ms)
    checkPresent ms fields
    return ms
  | .array items => do
    let ms ← pairItems type fields.length 0 fields items
    if fields.length < items.length then
      .error (.invalidLength items.length "fewer elements in array")
    else return ms
  | v => .error (wrongType type v)

def Members.field {α : Type} (ms : Members) (name : String) (d : Decoder α) :
    Except DecodeError α :=
  d ((Members.get? ms name).getD .null)

end Json

end TreePipeline
