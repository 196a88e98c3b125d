import TreePipeline.Artifact.Error
import TreePipeline.Json.Decode

/-! Identifiers, roles and references in JSON: each is a text. -/

namespace TreePipeline

def BaseId.toJson (id : BaseId) : Json := .string id.text

def BaseId.ofJson : Json.Decoder BaseId := fun v => do
  let s ← Json.decodeString v
  match BaseId.parse s with
  | .ok id => .ok id
  | .error e => .error (.refused e.message)

def Role.toJson (r : Role) : Json := .string r.name

def Role.ofJson : Json.Decoder Role := Json.decodeVariant Role.variants

def Reference.toJson (r : Reference) : Json := .string r.text

def Reference.ofJson : Json.Decoder Reference := fun v => do
  let s ← Json.decodeString v
  match Reference.parse s with
  | .ok r => .ok r
  | .error e => .error (.refused e.message)

end TreePipeline
