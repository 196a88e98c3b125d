import TreePipeline.Artifact.Encoding
import TreePipeline.Outcome

/-!
What a caller learns of a run: whether it succeeded, how long it took and, on success, references
to mesh and image. Why a run failed stays with the operator.
-/

namespace TreePipeline

structure Report where
  success : Bool
  elapsedSeconds : Binary64
  meshRef : Option Reference
  imageRef : Option Reference
  message : String
  generatedAt : Timestamp
  deriving DecidableEq

namespace Report

def generated : String := "generated"

def failed : String := "generation failed"

/-- The report of an outcome. It is a success only if there is an identifier to refer to. -/
def ofOutcome (o : Outcome) (now : Timestamp) : Report :=
  match o.base, o.success with
  | some base, true =>
    { success := true, elapsedSeconds := o.elapsed.toSeconds, meshRef := some (.mesh base),
      imageRef := some (.image base), message := generated, generatedAt := now }
  | _, _ =>
    { success := false, elapsedSeconds := o.elapsed.toSeconds, meshRef := none, imageRef := none,
      message := failed, generatedAt := now }

/-- References that are absent have no member. -/
def toJson (r : Report) : Json :=
  .object ([("success", .bool r.success), ("elapsed_seconds", .float r.elapsedSeconds)] ++
    (r.meshRef.map fun m => ("mesh_ref", m.toJson)).toList ++
    (r.imageRef.map fun i => ("image_ref", i.toJson)).toList ++
    [("message", .string r.message), ("generated_at", .string r.generatedAt.toText)])

def fields : List Json.Field :=
  [.required "success" Json.decodeBool, .required "elapsed_seconds" Json.decodeFloat,
    .maybe "mesh_ref" Reference.ofJson, .maybe "image_ref" Reference.ofJson,
    .required "message" Json.decodeString, .required "generated_at" Json.decodeTimestamp]

def ofJson : Json.Decoder Report := fun v => do
  let ms ← Json.recordMembers "struct Report" fields v
  return {
    success := ← ms.field "success" Json.decodeBool
    elapsedSeconds := ← ms.field "elapsed_seconds" Json.decodeFloat
    meshRef := ← ms.field "mesh_ref" (Json.decodeOption Reference.ofJson)
    imageRef := ← ms.field "image_ref" (Json.decodeOption Reference.ofJson)
    message := ← ms.field "message" Json.decodeString
    generatedAt := ← ms.field "generated_at" Json.decodeTimestamp }

end Report

def FailureKind.toJson (k : FailureKind) : Json := .string k.name

def FailureKind.ofJson : Json.Decoder FailureKind := Json.decodeVariant FailureKind.variants

end TreePipeline
