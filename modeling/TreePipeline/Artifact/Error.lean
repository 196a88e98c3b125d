import TreePipeline.Artifact.Reference
import TreePipeline.Files.Errno

/-! Why an artifact could not be reserved, named, found or served. -/

namespace TreePipeline

inductive ArtifactError where
  | allocation (root : Octets) (reason : String)
  | invalidReference (text : String)
  | outsideNamespace (path : Octets)
  | notFound (reference : String)
  | system (cause : SystemError)
  deriving DecidableEq

namespace ArtifactError

def message : ArtifactError → String
  | .allocation root reason =>
    "could not allocate artifact identifier under " ++ Utf8.decodeLossy root ++ ": " ++ reason
  | .invalidReference text => "invalid artifact reference: " ++ text
  | .outsideNamespace path => "artifact path escapes the artifact root: " ++ Utf8.decodeLossy path
  | .notFound reference => "artifact not found: " ++ reference
  | .system cause => "io error: " ++ cause.message

end ArtifactError

def BaseId.parse (s : String) : Except ArtifactError BaseId :=
  match BaseId.parse? s with
  | some id => .ok id
  | none => .error (.invalidReference s)

def Reference.parse (s : String) : Except ArtifactError Reference :=
  match Reference.parse? s with
  | some r => .ok r
  | none => .error (.invalidReference s)

end TreePipeline
