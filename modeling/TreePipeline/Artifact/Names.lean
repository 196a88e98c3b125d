import TreePipeline.Artifact.Reference
import TreePipeline.Files.Path

/-!
The file names of artifacts. A file is named for its identifier and the extension of its role, and
the name alone tells both again.
-/

namespace TreePipeline

/-- The files of one submission. -/
structure ArtifactSet where
  base : BaseId
  source : Octets
  mesh : Octets
  image : Octets
  deriving DecidableEq

def ArtifactSet.path (set : ArtifactSet) : Role → Octets
  | .source => set.source
  | .mesh => set.mesh
  | .image => set.image

namespace ArtifactName

def ofRole (base : BaseId) (role : Role) : Octets :=
  Utf8.encode (base.text ++ "." ++ role.extension)

/-- The identifier and the role of a file name, if it is the name of an artifact. -/
def parse? (name : Octets) : Option (BaseId × Role) := do
  let text ← Utf8.decode? name
  let (stem, ext) ← Reference.cutAtDot text.toList
  let base ← BaseId.parse? (String.ofList stem)
  let role ← Role.ofExtension? (String.ofList ext)
  return (base, role)

end ArtifactName

end TreePipeline
