import TreePipeline.Artifact.Error
import TreePipeline.Artifact.Names
import TreePipeline.Files.Operations

/-!
A store: the directory below which every artifact lies, each directly in it. An artifact is served from
a reference to the file that it stands for, if that lies in the store.
-/

namespace TreePipeline

structure Store where
  root : Octets
  deriving DecidableEq

namespace Store

/-- The path of an artifact; nothing need be there. -/
def derive (store : Store) (base : BaseId) (role : Role) : Octets :=
  Path.join store.root (ArtifactName.ofRole base role)

def setOf (store : Store) (base : BaseId) : ArtifactSet where
  base := base
  source := store.derive base .source
  mesh := store.derive base .mesh
  image := store.derive base .image

def openAt (fs : FileSystem) (root : Octets) : Except ArtifactError (Store × FileSystem) :=
  match fs.makeDirectories root with
  | .ok fs => .ok (⟨root⟩, fs)
  | .error e => .error (.allocation root e.message)

/-- The location of the file behind a reference, all links followed. It has to be a regular file
below the store's own location. -/
def resolve (store : Store) (fs : FileSystem) (r : Reference) : Except ArtifactError Location :=
  match fs.canonicalize (store.derive r.base r.role) with
  | .error e => if e.isNotFound then .error (.notFound r.text) else .error (.system e)
  | .ok l =>
    match fs.canonicalize store.root with
    | .error e => .error (.system e)
    | .ok root =>
      if root.isPrefixOf l ∧ fs.isFile (FileSystem.pathOf l) then .ok l
      else .error (.outsideNamespace (FileSystem.pathOf l))

end Store

end TreePipeline
