import TreePipeline.Artifact.Identifier

/-!
The roles of a submission's files: the grammar source, the mesh built from it and the preview image
rendered from the mesh. Mesh and image may be shown to callers, who hold references to them: an
identifier and the name of the role, with a dot between them.
-/

namespace TreePipeline

inductive Role where
  | source
  | mesh
  | image
  deriving DecidableEq

namespace Role

def all : List Role := [.source, .mesh, .image]

def name : Role → String
  | .source => "source"
  | .mesh => "mesh"
  | .image => "image"

def extension : Role → String
  | .source => "l++"
  | .mesh => "off+"
  | .image => "jpg"

def isExposable : Role → Bool
  | .source => false
  | .mesh => true
  | .image => true

def ofExtension? (s : String) : Option Role := all.find? fun r => r.extension = s

def variants : List (String × Role) := all.map fun r => (r.name, r)

theorem extension_inj {r s : Role} (h : r.extension = s.extension) : r = s := by
  cases r <;> cases s <;> first | rfl | (revert h; decide)

theorem ofExtension?_extension (r : Role) : ofExtension? r.extension = some r := by
  cases r <;> decide

end Role

structure Reference where
  base : BaseId
  role : Role
  exposable : role.isExposable = true := by rfl
  deriving DecidableEq

namespace Reference

def mesh (base : BaseId) : Reference := { base, role := .mesh }

def image (base : BaseId) : Reference := { base, role := .image }

def text (r : Reference) : String := r.base.text ++ "." ++ r.role.name

def cutAtDot (cs : List Char) : Option (List Char × List Char) :=
  match cs with
  | [] => none
  | c :: r => if c = '.' then some ([], r) else (cutAtDot r).map fun (p, q) => (c :: p, q)

def parse? (s : String) : Option Reference := do
  let (stem, role) ← cutAtDot s.toList
  let base ← BaseId.parse? (String.ofList stem)
  if role = "mesh".toList then some (mesh base)
  else if role = "image".toList then some (image base)
  else none

end Reference

end TreePipeline
