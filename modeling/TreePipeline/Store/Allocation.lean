import TreePipeline.Store.Basic

/-!
Reserving an identifier. A candidate is taken by creating its source file where there was none, so
two reservations never share one; a candidate that is taken already is passed over, eight times at
most. `attempt` is the one step that touches the tree.
-/

namespace TreePipeline.Store

def maxAttempts : Nat := 8

inductive Attempt where
  | reserved (fs : FileSystem)
  | taken
  | refused (error : ArtifactError)

def attempt (store : Store) (base : BaseId) (fs : FileSystem) : Attempt :=
  match fs.createNew (store.derive base .source) with
  | .ok fs => .reserved fs
  | .error e =>
    if e.isAlreadyExists then .taken else .refused (.allocation store.root e.message)

def exhausted (store : Store) : ArtifactError :=
  .allocation store.root ("no free identifier after " ++ toString maxAttempts ++ " attempts")

structure Allocation where
  result : Except ArtifactError ArtifactSet
  files : FileSystem
  passed : List BaseId

def allocateFrom (store : Store) (draw : Nat → BaseId) (fs : FileSystem) : (left k : Nat) → Allocation
  | 0, _ => ⟨.error store.exhausted, fs, []⟩
  | left + 1, k =>
    match store.attempt (draw k) fs with
    | .reserved fs => ⟨.ok (store.setOf (draw k)), fs, []⟩
    | .refused e => ⟨.error e, fs, []⟩
    | .taken =>
      let rest := allocateFrom store draw fs left (k + 1)
      { rest with passed := draw k :: rest.passed }

def allocate (store : Store) (draw : Nat → BaseId) (fs : FileSystem) : Allocation :=
  store.allocateFrom draw fs maxAttempts 0

end TreePipeline.Store
