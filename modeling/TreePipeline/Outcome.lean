import TreePipeline.Artifact.Names
import TreePipeline.Time.Duration

/-! How the run of a submission ended, for its operator. -/

namespace TreePipeline

inductive FailureKind where
  | allocation
  | launch
  | timeoutKilled
  | missingArtifact
  deriving DecidableEq

namespace FailureKind

def name : FailureKind → String
  | .allocation => "allocation"
  | .launch => "launch"
  | .timeoutKilled => "timeout_killed"
  | .missingArtifact => "missing_artifact"

def all : List FailureKind := [.allocation, .launch, .timeoutKilled, .missingArtifact]

def variants : List (String × FailureKind) := all.map fun k => (k.name, k)

end FailureKind

structure Outcome where
  base : Option BaseId
  success : Bool
  elapsed : Duration
  failure : Option FailureKind
  failedStage : Option String
  mesh : Option Octets
  image : Option Octets
  deriving DecidableEq

namespace Outcome

def succeeded (set : ArtifactSet) (elapsed : Duration) : Outcome where
  base := some set.base
  success := true
  elapsed := elapsed
  failure := none
  failedStage := none
  mesh := some set.mesh
  image := some set.image

def failed (base : Option BaseId) (failure : FailureKind) (stage : Option String)
    (elapsed : Duration) : Outcome where
  base := base
  success := false
  elapsed := elapsed
  failure := some failure
  failedStage := stage
  mesh := none
  image := none

end Outcome

end TreePipeline
