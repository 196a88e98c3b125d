import TreePipeline.Files.Errno
import TreePipeline.Outcome
import TreePipeline.Time.Duration

/-!
How a tool ended, and what came of its stage: a result, or the error that kept it from being run to its
end. A raw wait status of 32 bits is an exit if its low seven bits are zero, a death by signal if they are
from 1 to 126, and neither otherwise.
-/

namespace TreePipeline

inductive ExitOutcome where
  | exited (code : Int)
  | signaled (signal : Int)
  | timeoutKilled
  deriving DecidableEq

namespace ExitOutcome

def text : ExitOutcome → String
  | .exited code => "exit:" ++ toString code
  | .signaled signal => "signal:" ++ toString signal
  | .timeoutKilled => "timeout_killed"

end ExitOutcome

namespace WaitStatus

def lowBits (status : UInt32) : Nat := status.toNat % 128

def exitCode? (status : UInt32) : Option Nat :=
  if lowBits status = 0 then some (status.toNat / 256 % 256) else none

def signal? (status : UInt32) : Option Nat :=
  if 1 ≤ lowBits status ∧ lowBits status ≤ 126 then some (lowBits status) else none

def ofExit (code : Nat) : UInt32 := (code % 256 * 256).toUInt32

def ofSignal (signal : Nat) : UInt32 := (signal % 128).toUInt32

end WaitStatus

def signalKill : Nat := 9

def signalCpuLimit : Nat := 24

/-- The verdict on a wait status. Only the CPU limit sends SIGXCPU; SIGKILL counts as the limit's
once the tool has run as long as the limit allows. -/
def classify (status : UInt32) (cpuLimit elapsed : Duration) : ExitOutcome :=
  match WaitStatus.exitCode? status with
  | some code => .exited code
  | none =>
    match WaitStatus.signal? status with
    | some n =>
      if n = signalCpuLimit then .timeoutKilled
      else if n = signalKill ∧ cpuLimit.le elapsed then .timeoutKilled
      else .signaled n
    | none => .exited (-1)

structure StageResult where
  stageName : String
  exit : ExitOutcome
  output : String
  truncated : Bool
  durationMillis : Nat
  artifactExists : Bool
  deriving DecidableEq

namespace StageResult

/-- Exit codes are not trusted: a stage fails if it was killed or its output file is missing. -/
def failure (r : StageResult) : Option FailureKind :=
  if r.exit = .timeoutKilled then some .timeoutKilled
  else if r.artifactExists then none
  else some .missingArtifact

def passed (r : StageResult) : Bool := r.failure.isNone

end StageResult

inductive StageError where
  | launch (program : Octets) (cause : SystemError)
  | displayUnavailable (display : String)
  | system (cause : SystemError)
  deriving DecidableEq

namespace StageError

def message : StageError → String
  | .launch program cause =>
    "failed to launch " ++ Utf8.decodeLossy program ++ ": " ++ cause.message
  | .displayUnavailable display => "display " ++ display ++ " is not available"
  | .system cause => "io error while supervising stage: " ++ cause.message

def failureKind (_ : StageError) : FailureKind := .launch

end StageError

end TreePipeline
