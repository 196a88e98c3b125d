import TreePipeline.Json.Value
import TreePipeline.Text.Numeral

/-!
Events in the life of a submission, as they are logged. Output of the tools appears at the debug
level only.
-/

namespace TreePipeline

inductive Level where
  | error
  | warn
  | info
  | debug
  | trace
  deriving DecidableEq

namespace Level

def name : Level → String
  | .error => "ERROR"
  | .warn => "WARN"
  | .info => "INFO"
  | .debug => "DEBUG"
  | .trace => "TRACE"

def all : List Level := [.error, .warn, .info, .debug, .trace]

def parse? (s : String) : Option Level :=
  match Numeral.read (0xffffffffffffffff) s with
  | .ok n => if n = 0 then none else all[n - 1]?
  | .error _ => all.find? fun l => l.name = s.toUpper

def detail : Level → Nat
  | .error => 1
  | .warn => 2
  | .info => 3
  | .debug => 4
  | .trace => 5

end Level

inductive Event where
  | identifierTaken (base : String)
  | allocationFailed (error : String)
  | sourceWriteFailed (error path : String)
  | submissionStarted (base digest : String) (bytes : Nat)
  | stageFinished (stage : String) (millis : Nat) (exit : String) (artifactExists truncated : Bool)
  | stageDiagnostics (stage output : String)
  | stageSkipped (stage reason : String)
  | stageError (stage error : String)
  | deadlineExceeded (stage : String) (limitMillis : Nat)
  | pipesAbandoned (stage : String)
  | submissionFinished (success : Bool) (millis : Nat) (failure : Option String)
  | generationStarting (cpuLimitSecs : Nat) (artifactDir : String)
  | artifactsPurged (root : String) (removed : Nat)
  deriving DecidableEq

namespace Event

def level : Event → Level
  | .identifierTaken _ => .warn
  | .allocationFailed _ => .error
  | .sourceWriteFailed _ _ => .error
  | .stageDiagnostics _ _ => .debug
  | .stageError _ _ => .warn
  | .deadlineExceeded _ _ => .warn
  | .pipesAbandoned _ => .debug
  | _ => .info

def fields : Event → Json.Members
  | .identifierTaken base =>
    [("message", .string "artifact identifier collision, retrying"), ("base_id", .string base)]
  | .allocationFailed error =>
    [("message", .string "artifact allocation failed"), ("error", .string error)]
  | .sourceWriteFailed error path =>
    [("message", .string "failed to write grammar source"), ("error", .string error),
      ("path", .string path)]
  | .submissionStarted base digest bytes =>
    [("event", .string "submission.started"), ("base_id", .string base),
      ("digest", .string digest), ("bytes", .ofNat bytes)]
  | .stageFinished stage millis exit artifactExists truncated =>
    [("event", .string "stage.finished"), ("stage", .string stage), ("duration_ms", .ofNat millis),
      ("exit", .string exit), ("artifact_exists", .bool artifactExists),
      ("truncated", .bool truncated)]
  | .stageDiagnostics stage output =>
    [("event", .string "stage.diagnostics"), ("stage", .string stage), ("output", .string output)]
  | .stageSkipped stage reason =>
    [("event", .string "stage.skipped"), ("stage", .string stage), ("reason", .string reason)]
  | .stageError stage error =>
    [("event", .string "stage.error"), ("stage", .string stage), ("error", .string error)]
  | .deadlineExceeded stage limitMillis =>
    [("message", .string "stage exceeded supervisory deadline, killing process group"),
      ("stage", .string stage), ("wall_limit_ms", .ofNat limitMillis)]
  | .pipesAbandoned stage =>
    [("message", .string "stage output still open after exit, abandoning pipes"),
      ("stage", .string stage)]
  | .submissionFinished success millis failure =>
    [("event", .string "submission.finished"), ("success", .bool success),
      ("elapsed_ms", .ofNat millis), ("failure", .string (failure.getD "none"))]
  | .generationStarting cpuLimitSecs artifactDir =>
    [("message", .string "Starting generation"), ("cpu_limit_secs", .ofNat cpuLimitSecs),
      ("artifact_dir", .string artifactDir)]
  | .artifactsPurged root removed =>
    [("event", .string "artifacts.purged"), ("root", .string root), ("removed", .ofNat removed)]

def diagnostics (stage output : String) : List Event :=
  if output = "" then [] else [.stageDiagnostics stage output]

end Event

structure LogEntry where
  span : Option String
  event : Event
  deriving DecidableEq

namespace LogEntry

def spanName : String := "treegen.submission"

def within (base : String) (e : LogEntry) : LogEntry :=
  match e.span with
  | none => { e with span := some base }
  | some _ => e

end LogEntry

end TreePipeline
