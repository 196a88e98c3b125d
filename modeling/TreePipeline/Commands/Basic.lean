import TreePipeline.Event.Filter
import TreePipeline.Json.Printer
import TreePipeline.Pipeline.Run
import TreePipeline.Stage.Display

/-! What a command is given to work with, and what it leaves for its caller to see. -/

namespace TreePipeline

structure Failure where
  message : String
  cause : Option String
  deriving DecidableEq

namespace Failure

def ofArtifact (e : ArtifactError) : Failure :=
  match e with
  | .system cause => ⟨e.message, some cause.message⟩
  | _ => ⟨e.message, none⟩

def setIn (s : String) : String :=
  "    " ++ String.ofList (s.toList.flatMap fun c => if c = '\n' then "\n    ".toList else [c])

def text (f : Failure) : String :=
  let behind := match f.cause with
    | some c => "\n\nCaused by:\n" ++ setIn c
    | none => ""
  "Error: " ++ f.message ++ behind ++ "\n"

end Failure

/-- The environment variables, what comes of reading the standard input, the candidates for
identifiers, and what runs the stages once it is settled how displays are checked. -/
structure Session (σ : Type) where
  environment? : String → Option String
  input : Except SystemError Octets
  draw : Nat → BaseId
  executor : DisplayProbe → Executor σ

structure Ending where
  code : Nat
  output : String
  log : List LogEntry
  complaint : String
  deriving DecidableEq

namespace Ending

def plain (code : Nat) (output : String) : Ending := ⟨code, output, [], ""⟩

def failed (f : Failure) : Ending := ⟨1, "", [], f.text⟩

def logLines (e : Ending) (f : LogFilter) (time : Timestamp) : List String :=
  (e.log.filterMap (LogEntry.filtered? f)).map fun entry => (entry.toJson time).compact

end Ending

def Timestamp.ofClock (clock : Int) : Timestamp :=
  ⟨clock.fdiv 1000000000, (clock.fmod 1000000000).toNat⟩

end TreePipeline
