import TreePipeline.Commands.Basic
import TreePipeline.Report

/-!
The command that runs one submission. The whole grammar is read before the store is opened, so a
grammar that cannot be read leaves no trace.
-/

namespace TreePipeline.Commands

variable {σ : Type}

def readGrammar (s : Session σ) (input : Option String) (fs : FileSystem) : Except Failure String :=
  match input with
  | some path =>
    match fs.readText (Utf8.encode path) with
    | .ok text => .ok text
    | .error e => .error ⟨"Failed to read grammar file: " ++ path, some e.message⟩
  | none =>
    match s.input.bind FileSystem.asText with
    | .ok text => .ok text
    | .error e => .error ⟨"Failed to read grammar from stdin", some e.message⟩

def overflowCode : Nat := 101

def overflowText : String := "overflow when multiplying duration by scalar"

def refusal : SetupError → Ending
  | .store e => .failed ⟨"Failed to open artifact store", some e.message⟩
  | .deadlineOverflow => ⟨overflowCode, "", [], overflowText ++ "\n"⟩

/-- The printed report of a finished run, and whether it is one of success. -/
def conclude (log : List LogEntry) (outcome : Outcome) (clock : Int) : Ending :=
  let report := Report.ofOutcome outcome (.ofClock clock)
  ⟨if report.success then 0 else 1, report.toJson.pretty ++ "\n", log, ""⟩

def runPipeline (s : Session σ) (c : Config) (p : Pipeline) (probe : DisplayProbe)
    (submission : String) (w : World σ) : Ending × World σ :=
  let starting : LogEntry := ⟨none, .generationStarting c.cpuLimitSecs.toNat c.artifactDir⟩
  match p.run (s.executor probe) s.draw submission w with
  | (some outcome, log, w) => (conclude (starting :: log) outcome w.files.clock, w)
  | (none, log, w) => (⟨1, "", starting :: log, ""⟩, w)

def generate (s : Session σ) (c : Config) (input : Option String) (skipDisplayCheck : Bool)
    (w : World σ) : Ending × World σ :=
  match readGrammar s input w.files with
  | .error f => (.failed f, w)
  | .ok submission =>
    let probe : DisplayProbe := if skipDisplayCheck then .skip else .standard
    match Pipeline.openWith c w.files with
    | (.error e, fs) => (refusal e, { w with files := fs })
    | (.ok p, fs) => runPipeline s c p probe submission { w with files := fs }

end TreePipeline.Commands
