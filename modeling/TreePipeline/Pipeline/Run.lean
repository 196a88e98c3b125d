import TreePipeline.Hash.Sha
import TreePipeline.Pipeline.Executor
import TreePipeline.Store.Allocation

/-!
The run of one submission: reserve an identifier, write the source, build, render. Each of these is
one step of a machine, so that many runs can share a store step by step; `run` takes the steps of
one run until it is finished. A stage that fails ends the run, and every step logs its events.
-/

namespace TreePipeline

/-- A store and the settings of both stages; it holds nothing of any submission. -/
structure Pipeline where
  store : Store
  build : StageConfig
  render : StageConfig
  deriving DecidableEq

inductive SetupError where
  | store (error : ArtifactError)
  | deadlineOverflow
  deriving DecidableEq

namespace Pipeline

/-- Opens the store, then derives the stages' limits; the tree keeps the store either way. -/
def openWith (c : Config) (fs : FileSystem) : Except SetupError Pipeline × FileSystem :=
  match Store.openAt fs (Utf8.encode c.artifactDir) with
  | .error e => (.error (.store e), fs)
  | .ok (store, fs) =>
    match StageConfig.build? c, StageConfig.render? c with
    | some build, some render => (.ok ⟨store, build, render⟩, fs)
    | _, _ => (.error .deadlineOverflow, fs)

end Pipeline

inductive Phase where
  | reserving (attempt : Nat)
  | writing (set : ArtifactSet)
  | building (set : ArtifactSet)
  | rendering (set : ArtifactSet)
  | finished (outcome : Outcome)
  deriving DecidableEq

/-- A run under way: where it stands, when it began, and what it has logged so far. -/
structure Run where
  phase : Phase
  began : Int
  log : List LogEntry
  deriving DecidableEq

namespace Run

def start (fs : FileSystem) : Run := ⟨.reserving 0, fs.clock, []⟩

def elapsed (r : Run) (fs : FileSystem) : Duration := .ofNanos (fs.clock - r.began).toNat

def logPlain (r : Run) (e : Event) : Run := { r with log := r.log ++ [⟨none, e⟩] }

def logWithin (r : Run) (base : BaseId) (es : List Event) : Run :=
  { r with log := r.log ++ es.map fun e => ⟨some base.text, e⟩ }

def finish (r : Run) (o : Outcome) : Run :=
  { r with phase := .finished o }.logPlain
    (.submissionFinished o.success o.elapsed.millis (o.failure.map FailureKind.name))

def skipReason : String := "build stage produced no mesh"

end Run

/-- The tree and the executor's own state, which a step may change. -/
structure World (σ : Type) where
  files : FileSystem
  state : σ

namespace Pipeline

variable {σ : Type}

def stageEvents (stage : Stage) : Except StageError StageResult → List Event
  | .ok r =>
    .stageFinished r.stageName r.durationMillis r.exit.text r.artifactExists r.truncated ::
      Event.diagnostics r.stageName r.output
  | .error e => [.stageError stage.name e.message]

def stageFailure : Except StageError StageResult → Option FailureKind
  | .ok r => r.failure
  | .error e => some e.failureKind

def reserve (p : Pipeline) (draw : Nat → BaseId) (submission : String) (attempt : Nat) (r : Run)
    (w : World σ) : Run × World σ :=
  let refuse (e : ArtifactError) : Run :=
    (r.logPlain (.allocationFailed e.message)).finish
      (.failed none .allocation none (r.elapsed w.files))
  if Store.maxAttempts ≤ attempt then (refuse p.store.exhausted, w)
  else
    let base := draw attempt
    match p.store.attempt base w.files with
    | .reserved fs =>
      let text := Utf8.encode submission
      ({ r with phase := .writing (p.store.setOf base) }.logWithin base
        [.submissionStarted base.text (shortDigest text) text.length], { w with files := fs })
    | .taken =>
      ({ r with phase := .reserving (attempt + 1) }.logPlain (.identifierTaken base.text), w)
    | .refused e => (refuse e, w)

def writeSource (submission : String) (set : ArtifactSet) (r : Run) (w : World σ) : Run × World σ :=
  match w.files.writeFile set.source (Utf8.encode submission) with
  | .ok fs => ({ r with phase := .building set }, { w with files := fs })
  | .error e =>
    ((r.logWithin set.base [.sourceWriteFailed e.message (Utf8.decodeLossy set.source)]).finish
      (.failed (some set.base) .allocation none (r.elapsed w.files)), w)

def runStage (config : StageConfig) (executor : Executor σ) (set : ArtifactSet)
    (next : Run → World σ → Run) (skipped : List Event) (r : Run) (w : World σ) : Run × World σ :=
  let x := executor.execute (config.invocation set) w.files w.state
  let w := { files := x.files, state := x.state : World σ }
  let r := r.logWithin set.base (x.events ++ stageEvents config.stage x.answer)
  match stageFailure x.answer with
  | none => (next r w, w)
  | some kind =>
    ((r.logWithin set.base skipped).finish
      (.failed (some set.base) kind (some config.stage.name) (r.elapsed w.files)), w)

def step (p : Pipeline) (executor : Executor σ) (draw : Nat → BaseId) (submission : String)
    (r : Run) (w : World σ) : Run × World σ :=
  match r.phase with
  | .reserving attempt => p.reserve draw submission attempt r w
  | .writing set => writeSource submission set r w
  | .building set =>
    runStage p.build executor set (fun r _ => { r with phase := .rendering set })
      [.stageSkipped p.render.stage.name Run.skipReason] r w
  | .rendering set =>
    runStage p.render executor set
      (fun r w => r.finish (.succeeded set (r.elapsed w.files))) [] r w
  | .finished _ => (r, w)

def steps (p : Pipeline) (executor : Executor σ) (draw : Nat → BaseId) (submission : String) :
    Nat → Run → World σ → Run × World σ
  | 0, r, w => (r, w)
  | n + 1, r, w =>
    let (r, w) := p.step executor draw submission r w
    steps p executor draw submission n r w

/-- Eight reservations and the refusal after them, the writing and two stages. -/
def maxSteps : Nat := Store.maxAttempts + 4

/-- The outcome of a whole run, its log, and the world it leaves. -/
def run (p : Pipeline) (executor : Executor σ) (draw : Nat → BaseId) (submission : String)
    (w : World σ) : Option Outcome × List LogEntry × World σ :=
  let (r, w) := p.steps executor draw submission maxSteps (Run.start w.files) w
  match r.phase with
  | .finished o => (some o, r.log, w)
  | _ => (none, r.log, w)

end Pipeline

end TreePipeline
