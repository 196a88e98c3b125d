import TreePipeline.Proofs.Pipeline.Discretion
import TreePipeline.Proofs.Pipeline.Secrecy
import TreePipeline.Proofs.Supervision.History

/-! The log of a run as a word of a grammar. Each step of a run tells what it did, so that the whole
log is fixed by what was reserved, what was written and what the executor answered. What a tool put
out is in entries of the debug level alone: with other outputs the run and all its other entries are
the same. -/

namespace TreePipeline

variable {σ : Type}

def LogEntry.taken (base : BaseId) : LogEntry := ⟨none, .identifierTaken base.text⟩

def LogEntry.refused (e : ArtifactError) : LogEntry := ⟨none, .allocationFailed e.message⟩

def BaseId.span (base : BaseId) (es : List Event) : List LogEntry :=
  es.map fun e => ⟨some base.text, e⟩

lemma BaseId.span_append (base : BaseId) (es es' : List Event) :
    base.span (es ++ es') = base.span es ++ base.span es' := List.map_append

lemma BaseId.span_join (base : BaseId) (before after : List LogEntry) (es es' : List Event) :
    before ++ base.span es ++ (base.span es' ++ after) = before ++ base.span (es ++ es') ++ after := by
  rw [span_append, ← List.append_assoc, List.append_assoc before]

def Outcome.closing (o : Outcome) : LogEntry :=
  ⟨none, .submissionFinished o.success o.elapsed.millis (o.failure.map FailureKind.name)⟩

lemma Outcome.IsConsistent.closing {o : Outcome} (ho : o.IsConsistent) :
    o.closing.event.fields.lookup "success" = some (.bool o.success) ∧
      (o.closing.event.fields.lookup "failure" = some (.string "none") ↔ o.success = true) := by
  have hfield : o.closing.event.fields.lookup "failure" =
      some (.string ((o.failure.map FailureKind.name).getD "none")) := rfl
  refine ⟨rfl, ?_⟩
  rw [hfield, ho.failure]
  cases o.failure with
  | none => exact iff_of_true rfl rfl
  | some kind =>
    refine iff_of_false ?_ (Option.some_ne_none kind)
    intro h
    have hname : kind.name = "none" := Json.string.inj (Option.some.inj h)
    cases kind <;> exact absurd hname (by decide)

lemma Run.log_finish (r : Run) (o : Outcome) : (r.finish o).log = r.log ++ [o.closing] := rfl

lemma Run.log_logWithin (r : Run) (base : BaseId) (es : List Event) :
    (r.logWithin base es).log = r.log ++ base.span es := rfl

def Event.started (base : BaseId) (submission : String) : Event :=
  .submissionStarted base.text (shortDigest (Utf8.encode submission)) (Utf8.encode submission).length

def StageResult.finishing (r : StageResult) : Event :=
  .stageFinished r.stageName r.durationMillis r.exit.text r.artifactExists r.truncated

namespace Exchange

inductive Tells (x : Exchange) : List Event → Prop where
  | silent {result} (h : x.answer = .ok result) (hout : result.output = "") :
    Tells x [result.finishing]
  | spoken {result} (h : x.answer = .ok result) (hout : result.output ≠ "") :
    Tells x [result.finishing, .stageDiagnostics result.stageName result.output]
  | broken {e} (h : x.answer = .error e) :
    Tells x [.stageError x.invocation.stageName e.message]

def failure (x : Exchange) : Option FailureKind := Pipeline.stageFailure x.answer

end Exchange

namespace Pipeline

variable {p : Pipeline} {executor : Executor σ} {draw : Nat → BaseId} {submission : String}

/-! What a step tells -/

def exchange (executor : Executor σ) (i : Invocation) (w : World σ) : Exchange :=
  let x := executor.execute i w.files w.state
  ⟨w.files, i, x.answer, x.events, x.files.clock⟩

lemma tells_exchange (executor : Executor σ) (config : StageConfig) (set : ArtifactSet)
    (w : World σ) :
    (exchange executor (config.invocation set) w).Tells (stageEvents config.stage
      (executor.execute (config.invocation set) w.files w.state).answer) := by
  cases hanswer : (executor.execute (config.invocation set) w.files w.state).answer with
  | error e => exact .broken hanswer
  | ok result =>
    by_cases hout : result.output = ""
    · have hquiet : Event.diagnostics result.stageName result.output = [] := if_pos hout
      rw [stageEvents, hquiet]
      exact .silent hanswer hout
    · have hloud : Event.diagnostics result.stageName result.output =
        [.stageDiagnostics result.stageName result.output] := if_neg hout
      rw [stageEvents, hloud]
      exact .spoken hanswer hout

def remaining (p : Pipeline) (draw : Nat → BaseId) (fs : FileSystem) (k : Nat) : Store.Allocation :=
  p.store.allocateFrom draw fs (Store.maxAttempts - k) k

lemma remaining_of_le {k : Nat} (h : Store.maxAttempts ≤ k) (fs : FileSystem) :
    p.remaining draw fs k = ⟨.error p.store.exhausted, fs, []⟩ := by
  rw [remaining, Nat.sub_eq_zero_of_le h, Store.allocateFrom]

lemma remaining_of_lt {k : Nat} (h : ¬ Store.maxAttempts ≤ k) (fs : FileSystem) :
    p.remaining draw fs k =
      match p.store.attempt (draw k) fs with
      | .reserved fs => ⟨.ok (p.store.setOf (draw k)), fs, []⟩
      | .refused e => ⟨.error e, fs, []⟩
      | .taken => { p.remaining draw fs (k + 1) with
          passed := draw k :: (p.remaining draw fs (k + 1)).passed } := by
  have hleft : Store.maxAttempts - k = Store.maxAttempts - (k + 1) + 1 := by omega
  rw [remaining, hleft, Store.allocateFrom]
  rfl

/-- What a step tells, by the trees and the phases between which it leads, and the exchange that it
makes with the executor. -/
inductive Says (p : Pipeline) (draw : Nat → BaseId) (submission : String) :
    FileSystem → FileSystem → Phase → Phase → List Exchange → List LogEntry → Prop where
  | passedOver {fs k} (h : p.remaining draw fs k =
        { p.remaining draw fs (k + 1) with
          passed := draw k :: (p.remaining draw fs (k + 1)).passed }) :
    Says p draw submission fs fs (.reserving k) (.reserving (k + 1)) [] [.taken (draw k)]
  | refused {fs k e o} (h : p.remaining draw fs k = ⟨.error e, fs, []⟩)
      (ho : o.base = none ∧ o.failure = some .allocation) :
    Says p draw submission fs fs (.reserving k) (.finished o) [] [.refused e, o.closing]
  | reserved {fs fs₁ k} (h : p.remaining draw fs k = ⟨.ok (p.store.setOf (draw k)), fs₁, []⟩) :
    Says p draw submission fs fs₁ (.reserving k) (.writing (p.store.setOf (draw k))) []
      ((draw k).span [.started (draw k) submission])
  | written {fs fs₁ set} (h : fs.writeFile set.source (Utf8.encode submission) = .ok fs₁) :
    Says p draw submission fs fs₁ (.writing set) (.building set) [] []
  | unwritten {fs set e o} (h : fs.writeFile set.source (Utf8.encode submission) = .error e)
      (ho : o.base = some set.base ∧ o.failure = some .allocation) :
    Says p draw submission fs fs (.writing set) (.finished o) []
      (set.base.span [.sourceWriteFailed e.message (Utf8.decodeLossy set.source)] ++ [o.closing])
  | built {fs fs₁ set x es} (hx : x.invocation = p.build.invocation set) (hes : x.Tells es)
      (hpassed : x.failure = none) :
    Says p draw submission fs fs₁ (.building set) (.rendering set) [x]
      (set.base.span (x.events ++ es))
  | unbuilt {fs fs₁ set x es o} (hx : x.invocation = p.build.invocation set) (hes : x.Tells es)
      (hfailed : x.failure ≠ none) (ho : o.base = some set.base) :
    Says p draw submission fs fs₁ (.building set) (.finished o) [x]
      (set.base.span (x.events ++ es ++ [.stageSkipped p.render.stage.name Run.skipReason]) ++
        [o.closing])
  | rendered {fs fs₁ set x es o} (hx : x.invocation = p.render.invocation set) (hes : x.Tells es)
      (ho : o.base = some set.base) :
    Says p draw submission fs fs₁ (.rendering set) (.finished o) [x]
      (set.base.span (x.events ++ es) ++ [o.closing])
  | ended {fs o} : Says p draw submission fs fs (.finished o) (.finished o) [] []

def exchanges (p : Pipeline) (executor : Executor σ) (r : Run) (w : World σ) : List Exchange :=
  match r.phase with
  | .building set => [exchange executor (p.build.invocation set) w]
  | .rendering set => [exchange executor (p.render.invocation set) w]
  | .reserving _ | .writing _ | .finished _ => []

def StepSays (p : Pipeline) (executor : Executor σ) (draw : Nat → BaseId) (submission : String)
    (r : Run) (w : World σ) (x : Run × World σ) : Prop :=
  ∃ es, x.1.log = r.log ++ es ∧ p.Says draw submission w.files x.2.files r.phase x.1.phase
    (p.exchanges executor r w) es

lemma stepSays_reserve (executor : Executor σ) {k : Nat} {r : Run} (hphase : r.phase = .reserving k)
    (w : World σ) :
    p.StepSays executor draw submission r w (p.reserve draw submission k r w) := by
  have hquiet : p.exchanges executor r w = [] := by rw [exchanges, hphase]
  rw [StepSays, hquiet, hphase]
  simp only [reserve]
  by_cases hlast : Store.maxAttempts ≤ k
  · rw [if_pos hlast]
    exact ⟨_, List.append_assoc .., .refused (remaining_of_le hlast _) ⟨rfl, rfl⟩⟩
  · have hremaining : p.remaining draw w.files k = _ := remaining_of_lt hlast w.files
    rw [if_neg hlast]
    cases hattempt : p.store.attempt (draw k) w.files with
    | reserved fs =>
      rw [hattempt] at hremaining
      exact ⟨_, rfl, .reserved hremaining⟩
    | taken =>
      rw [hattempt] at hremaining
      exact ⟨_, rfl, .passedOver hremaining⟩
    | refused e =>
      rw [hattempt] at hremaining
      exact ⟨_, List.append_assoc .., .refused hremaining ⟨rfl, rfl⟩⟩

lemma stepSays_writeSource (executor : Executor σ) {set : ArtifactSet} {r : Run}
    (hphase : r.phase = .writing set) (w : World σ) :
    p.StepSays executor draw submission r w (writeSource submission set r w) := by
  have hquiet : p.exchanges executor r w = [] := by rw [exchanges, hphase]
  rw [StepSays, hquiet, hphase]
  simp only [writeSource]
  cases hwrite : w.files.writeFile set.source (Utf8.encode submission) with
  | ok fs => exact ⟨[], (List.append_nil _).symm, .written hwrite⟩
  | error e => exact ⟨_, List.append_assoc .., .unwritten hwrite ⟨rfl, rfl⟩⟩

lemma stepSays (p : Pipeline) (executor : Executor σ) (draw : Nat → BaseId) (submission : String)
    (r : Run) (w : World σ) :
    p.StepSays executor draw submission r w (p.step executor draw submission r w) := by
  cases hphase : r.phase with
  | reserving k =>
    rw [step_reserving hphase]
    exact stepSays_reserve executor hphase w
  | writing set =>
    rw [step_writing hphase]
    exact stepSays_writeSource executor hphase w
  | building set =>
    have htells := tells_exchange executor p.build set w
    rw [step_building hphase, StepSays, exchanges, hphase, runStage_eq]
    dsimp only [afterStage]
    cases hfailure : stageFailure
        (executor.execute (p.build.invocation set) w.files w.state).answer with
    | none => exact ⟨_, rfl, .built rfl htells hfailure⟩
    | some kind =>
      have hfailed : (exchange executor (p.build.invocation set) w).failure ≠ none := by
        rw [Exchange.failure, exchange, hfailure]
        exact Option.some_ne_none kind
      refine ⟨_, ?_, .unbuilt rfl htells hfailed rfl⟩
      rw [Run.log_finish, Run.log_logWithin, Run.log_logWithin, BaseId.span_append set.base (_ ++ _)]
      simp only [List.append_assoc]
      rfl
  | rendering set =>
    have htells := tells_exchange executor p.render set w
    rw [step_rendering hphase, StepSays, exchanges, hphase, runStage_eq]
    dsimp only [afterStage]
    cases hfailure : stageFailure
        (executor.execute (p.render.invocation set) w.files w.state).answer with
    | none => exact ⟨_, List.append_assoc .., .rendered rfl htells rfl⟩
    | some kind =>
      refine ⟨_, ?_, .rendered rfl htells rfl⟩
      rw [Run.log_finish, Run.log_logWithin, Run.log_logWithin, List.append_assoc, List.append_assoc]
      rfl
  | finished o =>
    rw [step_finished hphase, StepSays, exchanges, hphase]
    exact ⟨[], (List.append_nil _).symm, .ended⟩

/-! What a whole run tells -/

/-- The word of a whole run. The candidates passed over come first. If none was reserved there is one
error and the end. Else the run has started; one error if its source could not be written, or else the
calls in their order, and that rendering was skipped if the first of them failed. The end is last. -/
inductive Account (p : Pipeline) (draw : Nat → BaseId) (submission : String) (fs : FileSystem) :
    Outcome → List Exchange → List LogEntry → Prop where
  | unreserved {o e fs₁ passed} (h : p.store.allocate draw fs = ⟨.error e, fs₁, passed⟩)
      (ho : o.base = none ∧ o.failure = some .allocation) :
    Account p draw submission fs o [] (passed.map .taken ++ [.refused e, o.closing])
  | unwritten {o set fs₁ passed e} (h : p.store.allocate draw fs = ⟨.ok set, fs₁, passed⟩)
      (hwrite : fs₁.writeFile set.source (Utf8.encode submission) = .error e)
      (ho : o.base = some set.base ∧ o.failure = some .allocation) :
    Account p draw submission fs o [] (passed.map .taken ++
      set.base.span [.started set.base submission,
        .sourceWriteFailed e.message (Utf8.decodeLossy set.source)] ++ [o.closing])
  | unbuilt {o set fs₁ passed fs₂ x es} (h : p.store.allocate draw fs = ⟨.ok set, fs₁, passed⟩)
      (hwrite : fs₁.writeFile set.source (Utf8.encode submission) = .ok fs₂)
      (hx : x.invocation = p.build.invocation set) (hes : x.Tells es) (hfailed : x.failure ≠ none)
      (ho : o.base = some set.base) :
    Account p draw submission fs o [x] (passed.map .taken ++
      set.base.span (.started set.base submission :: (x.events ++ es ++
        [.stageSkipped p.render.stage.name Run.skipReason])) ++ [o.closing])
  | built {o set fs₁ passed fs₂ x es y es'} (h : p.store.allocate draw fs = ⟨.ok set, fs₁, passed⟩)
      (hwrite : fs₁.writeFile set.source (Utf8.encode submission) = .ok fs₂)
      (hx : x.invocation = p.build.invocation set) (hes : x.Tells es) (hpassed : x.failure = none)
      (hy : y.invocation = p.render.invocation set) (hes' : y.Tells es')
      (ho : o.base = some set.base) :
    Account p draw submission fs o [x, y] (passed.map .taken ++
      set.base.span (.started set.base submission :: (x.events ++ es ++ (y.events ++ es'))) ++
        [o.closing])

inductive Told (p : Pipeline) (draw : Nat → BaseId) (submission : String) (fs : FileSystem) :
    FileSystem → Phase → List Exchange → List LogEntry → Prop where
  | reserving {k} (h : p.store.allocate draw fs = { p.remaining draw fs k with
        passed := (List.range k).map draw ++ (p.remaining draw fs k).passed }) :
    Told p draw submission fs fs (.reserving k) [] (((List.range k).map draw).map .taken)
  | writing {set fs₁ passed} (h : p.store.allocate draw fs = ⟨.ok set, fs₁, passed⟩) :
    Told p draw submission fs fs₁ (.writing set) []
      (passed.map .taken ++ set.base.span [.started set.base submission])
  | building {set fs₁ passed fs₂} (h : p.store.allocate draw fs = ⟨.ok set, fs₁, passed⟩)
      (hwrite : fs₁.writeFile set.source (Utf8.encode submission) = .ok fs₂) :
    Told p draw submission fs fs₂ (.building set) []
      (passed.map .taken ++ set.base.span [.started set.base submission])
  | rendering {set fs₁ passed fs₂ fs₃ x es} (h : p.store.allocate draw fs = ⟨.ok set, fs₁, passed⟩)
      (hwrite : fs₁.writeFile set.source (Utf8.encode submission) = .ok fs₂)
      (hx : x.invocation = p.build.invocation set) (hes : x.Tells es) (hpassed : x.failure = none) :
    Told p draw submission fs fs₃ (.rendering set) [x] (passed.map .taken ++
      set.base.span (.started set.base submission :: (x.events ++ es)))
  | finished {fs₁ o xs log} (h : p.Account draw submission fs o xs log) :
    Told p draw submission fs fs₁ (.finished o) xs log

variable {fs fs₁ fs₂ : FileSystem} {phase phase' : Phase} {xs ys : List Exchange}
  {log es : List LogEntry}

lemma told_start (p : Pipeline) (draw : Nat → BaseId) (submission : String) (fs : FileSystem) :
    p.Told draw submission fs fs (.reserving 0) [] [] :=
  .reserving rfl

lemma Told.extend_reserving {k : Nat} (h : p.Told draw submission fs fs₁ (.reserving k) xs log)
    (hstep : p.Says draw submission fs₁ fs₂ (.reserving k) phase' ys es) :
    p.Told draw submission fs fs₂ phase' (xs ++ ys) (log ++ es) := by
  cases h with
  | reserving h =>
    cases hstep with
    | passedOver hrest =>
      have hmore : (List.range (k + 1)).map draw = (List.range k).map draw ++ [draw k] := by
        rw [List.range_succ, List.map_append]
        rfl
      have hlog : ((List.range k).map draw).map LogEntry.taken ++ [.taken (draw k)] =
          ((List.range (k + 1)).map draw).map .taken := by
        rw [hmore, List.map_append]
        rfl
      rw [hlog]
      apply Told.reserving
      rw [h, hrest, hmore, List.append_assoc]
      rfl
    | refused hrest ho =>
      rw [hrest] at h
      simp only [List.append_nil] at h
      exact .finished (.unreserved h ho)
    | reserved hrest =>
      rw [hrest] at h
      simp only [List.append_nil] at h
      exact .writing h

lemma Told.extend (h : p.Told draw submission fs fs₁ phase xs log)
    (hstep : p.Says draw submission fs₁ fs₂ phase phase' ys es) :
    p.Told draw submission fs fs₂ phase' (xs ++ ys) (log ++ es) := by
  cases h with
  | reserving hallocate => exact extend_reserving (.reserving hallocate) hstep
  | writing hallocate =>
    cases hstep with
    | written hwrite =>
      rw [List.append_nil, List.append_nil]
      exact .building hallocate hwrite
    | unwritten hwrite ho =>
      rw [BaseId.span_join]
      exact .finished (.unwritten hallocate hwrite ho)
  | building hallocate hwrite =>
    cases hstep with
    | built hx hes hpassed =>
      rw [List.append_assoc, ← BaseId.span_append]
      exact .rendering hallocate hwrite hx hes hpassed
    | unbuilt hx hes hfailed ho =>
      rw [BaseId.span_join]
      exact .finished (.unbuilt hallocate hwrite hx hes hfailed ho)
  | rendering hallocate hwrite hx hes hpassed =>
    cases hstep with
    | rendered hy hes' ho =>
      rw [BaseId.span_join]
      exact .finished (.built hallocate hwrite hx hes hpassed hy hes' ho)
  | finished haccount =>
    cases hstep with
    | ended =>
      rw [List.append_nil, List.append_nil]
      exact .finished haccount

lemma Told.account {o : Outcome} (h : p.Told draw submission fs fs₁ (.finished o) xs log) :
    p.Account draw submission fs o xs log := by
  cases h with
  | finished haccount => exact haccount

lemma exchanges_observed (p : Pipeline) (executor : Executor σ) (draw : Nat → BaseId)
    (submission : String) (r : Run) (w : World (σ × List Exchange)) :
    (p.step executor.observed draw submission r w).2.state.2 =
      w.state.2 ++ p.exchanges executor.observed r w := by
  cases hphase : r.phase with
  | reserving k =>
    rw [step_reserving hphase, exchanges, hphase, List.append_nil]
    simp only [reserve]
    split
    · rfl
    · split <;> rfl
  | writing set =>
    rw [step_writing hphase, exchanges, hphase, List.append_nil]
    simp only [writeSource]
    split <;> rfl
  | building set =>
    rw [step_building hphase, exchanges, hphase, runStage_eq]
    rfl
  | rendering set =>
    rw [step_rendering hphase, exchanges, hphase, runStage_eq]
    rfl
  | finished o => rw [step_finished hphase, exchanges, hphase, List.append_nil]

lemma told_steps (p : Pipeline) (executor : Executor σ) (draw : Nat → BaseId) (submission : String)
    (w : World σ) (n : Nat) :
    let x := p.steps executor.observed draw submission n (Run.start w.files) (w.withExchanges [])
    p.Told draw submission w.files x.2.files x.1.phase x.2.state.2 x.1.log := by
  induction n with
  | zero => exact p.told_start draw submission w.files
  | succ n ih =>
    simp only [steps_succ]
    generalize p.steps executor.observed draw submission n (Run.start w.files) (w.withExchanges []) =
      x at ih ⊢
    obtain ⟨es, hlog, hstep⟩ := p.stepSays executor.observed draw submission x.1 x.2
    rw [exchanges_observed, hlog]
    exact ih.extend hstep

lemma exists_account (p : Pipeline) (executor : Executor σ) (draw : Nat → BaseId)
    (submission : String) (w : World σ) :
    ∃ o log w' xs, p.Passes executor draw submission w o log w' xs ∧
      p.Account draw submission w.files o xs log := by
  obtain ⟨r, o, w', xs, hsteps, hphase, hpasses⟩ := p.exists_passes executor draw submission w
  have htold := p.told_steps executor draw submission w maxSteps
  rw [show p.steps executor.observed draw submission maxSteps (Run.start w.files)
    (w.withExchanges []) = _ from hsteps] at htold
  dsimp only at htold
  rw [hphase] at htold
  exact ⟨o, r.log, w', xs, hpasses, htold.account⟩

end Pipeline

/-! Outputs of tools -/

/-- The entry is above the debug level. -/
def LogEntry.isLoud (e : LogEntry) : Bool := decide (e.event.level.detail < Level.debug.detail)

/-- The executor with other outputs in its results. -/
def Executor.reworded (executor : Executor σ) (text : Invocation → FileSystem → σ → String) :
    Executor σ where
  execute i fs state :=
    let x := executor.execute i fs state
    { x with answer := x.answer.map fun r => { r with output := text i fs state } }

namespace Pipeline

variable {answer : Except StageError StageResult} {text : String}

lemma stageFailure_reworded : stageFailure (answer.map fun r => { r with output := text }) =
    stageFailure answer := by
  cases answer <;> rfl

lemma loud_diagnostics (base : BaseId) (name output : String) :
    (base.span (Event.diagnostics name output)).filter LogEntry.isLoud = [] := by
  by_cases hout : output = ""
  · rw [Event.diagnostics, if_pos hout]
    rfl
  · rw [Event.diagnostics, if_neg hout]
    rfl

lemma loud_stageEvents (base : BaseId) (es : List Event) (stage : Stage)
    (answer : Except StageError StageResult) (text : String) :
    (base.span (es ++ stageEvents stage answer)).filter LogEntry.isLoud =
      (base.span (es ++ stageEvents stage (answer.map fun r => { r with output := text }))).filter
        LogEntry.isLoud := by
  rw [BaseId.span_append, BaseId.span_append, List.filter_append, List.filter_append]
  congr 1
  cases answer with
  | error e => rfl
  | ok result =>
    have hloud : ∀ output, (base.span (result.finishing ::
        Event.diagnostics result.stageName output)).filter LogEntry.isLoud =
        base.span [result.finishing] := by
      intro output
      have htail := loud_diagnostics base result.stageName output
      exact congrArg (List.cons _) htail
    exact (hloud _).trans (hloud _).symm

end Pipeline

structure Run.Concurs (r r' : Run) : Prop where
  phase : r.phase = r'.phase
  began : r.began = r'.began
  log : r.log.filter LogEntry.isLoud = r'.log.filter LogEntry.isLoud

namespace Run.Concurs

variable {r r' : Run}

lemma setPhase (h : r.Concurs r') (phase : Phase) :
    Run.Concurs { r with phase := phase } { r' with phase := phase } :=
  ⟨rfl, h.began, h.log⟩

lemma extend (h : r.Concurs r') {es es' : List LogEntry}
    (hes : es.filter LogEntry.isLoud = es'.filter LogEntry.isLoud) :
    Run.Concurs { r with log := r.log ++ es } { r' with log := r'.log ++ es' } := by
  refine ⟨h.phase, h.began, ?_⟩
  rw [List.filter_append, List.filter_append, h.log, hes]

lemma finish (h : r.Concurs r') (o : Outcome) : (r.finish o).Concurs (r'.finish o) :=
  (h.setPhase (.finished o)).extend rfl

lemma elapsed (h : r.Concurs r') (fs : FileSystem) : r.elapsed fs = r'.elapsed fs := by
  rw [Run.elapsed, Run.elapsed, h.began]

end Run.Concurs

namespace Pipeline

variable {p : Pipeline} {draw : Nat → BaseId} {submission : String} {r r' : Run} {w : World σ}

lemma concurs_reserve (hr : r.Concurs r') (attempt : Nat) :
    (p.reserve draw submission attempt r w).1.Concurs
        (p.reserve draw submission attempt r' w).1 ∧
      (p.reserve draw submission attempt r w).2 = (p.reserve draw submission attempt r' w).2 := by
  have helapsed := hr.elapsed w.files
  simp only [reserve]
  by_cases hlast : Store.maxAttempts ≤ attempt
  · rw [if_pos hlast, if_pos hlast, helapsed]
    exact ⟨(hr.extend rfl).finish _, rfl⟩
  · rw [if_neg hlast, if_neg hlast]
    cases p.store.attempt (draw attempt) w.files with
    | reserved fs => exact ⟨(hr.setPhase _).extend rfl, rfl⟩
    | taken => exact ⟨(hr.setPhase _).extend rfl, rfl⟩
    | refused e =>
      dsimp only
      rw [helapsed]
      exact ⟨(hr.extend rfl).finish _, rfl⟩

lemma concurs_writeSource (hr : r.Concurs r') (set : ArtifactSet) :
    (writeSource submission set r w).1.Concurs (writeSource submission set r' w).1 ∧
      (writeSource submission set r w).2 = (writeSource submission set r' w).2 := by
  have helapsed := hr.elapsed w.files
  simp only [writeSource]
  cases w.files.writeFile set.source (Utf8.encode submission) with
  | ok fs => exact ⟨hr.setPhase _, rfl⟩
  | error e =>
    dsimp only
    rw [helapsed]
    exact ⟨(hr.extend rfl).finish _, rfl⟩

lemma concurs_runStage (hr : r.Concurs r') (executor : Executor σ)
    (text : Invocation → FileSystem → σ → String) (config : StageConfig) (set : ArtifactSet)
    {next : Run → World σ → Run} (hnext : ∀ {r r'} w, Run.Concurs r r' → (next r w).Concurs (next r' w))
    (skipped : List Event) :
    (runStage config executor set next skipped r w).1.Concurs
        (runStage config (executor.reworded text) set next skipped r' w).1 ∧
      (runStage config executor set next skipped r w).2 =
        (runStage config (executor.reworded text) set next skipped r' w).2 := by
  rw [runStage_eq, runStage_eq]
  simp only [Executor.reworded, afterStage, stageFailure_reworded]
  generalize executor.execute (config.invocation set) w.files w.state = x
  have htold := hr.extend (loud_stageEvents set.base x.events config.stage x.answer
    (text (config.invocation set) w.files w.state))
  cases stageFailure x.answer with
  | none => exact ⟨hnext _ htold, rfl⟩
  | some kind =>
    have helapsed := htold.elapsed x.files
    dsimp only at helapsed ⊢
    refine ⟨?_, rfl⟩
    rw [show Run.elapsed (r.logWithin _ _) x.files = _ from helapsed]
    exact (htold.extend rfl).finish _

lemma concurs_step (hr : r.Concurs r') (executor : Executor σ)
    (text : Invocation → FileSystem → σ → String) :
    (p.step executor draw submission r w).1.Concurs
        (p.step (executor.reworded text) draw submission r' w).1 ∧
      (p.step executor draw submission r w).2 =
        (p.step (executor.reworded text) draw submission r' w).2 := by
  have hphase' := hr.phase.symm
  cases hphase : r.phase with
  | reserving attempt =>
    rw [step_reserving hphase, step_reserving (hphase'.trans hphase)]
    exact concurs_reserve hr attempt
  | writing set =>
    rw [step_writing hphase, step_writing (hphase'.trans hphase)]
    exact concurs_writeSource hr set
  | building set =>
    rw [step_building hphase, step_building (hphase'.trans hphase)]
    exact concurs_runStage hr executor text p.build set (fun _ h => h.setPhase _) _
  | rendering set =>
    rw [step_rendering hphase, step_rendering (hphase'.trans hphase)]
    refine concurs_runStage hr executor text p.render set (fun w h => ?_) _
    rw [h.elapsed w.files]
    exact h.finish _
  | finished o =>
    rw [step_finished hphase, step_finished (hphase'.trans hphase)]
    exact ⟨hr, rfl⟩

lemma concurs_steps (p : Pipeline) (executor : Executor σ)
    (text : Invocation → FileSystem → σ → String) (draw : Nat → BaseId) (submission : String)
    (r : Run) (w : World σ) (n : Nat) :
    (p.steps executor draw submission n r w).1.Concurs
        (p.steps (executor.reworded text) draw submission n r w).1 ∧
      (p.steps executor draw submission n r w).2 =
        (p.steps (executor.reworded text) draw submission n r w).2 := by
  induction n with
  | zero => exact ⟨⟨rfl, rfl, rfl⟩, rfl⟩
  | succ n ih =>
    rw [steps_succ, steps_succ, ← ih.2]
    exact concurs_step ih.1 executor text

lemma run_reworded (p : Pipeline) (executor : Executor σ)
    (text : Invocation → FileSystem → σ → String) (draw : Nat → BaseId) (submission : String)
    (w : World σ) :
    ∃ log, p.run (executor.reworded text) draw submission w =
        ((p.run executor draw submission w).1, log, (p.run executor draw submission w).2.2) ∧
      log.filter LogEntry.isLoud = (p.run executor draw submission w).2.1.filter LogEntry.isLoud := by
  obtain ⟨r, w₁, o, hsteps, hphase, hrun⟩ := p.exists_steps_of_run executor draw submission w
  obtain ⟨r', w₁', o', hsteps', hphase', hrun'⟩ :=
    p.exists_steps_of_run (executor.reworded text) draw submission w
  obtain ⟨hconcurs, hworld⟩ :=
    p.concurs_steps executor text draw submission (Run.start w.files) w maxSteps
  rw [hsteps, hsteps'] at hconcurs hworld
  have ho : o' = o := Phase.finished.inj (hphase'.symm.trans (hconcurs.phase.symm.trans hphase))
  rw [hrun, hrun', ho, show w₁' = w₁ from hworld.symm]
  exact ⟨r'.log, rfl, hconcurs.log.symm⟩

end Pipeline

namespace Machine

variable (m : Machine σ) (i : Invocation)

/-- What the runner logs itself names the stage and the deadline, and nothing that the tool put out. -/
def IsOwnEvent (i : Invocation) (e : Event) : Prop :=
  e = .deadlineExceeded i.stageName (i.wallLimit.millis % 0x10000000000000000) ∨
    e = .pipesAbandoned i.stageName

lemma isOwnEvent_superviseStep {x : Supervised σ} (hx : ∀ e ∈ x.events, IsOwnEvent i e) :
    ∀ e ∈ (m.superviseStep i x).events, IsOwnEvent i e := by
  intro e he
  rcases List.mem_append.mp he with hold | hnew
  · exact hx e hold
  · obtain ⟨a, -, ha⟩ := List.mem_flatMap.mp hnew
    cases a with
    | warnDeadline => exact Or.inl (List.mem_singleton.mp ha)
    | killGroup | reap | startGrace => cases ha

lemma isOwnEvent_executeStage (probe : DisplayProbe) (fs : FileSystem) (state : σ) :
    ∀ e ∈ (m.executeStage probe i fs state).events, IsOwnEvent i e := by
  cases hdisplay : displayCheck probe i fs with
  | error cause =>
    rw [executeStage_of_display hdisplay]
    exact List.forall_mem_nil _
  | ok _ =>
    cases hlaunch : m.launchChecked i fs state with
    | error cause =>
      rw [executeStage_of_error hdisplay hlaunch]
      exact List.forall_mem_nil _
    | ok launched =>
      rw [executeStage_of_launched hdisplay hlaunch]
      intro e he
      rcases List.mem_append.mp he with hearlier | hgrace
      · exact Machinery.supervise_invariant (P := fun x => ∀ e ∈ x.events, IsOwnEvent i e)
          (fun x hx => m.isOwnEvent_superviseStep i hx) _ (List.forall_mem_nil _) e hearlier
      · split at hgrace
        · exact Or.inr (List.mem_singleton.mp hgrace)
        · cases hgrace

end Machine

namespace Pipeline

/-- The log of a run is an account of what it did, which ends with the outcome. With other outputs of
the tools the outcome is the same and so is the world, and the log above the debug level; what the
runner of real tools logs itself is free of them. -/
theorem run_log (p : Pipeline) (executor : Executor σ) (draw : Nat → BaseId) (submission : String)
    (w : World σ) :
    ∃ o log w' xs, p.Passes executor draw submission w o log w' xs ∧
      p.Account draw submission w.files o xs log ∧
      o.closing.event.fields.lookup "success" = some (.bool o.success) ∧
      (o.closing.event.fields.lookup "failure" = some (.string "none") ↔ o.success = true) ∧
      (∀ c fs, (openWith c fs).1 = .ok p → p.render.stage = .render) ∧
      (∀ text, ∃ log', p.run (executor.reworded text) draw submission w = (some o, log', w') ∧
        log'.filter LogEntry.isLoud = log.filter LogEntry.isLoud) ∧
      ∀ (m : Machine σ) (probe : DisplayProbe) (i : Invocation) (fs : FileSystem) (state : σ),
        ∀ e ∈ ((m.runner probe).execute i fs state).events, Machine.IsOwnEvent i e := by
  obtain ⟨o, log, w', xs, hpasses, haccount⟩ := p.exists_account executor draw submission w
  have hyields : Yields o := ⟨σ, p, executor, draw, submission, w, w', log, hpasses.run⟩
  obtain ⟨hsuccess, hfailure⟩ := hyields.isConsistent.closing
  refine ⟨o, log, w', xs, hpasses, haccount, hsuccess, hfailure,
    fun c fs hp => (isStaged_of_openWith hp).render, fun text => ?_,
    fun m probe i fs state => m.isOwnEvent_executeStage i probe fs state⟩
  obtain ⟨log', hrun, hlog⟩ := p.run_reworded executor text draw submission w
  rw [hpasses.run] at hrun hlog
  exact ⟨log', hrun, hlog⟩

end Pipeline

end TreePipeline
