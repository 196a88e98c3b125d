import TreePipeline.Proofs.Artifact.Naming
import TreePipeline.Proofs.Pipeline.Projection
import TreePipeline.Report

/-! The calls a run makes of its executor, and the outcome that follows from their answers. A run
calls each stage at most once, the second only if the first one passed, and ends with the first call
that fails. -/

namespace TreePipeline

variable {σ : Type}

structure Call where
  invocation : Invocation
  answer : Except StageError StageResult

namespace Call

def failure (c : Call) : Option FailureKind := Pipeline.stageFailure c.answer

/-- The call was answered with a result, and the result is no failure. -/
def Passed (c : Call) : Prop := ∃ result, c.answer = .ok result ∧ result.failure = none

lemma failure_eq_none_iff {c : Call} : c.failure = none ↔ c.Passed := by
  unfold failure Passed Pipeline.stageFailure
  cases c.answer <;> simp

end Call

/-- Success, failure and what else is known of a run agree. -/
structure Outcome.IsConsistent (o : Outcome) : Prop where
  failure : o.success = true ↔ o.failure = none
  complete : o.failure = none ↔ o.failure = none ∧ o.failedStage = none ∧ o.base ≠ none ∧
    o.mesh ≠ none ∧ o.image ≠ none
  artifacts : o.mesh = none ↔ o.image = none
  report : ∀ now, (Report.ofOutcome o now).success = o.success

lemma Outcome.isConsistent_succeeded (set : ArtifactSet) (elapsed : Duration) :
    (succeeded set elapsed).IsConsistent := by
  constructor <;> simp [succeeded, Report.ofOutcome]

lemma Outcome.isConsistent_failed (base : Option BaseId) (kind : FailureKind)
    (stage : Option String) (elapsed : Duration) :
    (failed base kind stage elapsed).IsConsistent := by
  constructor <;> simp [failed, Report.ofOutcome]

namespace StageConfig

lemma head?_args (s : StageConfig) (set : ArtifactSet) :
    (s.args set).head? = some (set.path s.stage.inputRole) := by
  unfold args
  cases s.stage <;> rfl

lemma getLast?_args (s : StageConfig) (set : ArtifactSet) :
    (s.args set).getLast? = some (set.path s.stage.outputRole) := by
  unfold args
  cases s.stage with
  | build => exact List.getLast?_concat
  | render => rfl

end StageConfig

/-- The executor together with the calls it has answered. -/
def Executor.traced (executor : Executor σ) : Executor (σ × List Call) where
  execute i fs state :=
    let x := executor.execute i fs state.1
    ⟨x.answer, x.files, (x.state, state.2 ++ [⟨i, x.answer⟩]), x.events⟩

def World.withCalls (w : World σ) (calls : List Call) : World (σ × List Call) :=
  ⟨w.files, w.state, calls⟩

lemma World.withCalls_inj {w w' : World σ} {calls calls' : List Call}
    (h : w.withCalls calls = w'.withCalls calls') : w = w' ∧ calls = calls' := by
  cases w
  cases w'
  simp_all [withCalls]

def Execution.world (x : Execution σ) : World σ := ⟨x.files, x.state⟩

namespace Pipeline

variable {p : Pipeline} {executor : Executor σ} {draw : Nat → BaseId} {submission : String}
  {r r' : Run} {w w' : World σ} {o : Outcome} {set : ArtifactSet}

/-! A run under observation -/

lemma projectsTo_traced (executor : Executor σ) : executor.traced.ProjectsTo executor Prod.fst :=
  fun _ _ _ => rfl

lemma run_traced (p : Pipeline) (executor : Executor σ) (draw : Nat → BaseId) (submission : String)
    (w : World σ) :
    ∃ calls, p.run executor.traced draw submission (w.withCalls []) =
      ((p.run executor draw submission w).1, (p.run executor draw submission w).2.1,
        (p.run executor draw submission w).2.2.withCalls calls) := by
  have hrun : p.run executor draw submission w = _ :=
    run_map (projectsTo_traced executor) p draw submission (w.withCalls [])
  rw [hrun]
  exact ⟨(p.run executor.traced draw submission (w.withCalls [])).2.2.state.2, rfl⟩

/-! A whole run -/

lemma steps_add (p : Pipeline) (executor : Executor σ) (draw : Nat → BaseId) (submission : String)
    (m n : Nat) (r : Run) (w : World σ) :
    p.steps executor draw submission (m + n) r w =
      p.steps executor draw submission n (p.steps executor draw submission m r w).1
        (p.steps executor draw submission m r w).2 := by
  induction n with
  | zero => rfl
  | succ n ih => rw [← Nat.add_assoc, steps_succ, steps_succ, ih]

lemma step_finished (h : r.phase = .finished o) : p.step executor draw submission r w = (r, w) := by
  simp only [step, h]

lemma steps_finished (h : r.phase = .finished o) (n : Nat) :
    p.steps executor draw submission n r w = (r, w) := by
  induction n with
  | zero => rfl
  | succ n ih => rw [steps_succ, ih, step_finished h]

lemma steps_of_finished {m n : Nat} (h : p.steps executor draw submission m r w = (r', w'))
    (hr : r'.phase = .finished o) (hmn : m ≤ n) :
    p.steps executor draw submission n r w = (r', w') := by
  obtain ⟨k, rfl⟩ := Nat.exists_eq_add_of_le hmn
  rw [steps_add, h, steps_finished hr]

lemma run_of_steps {m : Nat}
    (h : p.steps executor draw submission m (Run.start w.files) w = (r', w'))
    (hr : r'.phase = .finished o) (hm : m ≤ maxSteps) :
    p.run executor draw submission w = (some o, r'.log, w') := by
  unfold run
  rw [steps_of_finished h hr hm]
  dsimp only
  rw [hr]

lemma reserve_exhausted (p : Pipeline) (draw : Nat → BaseId) (submission : String) (r : Run)
    (w : World σ) {attempt : Nat} (h : Store.maxAttempts ≤ attempt) :
    ∃ r' elapsed, p.reserve draw submission attempt r w = (r', w) ∧
      r'.phase = .finished (.failed none .allocation none elapsed) := by
  unfold reserve
  rw [if_pos h]
  exact ⟨_, _, rfl, rfl⟩

lemma reserve_refused (p : Pipeline) (draw : Nat → BaseId) (submission : String) (r : Run)
    (w : World σ) {attempt : Nat} {e : ArtifactError} (h : ¬ Store.maxAttempts ≤ attempt)
    (hattempt : p.store.attempt (draw attempt) w.files = .refused e) :
    ∃ r' elapsed, p.reserve draw submission attempt r w = (r', w) ∧
      r'.phase = .finished (.failed none .allocation none elapsed) := by
  unfold reserve
  rw [if_neg h]
  simp only [hattempt]
  exact ⟨_, _, rfl, rfl⟩

lemma reserve_taken (p : Pipeline) (draw : Nat → BaseId) (submission : String) (r : Run)
    (w : World σ) {attempt : Nat} (h : ¬ Store.maxAttempts ≤ attempt)
    (hattempt : p.store.attempt (draw attempt) w.files = .taken) :
    ∃ r', p.reserve draw submission attempt r w = (r', w) ∧
      r'.phase = .reserving (attempt + 1) := by
  unfold reserve
  rw [if_neg h]
  simp only [hattempt]
  exact ⟨_, rfl, rfl⟩

lemma reserve_reserved (p : Pipeline) (draw : Nat → BaseId) (submission : String) (r : Run)
    (w : World σ) {attempt : Nat} {fs : FileSystem} (h : ¬ Store.maxAttempts ≤ attempt)
    (hattempt : p.store.attempt (draw attempt) w.files = .reserved fs) :
    ∃ r', p.reserve draw submission attempt r w = (r', ⟨fs, w.state⟩) ∧
      r'.phase = .writing (p.store.setOf (draw attempt)) := by
  unfold reserve
  rw [if_neg h]
  simp only [hattempt]
  exact ⟨_, rfl, rfl⟩

lemma step_reserving {attempt : Nat} (h : r.phase = .reserving attempt) :
    p.step executor draw submission r w = p.reserve draw submission attempt r w := by
  simp only [step, h]

lemma step_writing (h : r.phase = .writing set) :
    p.step executor draw submission r w = writeSource submission set r w := by
  simp only [step, h]

lemma steps_reserving (p : Pipeline) (executor : Executor σ) (draw : Nat → BaseId)
    (submission : String) (r : Run) (w : World σ) {left attempt : Nat}
    (hphase : r.phase = .reserving attempt) (hleft : attempt + left = Store.maxAttempts) :
    ∃ k ≤ left + 1, ∃ r', p.steps executor draw submission k r w =
        (r', ⟨(p.store.allocateFrom draw w.files left attempt).files, w.state⟩) ∧
      match (p.store.allocateFrom draw w.files left attempt).result with
      | .ok set => r'.phase = .writing set
      | .error _ => ∃ elapsed, r'.phase = .finished (.failed none .allocation none elapsed) := by
  induction left generalizing r attempt with
  | zero =>
    obtain ⟨r', elapsed, hr, hphase'⟩ :=
      p.reserve_exhausted draw submission r w (Nat.le_of_eq hleft.symm)
    refine ⟨1, Nat.le_refl 1, r', ?_, elapsed, hphase'⟩
    rw [steps_succ]
    exact (step_reserving hphase).trans hr
  | succ left ih =>
    have hmore : ¬ Store.maxAttempts ≤ attempt := by omega
    rw [Store.allocateFrom]
    cases hattempt : p.store.attempt (draw attempt) w.files with
    | reserved fs =>
      obtain ⟨r', hr, hphase'⟩ := p.reserve_reserved draw submission r w hmore hattempt
      refine ⟨1, by omega, r', ?_, hphase'⟩
      rw [steps_succ]
      exact (step_reserving hphase).trans hr
    | refused e =>
      obtain ⟨r', elapsed, hr, hphase'⟩ := p.reserve_refused draw submission r w hmore hattempt
      refine ⟨1, by omega, r', ?_, elapsed, hphase'⟩
      rw [steps_succ]
      exact (step_reserving hphase).trans hr
    | taken =>
      obtain ⟨r₁, hr, hphase₁⟩ := p.reserve_taken draw submission r w hmore hattempt
      obtain ⟨k, hk, r', hsteps, hphase'⟩ := ih r₁ hphase₁ (by omega)
      refine ⟨1 + k, by omega, r', ?_, hphase'⟩
      have hone : p.steps executor draw submission 1 r w = (r₁, w) :=
        (step_reserving hphase).trans hr
      rw [steps_add, hone, hsteps]

lemma writeSource_error {e : SystemError}
    (h : w.files.writeFile set.source (Utf8.encode submission) = .error e) :
    ∃ r' elapsed, writeSource submission set r w = (r', w) ∧
      r'.phase = .finished (.failed (some set.base) .allocation none elapsed) := by
  unfold writeSource
  simp only [h]
  exact ⟨_, _, rfl, rfl⟩

lemma writeSource_ok {fs : FileSystem}
    (h : w.files.writeFile set.source (Utf8.encode submission) = .ok fs) :
    ∃ r', writeSource submission set r w = (r', ⟨fs, w.state⟩) ∧ r'.phase = .building set := by
  unfold writeSource
  simp only [h]
  exact ⟨_, rfl, rfl⟩

lemma runStage_passed (executor : Executor σ) (w : World σ) {config : StageConfig}
    {next : Run → World σ → Run} {skipped : List Event}
    (h : stageFailure (executor.execute (config.invocation set) w.files w.state).answer = none) :
    ∃ r', runStage config executor set next skipped r w =
      (next r' (executor.execute (config.invocation set) w.files w.state).world,
        (executor.execute (config.invocation set) w.files w.state).world) := by
  unfold runStage
  simp only [h]
  exact ⟨_, rfl⟩

lemma runStage_failed (executor : Executor σ) (w : World σ) {config : StageConfig}
    {next : Run → World σ → Run} {skipped : List Event} {kind : FailureKind}
    (h : stageFailure (executor.execute (config.invocation set) w.files w.state).answer =
      some kind) :
    ∃ r' elapsed, runStage config executor set next skipped r w =
        (r', (executor.execute (config.invocation set) w.files w.state).world) ∧
      r'.phase = .finished (.failed (some set.base) kind (some config.stage.name) elapsed) := by
  unfold runStage
  simp only [h]
  exact ⟨_, _, rfl, rfl⟩

/-- The identifier is reserved and the submission stands in its source. -/
def Prepares (p : Pipeline) (draw : Nat → BaseId) (submission : String) (fs fs' : FileSystem)
    (set : ArtifactSet) : Prop :=
  (p.store.allocate draw fs).result = .ok set ∧
    (p.store.allocate draw fs).files.writeFile set.source (Utf8.encode submission) = .ok fs'

inductive Course (p : Pipeline) (executor : Executor σ) (draw : Nat → BaseId) (submission : String)
    (w : World σ) : Outcome → List Call → Prop
  | refused {e elapsed} (h : (p.store.allocate draw w.files).result = .error e) :
    Course p executor draw submission w (.failed none .allocation none elapsed) []
  | unwritten {set e elapsed} (h : (p.store.allocate draw w.files).result = .ok set)
    (hwrite : (p.store.allocate draw w.files).files.writeFile set.source (Utf8.encode submission) =
      .error e) :
    Course p executor draw submission w (.failed (some set.base) .allocation none elapsed) []
  | unbuilt {set fs built kind elapsed} (h : p.Prepares draw submission w.files fs set)
    (hbuilt : executor.execute (p.build.invocation set) fs w.state = built)
    (hbuild : stageFailure built.answer = some kind) :
    Course p executor draw submission w
      (.failed (some set.base) kind (some p.build.stage.name) elapsed)
      [⟨p.build.invocation set, built.answer⟩]
  | unrendered {set fs built rendered kind elapsed} (h : p.Prepares draw submission w.files fs set)
    (hbuilt : executor.execute (p.build.invocation set) fs w.state = built)
    (hbuild : stageFailure built.answer = none)
    (hrendered : executor.execute (p.render.invocation set) built.files built.state = rendered)
    (hrender : stageFailure rendered.answer = some kind) :
    Course p executor draw submission w
      (.failed (some set.base) kind (some p.render.stage.name) elapsed)
      [⟨p.build.invocation set, built.answer⟩, ⟨p.render.invocation set, rendered.answer⟩]
  | succeeded {set fs built rendered elapsed} (h : p.Prepares draw submission w.files fs set)
    (hbuilt : executor.execute (p.build.invocation set) fs w.state = built)
    (hbuild : stageFailure built.answer = none)
    (hrendered : executor.execute (p.render.invocation set) built.files built.state = rendered)
    (hrender : stageFailure rendered.answer = none) :
    Course p executor draw submission w (.succeeded set elapsed)
      [⟨p.build.invocation set, built.answer⟩, ⟨p.render.invocation set, rendered.answer⟩]

lemma steps_next {n : Nat} {r₁ : Run} {w₁ : World σ}
    (h : p.steps executor draw submission n r w = (r₁, w₁))
    (hstep : p.step executor draw submission r₁ w₁ = (r', w')) :
    p.steps executor draw submission (n + 1) r w = (r', w') := by
  rw [steps_succ, h, hstep]

lemma step_building (h : r.phase = .building set) :
    p.step executor draw submission r w =
      runStage p.build executor set (fun r _ => { r with phase := .rendering set })
        [.stageSkipped p.render.stage.name Run.skipReason] r w := by
  simp only [step, h]

lemma step_rendering (h : r.phase = .rendering set) :
    p.step executor draw submission r w =
      runStage p.render executor set (fun r w => r.finish (.succeeded set (r.elapsed w.files))) []
        r w := by
  simp only [step, h]

def Ends (p : Pipeline) (executor : Executor σ) (draw : Nat → BaseId) (submission : String)
    (w : World σ) : Prop :=
  ∃ (o : Outcome) (log : List LogEntry) (w' : World σ) (calls : List Call),
    p.run executor.traced draw submission (w.withCalls []) = (some o, log, w'.withCalls calls) ∧
      p.Course executor draw submission w o calls

lemma runStage_traced_passed {config : StageConfig} {x : Execution σ} {calls : List Call}
    {next : Run → World (σ × List Call) → Run} {skipped : List Event}
    (hx : executor.execute (config.invocation set) w.files w.state = x)
    (h : stageFailure x.answer = none) :
    ∃ r', runStage config executor.traced set next skipped r (w.withCalls calls) =
      (next r' (x.world.withCalls (calls ++ [⟨config.invocation set, x.answer⟩])),
        x.world.withCalls (calls ++ [⟨config.invocation set, x.answer⟩])) := by
  subst hx
  exact runStage_passed executor.traced (w.withCalls calls) h

lemma runStage_traced_failed {config : StageConfig} {x : Execution σ} {calls : List Call}
    {next : Run → World (σ × List Call) → Run} {skipped : List Event} {kind : FailureKind}
    (hx : executor.execute (config.invocation set) w.files w.state = x)
    (h : stageFailure x.answer = some kind) :
    ∃ r' elapsed, runStage config executor.traced set next skipped r (w.withCalls calls) =
        (r', x.world.withCalls (calls ++ [⟨config.invocation set, x.answer⟩])) ∧
      r'.phase = .finished (.failed (some set.base) kind (some config.stage.name) elapsed) := by
  subst hx
  exact runStage_failed executor.traced (w.withCalls calls) h

lemma ends_of_building {k : Nat} {fs : FileSystem} {r₁ : Run}
    (hprepared : p.Prepares draw submission w.files fs set)
    (hsteps : p.steps executor.traced draw submission k (Run.start w.files) (w.withCalls []) =
      (r₁, World.withCalls ⟨fs, w.state⟩ []))
    (hphase : r₁.phase = .building set) (hk : k + 2 ≤ maxSteps) :
    p.Ends executor draw submission w := by
  generalize hbuilt : executor.execute (p.build.invocation set) fs w.state = built
  cases hbuild : stageFailure built.answer with
  | some kind =>
    obtain ⟨r₂, elapsed, hr, hphase₂⟩ := runStage_traced_failed (r := r₁) (w := ⟨fs, w.state⟩)
      hbuilt hbuild
    have hend := steps_next hsteps ((step_building hphase).trans hr)
    exact ⟨_, _, _, _, run_of_steps hend hphase₂ (Nat.le_of_succ_le hk),
      .unbuilt hprepared hbuilt hbuild⟩
  | none =>
    obtain ⟨r₂, hr⟩ := runStage_traced_passed (r := r₁) (w := ⟨fs, w.state⟩) hbuilt hbuild
    have hafter := steps_next hsteps ((step_building hphase).trans hr)
    generalize hrendered :
      executor.execute (p.render.invocation set) built.files built.state = rendered
    cases hrender : stageFailure rendered.answer with
    | some kind =>
      obtain ⟨r₃, elapsed, hr₃, hphase₃⟩ := runStage_traced_failed
        (r := { r₂ with phase := .rendering set }) (w := built.world) hrendered hrender
      have hend := steps_next hafter ((step_rendering rfl).trans hr₃)
      exact ⟨_, _, _, _, run_of_steps hend hphase₃ hk,
        .unrendered hprepared hbuilt hbuild hrendered hrender⟩
    | none =>
      obtain ⟨r₃, hr₃⟩ := runStage_traced_passed (r := { r₂ with phase := .rendering set })
        (w := built.world) hrendered hrender
      have hend := steps_next hafter ((step_rendering rfl).trans hr₃)
      exact ⟨_, _, _, _, run_of_steps hend rfl hk,
        .succeeded hprepared hbuilt hbuild hrendered hrender⟩

lemma steps_allocated (p : Pipeline) (executor : Executor σ) (draw : Nat → BaseId)
    (submission : String) (w : World σ) :
    ∃ k r', k + 3 ≤ maxSteps ∧ p.steps executor draw submission k (Run.start w.files) w =
        (r', ⟨(p.store.allocate draw w.files).files, w.state⟩) ∧
      match (p.store.allocate draw w.files).result with
      | .ok set => r'.phase = .writing set
      | .error _ => ∃ elapsed, r'.phase = .finished (.failed none .allocation none elapsed) := by
  obtain ⟨k, hk, r', h⟩ := p.steps_reserving executor draw submission (Run.start w.files) w rfl
    (Nat.zero_add Store.maxAttempts)
  exact ⟨k, r', Nat.add_le_add_right hk 3, h⟩

lemma Prepares.steps {fs : FileSystem} (h : p.Prepares draw submission w.files fs set)
    (executor : Executor σ) : ∃ k r', k + 2 ≤ maxSteps ∧
      p.steps executor draw submission k (Run.start w.files) w = (r', ⟨fs, w.state⟩) ∧
      r'.phase = .building set := by
  obtain ⟨k, r₁, hk, hsteps, hphase⟩ := p.steps_allocated executor draw submission w
  rw [h.1] at hphase
  obtain ⟨r₂, hr, hphase₂⟩ := writeSource_ok (r := r₁)
    (w := ⟨(p.store.allocate draw w.files).files, w.state⟩) h.2
  exact ⟨k + 1, r₂, hk, steps_next hsteps ((step_writing hphase).trans hr), hphase₂⟩

lemma ends_run (p : Pipeline) (executor : Executor σ) (draw : Nat → BaseId) (submission : String)
    (w : World σ) : p.Ends executor draw submission w := by
  obtain ⟨k, r₁, hk, hsteps, hphase⟩ :=
    p.steps_allocated executor.traced draw submission (w.withCalls [])
  change p.steps executor.traced draw submission k (Run.start w.files) (w.withCalls []) =
    (r₁, World.withCalls ⟨(p.store.allocate draw w.files).files, w.state⟩ []) at hsteps
  change match (p.store.allocate draw w.files).result with
    | .ok set => r₁.phase = .writing set
    | .error _ => ∃ elapsed, r₁.phase = .finished (.failed none .allocation none elapsed) at hphase
  cases halloc : (p.store.allocate draw w.files).result with
  | error e =>
    rw [halloc] at hphase
    obtain ⟨elapsed, hphase⟩ := hphase
    exact ⟨_, _, _, _, run_of_steps hsteps hphase (by omega), .refused halloc⟩
  | ok set =>
    rw [halloc] at hphase
    cases hwrite : (p.store.allocate draw w.files).files.writeFile set.source
        (Utf8.encode submission) with
    | error e =>
      obtain ⟨r₂, elapsed, hr, hphase₂⟩ := writeSource_error (r := r₁)
        (w := World.withCalls ⟨(p.store.allocate draw w.files).files, w.state⟩ []) hwrite
      have hend := steps_next hsteps ((step_writing hphase).trans hr)
      exact ⟨_, _, _, _, run_of_steps hend hphase₂ (by omega), .unwritten halloc hwrite⟩
    | ok fs =>
      have hprepared : p.Prepares draw submission w.files fs set := ⟨halloc, hwrite⟩
      obtain ⟨j, r₂, hj, hwritten, hphase₂⟩ :=
        Prepares.steps (w := w.withCalls []) hprepared executor.traced
      exact ends_of_building hprepared hwritten hphase₂ hj

lemma course_run (p : Pipeline) (executor : Executor σ) (draw : Nat → BaseId) (submission : String)
    (w : World σ) : ∃ o log w' calls,
      p.run executor draw submission w = (some o, log, w') ∧
      p.run executor.traced draw submission (w.withCalls []) = (some o, log, w'.withCalls calls) ∧
      p.Course executor draw submission w o calls := by
  obtain ⟨o, log, w', calls, hrun, hcourse⟩ := p.ends_run executor draw submission w
  obtain ⟨made, hmade⟩ := p.run_traced executor draw submission w
  refine ⟨o, log, w', calls, ?_, hrun, hcourse⟩
  rw [hrun] at hmade
  simp only [Prod.mk.injEq] at hmade
  obtain ⟨ho, hlog, hworld⟩ := hmade
  rw [ho, hlog, (World.withCalls_inj hworld).1]

lemma run_of_finished {m : Nat}
    (h : p.steps executor draw submission m (Run.start w.files) w = (r', w'))
    (hr : r'.phase = .finished o) : p.run executor draw submission w = (some o, r'.log, w') := by
  by_cases hm : m ≤ maxSteps
  · exact run_of_steps h hr hm
  obtain ⟨o', log, w'', calls, hrun, -⟩ := p.course_run executor draw submission w
  unfold run at hrun ⊢
  generalize hsteps : p.steps executor draw submission maxSteps (Run.start w.files) w = x at hrun ⊢
  obtain ⟨r₂, w₂⟩ := x
  cases hphase : r₂.phase with
  | finished o₂ =>
    have hlater := steps_of_finished hsteps hphase (Nat.le_of_not_le hm)
    obtain ⟨rfl, rfl⟩ := Prod.mk.inj (h.symm.trans hlater)
    obtain rfl := Phase.finished.inj (hr.symm.trans hphase)
    simp only [hphase]
  | reserving | writing | building | rendering => simp [hphase] at hrun

/-! What the calls tell -/

lemma Prepares.unique {fs fs₁ fs₂ : FileSystem} {set₁ set₂ : ArtifactSet}
    (h₁ : p.Prepares draw submission fs fs₁ set₁) (h₂ : p.Prepares draw submission fs fs₂ set₂) :
    fs₁ = fs₂ ∧ set₁ = set₂ := by
  obtain ⟨halloc₁, hwrite₁⟩ := h₁
  obtain ⟨halloc₂, hwrite₂⟩ := h₂
  obtain rfl := Except.ok.inj (halloc₁.symm.trans halloc₂)
  exact ⟨Except.ok.inj (hwrite₁.symm.trans hwrite₂), rfl⟩

lemma allocateFrom_eq_ok {store : Store} {fs : FileSystem} {left attempt : Nat}
    (h : (store.allocateFrom draw fs left attempt).result = .ok set) :
    ∃ base, set = store.setOf base ∧
      store.attempt base fs = .reserved (store.allocateFrom draw fs left attempt).files := by
  induction left generalizing attempt with
  | zero => cases h
  | succ left ih =>
    rw [Store.allocateFrom] at h ⊢
    cases hattempt : store.attempt (draw attempt) fs with
    | reserved fs' =>
      rw [hattempt] at h
      cases h
      exact ⟨draw attempt, rfl, hattempt⟩
    | refused e => simp [hattempt] at h
    | taken =>
      rw [hattempt] at h
      exact ih h

lemma Prepares.set_eq {fs fs' : FileSystem} (h : p.Prepares draw submission fs fs' set) :
    set = p.store.setOf set.base := by
  obtain ⟨base, rfl, -⟩ := allocateFrom_eq_ok h.1
  rfl

variable {calls : List Call}

namespace Course

lemma calls_eq_nil (hcourse : p.Course executor draw submission w o calls)
    (h : ¬ ∃ set fs, p.Prepares draw submission w.files fs set) : calls = [] := by
  cases hcourse with
  | refused | unwritten => rfl
  | unbuilt hprep | unrendered hprep | succeeded hprep => exact absurd ⟨_, _, hprep⟩ h

lemma calls_of_prepares {fs : FileSystem} {built rendered : Execution σ}
    (hcourse : p.Course executor draw submission w o calls)
    (h : p.Prepares draw submission w.files fs set)
    (hbuilt : executor.execute (p.build.invocation set) fs w.state = built)
    (hrendered : executor.execute (p.render.invocation set) built.files built.state = rendered) :
    o.base = some set.base ∧
      (stageFailure built.answer = none → calls =
        [⟨p.build.invocation set, built.answer⟩, ⟨p.render.invocation set, rendered.answer⟩]) ∧
      (stageFailure built.answer ≠ none → calls = [⟨p.build.invocation set, built.answer⟩]) := by
  subst hbuilt hrendered
  cases hcourse with
  | refused halloc =>
    rw [h.1] at halloc
    cases halloc
  | unwritten halloc hwrite =>
    obtain rfl := Except.ok.inj (h.1.symm.trans halloc)
    rw [h.2] at hwrite
    cases hwrite
  | unbuilt hprep hbuilt hbuild =>
    obtain ⟨rfl, rfl⟩ := h.unique hprep
    subst hbuilt
    exact ⟨rfl, fun hnone => by simp [hbuild] at hnone, fun _ => rfl⟩
  | unrendered hprep hbuilt hbuild hrendered | succeeded hprep hbuilt hbuild hrendered =>
    obtain ⟨rfl, rfl⟩ := h.unique hprep
    subst hbuilt hrendered
    exact ⟨rfl, fun _ => rfl, fun hsome => absurd hbuild hsome⟩

lemma invocation_eq (hcourse : p.Course executor draw submission w o calls) {c : Call}
    (hc : c ∈ calls) : ∃ base, o.base = some base ∧ ∃ config, (config = p.build ∨ config = p.render) ∧
      c.invocation = config.invocation (p.store.setOf base) := by
  cases hcourse with
  | refused | unwritten => cases hc
  | unbuilt hprep =>
    obtain rfl := List.mem_singleton.mp hc
    exact ⟨_, rfl, p.build, Or.inl rfl, congrArg p.build.invocation hprep.set_eq⟩
  | unrendered hprep | succeeded hprep =>
    simp only [List.mem_cons, List.not_mem_nil, or_false] at hc
    rcases hc with rfl | rfl
    · exact ⟨_, rfl, p.build, Or.inl rfl, congrArg p.build.invocation hprep.set_eq⟩
    · exact ⟨_, rfl, p.render, Or.inr rfl, congrArg p.render.invocation hprep.set_eq⟩

lemma success_iff (hcourse : p.Course executor draw submission w o calls) :
    o.success = true ↔ calls.length = 2 ∧ ∀ c ∈ calls, c.failure = none := by
  cases hcourse with
  | refused | unwritten | unbuilt => simp [Outcome.failed]
  | unrendered h hbuilt hbuild hrendered hrender =>
    simp [Outcome.failed, Call.failure, hrender]
  | succeeded h hbuilt hbuild hrendered hrender =>
    simp [Outcome.succeeded, Call.failure, hbuild, hrender]

lemma failure_eq (hcourse : p.Course executor draw submission w o calls)
    (ho : o.success = false) :
    let failed := calls.find? fun c => c.failure.isSome
    o.failure = failed.elim (some .allocation) Call.failure ∧
      o.failedStage = failed.map fun c => c.invocation.stageName := by
  cases hcourse with
  | refused | unwritten => exact ⟨rfl, rfl⟩
  | unbuilt h hbuilt hbuild =>
    simp [Outcome.failed, Call.failure, hbuild, StageConfig.invocation]
  | unrendered h hbuilt hbuild hrendered hrender =>
    simp [Outcome.failed, Call.failure, hbuild, hrender, StageConfig.invocation]
  | succeeded => cases ho

lemma isConsistent (hcourse : p.Course executor draw submission w o calls) : o.IsConsistent := by
  cases hcourse with
  | refused | unwritten | unbuilt | unrendered => exact Outcome.isConsistent_failed ..
  | succeeded => exact Outcome.isConsistent_succeeded ..

end Course

/-- What a run asks of its executor and how it ends. Nothing is asked unless the identifier is
reserved and the source written; then the build stage is called once and, just if it passed, the
render stage once, each with the paths of the run's own identifier. The run succeeds just if both
calls were made and passed, and else tells of the first call that failed. -/
theorem run_calls (p : Pipeline) (executor : Executor σ) (draw : Nat → BaseId)
    (submission : String) (w : World σ) :
    ∃ o log w' calls,
      p.run executor draw submission w = (some o, log, w') ∧
      p.run executor.traced draw submission (w.withCalls []) = (some o, log, w'.withCalls calls) ∧
      ((¬ ∃ set fs, p.Prepares draw submission w.files fs set) → calls = []) ∧
      (∀ set fs, p.Prepares draw submission w.files fs set →
        let built := executor.execute (p.build.invocation set) fs w.state
        let rendered := executor.execute (p.render.invocation set) built.files built.state
        let build : Call := ⟨p.build.invocation set, built.answer⟩
        let render : Call := ⟨p.render.invocation set, rendered.answer⟩
        o.base = some set.base ∧ (build.Passed → calls = [build, render]) ∧
          (¬ build.Passed → calls = [build])) ∧
      (∀ c ∈ calls, ∃ base, o.base = some base ∧ ∃ config, (config = p.build ∨ config = p.render) ∧
        c.invocation.stageName = config.stage.name ∧
        c.invocation.args.head? = some (p.store.derive base config.stage.inputRole) ∧
        c.invocation.args.getLast? = some (p.store.derive base config.stage.outputRole) ∧
        c.invocation.expectedOutput = p.store.derive base config.stage.outputRole) ∧
      (∀ c fs, (openWith c fs).1 = .ok p → p.build.stage = .build ∧ p.render.stage = .render) ∧
      (o.success = true ↔ calls.length = 2 ∧ ∀ c ∈ calls, c.Passed) ∧
      (o.success = false →
        let failed := calls.find? fun c => c.failure.isSome
        o.failure = failed.elim (some .allocation) Call.failure ∧
          o.failedStage = failed.map fun c => c.invocation.stageName) ∧
      o.IsConsistent := by
  obtain ⟨o, log, w', calls, hrun, htraced, hcourse⟩ := p.course_run executor draw submission w
  refine ⟨o, log, w', calls, hrun, htraced, hcourse.calls_eq_nil, fun set fs hprep => ?_,
    fun c hc => ?_, fun c fs hp => ?_, ?_, hcourse.failure_eq, hcourse.isConsistent⟩
  · simp only [← Call.failure_eq_none_iff]
    exact hcourse.calls_of_prepares hprep rfl rfl
  · obtain ⟨base, hbase, config, hconfig, hinv⟩ := hcourse.invocation_eq hc
    rw [hinv]
    refine ⟨base, hbase, config, hconfig, rfl, ?_, ?_, p.store.path_setOf base _⟩
    · exact (config.head?_args _).trans (congrArg some (p.store.path_setOf base _))
    · exact (config.getLast?_args _).trans (congrArg some (p.store.path_setOf base _))
  · exact ⟨(isStaged_of_openWith hp).build, (isStaged_of_openWith hp).render⟩
  · simp only [← Call.failure_eq_none_iff]
    exact hcourse.success_iff

end Pipeline

end TreePipeline
