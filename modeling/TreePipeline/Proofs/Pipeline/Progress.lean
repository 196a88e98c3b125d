import Mathlib.Tactic.Common
import TreePipeline.Pipeline.Run

/-! How a run goes on, step by step, and what the phase it is in tells of the tree: the paths are
those the store has given out, and a stage is left behind only when its output was seen to be there. -/

namespace TreePipeline

variable {σ : Type}

def Executor.Observes (executor : Executor σ) : Prop :=
  ∀ i fs state result, (executor.execute i fs state).answer = .ok result →
    result.artifactExists = (executor.execute i fs state).files.isFile i.expectedOutput

namespace Pipeline

structure IsStaged (p : Pipeline) : Prop where
  build : p.build.stage = .build
  render : p.render.stage = .render

lemma stage_of_build? {c : Config} {s : StageConfig} (h : StageConfig.build? c = some s) :
    s.stage = .build := by
  obtain ⟨_, _, h⟩ := Option.bind_eq_some_iff.mp h
  cases h
  rfl

lemma stage_of_render? {c : Config} {s : StageConfig} (h : StageConfig.render? c = some s) :
    s.stage = .render := by
  obtain ⟨_, _, h⟩ := Option.bind_eq_some_iff.mp h
  cases h
  rfl

lemma stages_of_openWith {c : Config} {fs : FileSystem} {p : Pipeline}
    (h : (openWith c fs).1 = .ok p) :
    StageConfig.build? c = some p.build ∧ StageConfig.render? c = some p.render := by
  rw [openWith] at h
  generalize Store.openAt fs (Utf8.encode c.artifactDir) = store, StageConfig.build? c = build,
    StageConfig.render? c = render at h ⊢
  rcases store with _ | _ <;> rcases build with _ | _ <;> rcases render with _ | _ <;> cases h
  exact ⟨rfl, rfl⟩

lemma isStaged_of_openWith {c : Config} {fs : FileSystem} {p : Pipeline}
    (h : (openWith c fs).1 = .ok p) : p.IsStaged :=
  ⟨stage_of_build? (stages_of_openWith h).1, stage_of_render? (stages_of_openWith h).2⟩

lemma artifactExists_of_stageFailure {answer : Except StageError StageResult}
    (h : stageFailure answer = none) :
    ∃ result, answer = .ok result ∧ result.artifactExists = true := by
  cases answer with
  | error e => cases h
  | ok result =>
    refine ⟨result, rfl, ?_⟩
    simp only [stageFailure, StageResult.failure] at h
    split at h
    · cases h
    · split at h
      · assumption
      · cases h

variable {p : Pipeline} {executor : Executor σ} {draw : Nat → BaseId} {submission : String}
  {r : Run} {w : World σ} {o : Outcome}

/-! What each step comes to -/

inductive Advance (p : Pipeline) : FileSystem → FileSystem → Phase → Phase → Prop where
  | passedOver {fs fs' attempt} : Advance p fs fs' (.reserving attempt) (.reserving (attempt + 1))
  | reserved {fs fs' attempt base} :
    Advance p fs fs' (.reserving attempt) (.writing (p.store.setOf base))
  | written {fs fs' set} : Advance p fs fs' (.writing set) (.building set)
  | built {fs fs' set} (h : fs'.isFile set.mesh = true) :
    Advance p fs fs' (.building set) (.rendering set)
  | rendered {fs fs' set elapsed} (h : fs'.isFile set.image = true) :
    Advance p fs fs' (.rendering set) (.finished (.succeeded set elapsed))
  | failed {fs fs' phase} {o : Outcome} (h : o.success = false) :
    Advance p fs fs' phase (.finished o)
  | ended {fs o} : Advance p fs fs (.finished o) (.finished o)

lemma advance_reserve (p : Pipeline) (draw : Nat → BaseId) (submission : String) (attempt : Nat)
    (r : Run) (w : World σ) :
    p.Advance w.files (p.reserve draw submission attempt r w).2.files (.reserving attempt)
      (p.reserve draw submission attempt r w).1.phase := by
  unfold reserve
  dsimp only
  split
  · exact .failed rfl
  · split
    · exact .reserved
    · exact .passedOver
    · exact .failed rfl

lemma advance_writeSource (p : Pipeline) (submission : String) (set : ArtifactSet) (r : Run)
    (w : World σ) :
    p.Advance w.files (writeSource submission set r w).2.files (.writing set)
      (writeSource submission set r w).1.phase := by
  unfold writeSource
  split
  · exact .written
  · exact .failed rfl

lemma runStage_cases (hx : executor.Observes) (config : StageConfig) (set : ArtifactSet)
    (next : Run → World σ → Run) (skipped : List Event) (r : Run) (w : World σ) :
    let x := runStage config executor set next skipped r w
    (∃ o : Outcome, x.1.phase = .finished o ∧ o.success = false) ∨
      x.2.files.isFile (set.path config.stage.outputRole) = true ∧ ∃ r', x.1 = next r' x.2 := by
  unfold runStage
  dsimp only
  split
  · rename_i hnone
    obtain ⟨result, hanswer, hexists⟩ := artifactExists_of_stageFailure hnone
    have hfile := hx _ _ _ result hanswer
    exact Or.inr ⟨hfile.symm.trans hexists, _, rfl⟩
  · exact Or.inl ⟨_, rfl, rfl⟩

lemma advance_step (hp : p.IsStaged) (hx : executor.Observes) (draw : Nat → BaseId)
    (submission : String) (r : Run) (w : World σ) :
    p.Advance w.files (p.step executor draw submission r w).2.files r.phase
      (p.step executor draw submission r w).1.phase := by
  unfold step
  cases hphase : r.phase with
  | reserving attempt => exact p.advance_reserve draw submission attempt r w
  | writing set => exact p.advance_writeSource submission set r w
  | building set =>
    rcases runStage_cases hx p.build set (fun r _ => { r with phase := .rendering set })
      [.stageSkipped p.render.stage.name Run.skipReason] r w with
      ⟨o, hfailed, ho⟩ | ⟨hfile, r', hnext⟩
    · exact hfailed ▸ .failed ho
    · rw [hp.build] at hfile
      exact hnext ▸ .built hfile
  | rendering set =>
    rcases runStage_cases hx p.render set (fun r w => r.finish (.succeeded set (r.elapsed w.files)))
      [] r w with ⟨o, hfailed, ho⟩ | ⟨hfile, r', hnext⟩
    · exact hfailed ▸ .failed ho
    · rw [hp.render] at hfile
      exact hnext ▸ .rendered hfile
  | finished o =>
    simp only [hphase]
    exact .ended

/-! What the phase tells -/

def Attests (p : Pipeline) (fs : FileSystem) : Phase → Prop
  | .reserving _ => True
  | .writing set | .building set => set = p.store.setOf set.base
  | .rendering set => set = p.store.setOf set.base ∧ fs.isFile set.mesh = true
  | .finished o => o.success = true → ∃ base elapsed,
      o = .succeeded (p.store.setOf base) elapsed ∧ fs.isFile (p.store.derive base .image) = true

lemma Attests.advance {fs fs' : FileSystem} {phase phase' : Phase} (h : p.Attests fs phase)
    (hadvance : p.Advance fs fs' phase phase') : p.Attests fs' phase' := by
  cases hadvance with
  | passedOver => trivial
  | reserved => rfl
  | written => exact h
  | built hmesh => exact ⟨h, hmesh⟩
  | @rendered _ set elapsed himage =>
    have hpath : set.image = p.store.derive set.base .image := congrArg ArtifactSet.image h.1
    exact fun _ => ⟨set.base, elapsed, congrArg (Outcome.succeeded · elapsed) h.1, hpath ▸ himage⟩
  | failed ho =>
    intro hsuccess
    simp [ho] at hsuccess
  | ended => exact h

lemma steps_succ (p : Pipeline) (executor : Executor σ) (draw : Nat → BaseId) (submission : String)
    (n : Nat) (r : Run) (w : World σ) :
    p.steps executor draw submission (n + 1) r w =
      p.step executor draw submission (p.steps executor draw submission n r w).1
        (p.steps executor draw submission n r w).2 := by
  induction n generalizing r w with
  | zero => rfl
  | succ n ih => exact ih _ _

lemma Attests.steps (hp : p.IsStaged) (hx : executor.Observes) (h : p.Attests w.files r.phase)
    (draw : Nat → BaseId) (submission : String) (n : Nat) :
    p.Attests (p.steps executor draw submission n r w).2.files
      (p.steps executor draw submission n r w).1.phase := by
  induction n with
  | zero => exact h
  | succ n ih =>
    rw [steps_succ]
    exact ih.advance (advance_step hp hx draw submission _ _)

lemma rendering_of_advance {fs fs' : FileSystem} {phase : Phase}
    (h : p.Advance fs fs' phase (.finished o)) (ho : o.success = true) :
    phase = .finished o ∨ ∃ set elapsed, phase = .rendering set ∧ o = .succeeded set elapsed := by
  cases h with
  | rendered => exact Or.inr ⟨_, _, rfl, rfl⟩
  | failed hfailed => simp [ho] at hfailed
  | ended => exact Or.inl rfl

lemma rendering_of_steps (hp : p.IsStaged) (hx : executor.Observes) (ho : o.success = true)
    (hr : r.phase ≠ .finished o) {n : Nat}
    (h : (p.steps executor draw submission n r w).1.phase = .finished o) :
    ∃ k set elapsed, (p.steps executor draw submission k r w).1.phase = .rendering set ∧
      o = .succeeded set elapsed := by
  induction n with
  | zero => exact absurd h hr
  | succ n ih =>
    rw [steps_succ] at h
    have hadvance := advance_step hp hx draw submission
      (p.steps executor draw submission n r w).1 (p.steps executor draw submission n r w).2
    rw [h] at hadvance
    rcases rendering_of_advance hadvance ho with hfinished | ⟨set, elapsed, hrendering, rfl⟩
    · exact ih hfinished
    · exact ⟨n, set, elapsed, hrendering, rfl⟩

theorem run_succeeded (hp : p.IsStaged) (hx : executor.Observes) {log : List LogEntry} {w' : World σ}
    (h : p.run executor draw submission w = (some o, log, w')) (ho : o.success = true) :
    ∃ base elapsed, o = .succeeded (p.store.setOf base) elapsed ∧
      w'.files.isFile (p.store.derive base .image) = true ∧
      ∃ k r' w₁, p.steps executor draw submission k (Run.start w.files) w = (r', w₁) ∧
        r'.phase = .rendering (p.store.setOf base) ∧
        w₁.files.isFile (p.store.derive base .mesh) = true := by
  unfold run at h
  dsimp only at h
  split at h
  case h_2 => cases h
  case h_1 o' hphase =>
    cases h
    have hbegin : (Run.start w.files).phase ≠ .finished o := Phase.noConfusion
    have hstart : p.Attests w.files (Run.start w.files).phase := trivial
    obtain ⟨k, set, elapsed, hrendering, rfl⟩ := rendering_of_steps hp hx ho hbegin hphase
    -- the end of the run tells of the image, and where the rendering began of the mesh
    have hend := hstart.steps hp hx draw submission maxSteps
    have hmid := hstart.steps hp hx draw submission k
    rw [hphase] at hend
    rw [hrendering] at hmid
    obtain ⟨base, elapsed', heq, himage⟩ := hend ho
    obtain ⟨hset, hmesh⟩ := hmid
    obtain rfl : set = p.store.setOf base := by
      have hbase : set.base = base := Option.some.inj (congrArg Outcome.base heq)
      rw [hset, hbase]
    exact ⟨base, elapsed, rfl, himage, k, _, _, rfl, hrendering, hmesh⟩

end Pipeline

end TreePipeline
