import TreePipeline.Proofs.Pipeline.Calls
import TreePipeline.Proofs.Store.Contention

/-! Any number of runs at once, on one pipeline and store, their steps in any order. Each is at its end
after so many steps of its own, whatever the others do. -/

namespace TreePipeline

open FileSystem Pipeline

variable {σ ι : Type}

def Phase.left : Phase → Nat
  | .reserving attempt => maxSteps - min attempt Store.maxAttempts
  | .writing _ => 3
  | .building _ => 2
  | .rendering _ => 1
  | .finished _ => 0

lemma Phase.finished_of_left {phase : Phase} (h : phase.left = 0) : ∃ o, phase = .finished o := by
  cases phase with
  | reserving attempt =>
    have hmin := Nat.min_le_right attempt Store.maxAttempts
    simp only [left, maxSteps] at h
    omega
  | finished o => exact ⟨o, rfl⟩
  | writing | building | rendering => cases h

lemma Pipeline.left_reserve (p : Pipeline) (draw : Nat → BaseId) (submission : String)
    (attempt : Nat) (r : Run) (w : World σ) :
    (p.reserve draw submission attempt r w).1.phase.left ≤
      (Phase.reserving attempt).left - 1 := by
  by_cases hlast : Store.maxAttempts ≤ attempt
  · obtain ⟨r', elapsed, hr, hphase⟩ := p.reserve_exhausted draw submission r w hlast
    rw [hr, hphase]
    exact Nat.zero_le _
  · have hmin : min attempt Store.maxAttempts = attempt := Nat.min_eq_left (by omega)
    cases hattempt : p.store.attempt (draw attempt) w.files with
    | reserved fs =>
      obtain ⟨r', hr, hphase⟩ := p.reserve_reserved draw submission r w hlast hattempt
      rw [hr, hphase]
      simp only [Phase.left, hmin, maxSteps]
      omega
    | taken =>
      obtain ⟨r', hr, hphase⟩ := p.reserve_taken draw submission r w hlast hattempt
      rw [hr, hphase]
      simp only [Phase.left, hmin, maxSteps]
      omega
    | refused e =>
      obtain ⟨r', elapsed, hr, hphase⟩ := p.reserve_refused draw submission r w hlast hattempt
      rw [hr, hphase]
      exact Nat.zero_le _

lemma Pipeline.left_runStage (config : StageConfig) (executor : Executor σ) (set : ArtifactSet)
    {next : Run → World σ → Run} {skipped : List Event} (r : Run) (w : World σ) {n : Nat}
    (hnext : ∀ r w, (next r w).phase.left ≤ n) :
    (runStage config executor set next skipped r w).1.phase.left ≤ n := by
  cases hfailure : stageFailure (executor.execute (config.invocation set) w.files w.state).answer with
  | none =>
    obtain ⟨r', hr⟩ := runStage_passed executor w hfailure
    rw [hr]
    exact hnext _ _
  | some kind =>
    obtain ⟨r', elapsed, hr, hphase⟩ := runStage_failed executor w hfailure
    rw [hr, hphase]
    exact Nat.zero_le _

lemma Pipeline.left_step (p : Pipeline) (executor : Executor σ) (draw : Nat → BaseId)
    (submission : String) (r : Run) (w : World σ) :
    (p.step executor draw submission r w).1.phase.left ≤ r.phase.left - 1 := by
  cases hphase : r.phase with
  | reserving attempt =>
    rw [step_reserving hphase]
    exact p.left_reserve draw submission attempt r w
  | writing set =>
    rw [step_writing hphase]
    cases hwrite : w.files.writeFile set.source (Utf8.encode submission) with
    | ok fs =>
      obtain ⟨r', hr, hphase'⟩ := writeSource_ok (r := r) hwrite
      rw [hr, hphase']
      exact Nat.le_refl _
    | error e =>
      obtain ⟨r', elapsed, hr, hphase'⟩ := writeSource_error (r := r) hwrite
      rw [hr, hphase']
      exact Nat.zero_le _
  | building set =>
    rw [step_building hphase]
    exact left_runStage p.build executor set r w fun _ _ => Nat.le_refl _
  | rendering set =>
    rw [step_rendering hphase]
    exact left_runStage p.render executor set r w fun _ _ => Nat.zero_le _
  | finished o =>
    rw [step_finished hphase, hphase]
    exact Nat.zero_le _

/-- Runs under way in one world, in which their calls are observed. -/
structure Crowd (ι σ : Type) where
  world : World (σ × List Call)
  runs : ι → Run

namespace Crowd

def start (w : World σ) (began : ι → Int) : Crowd ι σ :=
  ⟨w.withCalls [], fun i => ⟨.reserving 0, began i, []⟩⟩

def files (s : Crowd ι σ) : FileSystem := s.world.files

def calls (s : Crowd ι σ) : List Call := s.world.state.2

def plainWorld (s : Crowd ι σ) : World σ := ⟨s.files, s.world.state.1⟩

variable [DecidableEq ι]

def step (p : Pipeline) (executor : Executor σ) (draw : ι → Nat → BaseId) (submission : ι → String)
    (s : Crowd ι σ) (i : ι) : Crowd ι σ :=
  let x := p.step executor.traced (draw i) (submission i) (s.runs i) s.world
  ⟨x.2, Function.update s.runs i x.1⟩

def move (p : Pipeline) (executor : Executor σ) (draw : ι → Nat → BaseId) (submission : ι → String)
    (s : Crowd ι σ) : Store.Move ι → Crowd ι σ
  | .step i => s.step p executor draw submission i
  | .pass nanos => { s with world := { s.world with files := s.files.tick nanos } }

def run (p : Pipeline) (executor : Executor σ) (draw : ι → Nat → BaseId) (submission : ι → String)
    (s : Crowd ι σ) (moves : List (Store.Move ι)) : Crowd ι σ :=
  moves.foldl (move p executor draw submission) s

lemma runs_step_self (p : Pipeline) (executor : Executor σ) (draw : ι → Nat → BaseId)
    (submission : ι → String) (s : Crowd ι σ) (i : ι) :
    (s.step p executor draw submission i).runs i =
      (p.step executor.traced (draw i) (submission i) (s.runs i) s.world).1 :=
  Function.update_self ..

lemma runs_step_of_ne (p : Pipeline) (executor : Executor σ) (draw : ι → Nat → BaseId)
    (submission : ι → String) (s : Crowd ι σ) {i j : ι} (h : j ≠ i) :
    (s.step p executor draw submission j).runs i = s.runs i :=
  Function.update_of_ne (Ne.symm h) _ _

lemma step_of_finished {p : Pipeline} {executor : Executor σ} {draw : ι → Nat → BaseId}
    {submission : ι → String} {s : Crowd ι σ} {i : ι} {o : Outcome}
    (h : (s.runs i).phase = .finished o) : s.step p executor draw submission i = s := by
  unfold step
  rw [step_finished h]
  dsimp only
  rw [Function.update_eq_self]

def isStepOf (i : ι) : Store.Move ι → Bool
  | .step j => j = i
  | .pass _ => false

lemma left_run (p : Pipeline) (executor : Executor σ) (draw : ι → Nat → BaseId)
    (submission : ι → String) (s : Crowd ι σ) (i : ι) (moves : List (Store.Move ι)) :
    ((s.run p executor draw submission moves).runs i).phase.left ≤
      (s.runs i).phase.left - moves.countP (isStepOf i) := by
  -- the moves of the others leave the run as it is, its own count down
  induction moves generalizing s with
  | nil => exact Nat.le_refl _
  | cons m rest ih =>
    cases m with
    | pass nanos => exact ih _
    | step j =>
      have hrest := ih (s.step p executor draw submission j)
      by_cases hj : j = i
      · subst hj
        have hcount : (Store.Move.step j :: rest).countP (isStepOf j) =
            rest.countP (isStepOf j) + 1 := List.countP_cons_of_pos (by simp [isStepOf])
        have hstep := left_step p executor.traced (draw j) (submission j) (s.runs j) s.world
        rw [runs_step_self] at hrest
        rw [hcount]
        exact Nat.le_trans hrest (by omega)
      · have hcount : (Store.Move.step j :: rest).countP (isStepOf i) =
            rest.countP (isStepOf i) := List.countP_cons_of_neg (by simp [isStepOf, hj])
        rw [runs_step_of_ne p executor draw submission s hj] at hrest
        rw [hcount]
        exact hrest

lemma finished_of_steps (p : Pipeline) (executor : Executor σ) (draw : ι → Nat → BaseId)
    (submission : ι → String) (w : World σ) (began : ι → Int) {i : ι} {moves : List (Store.Move ι)}
    (hmoves : maxSteps ≤ moves.countP (isStepOf i)) :
    ∃ o, (((start w began).run p executor draw submission moves).runs i).phase = .finished o := by
  have hleft := left_run p executor draw submission (start w began) i moves
  have hfirst : ((start w began : Crowd ι σ).runs i).phase.left ≤ maxSteps := Nat.sub_le _ _
  exact Phase.finished_of_left (by omega)

end Crowd

end TreePipeline
