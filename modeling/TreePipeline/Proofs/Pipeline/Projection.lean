import TreePipeline.Proofs.Pipeline.Progress

/-! Executors that keep more in mind than others but do the same. A run does not see what its executor
remembers, so it is the same run with either. -/

namespace TreePipeline

variable {σ τ : Type}

def World.map (f : τ → σ) (w : World τ) : World σ := ⟨w.files, f w.state⟩

def Execution.map (f : τ → σ) (x : Execution τ) : Execution σ :=
  ⟨x.answer, x.files, f x.state, x.events⟩

def Executor.ProjectsTo (executor' : Executor τ) (executor : Executor σ) (f : τ → σ) : Prop :=
  ∀ i fs state, executor.execute i fs (f state) = (executor'.execute i fs state).map f

namespace Pipeline

variable {executor' : Executor τ} {executor : Executor σ} {f : τ → σ}

lemma reserve_map (p : Pipeline) (draw : Nat → BaseId) (submission : String) (attempt : Nat)
    (r : Run) (w : World τ) :
    p.reserve draw submission attempt r (w.map f) =
      ((p.reserve draw submission attempt r w).1,
        (p.reserve draw submission attempt r w).2.map f) := by
  unfold reserve
  dsimp only [World.map]
  split
  · rfl
  · split <;> rfl

lemma writeSource_map (submission : String) (set : ArtifactSet) (r : Run) (w : World τ) :
    writeSource submission set r (w.map f) =
      ((writeSource submission set r w).1, (writeSource submission set r w).2.map f) := by
  unfold writeSource
  dsimp only [World.map]
  split <;> rfl

lemma runStage_map (h : executor'.ProjectsTo executor f) (config : StageConfig) (set : ArtifactSet)
    {next : Run → World σ → Run} {next' : Run → World τ → Run}
    (hnext : ∀ r w, next r (w.map f) = next' r w) (skipped : List Event) (r : Run) (w : World τ) :
    runStage config executor set next skipped r (w.map f) =
      ((runStage config executor' set next' skipped r w).1,
        (runStage config executor' set next' skipped r w).2.map f) := by
  unfold runStage
  dsimp only [World.map]
  rw [h]
  dsimp only [Execution.map]
  split
  · exact congrArg (·, _) (hnext _ ⟨_, _⟩)
  · rfl

lemma step_map (h : executor'.ProjectsTo executor f) (p : Pipeline) (draw : Nat → BaseId)
    (submission : String) (r : Run) (w : World τ) :
    p.step executor draw submission r (w.map f) =
      ((p.step executor' draw submission r w).1,
        (p.step executor' draw submission r w).2.map f) := by
  unfold step
  split
  · exact reserve_map ..
  · exact writeSource_map ..
  · exact runStage_map h _ _ (fun _ _ => rfl) ..
  · exact runStage_map h _ _ (fun _ _ => rfl) ..
  · rfl

lemma steps_map (h : executor'.ProjectsTo executor f) (p : Pipeline) (draw : Nat → BaseId)
    (submission : String) (n : Nat) (r : Run) (w : World τ) :
    p.steps executor draw submission n r (w.map f) =
      ((p.steps executor' draw submission n r w).1,
        (p.steps executor' draw submission n r w).2.map f) := by
  induction n generalizing r w with
  | zero => rfl
  | succ n ih =>
    simp only [steps]
    rw [step_map h]
    exact ih ..

lemma run_map (h : executor'.ProjectsTo executor f) (p : Pipeline) (draw : Nat → BaseId)
    (submission : String) (w : World τ) :
    p.run executor draw submission (w.map f) =
      ((p.run executor' draw submission w).1, (p.run executor' draw submission w).2.1,
        (p.run executor' draw submission w).2.2.map f) := by
  have hsteps := steps_map h p draw submission maxSteps (Run.start w.files) w
  unfold run
  rw [show (w.map f).files = w.files from rfl, hsteps]
  generalize p.steps executor' draw submission maxSteps (Run.start w.files) w = x
  obtain ⟨r, w'⟩ := x
  cases hphase : r.phase <;> simp only [hphase]

end Pipeline

end TreePipeline
