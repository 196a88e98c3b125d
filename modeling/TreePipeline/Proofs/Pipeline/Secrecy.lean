import TreePipeline.Proofs.Pipeline.Calls
import TreePipeline.Proofs.Pipeline.Serving

/-! What a caller can tell of a run. Reports of failures differ in their times only, so that nothing
of a failed run's identifier, stage, tools or paths is ever in them. -/

namespace TreePipeline

namespace Report

variable {o o' : Outcome} {now : Timestamp} {base : BaseId}

def ofFailure (elapsed : Duration) (now : Timestamp) : Report where
  success := false
  elapsedSeconds := elapsed.toSeconds
  meshRef := none
  imageRef := none
  message := failed
  generatedAt := now

def ofSuccess (base : BaseId) (elapsed : Duration) (now : Timestamp) : Report where
  success := true
  elapsedSeconds := elapsed.toSeconds
  meshRef := some (.mesh base)
  imageRef := some (.image base)
  message := generated
  generatedAt := now

lemma ofOutcome_failed (h : o.success = false) : ofOutcome o now = ofFailure o.elapsed now := by
  unfold ofOutcome
  rw [h]
  cases o.base <;> rfl

lemma ofOutcome_nameless (h : o.base = none) : ofOutcome o now = ofFailure o.elapsed now := by
  unfold ofOutcome
  rw [h]
  rfl

lemma ofOutcome_named (hbase : o.base = some base) (h : o.success = true) :
    ofOutcome o now = ofSuccess base o.elapsed now := by
  unfold ofOutcome
  rw [hbase, h]
  rfl

lemma ofOutcome_congr (hbase : o.base = o'.base) (hsuccess : o.success = o'.success)
    (helapsed : o.elapsed = o'.elapsed) : ofOutcome o now = ofOutcome o' now := by
  unfold ofOutcome
  rw [hbase, hsuccess, helapsed]

/-- A report that refers to artifacts, those of the identifier, just if it tells of success. -/
structure Agrees (r : Report) (base : Option BaseId) : Prop where
  mesh : r.meshRef.isSome = r.success
  image : r.imageRef.isSome = r.success
  message : r.message = if r.success then generated else failed
  meshNames : ∀ m, r.meshRef = some m → ∃ id, base = some id ∧ m = .mesh id
  imageNames : ∀ i, r.imageRef = some i → ∃ id, base = some id ∧ i = .image id

lemma agrees_ofFailure (elapsed : Duration) (now : Timestamp) (base : Option BaseId) :
    (ofFailure elapsed now).Agrees base where
  mesh := rfl
  image := rfl
  message := rfl
  meshNames _ h := by cases h
  imageNames _ h := by cases h

lemma agrees_ofSuccess (base : BaseId) (elapsed : Duration) (now : Timestamp) :
    (ofSuccess base elapsed now).Agrees (some base) where
  mesh := rfl
  image := rfl
  message := rfl
  meshNames _ h := ⟨base, rfl, (Option.some.inj h).symm⟩
  imageNames _ h := ⟨base, rfl, (Option.some.inj h).symm⟩

lemma agrees_ofOutcome (o : Outcome) (now : Timestamp) : (ofOutcome o now).Agrees o.base := by
  cases hsuccess : o.success with
  | false =>
    rw [ofOutcome_failed hsuccess]
    exact agrees_ofFailure ..
  | true =>
    cases hbase : o.base with
    | none =>
      rw [ofOutcome_nameless hbase]
      exact agrees_ofFailure ..
    | some base =>
      rw [ofOutcome_named hbase hsuccess]
      exact agrees_ofSuccess ..

end Report

namespace Pipeline

variable {o o' : Outcome} {kind kind' : FailureKind}

/-- Some run of some submission ends so, on whatever pipeline, executor and tree. -/
def Yields (o : Outcome) : Prop :=
  ∃ (σ : Type) (p : Pipeline) (executor : Executor σ) (draw : Nat → BaseId) (submission : String)
    (w w' : World σ) (log : List LogEntry), p.run executor draw submission w = (some o, log, w')

lemma Yields.isConsistent (h : Yields o) : o.IsConsistent := by
  obtain ⟨σ, p, executor, draw, submission, w, w', log, hrun⟩ := h
  obtain ⟨o', log', w'', calls, hrun', -, hcourse⟩ := p.course_run executor draw submission w
  rw [hrun] at hrun'
  simp only [Prod.mk.injEq, Option.some.injEq] at hrun'
  obtain ⟨rfl, -, -⟩ := hrun'
  exact hcourse.isConsistent

lemma Yields.ofOutcome (h : Yields o) (hkind : o.failure = some kind) (now : Timestamp) :
    Report.ofOutcome o now = .ofFailure o.elapsed now := by
  refine Report.ofOutcome_failed (Bool.eq_false_iff.mpr fun hsuccess => ?_)
  rw [h.isConsistent.failure.mp hsuccess] at hkind
  cases hkind

/-- Failed runs cannot be told apart: two failures after the same time have the same report, in which
nothing but the times can vary. Any outcome's report, of a run or not, depends on its identifier,
success and time alone, and is of one piece. -/
theorem failures_indistinguishable :
    (∀ (o o' : Outcome) (kind kind' : FailureKind) (now : Timestamp), Yields o → Yields o' →
      o.failure = some kind → o'.failure = some kind' → o.elapsed = o'.elapsed →
      (Report.ofOutcome o now).toJson = (Report.ofOutcome o' now).toJson ∧
        (Report.ofOutcome o now).toJson = .object [("success", .bool false),
          ("elapsed_seconds", .float o.elapsed.toSeconds), ("message", .string Report.failed),
          ("generated_at", .string now.toText)]) ∧
    (∀ (o o' : Outcome) (now : Timestamp), o.base = o'.base → o.success = o'.success →
      o.elapsed = o'.elapsed → Report.ofOutcome o now = Report.ofOutcome o' now) ∧
    ∀ (o : Outcome) (now : Timestamp), (Report.ofOutcome o now).Agrees o.base := by
  refine ⟨?_, fun _ _ _ => Report.ofOutcome_congr, Report.agrees_ofOutcome⟩
  intro o o' kind kind' now ho ho' hkind hkind' helapsed
  rw [ho.ofOutcome hkind, ho'.ofOutcome hkind', ← helapsed]
  exact ⟨rfl, rfl⟩

/-- A run of the scripted executor by that table. -/
def scriptedRun (fs : FileSystem) (table : List (String × Behavior)) :
    Option Outcome × List LogEntry × World (List Invocation) :=
  examplePipeline.run (.scripted table) (fun _ => default) "F" ⟨fs, []⟩

lemma yields_scriptedRun {fs : FileSystem} {table : List (String × Behavior)}
    (h : (scriptedRun fs table).1 = some o) : Yields o :=
  ⟨_, examplePipeline, .scripted table, fun _ => default, "F", ⟨fs, []⟩, (scriptedRun fs table).2.2,
    (scriptedRun fs table).2.1, by rw [← h]; rfl⟩

theorem failures_indistinguishable_scripted :
    ∃ o o', (scriptedRun (Store.treeOf []) []).1 = some o ∧
      (scriptedRun exampleTree [(Stage.render.name, .timeout)]).1 = some o' ∧
      o.base ≠ o'.base ∧ o.failure ≠ o'.failure ∧ o.failedStage ≠ o'.failedStage ∧
      ∀ now, (Report.ofOutcome o now).toJson = (Report.ofOutcome o' now).toJson := by
  have ho : (scriptedRun (Store.treeOf []) []).1 = some (.failed none .allocation none .zero) := by
    decide +kernel
  have ho' : (scriptedRun exampleTree [(Stage.render.name, .timeout)]).1 =
      some (.failed (some default) .timeoutKilled (some Stage.render.name) .zero) := by
    decide +kernel
  refine ⟨_, _, ho, ho', by decide, by decide, by decide, fun now => ?_⟩
  exact (failures_indistinguishable.1 _ _ _ _ now (yields_scriptedRun ho) (yields_scriptedRun ho')
    rfl rfl rfl).1

end Pipeline

end TreePipeline
