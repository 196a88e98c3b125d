import TreePipeline.Proofs.Files.Resembling
import TreePipeline.Proofs.Pipeline.Refusal
import TreePipeline.Proofs.Pipeline.Undisturbed
import TreePipeline.Proofs.Supervision.Ceiling

/-! The executor that acts by a table as a stand-in for the one that runs tools. The two judge what
stands at the expected output differently: the first asks whether anything does, the second whether it
is a regular file. Where that comes to the same, a run cannot tell one from the other. -/

namespace TreePipeline

open FileSystem

variable {σ : Type}

namespace Pipeline

/-- What of an answer says how the stage went. -/
def verdict : Except StageError StageResult → Except FailureKind (Option FailureKind × Bool)
  | .ok result => .ok (result.failure, result.artifactExists)
  | .error e => .error e.failureKind

variable {answer answer' : Except StageError StageResult} {result result' : StageResult}

lemma stageFailure_of_verdict (h : verdict answer = verdict answer') :
    stageFailure answer = stageFailure answer' := by
  cases answer with
  | ok result =>
    cases answer' with
    | ok result' => exact congrArg Prod.fst (Except.ok.inj h)
    | error e => cases h
  | error e =>
    cases answer' with
    | ok result' => cases h
    | error e' => rfl

lemma verdict_ok_eq_iff : verdict (.ok result) = verdict (.ok result') ↔
    (result.exit = .timeoutKilled ↔ result'.exit = .timeoutKilled) ∧
      result.artifactExists = result'.artifactExists := by
  have hparts : verdict (.ok result) = verdict (.ok result') ↔
      result.failure = result'.failure ∧ result.artifactExists = result'.artifactExists := by
    simp only [verdict, Except.ok.injEq, Prod.mk.injEq]
  rw [hparts]
  refine and_congr_left fun hexists => ?_
  unfold StageResult.failure
  rw [hexists]
  by_cases h : result.exit = .timeoutKilled <;> by_cases h' : result'.exit = .timeoutKilled <;>
    cases result'.artifactExists <;> simp [h, h']

end Pipeline

namespace FileSystem

lemma isFile_eq_pathExists_iff {fs : FileSystem} {path : Octets} :
    fs.isFile path = fs.pathExists path ↔ (fs.pathExists path = true → fs.isFile path = true) := by
  refine ⟨fun h hexists => h.trans hexists, fun h => ?_⟩
  exact Bool.eq_iff_iff.mpr ⟨pathExists_of_isFile, h⟩

end FileSystem

lemma KilledAtCeiling.classify_iff {status : UInt32} {limit elapsed : Duration} {used : Nat}
    (h : KilledAtCeiling limit status used) : classify status limit elapsed = .timeoutKilled ↔
      WaitStatus.signal? status = some signalCpuLimit ∨ limit.total ≤ elapsed.total := by
  cases h with
  | soft hsignal => exact iff_of_true (classify_soft hsignal) (Or.inl hsignal)
  | hard c hc hsignal hused =>
    rw [classify_hard_iff hsignal, hsignal]
    simp [signalKill, signalCpuLimit]

lemma classify_of_exitCode? {status : UInt32} {limit elapsed : Duration} {code : Nat}
    (h : WaitStatus.exitCode? status = some code) :
    classify status limit elapsed = .exited code := by
  unfold classify
  rw [h]

namespace Behavior

variable {b : Behavior} {i : Invocation} {fs fs' written : FileSystem}

lemma body_ne_nil (stageName : String) : body stageName ≠ [] := by
  unfold body Utf8.encode
  rw [String.toList_append, String.toList_append, List.flatMap_append, List.flatMap_append]
  exact List.append_ne_nil_of_left_ne_nil (List.append_ne_nil_of_left_ne_nil (by decide) _) _

lemma act_written (h : fs.writeFile i.expectedOutput (body i.stageName) = .ok written) :
    produce.act i fs = (.ok (resultOf i (.exited 0) written), written) := by
  rw [act, h]

lemma act_unwritten {e : SystemError}
    (h : fs.writeFile i.expectedOutput (body i.stageName) = .error e) :
    produce.act i fs = (.error (.system e), fs) := by
  rw [act, h]

/-- The scripted stage has a result, and leaves a regular file at the output, if anything. -/
def LeavesFile (b : Behavior) (i : Invocation) (fs : FileSystem) : Prop :=
  ∃ result, (b.act i fs).1 = .ok result ∧
    ((b.act i fs).2.pathExists i.expectedOutput = true →
      (b.act i fs).2.isFile i.expectedOutput = true)

lemma leavesFile_iff {exit : ExitOutcome} {left : FileSystem}
    (h : b.act i fs = (.ok (resultOf i exit left), left)) : b.LeavesFile i fs ↔
      (left.pathExists i.expectedOutput = true → left.isFile i.expectedOutput = true) := by
  unfold LeavesFile
  rw [h]
  exact ⟨fun ⟨_, _, hleft⟩ => hleft, fun hleft => ⟨_, rfl, hleft⟩⟩

lemma not_leavesFile_of_unwritten {e : SystemError}
    (h : fs.writeFile i.expectedOutput (body i.stageName) = .error e) :
    ¬ produce.LeavesFile i fs := by
  rintro ⟨result, hresult, -⟩
  rw [act_unwritten h] at hresult
  cases hresult

lemma leavesFile_iff_of_namesFiles (hfs : fs.NamesFiles) (hb : b ≠ .launchFailure) :
    b.LeavesFile i fs ↔
      (b = .produce → ∃ written, fs.writeFile i.expectedOutput (body i.stageName) = .ok written) ∧
      (fs.pathExists i.expectedOutput = true → fs.isFile i.expectedOutput = true) := by
  cases b with
  | launchFailure => exact absurd rfl hb
  | «omit» | timeout =>
    rw [leavesFile_iff rfl]
    simp
  | produce =>
    cases hwrite : fs.writeFile i.expectedOutput (body i.stageName) with
    | error e => simp [not_leavesFile_of_unwritten hwrite]
    | ok written =>
      rw [leavesFile_iff (act_written hwrite), hfs.isFile_written_iff hwrite]
      simp

lemma act_congr (hfs : fs.Resembles fs') (b : Behavior) (i : Invocation) :
    Pipeline.verdict (b.act i fs').1 = Pipeline.verdict (b.act i fs).1 ∧
      (b.act i fs).2.Resembles (b.act i fs').2 := by
  have hresult : ∀ {left left' : FileSystem} (exit : ExitOutcome), left.Resembles left' →
      Pipeline.verdict (.ok (resultOf i exit left')) = Pipeline.verdict (.ok (resultOf i exit left)) :=
    fun exit hleft => Pipeline.verdict_ok_eq_iff.mpr ⟨Iff.rfl, hleft.pathExists_eq i.expectedOutput⟩
  cases b with
  | «omit» | timeout => exact ⟨hresult _ hfs, hfs⟩
  | launchFailure => exact ⟨rfl, hfs⟩
  | produce =>
    cases hwrite : fs.writeFile i.expectedOutput (body i.stageName) with
    | ok written =>
      obtain ⟨written', hwrite', hsame⟩ := hfs.writeFile hwrite id
      rw [act_written hwrite, act_written hwrite']
      exact ⟨hresult _ hsame, hsame⟩
    | error e =>
      cases hwrite' : fs'.writeFile i.expectedOutput (body i.stageName) with
      | error e' =>
        rw [act_unwritten hwrite, act_unwritten hwrite']
        exact ⟨rfl, hfs⟩
      | ok written' =>
        obtain ⟨written, hwritten, -⟩ := hfs.symm.writeFile hwrite' id
        cases hwrite.symm.trans hwritten

end Behavior

namespace Machine

variable {m : Machine σ} {probe : DisplayProbe} {i : Invocation} {fs : FileSystem} {state : σ}
  {hit : Bool} {status : UInt32} {b : Behavior}

def elapsed (m : Machine σ) (probe : DisplayProbe) (i : Invocation) (fs : FileSystem) (state : σ) :
    Duration :=
  .ofNanos ((m.executeStage probe i fs state).files.clock - fs.clock).toNat

structure Ends (m : Machine σ) (probe : DisplayProbe) (i : Invocation) (fs : FileSystem) (state : σ)
    (hit : Bool) (status : UInt32) : Prop where
  reaped : ((Supervisor.start i.captureLimit).after (m.history i probe fs state)).watch =
    .reaped hit (.ok status)
  captured : ∃ kept,
    ((Supervisor.start i.captureLimit).after (m.history i probe fs state)).captured = .ok kept

lemma Ends.exists_answer (h : m.Ends probe i fs state hit status) :
    ∃ result, (m.executeStage probe i fs state).answer = .ok result ∧
      result.exit = (if hit then .timeoutKilled
        else classify status i.cpuLimit (m.elapsed probe i fs state)) ∧
      result.artifactExists = (m.executeStage probe i fs state).files.isFile i.expectedOutput := by
  obtain ⟨x, os, hx, hos, -, hanswer⟩ := m.executeStage_logged i probe fs state
  obtain ⟨hreaped, kept, hcaptured⟩ := h
  rw [hos] at hreaped hcaptured
  rcases hanswer with ⟨rfl, -⟩ | hanswer
  · cases hreaped
  · rw [elapsed, hx]
    simp only [Supervisor.conclude, Supervisor.answer, hreaped, hcaptured] at hanswer
    split at hanswer
    · exact ⟨_, Option.some.inj hanswer, rfl, rfl⟩
    · cases hanswer

/-- What a tool does that the scripted stage stands for. A tool that writes its output writes it if
that can be written. -/
inductive Does (m : Machine σ) (probe : DisplayProbe) (i : Invocation) (fs : FileSystem) (state : σ) :
    Behavior → Prop
  | produced {status : UInt32} (content : Octets) (h : m.Ends probe i fs state false status)
    (hexit : WaitStatus.exitCode? status = some 0)
    (hfiles : ∀ written, fs.writeFile i.expectedOutput content = .ok written →
      written.Resembles (m.executeStage probe i fs state).files) : Does m probe i fs state .produce
  | omitted {status : UInt32} (h : m.Ends probe i fs state false status)
    (hexit : WaitStatus.exitCode? status = some 0)
    (hfiles : fs.Resembles (m.executeStage probe i fs state).files) : Does m probe i fs state .omit
  | timedOut {hit : Bool} {status : UInt32} {used : Nat} (h : m.Ends probe i fs state hit status)
    (hkill : hit = true ∨ KilledAtCeiling i.cpuLimit status used)
    (hfiles : fs.Resembles (m.executeStage probe i fs state).files) :
    Does m probe i fs state .timeout
  | unlaunched {e : SystemError} (hdisplay : displayCheck probe i fs = .ok ())
    (h : m.launchChecked i fs state = .error e) : Does m probe i fs state .launchFailure

/-- A kill is known for one: it was by the deadline, by the soft limit, or not before the limit. -/
def KnowsKill (m : Machine σ) (probe : DisplayProbe) (i : Invocation) (fs : FileSystem) (state : σ) :
    Prop :=
  ∀ hit status, m.Ends probe i fs state hit status → hit = true ∨
    WaitStatus.signal? status = some signalCpuLimit ∨
      i.cpuLimit.total ≤ (m.elapsed probe i fs state).total

def IsFaithful (m : Machine σ) (probe : DisplayProbe) (i : Invocation) (fs : FileSystem) (state : σ)
    (b : Behavior) : Prop :=
  b = .launchFailure ∨ b.LeavesFile i fs ∧ (b = .timeout → m.KnowsKill probe i fs state)

lemma Ends.unique {hit' : Bool} {status' : UInt32} (h : m.Ends probe i fs state hit status)
    (h' : m.Ends probe i fs state hit' status') : hit = hit' ∧ status = status' := by
  cases h.reaped.symm.trans h'.reaped
  exact ⟨rfl, rfl⟩

lemma Ends.verdict_eq_iff {left : FileSystem} (h : m.Ends probe i fs state hit status)
    (hfiles : left.Resembles (m.executeStage probe i fs state).files) (exit : ExitOutcome) :
    Pipeline.verdict (m.executeStage probe i fs state).answer =
        Pipeline.verdict (.ok (Behavior.resultOf i exit left)) ↔
      ((hit = true ∨ classify status i.cpuLimit (m.elapsed probe i fs state) = .timeoutKilled) ↔
        exit = .timeoutKilled) ∧
      (left.pathExists i.expectedOutput = true → left.isFile i.expectedOutput = true) := by
  obtain ⟨result, hanswer, hexit, hexists⟩ := h.exists_answer
  have hended : result.exit = .timeoutKilled ↔
      hit = true ∨ classify status i.cpuLimit (m.elapsed probe i fs state) = .timeoutKilled := by
    rw [hexit]
    cases hit <;> simp
  rw [hanswer, Pipeline.verdict_ok_eq_iff, hended, hexists, hfiles.isFile_eq]
  exact and_congr_right fun _ => isFile_eq_pathExists_iff

lemma Ends.knowsKill_iff {used : Nat} (h : m.Ends probe i fs state hit status)
    (hkill : hit = true ∨ KilledAtCeiling i.cpuLimit status used) :
    m.KnowsKill probe i fs state ↔ hit = true ∨
      classify status i.cpuLimit (m.elapsed probe i fs state) = .timeoutKilled := by
  have hknows : m.KnowsKill probe i fs state ↔ hit = true ∨
      WaitStatus.signal? status = some signalCpuLimit ∨
        i.cpuLimit.total ≤ (m.elapsed probe i fs state).total := by
    refine ⟨fun hall => hall hit status h, fun hone hit' status' h' => ?_⟩
    obtain ⟨rfl, rfl⟩ := h.unique h'
    exact hone
  rw [hknows]
  rcases hkill with hhit | hceiling
  · exact iff_of_true (Or.inl hhit) (Or.inl hhit)
  · rw [hceiling.classify_iff]

lemma Does.verdict_eq_iff (h : m.Does probe i fs state b) :
    Pipeline.verdict (m.executeStage probe i fs state).answer = Pipeline.verdict (b.act i fs).1 ↔
      m.IsFaithful probe i fs state b := by
  cases h with
  | omitted h hexit hfiles =>
    have hanswer := h.verdict_eq_iff hfiles (.exited 0)
    rw [classify_of_exitCode? hexit] at hanswer
    have hleaves : Behavior.LeavesFile .omit i fs ↔ _ := Behavior.leavesFile_iff rfl
    rw [IsFaithful, hleaves]
    refine hanswer.trans ?_
    simp
  | produced content h hexit hfiles =>
    cases hwrite : fs.writeFile i.expectedOutput (Behavior.body i.stageName) with
    | error e =>
      obtain ⟨result, hanswer, -⟩ := h.exists_answer
      rw [hanswer, Behavior.act_unwritten hwrite, IsFaithful]
      simp [Pipeline.verdict, Behavior.not_leavesFile_of_unwritten hwrite]
    | ok left =>
      obtain ⟨written, hwritten, hsame⟩ := (Resembles.refl fs).writeFile hwrite
        fun hempty => absurd hempty (Behavior.body_ne_nil _)
      have hanswer := h.verdict_eq_iff (hsame.trans (hfiles written hwritten)) (.exited 0)
      rw [classify_of_exitCode? hexit] at hanswer
      have hact := Behavior.act_written hwrite
      rw [hact, IsFaithful, Behavior.leavesFile_iff hact]
      refine hanswer.trans ?_
      simp
  | timedOut h hkill hfiles =>
    have hanswer := h.verdict_eq_iff hfiles .timeoutKilled
    have hleaves : Behavior.LeavesFile .timeout i fs ↔ _ := Behavior.leavesFile_iff rfl
    rw [IsFaithful, hleaves, h.knowsKill_iff hkill]
    refine hanswer.trans ?_
    simp [and_comm]
  | @unlaunched e hdisplay h =>
    have hanswer : (m.executeStage probe i fs state).answer = .error (.launch i.program e) := by
      rw [executeStage_of_error hdisplay h]
    rw [hanswer]
    exact iff_of_true rfl (Or.inl rfl)

/-! Two executors side by side -/

lemma Does.resembles (h : m.Does probe i fs state b) {result : StageResult}
    (hresult : (b.act i fs).1 = .ok result) :
    (b.act i fs).2.Resembles (m.executeStage probe i fs state).files := by
  cases h with
  | omitted _ _ hfiles | timedOut _ _ hfiles => exact hfiles
  | unlaunched => cases hresult
  | produced content _ _ hfiles =>
    cases hwrite : fs.writeFile i.expectedOutput (Behavior.body i.stageName) with
    | error e =>
      rw [Behavior.act_unwritten hwrite] at hresult
      cases hresult
    | ok left =>
      obtain ⟨written, hwritten, hsame⟩ := (Resembles.refl fs).writeFile hwrite
        fun hempty => absurd hempty (Behavior.body_ne_nil _)
      rw [Behavior.act_written hwrite]
      exact hsame.trans (hfiles written hwritten)

end Machine

namespace Pipeline

/-- What the table has the stage do. -/
def behaviorIn (table : List (String × Behavior)) (i : Invocation) : Behavior :=
  (table.lookup i.stageName).getD .produce

structure Follows (m : Machine σ) (probe : DisplayProbe) (table : List (String × Behavior))
    (i : Invocation) (fs : FileSystem) (state : σ) : Prop where
  does : m.Does probe i fs state (behaviorIn table i)
  faithful : m.IsFaithful probe i fs state (behaviorIn table i)

/-- The tools of a run all do so, each in the tree that it is called in. -/
def RunFollows (p : Pipeline) (m : Machine σ) (probe : DisplayProbe)
    (table : List (String × Behavior)) (draw : Nat → BaseId) (submission : String) (w : World σ) :
    Prop :=
  ∀ set fs, p.Prepares draw submission w.files fs set →
    let built := m.executeStage probe (p.build.invocation set) fs w.state
    Follows m probe table (p.build.invocation set) fs w.state ∧
      (stageFailure built.answer = none →
        Follows m probe table (p.render.invocation set) built.files built.state)

def ending (p : Pipeline) (set : ArtifactSet) : Option FailureKind → Option FailureKind → Outcome
  | some kind, _ => .failed (some set.base) kind (some p.build.stage.name) .zero
  | none, some kind => .failed (some set.base) kind (some p.render.stage.name) .zero
  | none, none => .succeeded set .zero

def refusal (p : Pipeline) (draw : Nat → BaseId) (fs : FileSystem) : Outcome :=
  match (p.store.allocate draw fs).result with
  | .ok set => .failed (some set.base) .allocation none .zero
  | .error _ => .failed none .allocation none .zero

variable {p : Pipeline} {executor : Executor σ} {draw : Nat → BaseId} {submission : String}
  {w : World σ} {o : Outcome} {calls : List Call} {set : ArtifactSet} {fs : FileSystem}

lemma Course.untimed_of_prepares (hcourse : p.Course executor draw submission w o calls)
    (h : p.Prepares draw submission w.files fs set) {built rendered : Execution σ}
    (hbuilt : executor.execute (p.build.invocation set) fs w.state = built)
    (hrendered : executor.execute (p.render.invocation set) built.files built.state = rendered) :
    o.untimed = p.ending set (stageFailure built.answer) (stageFailure rendered.answer) := by
  subst hbuilt hrendered
  cases hcourse with
  | refused halloc =>
    rw [h.1] at halloc
    cases halloc
  | unwritten halloc hwrite =>
    obtain rfl := Except.ok.inj (h.1.symm.trans halloc)
    rw [h.2] at hwrite
    cases hwrite
  | unbuilt hprep hbuilt hbuild =>
    obtain ⟨rfl, rfl⟩ := h.unique hprep
    subst hbuilt
    rw [hbuild]
    rfl
  | unrendered hprep hbuilt hbuild hrendered hrender
  | succeeded hprep hbuilt hbuild hrendered hrender =>
    obtain ⟨rfl, rfl⟩ := h.unique hprep
    subst hbuilt hrendered
    rw [hbuild, hrender]
    rfl

lemma Course.untimed_of_unprepared (hcourse : p.Course executor draw submission w o calls)
    (h : ¬ ∃ set fs, p.Prepares draw submission w.files fs set) :
    o.untimed = p.refusal draw w.files := by
  unfold refusal
  cases hcourse with
  | refused halloc =>
    rw [halloc]
    rfl
  | unwritten halloc =>
    rw [halloc]
    rfl
  | unbuilt hprep | unrendered hprep | succeeded hprep => exact absurd ⟨_, _, hprep⟩ h

lemma exists_ok_of_stageFailure {answer : Except StageError StageResult}
    (h : stageFailure answer = none) : ∃ result, answer = .ok result := by
  cases answer with
  | ok result => exact ⟨result, rfl⟩
  | error e => cases h

lemma Follows.agree {m : Machine σ} {probe : DisplayProbe} {table : List (String × Behavior)}
    {i : Invocation} {fs fs' : FileSystem} {state : σ} (h : Follows m probe table i fs state)
    (hfs : fs.Resembles fs') {seen : List Invocation} {y : Execution (List Invocation)}
    (hy : (Executor.scripted table).execute i fs' seen = y) :
    verdict (m.executeStage probe i fs state).answer = verdict y.answer ∧
      (stageFailure (m.executeStage probe i fs state).answer = none →
        (m.executeStage probe i fs state).files.Resembles y.files) := by
  subst hy
  obtain ⟨hverdict, hleft⟩ := Behavior.act_congr hfs (behaviorIn table i) i
  have hsame := h.does.verdict_eq_iff.mpr h.faithful
  refine ⟨hsame.trans hverdict.symm, fun hpassed => ?_⟩
  rw [stageFailure_of_verdict hsame] at hpassed
  obtain ⟨result, hresult⟩ := exists_ok_of_stageFailure hpassed
  exact (h.does.resembles hresult).symm.trans hleft

end Pipeline

/-- What an orchestrator sees of a call. -/
def Call.outline (c : Call) : Invocation × Except FailureKind (Option FailureKind × Bool) :=
  (c.invocation, Pipeline.verdict c.answer)

namespace Pipeline

lemma RunFollows.untimed_eq {p : Pipeline} {m : Machine σ} {probe : DisplayProbe}
    {table : List (String × Behavior)} {draw : Nat → BaseId} {submission : String} {w : World σ}
    (h : p.RunFollows m probe table draw submission w) {seen : List Invocation} {o o' : Outcome}
    {calls calls' : List Call} (hreal : p.Course (m.runner probe) draw submission w o calls)
    (hfake : p.Course (.scripted table) draw submission ⟨w.files, seen⟩ o' calls') :
    o.untimed = o'.untimed ∧ calls.map Call.outline = calls'.map Call.outline := by
  by_cases hprepared : ∃ set fs, p.Prepares draw submission w.files fs set
  · obtain ⟨set, fs, hprep⟩ := hprepared
    obtain ⟨hbuild, hrender⟩ := h set fs hprep
    generalize hbuilt' : (Executor.scripted table).execute (p.build.invocation set) fs seen = built'
    generalize hrendered' : (Executor.scripted table).execute (p.render.invocation set) built'.files
      built'.state = rendered'
    obtain ⟨hverdict, hleft⟩ := hbuild.agree (.refl fs) hbuilt'
    generalize hbuilt : m.executeStage probe (p.build.invocation set) fs w.state = built at *
    generalize hrendered : m.executeStage probe (p.render.invocation set) built.files built.state =
      rendered
    obtain ⟨-, hboth, hone⟩ := hreal.calls_of_prepares hprep hbuilt hrendered
    obtain ⟨-, hboth', hone'⟩ := hfake.calls_of_prepares hprep hbuilt' hrendered'
    rw [hreal.untimed_of_prepares hprep hbuilt hrendered,
      hfake.untimed_of_prepares hprep hbuilt' hrendered']
    have hfailure := stageFailure_of_verdict hverdict
    cases hfirst : stageFailure built.answer with
    | some kind =>
      have hstops : stageFailure built.answer ≠ none := hfirst ▸ Option.some_ne_none kind
      rw [hone hstops, hone' (hfailure ▸ hstops), ← hfailure, hfirst]
      exact ⟨rfl, by simp [Call.outline, hverdict]⟩
    | none =>
      obtain ⟨hverdict', -⟩ := (hrender hfirst).agree (hleft hfirst) hrendered'
      rw [hrendered] at hverdict'
      rw [hboth hfirst, hboth' (hfailure ▸ hfirst), ← hfailure, hfirst,
        stageFailure_of_verdict hverdict']
      exact ⟨rfl, by simp [Call.outline, hverdict, hverdict']⟩
  · have hreal_calls := hreal.calls_eq_nil hprepared
    have hfake_calls := hfake.calls_eq_nil hprepared
    rw [hreal_calls, hfake_calls, hreal.untimed_of_unprepared hprepared,
      hfake.untimed_of_unprepared hprepared]
    exact ⟨rfl, rfl⟩

/-! What the stand-in remembers -/

def noting (table : List (String × Behavior)) : Executor (List Call) where
  execute i fs calls :=
    let (answer, fs) := (behaviorIn table i).act i fs
    ⟨answer, fs, calls ++ [⟨i, answer⟩], []⟩

lemma projectsTo_noting (table : List (String × Behavior)) (seen : List Invocation) :
    (noting table).ProjectsTo (Executor.scripted table).traced
      fun calls => (seen ++ calls.map Call.invocation, calls) := by
  intro i fs calls
  let call : Call := ⟨i, ((behaviorIn table i).act i fs).1⟩
  have hseen : seen ++ calls.map Call.invocation ++ [i] =
      seen ++ (calls ++ [call]).map Call.invocation := by
    rw [List.map_append, List.append_assoc]
    rfl
  simp only [Executor.traced, Executor.scripted, Executor.recording, noting, Execution.map]
  exact congrArg (fun x => Execution.mk _ _ (x, _) _) hseen

lemma state_of_traced {p : Pipeline} {table : List (String × Behavior)} {draw : Nat → BaseId}
    {submission : String} {fs : FileSystem} {seen : List Invocation} {o : Option Outcome}
    {log : List LogEntry} {w : World (List Invocation)} {calls : List Call}
    (h : p.run (Executor.scripted table).traced draw submission (World.withCalls ⟨fs, seen⟩ []) =
      (o, log, w.withCalls calls)) : w.state = seen ++ calls.map Call.invocation := by
  let start : World (List Call) := ⟨fs, []⟩
  have hstart : (World.mk fs seen).withCalls [] =
      start.map fun calls => (seen ++ calls.map Call.invocation, calls) := by
    simp [World.withCalls, World.map, start]
  rw [hstart, run_map (projectsTo_noting table seen)] at h
  simp only [World.map, World.withCalls, Prod.mk.injEq, World.mk.injEq] at h
  obtain ⟨-, -, -, hstate, rfl⟩ := h
  exact hstate.symm

/-- The scripted executor as a stand-in for tools that do as it says. The verdict on a stage is the same
just if the scripted one has a result and leaves a regular file at the output, or nothing, and a kill is
known for one; a launch that fails always has the same verdict. There is such a result just if no entry
but a regular file stands at the output, and it can be written if it is to be. Where this holds of the
stages that a run calls, the run comes to the same with either executor, but for its time, by calls that
are the same. -/
theorem scripted_stands_in (m : Machine σ) (probe : DisplayProbe) (table : List (String × Behavior)) :
    (∀ (i : Invocation) (fs : FileSystem) (state : σ) (seen : List Invocation),
      m.Does probe i fs state (behaviorIn table i) →
      (verdict ((m.runner probe).execute i fs state).answer =
          verdict ((Executor.scripted table).execute i fs seen).answer ↔
        behaviorIn table i = .launchFailure ∨ (behaviorIn table i).LeavesFile i fs ∧
          (behaviorIn table i = .timeout → m.KnowsKill probe i fs state))) ∧
    (∀ (b : Behavior) (i : Invocation) (fs : FileSystem), fs.NamesFiles → b ≠ .launchFailure →
      (b.LeavesFile i fs ↔
        (b = .produce → ∃ written,
          fs.writeFile i.expectedOutput (Behavior.body i.stageName) = .ok written) ∧
        (fs.pathExists i.expectedOutput = true → fs.isFile i.expectedOutput = true))) ∧
    ∀ (p : Pipeline) (draw : Nat → BaseId) (submission : String) (w : World σ)
      (seen : List Invocation), p.RunFollows m probe table draw submission w →
      ∃ (o o' : Outcome) (log log' : List LogEntry) (w₁ : World σ) (w₂ : World (List Invocation))
        (calls calls' : List Call),
        p.run (m.runner probe).traced draw submission (w.withCalls []) =
          (some o, log, w₁.withCalls calls) ∧
        p.run (Executor.scripted table).traced draw submission
          (World.withCalls ⟨w.files, seen⟩ []) = (some o', log', w₂.withCalls calls') ∧
        o.untimed = o'.untimed ∧ calls.map Call.outline = calls'.map Call.outline ∧
        w₂.state = seen ++ calls.map Call.invocation := by
  refine ⟨fun i fs state seen hdoes => hdoes.verdict_eq_iff,
    fun b i fs hfs hb => Behavior.leavesFile_iff_of_namesFiles hfs hb, ?_⟩
  intro p draw submission w seen hfollows
  obtain ⟨o, log, w₁, calls, -, hrun, hcourse⟩ := p.course_run (m.runner probe) draw submission w
  obtain ⟨o', log', w₂, calls', -, hrun', hcourse'⟩ :=
    p.course_run (.scripted table) draw submission ⟨w.files, seen⟩
  obtain ⟨huntimed, houtlines⟩ := hfollows.untimed_eq hcourse hcourse'
  have hinvocations : calls.map Call.invocation = calls'.map Call.invocation := by
    have hfirsts := congrArg (List.map Prod.fst) houtlines
    rwa [List.map_map, List.map_map] at hfirsts
  refine ⟨o, o', log, log', w₁, w₂, calls, calls', hrun, hrun', huntimed, houtlines, ?_⟩
  rw [hinvocations]
  exact state_of_traced hrun'

def idling (_ : Invocation) (fs : FileSystem) : FileSystem := fs

/-- A tool that writes the output of the one stage, and nothing for the other. -/
def writingFor (stage : Stage) (i : Invocation) (fs : FileSystem) : FileSystem :=
  if i.stageName = stage.name then writing i fs else fs

/-- A machine on which a tool does so. -/
def acting : Behavior → Machine Nat
  | .produce => finishing writing 0
  | .omit => finishing idling 0
  | .timeout => finishing idling (WaitStatus.ofSignal signalCpuLimit)
  | .launchFailure => {
    finishing idling 0 with
    launch := fun _ _ _ _ => .error (.os .noEntry)
    ends := fun _ _ _ _ _ h => nomatch h }

section

variable {tool : Invocation → FileSystem → FileSystem} {status : UInt32} {probe : DisplayProbe}
  {i : Invocation} {fs : FileSystem} {state : Nat}

variable (tool status state) in
lemma ends_finishing (hnul : Machine.hasNul i = false)
    (hdisplay : Machine.displayCheck probe i fs = .ok ()) :
    (finishing tool status).Ends probe i fs state false status ∧
      ((finishing tool status).executeStage probe i fs state).files = tool i fs := by
  have hlaunch : (finishing tool status).launchChecked i fs state = .ok (tool i fs, 0) := by
    rw [Machine.launchChecked, hnul]
    rfl
  have hhistory : (finishing tool status).history i probe fs state =
      [.leaderExited, .reaped (.ok status), .closed .out, .closed .err] :=
    (Machine.history_of_launched hdisplay hlaunch).trans rfl
  refine ⟨⟨?_, ?_⟩, ?_⟩
  · rw [hhistory]
    rfl
  · rw [hhistory]
    exact ⟨_, rfl⟩
  · rw [Machine.executeStage_of_launched hdisplay hlaunch]
    rfl

variable (state) in
lemma does_produce_finishing (hnul : Machine.hasNul i = false)
    (hdisplay : Machine.displayCheck probe i fs = .ok ()) (htool : tool i fs = writing i fs) :
    (finishing tool 0).Does probe i fs state .produce := by
  obtain ⟨hends, hfiles⟩ := ends_finishing tool 0 state hnul hdisplay
  refine .produced [] hends rfl fun written hwritten => ?_
  rw [hfiles, htool, writing, hwritten]
  exact .refl written

variable (state) in
lemma does_omit_finishing (hnul : Machine.hasNul i = false)
    (hdisplay : Machine.displayCheck probe i fs = .ok ()) (htool : tool i fs = fs) :
    (finishing tool 0).Does probe i fs state .omit := by
  obtain ⟨hends, hfiles⟩ := ends_finishing tool 0 state hnul hdisplay
  refine .omitted hends rfl ?_
  rw [hfiles, htool]
  exact .refl fs

lemma does_acting (b : Behavior) (hnul : Machine.hasNul i = false)
    (hdisplay : Machine.displayCheck probe i fs = .ok ()) : (acting b).Does probe i fs state b := by
  cases b with
  | produce => exact does_produce_finishing state hnul hdisplay rfl
  | «omit» => exact does_omit_finishing state hnul hdisplay rfl
  | timeout =>
    obtain ⟨hends, hfiles⟩ :=
      ends_finishing idling (WaitStatus.ofSignal signalCpuLimit) state hnul hdisplay
    have hkill : KilledAtCeiling i.cpuLimit (WaitStatus.ofSignal signalCpuLimit) 0 :=
      .soft (by decide)
    refine .timedOut hends (Or.inr hkill) ?_
    rw [acting, hfiles]
    exact .refl fs
  | launchFailure =>
    have hlaunch : (acting .launchFailure).launchChecked i fs state = .error (.os .noEntry) := by
      unfold Machine.launchChecked
      rw [hnul]
      rfl
    exact .unlaunched hdisplay hlaunch

lemma knowsKill_acting (hnul : Machine.hasNul i = false)
    (hdisplay : Machine.displayCheck probe i fs = .ok ()) :
    (acting .timeout).KnowsKill probe i fs state := by
  obtain ⟨hends, -⟩ :=
    ends_finishing idling (WaitStatus.ofSignal signalCpuLimit) state hnul hdisplay
  intro hit status hends'
  obtain ⟨rfl, rfl⟩ := hends.unique hends'
  exact Or.inr (Or.inl (by decide))

end

/-- What the example's run calls to build. -/
def exampleBuild : Invocation := examplePipeline.build.invocation (Store.exampleStore.setOf default)

def exampleRender : Invocation := examplePipeline.render.invocation (Store.exampleStore.setOf default)

def buildingOnly : Machine Nat := finishing (writingFor .build) 0

def buildingTable : List (String × Behavior) := [(Stage.render.name, .omit)]

def builtTree : FileSystem := (buildingOnly.executeStage .skip exampleBuild preparedTree 0).files

lemma namesFiles_preparedTree : preparedTree.NamesFiles := namesFiles_of_numbers (by decide +kernel)

lemma room_exampleBuild :
    (∃ written, preparedTree.writeFile exampleBuild.expectedOutput
      (Behavior.body exampleBuild.stageName) = .ok written) ∧
    (preparedTree.pathExists exampleBuild.expectedOutput = true →
      preparedTree.isFile exampleBuild.expectedOutput = true) := by
  have hvoid : preparedTree.pathExists exampleBuild.expectedOutput = false := by decide +kernel
  have hwrites : (preparedTree.writeFile exampleBuild.expectedOutput
      (Behavior.body exampleBuild.stageName)).toOption.isSome = true := by
    decide +kernel
  refine ⟨⟨_, eq_ok_getD preparedTree hwrites⟩, fun hexists => ?_⟩
  rw [hvoid] at hexists
  cases hexists

lemma follows_exampleBuild :
    Follows buildingOnly .skip buildingTable exampleBuild preparedTree 0 where
  does := does_produce_finishing 0 (by decide) rfl rfl
  faithful := by
    obtain ⟨hwrites, hfile⟩ := room_exampleBuild
    have hleaves : Behavior.LeavesFile .produce exampleBuild preparedTree :=
      (Behavior.leavesFile_iff_of_namesFiles namesFiles_preparedTree (by decide)).mpr
        ⟨fun _ => hwrites, hfile⟩
    exact Or.inr ⟨hleaves, fun htimeout => by cases htimeout⟩

lemma follows_exampleRender (state : Nat) :
    Follows buildingOnly .skip buildingTable exampleRender builtTree state where
  does := does_omit_finishing state (by decide) rfl rfl
  faithful := by
    have hvoid : builtTree.pathExists exampleRender.expectedOutput = false := by decide +kernel
    have hleaves : Behavior.LeavesFile .omit exampleRender builtTree := by
      refine (Behavior.leavesFile_iff rfl).mpr fun hexists => ?_
      rw [hvoid] at hexists
      cases hexists
    exact Or.inr ⟨hleaves, fun htimeout => by cases htimeout⟩

lemma runFollows_example : examplePipeline.RunFollows buildingOnly .skip buildingTable
    (fun _ => default) "F" ⟨exampleTree, 0⟩ := by
  intro set fs hprep
  obtain ⟨rfl, rfl⟩ := hprep.unique prepares_preparedTree
  exact ⟨follows_exampleBuild, fun _ => follows_exampleRender _⟩

theorem scripted_stands_in_free :
    (∀ b, (acting b).Does .skip exampleBuild preparedTree 0 b ∧
      verdict (((acting b).runner .skip).execute exampleBuild preparedTree 0).answer =
        verdict ((Executor.scripted [(exampleBuild.stageName, b)]).execute exampleBuild
          preparedTree []).answer) ∧
    ∃ o o' log log' w w',
      examplePipeline.run (buildingOnly.runner .skip).traced (fun _ => default) "F"
        (World.withCalls ⟨exampleTree, 0⟩ []) = (some o, log, w) ∧
      examplePipeline.run (Executor.scripted buildingTable).traced (fun _ => default) "F"
        (World.withCalls ⟨exampleTree, []⟩ []) = (some o', log', w') ∧
      o.untimed = o'.untimed ∧ o'.failure = some .missingArtifact := by
  constructor
  · intro b
    have hdoes : (acting b).Does .skip exampleBuild preparedTree 0 b := does_acting b (by decide) rfl
    have hbehavior : behaviorIn [(exampleBuild.stageName, b)] exampleBuild = b := by
      simp [behaviorIn]
    obtain ⟨hverdicts, hleaves, -⟩ := scripted_stands_in (acting b) .skip [(exampleBuild.stageName, b)]
    have hiff := hverdicts exampleBuild preparedTree 0 []
    rw [hbehavior] at hiff
    refine ⟨hdoes, (hiff hdoes).mpr ?_⟩
    by_cases hb : b = .launchFailure
    · exact Or.inl hb
    · obtain ⟨hwrites, hfile⟩ := room_exampleBuild
      have hfiles := (hleaves b exampleBuild preparedTree namesFiles_preparedTree hb).mpr
        ⟨fun _ => hwrites, hfile⟩
      refine Or.inr ⟨hfiles, ?_⟩
      rintro rfl
      exact knowsKill_acting (by decide) rfl
  · obtain ⟨-, -, hruns⟩ := scripted_stands_in buildingOnly .skip buildingTable
    obtain ⟨o, o', log, log', w, w', calls, calls', hrun, hrun', hsame, -⟩ :=
      hruns examplePipeline (fun _ => default) "F" ⟨exampleTree, 0⟩ [] runFollows_example
    have hfailure : (examplePipeline.run (Executor.scripted buildingTable).traced (fun _ => default)
        "F" (World.withCalls ⟨exampleTree, []⟩ [])).1.bind Outcome.failure =
        some .missingArtifact := by
      decide +kernel
    rw [hrun'] at hfailure
    exact ⟨o, o', log, log', _, _, hrun, hrun', hsame, hfailure⟩

/-- The example's tree with something where the mesh is to be. -/
def occupiedTree (node : Node) : FileSystem :=
  exampleTree.put (Path.names exampleBuild.expectedOutput) node

/-- With a directory at the output, a stage that writes nothing passes with the table and fails with a
tool, and one that cannot write there fails in another way; and a device is no artifact of a tool. -/
theorem scripted_passes_directory :
    exampleBuild.display = none ∧
    ((acting .omit).Does .skip exampleBuild (occupiedTree .directory) 0 .omit ∧
      verdict (((acting .omit).runner .skip).execute exampleBuild (occupiedTree .directory) 0).answer =
        .ok (some .missingArtifact, false) ∧
      verdict ((Executor.scripted [(exampleBuild.stageName, .omit)]).execute exampleBuild
        (occupiedTree .directory) []).answer = .ok (none, true)) ∧
    ((acting .produce).Does .skip exampleBuild (occupiedTree .directory) 0 .produce ∧
      verdict (((acting .produce).runner .skip).execute exampleBuild
        (occupiedTree .directory) 0).answer = .ok (some .missingArtifact, false) ∧
      verdict ((Executor.scripted []).execute exampleBuild (occupiedTree .directory) []).answer =
        .error .launch) ∧
    ((acting .produce).Does .skip exampleBuild (occupiedTree (.device .null)) 0 .produce ∧
      verdict (((acting .produce).runner .skip).execute exampleBuild
        (occupiedTree (.device .null)) 0).answer = .ok (some .missingArtifact, false) ∧
      verdict ((Executor.scripted []).execute exampleBuild (occupiedTree (.device .null)) []).answer =
        .ok (none, true)) ∧
    (examplePipeline.run ((finishing (writingFor .render) 0).runner .skip) (fun _ => default) "F"
        ⟨occupiedTree .directory, 0⟩).1 =
      some (.failed (some default) .missingArtifact (some Stage.build.name) .zero) ∧
    (examplePipeline.run (.scripted [(Stage.build.name, .omit)]) (fun _ => default) "F"
        ⟨occupiedTree .directory, []⟩).1 =
      some (.succeeded (Store.exampleStore.setOf default) .zero) := by
  refine ⟨rfl, ⟨does_acting _ (by decide) rfl, by decide +kernel, by decide +kernel⟩,
    ⟨does_acting _ (by decide) rfl, by decide +kernel, by decide +kernel⟩,
    ⟨does_acting _ (by decide) rfl, by decide +kernel, by decide +kernel⟩,
    by decide +kernel, by decide +kernel⟩

end Pipeline

end TreePipeline
