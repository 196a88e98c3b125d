import TreePipeline.Proofs.Pipeline.Secrecy
import TreePipeline.Proofs.Supervision.History

/-! What becomes of a tool that uses up its CPU limit. The limit counts the time of all threads
together, while a kill is judged by how long the tool ran: the two agree as long as the threads
cannot use up the hard limit in less time than the limit itself. -/

namespace TreePipeline

namespace CpuCeiling

variable {limit : Duration} {c : CpuCeiling} {threads : Nat}

def hardNanos (c : CpuCeiling) : Nat := c.hard.toNat * 1000000000

lemma toNat_hard (h : ofLimit? limit = some c) : c.hard.toNat = max limit.secs.toNat 1 + 1 := by
  have hmax : (max limit.secs 1).toNat = max limit.secs.toNat 1 := Duration.toNat_max limit.secs 1
  unfold ofLimit? at h
  dsimp only at h
  split at h
  · cases h
  · rename_i hne
    cases h
    have hlt := (max limit.secs 1).toNat_lt
    rw [← UInt64.toNat_inj] at hne
    simp only [UInt64.toNat_add, ← hmax, UInt64.reduceToNat] at hne ⊢
    omega

/-- So many threads cannot use up the hard limit in less time than the limit. -/
def OutOfReach (limit : Duration) (threads : Nat) : Prop :=
  ∀ c, ofLimit? limit = some c → threads * (limit.total - 1) < c.hardNanos

lemma total_lt_hardNanos (h : ofLimit? limit = some c) : limit.total < c.hardNanos := by
  have hhard := toNat_hard h
  have hnanos := limit.nanos_lt
  have hmax := Nat.le_max_left limit.secs.toNat 1
  unfold hardNanos Duration.total
  rw [hhard]
  omega

lemma outOfReach_one (limit : Duration) : OutOfReach limit 1 := by
  intro c hc
  have hlt := total_lt_hardNanos hc
  omega

end CpuCeiling

section Verdict

variable {limit elapsed : Duration} {status : UInt32} {threads used : Nat}

/-- Having used that many nanoseconds of CPU time, a tool was ended by the limit: the soft one, or
the hard one once all of it was used up. -/
inductive KilledAtCeiling (limit : Duration) (status : UInt32) (used : Nat) : Prop where
  | soft (h : WaitStatus.signal? status = some signalCpuLimit)
  | hard (c : CpuCeiling) (hc : CpuCeiling.ofLimit? limit = some c)
    (h : WaitStatus.signal? status = some signalKill) (hused : c.hardNanos ≤ used)

lemma WaitStatus.exitCode?_eq_none {n : Nat} (h : signal? status = some n) :
    exitCode? status = none := by
  unfold signal? at h
  unfold exitCode?
  split at h
  · rename_i hbits
    rw [if_neg (by omega)]
  · cases h

lemma classify_soft (h : WaitStatus.signal? status = some signalCpuLimit) :
    classify status limit elapsed = .timeoutKilled := by
  unfold classify
  rw [WaitStatus.exitCode?_eq_none h, h]
  rfl

lemma classify_hard_iff (h : WaitStatus.signal? status = some signalKill) :
    classify status limit elapsed = .timeoutKilled ↔ limit.total ≤ elapsed.total := by
  unfold classify
  rw [WaitStatus.exitCode?_eq_none h, h]
  simp [signalKill, signalCpuLimit, Duration.le]

lemma limit_le_elapsed {c : CpuCeiling} (hc : CpuCeiling.ofLimit? limit = some c)
    (hreach : CpuCeiling.OutOfReach limit threads) (hthreads : used ≤ threads * elapsed.total)
    (hused : c.hardNanos ≤ used) : limit.total ≤ elapsed.total := by
  by_contra hlt
  have hearly : elapsed.total ≤ limit.total - 1 := by omega
  have hmul : threads * elapsed.total ≤ threads * (limit.total - 1) :=
    Nat.mul_le_mul_left threads hearly
  have hbound := hreach c hc
  omega

lemma KilledAtCeiling.classify_eq (h : KilledAtCeiling limit status used)
    (hreach : CpuCeiling.OutOfReach limit threads) (hthreads : used ≤ threads * elapsed.total) :
    classify status limit elapsed = .timeoutKilled := by
  cases h with
  | soft hsignal => exact classify_soft hsignal
  | hard c hc hsignal hused =>
    exact (classify_hard_iff hsignal).mpr (limit_le_elapsed hc hreach hthreads hused)

lemma WaitStatus.signal?_ofSignal_kill : signal? (ofSignal signalKill) = some signalKill := by
  decide

lemma KilledAtCeiling.classify_of_le (h : KilledAtCeiling limit status used)
    (hlimit : limit.total ≤ elapsed.total) : classify status limit elapsed = .timeoutKilled := by
  cases h with
  | soft hsignal => exact classify_soft hsignal
  | hard c hc hsignal hused => exact (classify_hard_iff hsignal).mpr hlimit

lemma outOfReach_of_classify
    (h : ∀ status elapsed used, used ≤ threads * elapsed.total →
      KilledAtCeiling limit status used → classify status limit elapsed = .timeoutKilled) :
    CpuCeiling.OutOfReach limit threads := by
  intro c hc
  by_contra hreach
  have hlimit := limit.total_lt
  have hearly : (Duration.ofNanos (limit.total - 1)).total = limit.total - 1 :=
    Duration.total_ofNanos (by omega)
  have hkilled : KilledAtCeiling limit (WaitStatus.ofSignal signalKill) c.hardNanos :=
    .hard c hc WaitStatus.signal?_ofSignal_kill (Nat.le_refl _)
  have hverdict := h _ (.ofNanos (limit.total - 1)) _ (by rw [hearly]; omega) hkilled
  rw [classify_hard_iff WaitStatus.signal?_ofSignal_kill, hearly] at hverdict
  have hhard : 0 < c.hardNanos := Nat.zero_lt_of_lt (CpuCeiling.total_lt_hardNanos hc)
  have hzero : limit.total - 1 = 0 := by omega
  rw [hzero] at hreach
  omega

end Verdict

/-- The result is what a supervisor concluded from a leader that ended so, after that time. -/
def Supervisor.Judges (i : Invocation) (status : UInt32) (elapsed : Duration)
    (result : StageResult) : Prop :=
  ∃ (s : Supervisor) (hit artifactExists : Bool), s.watch = .reaped hit (.ok status) ∧
    s.conclude i elapsed artifactExists = some (.ok result)

namespace Supervisor

variable {i : Invocation} {status : UInt32} {elapsed : Duration} {result : StageResult}

lemma Judges.failure (h : Judges i status elapsed result)
    (hverdict : classify status i.cpuLimit elapsed = .timeoutKilled) :
    result.failure = some .timeoutKilled := by
  obtain ⟨s, hit, artifactExists, hwatch, hconclude⟩ := h
  obtain ⟨hit', status', hwatch', hexit, -⟩ := eq_of_conclude hconclude
  cases hwatch.symm.trans hwatch'
  rw [hverdict, ite_self] at hexit
  unfold StageResult.failure
  rw [if_pos hexit]

end Supervisor

lemma Machine.judges_of_execute {σ : Type} {m : Machine σ} {probe : DisplayProbe} {i : Invocation}
    {fs : FileSystem} {state : σ} {result : StageResult}
    (h : ((m.runner probe).execute i fs state).answer = .ok result) :
    ∃ status, Supervisor.Judges i status
      (.ofNanos (((m.runner probe).execute i fs state).files.clock - fs.clock).toNat) result := by
  have hconclude := conclude_of_answer h
  obtain ⟨hit, status, hwatch, -, -⟩ := Supervisor.eq_of_conclude hconclude
  exact ⟨status, _, hit, _, hwatch, hconclude⟩

namespace Pipeline

variable {σ : Type} {p : Pipeline} {executor : Executor σ} {draw : Nat → BaseId}
  {submission : String} {w : World σ} {o : Outcome} {calls : List Call}

lemma Course.failed_at (hcourse : p.Course executor draw submission w o calls) {j : Nat} {c : Call}
    {kind : FailureKind} (hc : calls[j]? = some c) (hkind : c.failure = some kind) :
    calls.length = j + 1 ∧ o = .failed o.base kind (some c.invocation.stageName) o.elapsed := by
  cases hcourse with
  | refused | unwritten => simp at hc
  | unbuilt h hbuilt hbuild =>
    match j with
    | 0 =>
      obtain rfl := Option.some.inj hc
      obtain rfl := Option.some.inj (hbuild.symm.trans hkind)
      exact ⟨rfl, rfl⟩
  | unrendered h hbuilt hbuild hrendered hrender =>
    match j with
    | 0 =>
      obtain rfl := Option.some.inj hc
      cases hbuild.symm.trans hkind
    | 1 =>
      obtain rfl := Option.some.inj hc
      obtain rfl := Option.some.inj (hrender.symm.trans hkind)
      exact ⟨rfl, rfl⟩
  | succeeded h hbuilt hbuild hrendered hrender =>
    match j with
    | 0 =>
      obtain rfl := Option.some.inj hc
      cases hbuild.symm.trans hkind
    | 1 =>
      obtain rfl := Option.some.inj hc
      cases hrender.symm.trans hkind

/-- A kill by the CPU limit is known for one whatever signal it came by, unless the threads can use up
the hard limit before the limit's time is up, which a single one cannot. A stage so killed has failed
whatever files exist, no stage is run after it, and the run refers to nothing. -/
theorem ceiling_kill_fails :
    (∀ limit threads, CpuCeiling.OutOfReach limit threads ↔
      ∀ status elapsed used, used ≤ threads * elapsed.total →
        KilledAtCeiling limit status used → classify status limit elapsed = .timeoutKilled) ∧
    (∀ limit, CpuCeiling.OutOfReach limit 1) ∧
    (∀ limit c, CpuCeiling.ofLimit? limit = some c → c.hard.toNat = max limit.secs.toNat 1 + 1) ∧
    (∀ (σ : Type) (p : Pipeline) (executor : Executor σ) (draw : Nat → BaseId) (submission : String)
      (w : World σ), ∃ o log w' calls, p.run executor draw submission w = (some o, log, w') ∧
        p.run executor.traced draw submission (w.withCalls []) = (some o, log, w'.withCalls calls) ∧
        ∀ j c result status elapsed threads used, calls[j]? = some c → c.answer = .ok result →
          Supervisor.Judges c.invocation status elapsed result →
          used ≤ threads * elapsed.total →
          KilledAtCeiling c.invocation.cpuLimit status used →
          (WaitStatus.signal? status = some signalCpuLimit ∨
            c.invocation.cpuLimit.total ≤ elapsed.total ∨
            CpuCeiling.OutOfReach c.invocation.cpuLimit threads) →
          result.failure = some .timeoutKilled ∧ calls.length = j + 1 ∧
            o = .failed o.base .timeoutKilled (some c.invocation.stageName) o.elapsed ∧
            ∀ now, (Report.ofOutcome o now).meshRef = none ∧
              (Report.ofOutcome o now).imageRef = none) ∧
    ∀ (σ : Type) (m : Machine σ) (probe : DisplayProbe) (i : Invocation) (fs : FileSystem)
      (state : σ) (result : StageResult),
      ((m.runner probe).execute i fs state).answer = .ok result →
      ∃ status, Supervisor.Judges i status
        (.ofNanos (((m.runner probe).execute i fs state).files.clock - fs.clock).toNat) result := by
  refine ⟨fun limit threads => ⟨fun hreach _ _ _ hthreads hkilled =>
      hkilled.classify_eq hreach hthreads, outOfReach_of_classify⟩,
    CpuCeiling.outOfReach_one, fun _ _ => CpuCeiling.toNat_hard, ?_,
    fun _ _ _ _ _ _ _ => Machine.judges_of_execute⟩
  intro σ p executor draw submission w
  obtain ⟨o, log, w', calls, hrun, htraced, hcourse⟩ := p.course_run executor draw submission w
  refine ⟨o, log, w', calls, hrun, htraced, ?_⟩
  intro j c result status elapsed threads used hc hanswer hjudges hthreads hkilled hknown
  have hverdict : classify status c.invocation.cpuLimit elapsed = .timeoutKilled := by
    rcases hknown with hsoft | hlimit | hreach
    · exact classify_soft hsoft
    · exact hkilled.classify_of_le hlimit
    · exact hkilled.classify_eq hreach hthreads
  have hfailure := hjudges.failure hverdict
  have hcall : c.failure = some .timeoutKilled := by
    unfold Call.failure
    rw [hanswer]
    exact hfailure
  obtain ⟨hlength, ho⟩ := hcourse.failed_at hc hcall
  refine ⟨hfailure, hlength, ho, fun now => ?_⟩
  have hfailed : o.success = false := by
    rw [ho]
    rfl
  rw [Report.ofOutcome_failed hfailed]
  exact ⟨rfl, rfl⟩

theorem ceiling_kill_fails_single :
    let limit := Duration.ofSecs 15
    let elapsed := Duration.ofSecs 16
    ∃ used, used ≤ 1 * elapsed.total ∧
      KilledAtCeiling limit (WaitStatus.ofSignal signalKill) used ∧
      classify (WaitStatus.ofSignal signalKill) limit elapsed = .timeoutKilled := by
  have hkilled : KilledAtCeiling (.ofSecs 15) (WaitStatus.ofSignal signalKill) 16000000000 :=
    .hard ⟨15, 16⟩ (by decide) (by decide) (by decide)
  exact ⟨_, by decide, hkilled,
    (ceiling_kill_fails.1 _ 1).mp (ceiling_kill_fails.2.1 _) _ _ _ (by decide) hkilled⟩

/-- A machine on which a tool writes its output and is killed when it has run so long. -/
def killing (nanos : Nat) : Machine Nat :=
  finishing (fun i fs => (writing i fs).tick nanos) (WaitStatus.ofSignal signalKill)

/-- Two threads use up sixteen seconds in eight, and are killed for it; the half-written files count
as made, and are rendered and referred to. -/
theorem ceiling_kill_passes :
    let limit := Duration.ofSecs 15
    let elapsed := Duration.ofSecs 8
    let status := WaitStatus.ofSignal signalKill
    let used := 16000000000
    let build := examplePipeline.build.invocation (Store.exampleStore.setOf default)
    let result : StageResult := ⟨Stage.build.name, .signaled signalKill, "", false, 8000, true⟩
    let o := Outcome.succeeded (Store.exampleStore.setOf default) (.ofSecs 16)
    build.cpuLimit = limit ∧ used ≤ 2 * elapsed.total ∧ KilledAtCeiling limit status used ∧
      classify status limit elapsed = .signaled signalKill ∧
      (((killing elapsed.total).runner .skip).execute build exampleTree 0).answer = .ok result ∧
      result.failure = none ∧
      (examplePipeline.run ((killing elapsed.total).runner .skip) (fun _ => default) ""
        ⟨exampleTree, 0⟩).1 = some o ∧
      ∀ now, (Report.ofOutcome o now).meshRef = some (.mesh default) := by
  refine ⟨rfl, by decide, .hard ⟨15, 16⟩ (by decide) (by decide) (by decide), by decide,
    by decide +kernel, by decide, by decide +kernel, fun _ => rfl⟩

end Pipeline

end TreePipeline
