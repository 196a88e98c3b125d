import Mathlib.Logic.Relation
import TreePipeline.Proofs.Stage.Capture
import TreePipeline.Proofs.Supervision.History

/-! In whatever order the leader ends, the deadline expires and the two pipes come to their ends,
the result is the same: it is read off what the leader and the pipes did each on its own. The runner
waits for whichever of leader and pipes comes first and then for the other; both ways lead to that
result. -/

namespace TreePipeline

open Capture

structure Flow where
  reads : List Octets
  failure : Option SystemError
  nonempty : [] ∉ reads

namespace Flow

def octets (f : Flow) : Octets := f.reads.flatten

def observations (f : Flow) (stream : Stream) : List Observation :=
  f.reads.map (.received stream) ++
    [f.failure.elim (.closed stream) fun cause => .readFailed stream cause]

def channel (limit : Nat) (f : Flow) : Channel :=
  match readBounded f.reads f.failure limit with
  | .ok k => .ended k
  | .error cause => .failed cause

lemma channel_of_failure {f : Flow} (limit : Nat) : f.channel limit =
    f.failure.elim (.ended (.ofStream limit f.octets)) fun cause => .failed cause := by
  rw [channel, readBounded_of_not_mem f.nonempty]
  cases f.failure <;> rfl

lemma foldl_see_received (limit : Nat) (stream : Stream) (octets : Octets) (reads : List Octets) :
    (reads.map (.received stream)).foldl (Channel.see limit) (.reading (.ofStream limit octets)) =
      .reading (.ofStream limit (octets ++ reads.flatten)) := by
  induction reads generalizing octets with
  | nil => simp
  | cons r reads ih =>
    have hadd := Kept.add_ofStream limit octets r
    rw [List.map_cons, List.foldl_cons, Channel.see, Channel.receive, hadd, ih, List.flatten_cons,
      List.append_assoc]

lemma foldl_see (f : Flow) (limit : Nat) (stream : Stream) :
    (f.observations stream).foldl (Channel.see limit) (.reading .empty) = f.channel limit := by
  rw [observations, List.foldl_append, ← Kept.ofStream_nil limit, foldl_see_received,
    channel_of_failure]
  cases f.failure <;> rfl

lemma isOpen_channel (f : Flow) (limit : Nat) : (f.channel limit).isOpen = false := by
  rw [channel_of_failure]
  cases f.failure <;> rfl

end Flow

/-- What the pipes and the leader of a tool did, each on its own. -/
structure Sources where
  flow : Stream → Flow
  deadlineFirst : Bool
  reaped : Except SystemError UInt32

namespace Sources

/-- The observations are those of the sources in some order: each pipe's as they came, the first of
exit and deadline before the leader was reaped, and no grace expired before the pipes' ends. -/
structure IsMerge (h : Sources) (os : List Observation) : Prop where
  pipes : ∀ stream, os.filter (Observation.isOn stream) = (h.flow stream).observations stream
  leader : ∃ later, os.filter Observation.isOfLeader =
      (if h.deadlineFirst then .deadlineExpired else .leaderExited) :: later ∧
    later.filter Observation.isReaped = [.reaped h.reaped]
  grace : ∀ before later, os = before ++ .graceExpired :: later → ∀ stream,
    before.filter (Observation.isOn stream) = (h.flow stream).observations stream

/-- The result that the sources determine, with the time that it took and whether the file is there.
An error in reaping goes before one in reading, and the first stream's before the second's. -/
def verdict (h : Sources) (limit : Nat) (i : Invocation) (elapsed : Duration)
    (artifactExists : Bool) : Except StageError StageResult :=
  match h.reaped, (h.flow .out).failure, (h.flow .err).failure with
  | .error cause, _, _ => .error (.system cause)
  | .ok _, some cause, _ => .error (.system cause)
  | .ok _, none, some cause => .error (.system cause)
  | .ok status, none, none =>
    let octets := (h.flow .out).octets ++ (h.flow .err).octets
    .ok {
      stageName := i.stageName
      exit := if h.deadlineFirst then .timeoutKilled else classify status i.cpuLimit elapsed
      output := Utf8.decodeLossy (octets.take limit)
      truncated := decide (limit < octets.length)
      durationMillis := elapsed.millis
      artifactExists := artifactExists }

variable {h : Sources} {s : Supervisor} {os : List Observation} {limit : Nat}

structure IsSeen (h : Sources) (limit : Nat) (s : Supervisor) : Prop where
  limit_eq : s.limit = limit
  channel_eq : ∀ stream, s.channel stream = (h.flow stream).channel limit
  watch_eq : s.watch = .reaped h.deadlineFirst h.reaped
  not_abandoned : s.abandoned = false

lemma IsSeen.isDrained (hs : h.IsSeen limit s) : s.isDrained = true := by
  rw [Supervisor.isDrained_iff]
  intro stream
  rw [hs.channel_eq]
  exact Flow.isOpen_channel _ _

lemma IsSeen.isFinished (hs : h.IsSeen limit s) : s.isFinished = true := by
  rw [Supervisor.isFinished, Supervisor.isReaped, hs.watch_eq, hs.isDrained]
  rfl

lemma channel_after_start {stream : Stream}
    (hos : os.filter (Observation.isOn stream) = (h.flow stream).observations stream) :
    ((Supervisor.start limit).after os).channel stream = (h.flow stream).channel limit := by
  rw [Supervisor.channel_after, hos, ← Flow.foldl_see _ _ stream]
  cases stream <;> rfl

lemma IsMerge.isSeen (hos : h.IsMerge os) : h.IsSeen limit ((Supervisor.start limit).after os) := by
  refine ⟨Supervisor.limit_after _ _, fun stream => channel_after_start (hos.pipes stream), ?_, ?_⟩
  · obtain ⟨later, hleader, hreaped⟩ := hos.leader
    rw [Supervisor.watch_after, Watch.foldl_see_filter, hleader, List.foldl_cons,
      ← Watch.foldl_see_reaping hreaped]
    cases h.deadlineFirst <;> rfl
  · refine Supervisor.abandoned_after rfl fun before later hsplit => ?_
    rw [Supervisor.isDrained_iff]
    intro stream
    rw [channel_after_start (hos.grace before later hsplit stream)]
    exact Flow.isOpen_channel _ _

lemma IsMerge.ne_nil (hos : h.IsMerge os) : os ≠ [] := by
  rintro rfl
  obtain ⟨later, hleader, -⟩ := hos.leader
  cases hleader

lemma IsSeen.answer_eq (hs : h.IsSeen limit s) (i : Invocation) (elapsed : Duration)
    (artifactExists : Bool) : s.answer h.deadlineFirst h.reaped i elapsed artifactExists =
      h.verdict limit i elapsed artifactExists := by
  have hout : s.out = (h.flow .out).channel limit := hs.channel_eq .out
  have herr : s.err = (h.flow .err).channel limit := hs.channel_eq .err
  rw [Flow.channel_of_failure] at hout herr
  unfold Supervisor.answer verdict Supervisor.captured
  rw [hout, herr, hs.limit_eq]
  cases h.reaped with
  | error cause => rfl
  | ok status =>
    cases (h.flow .out).failure with
    | some cause => cases (h.flow .err).failure <;> rfl
    | none =>
      cases (h.flow .err).failure with
      | some cause => rfl
      | none =>
        have htext := combine_ofStream limit (h.flow .out).octets (h.flow .err).octets
        have hcut := truncated_ofStream limit (h.flow .out).octets (h.flow .err).octets
        simp only [Option.elim_none, htext, hcut, List.length_append]

lemma IsSeen.conclude_eq (hs : h.IsSeen limit s) (i : Invocation) (elapsed : Duration)
    (artifactExists : Bool) :
    s.conclude i elapsed artifactExists = some (h.verdict limit i elapsed artifactExists) := by
  unfold Supervisor.conclude
  rw [hs.watch_eq, hs.isDrained]
  exact congrArg some (hs.answer_eq i elapsed artifactExists)

end Sources

/-! Waiting for both -/

/-- What the runner is waiting for: for leader or pipes, for the leader with the pipes at their
ends, for the pipes with the leader reaped, or for nothing more. The pipes may have been given up. -/
inductive Await where
  | either
  | leader (drained : Channel × Channel)
  | pipes (hit : Bool) (result : Except SystemError UInt32)
  | ended (hit : Bool) (result : Except SystemError UInt32) (drained : Option (Channel × Channel))

namespace Await

/-- What the runner can go on with. If leader and pipes are both ready, either may come first. -/
inductive Wakes (s : Supervisor) : Await → Await → Prop where
  | pipesFirst (hs : s.isDrained = true) : Wakes s .either (.leader (s.out, s.err))
  | leaderFirst {hit result} (hs : s.watch = .reaped hit result) :
      Wakes s .either (.pipes hit result)
  | leaderLast {hit result} (hs : s.watch = .reaped hit result) (drained) :
      Wakes s (.leader drained) (.ended hit result (some drained))
  | pipesLast (hs : s.isDrained = true) (hit result) :
      Wakes s (.pipes hit result) (.ended hit result (some (s.out, s.err)))
  | givenUp (hs : s.abandoned = true) (hopen : s.isDrained = false) (hit result) :
      Wakes s (.pipes hit result) (.ended hit result none)

/-- The runner may be waiting so after a history, having gone on at any moments of it. -/
inductive Reached (limit : Nat) : List Observation → Await → Prop where
  | start : Reached limit [] .either
  | seen {os w} (h : Reached limit os w) (o : Observation) : Reached limit (os ++ [o]) w
  | woken {os w w'} (h : Reached limit os w)
      (hw : Wakes ((Supervisor.start limit).after os) w w') : Reached limit os w'

def answer (limit : Nat) (hit : Bool) (result : Except SystemError UInt32)
    (drained : Option (Channel × Channel)) (i : Invocation) (elapsed : Duration)
    (artifactExists : Bool) : Except StageError StageResult :=
  let (out, err) := drained.getD (.reading .empty, .reading .empty)
  Supervisor.answer ⟨limit, .reaped hit result, out, err, drained.isNone⟩ hit result i elapsed
    artifactExists

/-- What the runner has gone on with is still so. -/
def Agrees (s : Supervisor) : Await → Prop
  | .either => True
  | .leader drained => s.isDrained = true ∧ drained = (s.out, s.err)
  | .pipes hit result => s.watch = .reaped hit result
  | .ended hit result (some drained) =>
    s.watch = .reaped hit result ∧ s.isDrained = true ∧ drained = (s.out, s.err)
  | .ended hit result none => s.watch = .reaped hit result ∧ s.abandoned = true

variable {s : Supervisor} {w w' : Await} {limit : Nat} {os : List Observation} {h : Sources}

lemma Agrees.wakes (hs : w.Agrees s) (hw : Wakes s w w') : w'.Agrees s := by
  cases hw with
  | pipesFirst hdrained => exact ⟨hdrained, rfl⟩
  | leaderFirst hwatch => exact hwatch
  | leaderLast hwatch => exact ⟨hwatch, hs⟩
  | pipesLast hdrained => exact ⟨hs, hdrained, rfl⟩
  | givenUp habandoned => exact ⟨hs, habandoned⟩

lemma Agrees.step (hs : w.Agrees s) (o : Observation) : w.Agrees (s.step o).1 := by
  have hwatch : ∀ {hit result}, s.watch = .reaped hit result →
      (s.step o).1.watch = .reaped hit result := fun hreaped => by
    rw [Supervisor.step_watch, hreaped]
    rfl
  have hchannel : s.isDrained = true → ∀ stream, (s.step o).1.channel stream = s.channel stream :=
    fun hdrained stream =>
      Supervisor.channel_after_of_isOpen (Supervisor.isDrained_iff.mp hdrained stream) [o]
  have hdrained : s.isDrained = true → (s.step o).1.isDrained = true ∧
      (s.out, s.err) = ((s.step o).1.out, (s.step o).1.err) := fun hdrained => by
    refine ⟨?_, Prod.ext (hchannel hdrained .out).symm (hchannel hdrained .err).symm⟩
    rw [Supervisor.isDrained_iff] at hdrained ⊢
    intro stream
    rw [hchannel (Supervisor.isDrained_iff.mpr hdrained)]
    exact hdrained stream
  -- a pipe at its end and a leader that was reaped stay as they are
  cases w with
  | either => trivial
  | leader drained =>
    obtain ⟨hs, rfl⟩ := hs
    exact hdrained hs
  | pipes hit result => exact hwatch hs
  | ended hit result drained =>
    cases drained with
    | some drained =>
      obtain ⟨hs, hs', rfl⟩ := hs
      exact ⟨hwatch hs, hdrained hs'⟩
    | none =>
      refine ⟨hwatch hs.1, ?_⟩
      rw [Supervisor.step_fst]
      exact Bool.or_eq_true_iff.mpr (Or.inl hs.2)

lemma Reached.agrees (hw : Reached limit os w) : w.Agrees ((Supervisor.start limit).after os) := by
  induction hw with
  | start => trivial
  | seen _ o ih =>
    rw [Supervisor.after_append]
    exact ih.step o
  | woken _ hw ih => exact ih.wakes hw

lemma Agrees.exists_ended (hw : w.Agrees s) (hs : h.IsSeen limit s) :
    ∃ hit result drained, Relation.ReflTransGen (Wakes s) w (.ended hit result drained) := by
  have hleader : ∀ drained, Wakes s (.leader drained) _ := Wakes.leaderLast hs.watch_eq
  cases w with
  | either =>
    exact ⟨_, _, _, .tail (.single (.pipesFirst hs.isDrained)) (hleader _)⟩
  | leader drained => exact ⟨_, _, _, .single (hleader drained)⟩
  | pipes hit result => exact ⟨_, _, _, .single (.pipesLast hs.isDrained hit result)⟩
  | ended hit result drained => exact ⟨hit, result, drained, .refl⟩

lemma Agrees.answer_eq {hit : Bool} {result : Except SystemError UInt32}
    {drained : Option (Channel × Channel)} (hw : (ended hit result drained).Agrees s)
    (hs : h.IsSeen limit s) (i : Invocation) (elapsed : Duration) (artifactExists : Bool) :
    answer limit hit result drained i elapsed artifactExists =
      h.verdict limit i elapsed artifactExists := by
  cases drained with
  | none => exact absurd (hs.not_abandoned.symm.trans hw.2) Bool.false_ne_true
  | some drained =>
    obtain ⟨hwatch, -, rfl⟩ := hw
    obtain ⟨rfl, rfl⟩ := Watch.reaped.inj (hwatch.symm.trans hs.watch_eq)
    have hseen : h.IsSeen limit ⟨limit, .reaped h.deadlineFirst h.reaped, s.out, s.err, false⟩ :=
      ⟨rfl, fun stream => by rw [← hs.channel_eq]; cases stream <;> rfl, rfl, rfl⟩
    exact hseen.answer_eq i elapsed artifactExists

end Await

/-- All orders of what leader and pipes did lead to one result, whichever of them the runner went on
with first: a kill for the deadline if that expired before the exit, the streams' first octets, and
the first of the errors. On any machine that is the answer, and by the time the file is looked for
the group has been killed and the leader reaped after it. -/
theorem supervision_confluent :
    (∀ (h : Sources) (os : List Observation) (limit : Nat), h.IsMerge os →
      ((Supervisor.start limit).after os).isFinished = true ∧
      (∀ w, Await.Reached limit os w → ∃ hit result drained,
        Relation.ReflTransGen (Await.Wakes ((Supervisor.start limit).after os)) w
          (.ended hit result drained)) ∧
      ∀ i elapsed artifactExists,
        ((Supervisor.start limit).after os).conclude i elapsed artifactExists =
          some (h.verdict limit i elapsed artifactExists) ∧
        ∀ hit result drained, Await.Reached limit os (.ended hit result drained) →
          Await.answer limit hit result drained i elapsed artifactExists =
            h.verdict limit i elapsed artifactExists) ∧
    ∀ (σ : Type) (m : Machine σ) (probe : DisplayProbe) (i : Invocation) (fs : FileSystem)
      (state : σ), ∃ x os, m.executeStage probe i fs state = x ∧ m.history i probe fs state = os ∧
        m.logged.executeStage probe i fs (state, []) =
          ⟨x.answer, x.files, (x.state, (Supervisor.start i.captureLimit).log os), x.events⟩ ∧
        (∀ h : Sources, h.IsMerge os → x.answer =
          h.verdict i.captureLimit i (.ofNanos (x.files.clock - fs.clock).toNat)
            (x.files.isFile i.expectedOutput)) ∧
        ∀ result, x.answer = .ok result →
          result.artifactExists = x.files.isFile i.expectedOutput ∧
          ∃ status before between later, (Supervisor.start i.captureLimit).log os =
            before ++ .acted .killGroup :: .acted .reap :: between ++
              .observed (.reaped (.ok status)) :: later := by
  refine ⟨fun h os limit hos => ?_, fun σ m probe i fs state => ?_⟩
  · have hseen : h.IsSeen limit _ := hos.isSeen
    exact ⟨hseen.isFinished, fun w hw => hw.agrees.exists_ended hseen,
      fun i elapsed artifactExists => ⟨hseen.conclude_eq i elapsed artifactExists,
        fun _ _ _ hw => hw.agrees.answer_eq hseen i elapsed artifactExists⟩⟩
  · obtain ⟨x, os, hx, hos, hlogged, hanswer⟩ := m.executeStage_logged i probe fs state
    refine ⟨x, os, hx, hos, hlogged, fun h hmerge => ?_, fun result hresult => ?_⟩
    · rcases hanswer with ⟨hnil, -⟩ | hanswer
      · exact absurd hnil hmerge.ne_nil
      · exact Option.some.inj (hanswer.trans (hmerge.isSeen.conclude_eq _ _ _))
    · subst hx hos
      obtain ⟨hit, status, hwatch, -, hexists⟩ :=
        Supervisor.eq_of_conclude (Machine.conclude_of_answer hresult)
      obtain ⟨before, between, later, hlog⟩ := Supervisor.log_of_waiting rfl hwatch
      exact ⟨hexists, status, before, between, later, hlog⟩

lemma ne_append_graceExpired {os before later : List Observation} (h : .graceExpired ∉ os) :
    os ≠ before ++ .graceExpired :: later := by
  rintro rfl
  exact h (List.mem_append_right _ List.mem_cons_self)

def exampleSources : Sources where
  flow
    | .out => ⟨[[0x6f], [0x6b]], none, by decide⟩
    | .err => ⟨[], none, by decide⟩
  deadlineFirst := false
  reaped := .ok 0

def pipesFirst : List Observation :=
  [.received .out [0x6f], .closed .err, .received .out [0x6b], .closed .out, .leaderExited,
    .reaped (.ok 0)]

def leaderFirst : List Observation :=
  [.received .out [0x6f], .leaderExited, .reaped (.ok 0), .deadlineExpired, .received .out [0x6b],
    .closed .out, .closed .err]

lemma isMerge_pipesFirst : exampleSources.IsMerge pipesFirst where
  pipes stream := by cases stream <;> rfl
  leader := ⟨_, rfl, rfl⟩
  grace _ _ h := absurd h (ne_append_graceExpired (by simp [pipesFirst]))

lemma isMerge_leaderFirst : exampleSources.IsMerge leaderFirst where
  pipes stream := by cases stream <;> rfl
  leader := ⟨_, rfl, rfl⟩
  grace _ _ h := absurd h (ne_append_graceExpired (by simp [leaderFirst]))

def showingLeaderFirst : Machine Nat := .playing (fun _ fs => fs) leaderFirst fun _ => rfl

lemma Await.reached_either (limit : Nat) (os : List Observation) : Reached limit os .either := by
  induction os using List.reverseRecOn with
  | nil => exact .start
  | append_singleton os o ih => exact .seen ih o

def exampleResult : StageResult := ⟨"build", .exited 0, "o", true, 0, false⟩

theorem supervision_confluent_orders :
    let limit := exampleInvocation.captureLimit
    let drained := (Channel.ended ⟨[0x6f], true⟩, Channel.ended ⟨[], false⟩)
    (∀ os ∈ [pipesFirst, leaderFirst], exampleSources.IsMerge os ∧
      ((Supervisor.start limit).after os).conclude exampleInvocation .zero false =
        some (.ok exampleResult) ∧
      Await.Reached limit os (.ended false (.ok 0) (some drained)) ∧
      Await.answer limit false (.ok 0) (some drained) exampleInvocation .zero false =
        .ok exampleResult) ∧
    (showingLeaderFirst.executeStage .skip exampleInvocation exampleFiles 0).answer =
      .ok exampleResult := by
  have hverdict : exampleSources.verdict 1 exampleInvocation .zero false = .ok exampleResult := by
    decide
  have hpipes : Await.Reached 1 pipesFirst (.ended false (.ok 0) _) :=
    .woken (.woken (Await.reached_either 1 pipesFirst) (.pipesFirst rfl)) (.leaderLast rfl _)
  have hleader : Await.Reached 1 leaderFirst (.ended false (.ok 0) _) :=
    .woken (.woken (Await.reached_either 1 leaderFirst) (.leaderFirst rfl)) (.pipesLast rfl _ _)
  have horder : ∀ os, exampleSources.IsMerge os → _ := fun os hmerge =>
    (supervision_confluent.1 exampleSources os 1 hmerge).2.2 exampleInvocation .zero false
  rw [hverdict] at horder
  refine ⟨?_, ?_⟩
  · intro os hos
    rcases List.mem_pair.mp hos with rfl | rfl
    · obtain ⟨hconclude, hanswer⟩ := horder _ isMerge_pipesFirst
      exact ⟨isMerge_pipesFirst, hconclude, hpipes, hanswer _ _ _ hpipes⟩
    · obtain ⟨hconclude, hanswer⟩ := horder _ isMerge_leaderFirst
      exact ⟨isMerge_leaderFirst, hconclude, hleader, hanswer _ _ _ hleader⟩
  · obtain ⟨x, os, rfl, hos, -, hanswer, -⟩ := supervision_confluent.2 _ showingLeaderFirst .skip
      exampleInvocation exampleFiles 0
    have hlaunch : showingLeaderFirst.launchChecked exampleInvocation exampleFiles 0 =
        .ok (exampleFiles, 0) := rfl
    have hhistory : os = leaderFirst :=
      hos.symm.trans ((Machine.history_of_launched rfl hlaunch).trans rfl)
    rw [hanswer exampleSources (hhistory ▸ isMerge_leaderFirst)]
    exact hverdict

end TreePipeline
