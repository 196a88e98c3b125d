import Mathlib.Data.List.Induction
import Mathlib.Tactic.Common
import TreePipeline.Supervision.Runner

/-! Supervising a tool as a history of observations. Each pipe depends on what is observed of it
alone, and the leader's fate on what is observed of the leader. What a machine is asked to do is
fixed by the history too: the group is killed and the leader reaped before it is known how it
ended. -/

namespace TreePipeline

namespace Observation

def isOn (stream : Stream) : Observation → Bool
  | .received s _ | .closed s | .readFailed s _ => decide (s = stream)
  | _ => false

def isOfLeader : Observation → Bool
  | .leaderExited | .deadlineExpired | .reaped _ => true
  | _ => false

def isReaped : Observation → Bool
  | .reaped _ => true
  | _ => false

def isGrace : Observation → Bool
  | .graceExpired => true
  | _ => false

end Observation

def Channel.see (limit : Nat) (c : Channel) : Observation → Channel
  | .received _ octets => c.receive limit octets
  | .closed _ => c.close
  | .readFailed _ cause => c.fail cause
  | _ => c

def Watch.see : Watch → Observation → Watch
  | .waiting, .leaderExited => .reaping false
  | .waiting, .deadlineExpired => .reaping true
  | .reaping hit, .reaped result => .reaped hit result
  | w, _ => w

namespace Watch

variable {hit : Bool} {result : Except SystemError UInt32}

lemma foldl_see_filter (w : Watch) (os : List Observation) :
    os.foldl see w = (os.filter Observation.isOfLeader).foldl see w := by
  induction os generalizing w with
  | nil => rfl
  | cons o os ih =>
    cases o <;> cases w <;> exact ih _

lemma foldl_see_reaped (os : List Observation) :
    os.foldl see (.reaped hit result) = .reaped hit result := by
  induction os with
  | nil => rfl
  | cons o os ih => exact ih

lemma foldl_see_reaping {os : List Observation}
    (h : os.filter Observation.isReaped = [.reaped result]) :
    os.foldl see (.reaping hit) = .reaped hit result := by
  induction os with
  | nil => cases h
  | cons o os ih =>
    cases o with
    | reaped r =>
      obtain ⟨hr, -⟩ := List.cons.inj ((List.filter_cons_of_pos rfl).symm.trans h)
      cases hr
      exact foldl_see_reaped os
    | leaderExited | deadlineExpired | received | closed | readFailed | graceExpired => exact ih h

end Watch

namespace Supervisor

variable {s : Supervisor} {os : List Observation}

def channel (s : Supervisor) : Stream → Channel
  | .out => s.out
  | .err => s.err

def after (s : Supervisor) (os : List Observation) : Supervisor :=
  os.foldl (fun s o => (s.step o).1) s

@[simp] lemma after_nil (s : Supervisor) : s.after [] = s := rfl

@[simp] lemma after_cons (s : Supervisor) (o : Observation) (os : List Observation) :
    s.after (o :: os) = (s.step o).1.after os := rfl

lemma after_append (s : Supervisor) (os os' : List Observation) :
    s.after (os ++ os') = (s.after os).after os' := List.foldl_append

lemma step_fst (s : Supervisor) (o : Observation) :
    (s.step o).1 = {
      limit := s.limit
      watch := s.watch.see o
      out := if o.isOn .out then s.out.see s.limit o else s.out
      err := if o.isOn .err then s.err.see s.limit o else s.err
      abandoned := s.abandoned || (o.isGrace && s.isReaped && !s.isDrained) } := by
  cases o with
  | leaderExited | deadlineExpired | reaped =>
    obtain ⟨limit, watch, out, err, abandoned⟩ := s
    cases watch <;> cases abandoned <;> rfl
  | received stream | closed stream | readFailed stream =>
    obtain ⟨limit, watch, out, err, abandoned⟩ := s
    cases stream <;> cases watch <;> cases abandoned <;> rfl
  | graceExpired =>
    have hwatch : s.watch.see .graceExpired = s.watch := by cases s.watch <;> rfl
    unfold step
    cases hgrace : s.isReaped && !s.isDrained <;>
      simp [hwatch, Observation.isOn, Observation.isGrace, hgrace]

lemma step_watch (s : Supervisor) (o : Observation) : (s.step o).1.watch = s.watch.see o := by
  rw [step_fst]

lemma step_limit (s : Supervisor) (o : Observation) : (s.step o).1.limit = s.limit := by
  rw [step_fst]

lemma step_channel (s : Supervisor) (o : Observation) (stream : Stream) :
    (s.step o).1.channel stream =
      if o.isOn stream then (s.channel stream).see s.limit o else s.channel stream := by
  rw [step_fst]
  cases stream <;> rfl

lemma isDrained_iff : s.isDrained = true ↔ ∀ stream, (s.channel stream).isOpen = false := by
  unfold isDrained
  rw [Bool.and_eq_true, Bool.not_eq_true', Bool.not_eq_true']
  exact ⟨fun ⟨hout, herr⟩ stream => by cases stream <;> assumption,
    fun h => ⟨h .out, h .err⟩⟩

/-! What a history changes -/

lemma watch_after (s : Supervisor) (os : List Observation) :
    (s.after os).watch = os.foldl Watch.see s.watch := by
  induction os generalizing s with
  | nil => rfl
  | cons o os ih => rw [after_cons, ih, step_watch, List.foldl_cons]

lemma limit_after (s : Supervisor) (os : List Observation) : (s.after os).limit = s.limit := by
  induction os generalizing s with
  | nil => rfl
  | cons o os ih => rw [after_cons, ih, step_limit]

lemma channel_after (s : Supervisor) (os : List Observation) (stream : Stream) :
    (s.after os).channel stream =
      (os.filter (Observation.isOn stream)).foldl (Channel.see s.limit) (s.channel stream) := by
  induction os generalizing s with
  | nil => rfl
  | cons o os ih =>
    rw [after_cons, ih, step_channel, step_limit, List.filter_cons]
    cases o.isOn stream <;> rfl

lemma channel_after_of_isOpen {stream : Stream} (h : (s.channel stream).isOpen = false)
    (os : List Observation) : (s.after os).channel stream = s.channel stream := by
  induction os generalizing s with
  | nil => rfl
  | cons o os ih =>
    have hstep : (s.step o).1.channel stream = s.channel stream := by
      rw [step_channel]
      split
      · cases hc : s.channel stream with
        | reading => rw [hc] at h; cases h
        | ended | failed => cases o <;> rfl
      · rfl
    rw [after_cons, ih (by rw [hstep]; exact h), hstep]

lemma abandoned_after (hs : s.abandoned = false)
    (h : ∀ before later, os = before ++ .graceExpired :: later →
      (s.after before).isDrained = true) : (s.after os).abandoned = false := by
  induction os using List.reverseRecOn with
  | nil => exact hs
  | append_singleton os o ih =>
    have hearlier := ih fun before later hos =>
      h before (later ++ [o]) (by rw [hos, List.append_assoc, List.cons_append])
    rw [after_append, after_cons, after_nil, step_fst]
    dsimp only
    rw [hearlier, Bool.false_or]
    cases o with
    | graceExpired =>
      rw [h os [] rfl]
      exact Bool.and_false _
    | leaderExited | deadlineExpired | reaped | received | closed | readFailed => rfl

end Supervisor

inductive Occurrence where
  | observed (o : Observation)
  | acted (a : Action)

def Occurrence.observation? : Occurrence → Option Observation
  | .observed o => some o
  | .acted _ => none

namespace Supervisor

variable {s : Supervisor} {os : List Observation} {hit : Bool} {result : Except SystemError UInt32}

/-- A history, and in it the actions that answer each observation. -/
def log (s : Supervisor) : List Observation → List Occurrence
  | [] => []
  | o :: os => .observed o :: (s.step o).2.map .acted ++ (s.step o).1.log os

lemma log_append (s : Supervisor) (os os' : List Observation) :
    s.log (os ++ os') = s.log os ++ (s.after os).log os' := by
  induction os generalizing s with
  | nil => rfl
  | cons o os ih => rw [List.cons_append, log, log, ih, List.append_assoc, after_cons]

lemma filterMap_log (s : Supervisor) (os : List Observation) :
    (s.log os).filterMap Occurrence.observation? = os := by
  induction os generalizing s with
  | nil => rfl
  | cons o os ih =>
    have hactions : ((s.step o).2.map .acted).filterMap Occurrence.observation? = [] := by
      rw [List.filterMap_map]
      exact List.filterMap_eq_nil_iff.mpr fun _ _ => rfl
    have hfirst : (.observed o :: (s.step o).2.map .acted).filterMap Occurrence.observation? =
        [o] := congrArg (List.cons o) hactions
    rw [log, List.filterMap_append, hfirst, ih, List.singleton_append]

lemma log_of_reaping {hit' : Bool} (hs : s.watch = .reaping hit')
    (h : (s.after os).watch = .reaped hit result) :
    ∃ between later, s.log os = between ++ .observed (.reaped result) :: later := by
  induction os generalizing s with
  | nil => cases hs.symm.trans h
  | cons o os ih =>
    have hnext := step_watch s o
    rw [hs] at hnext
    cases o with
    | reaped r =>
      rw [after_cons, watch_after, hnext, Watch.see, Watch.foldl_see_reaped] at h
      cases h
      exact ⟨[], _, rfl⟩
    | leaderExited | deadlineExpired | received | closed | readFailed | graceExpired =>
      obtain ⟨between, later, hlog⟩ := ih hnext h
      exact ⟨_, later, by rw [log, hlog, ← List.append_assoc]⟩

lemma log_of_waiting (hs : s.watch = .waiting) (h : (s.after os).watch = .reaped hit result) :
    ∃ before between later, s.log os = before ++ .acted .killGroup :: .acted .reap :: between ++
      .observed (.reaped result) :: later := by
  induction os generalizing s with
  | nil => cases hs.symm.trans h
  | cons o os ih =>
    have hnext := step_watch s o
    rw [hs] at hnext
    cases o with
    | leaderExited =>
      obtain ⟨between, later, hlog⟩ := log_of_reaping hnext h
      rw [log, hlog]
      simp only [step, hs]
      exact ⟨[_], between, later, rfl⟩
    | deadlineExpired =>
      -- the deadline is warned of before the group is killed
      obtain ⟨between, later, hlog⟩ := log_of_reaping hnext h
      rw [log, hlog]
      simp only [step, hs]
      exact ⟨[_, .acted .warnDeadline], between, later, rfl⟩
    | reaped | received | closed | readFailed | graceExpired =>
      obtain ⟨before, between, later, hlog⟩ := ih hnext h
      exact ⟨_, between, later, by rw [log, hlog, ← List.append_assoc, ← List.append_assoc]⟩

end Supervisor

lemma Supervisor.eq_of_conclude {s : Supervisor} {i : Invocation} {elapsed : Duration}
    {artifactExists : Bool} {result : StageResult}
    (h : s.conclude i elapsed artifactExists = some (.ok result)) :
    ∃ hit status, s.watch = .reaped hit (.ok status) ∧
      result.exit = (if hit then .timeoutKilled else classify status i.cpuLimit elapsed) ∧
      result.artifactExists = artifactExists := by
  unfold conclude answer at h
  split at h
  · split at h
    · have hanswer := Option.some.inj h
      split at hanswer
      · split at hanswer
        · cases hanswer
        · cases hanswer
          exact ⟨_, _, by assumption, rfl, rfl⟩
      · cases hanswer
    · cases h
  · cases h

/-- What a machine observes and does is entered in an account, what it does with the files and the
state in which it is done. -/
structure Recorder (σ γ : Type) where
  observed : Observation → γ → γ
  acted : Action → FileSystem × σ → γ → γ

def Supervised.bare {σ γ : Type} (x : Supervised (σ × γ)) : Supervised σ :=
  ⟨x.supervisor, x.files, x.state.1, x.events⟩

namespace Machinery

variable {σ γ : Type} (m : Machinery σ) (r : Recorder σ γ) (i : Invocation)

def keeping : Machinery (σ × γ) where
  launch i ceiling fs state := (m.launch i ceiling fs state.1).map fun x => (x.1, x.2, state.2)
  observe fs state :=
    let (o, fs, next) := m.observe fs state.1
    (o, fs, next, r.observed o state.2)
  act a fs state :=
    let (fs', next) := m.act a fs state.1
    (fs', next, r.acted a (fs, state.1) state.2)

variable {m r i} in
lemma launch_keeping {ceiling : Option CpuCeiling} {fs : FileSystem} {state : σ × γ}
    {launched : FileSystem × σ × γ}
    (h : (m.keeping r).launch i ceiling fs state = .ok launched) :
    ∃ bare, m.launch i ceiling fs state.1 = .ok bare ∧ launched = (bare.1, bare.2, state.2) := by
  change (m.launch i ceiling fs state.1).map _ = _ at h
  cases hm : m.launch i ceiling fs state.1 with
  | error e =>
    rw [hm] at h
    cases h
  | ok bare =>
    rw [hm] at h
    exact ⟨bare, rfl, (Except.ok.inj h).symm⟩

lemma actAll_keeping (actions : List Action) (fs : FileSystem) (state : σ) (account : γ) :
    ∃ account', (m.keeping r).actAll actions (fs, state, account) =
      ((m.actAll actions (fs, state)).1, (m.actAll actions (fs, state)).2, account') := by
  induction actions generalizing fs state account with
  | nil => exact ⟨account, rfl⟩
  | cons a actions ih => exact ih _ _ _

lemma bare_superviseStep (x : Supervised (σ × γ)) :
    ((m.keeping r).superviseStep i x).bare = m.superviseStep i x.bare := by
  have hacts := m.actAll_keeping r (x.supervisor.step (m.observe x.files x.state.1).1).2
    (m.observe x.files x.state.1).2.1 (m.observe x.files x.state.1).2.2
    (r.observed (m.observe x.files x.state.1).1 x.state.2)
  obtain ⟨account', hacts⟩ := hacts
  simp only [superviseStep, Supervised.bare]
  refine congrArg (fun y : FileSystem × σ × γ => (⟨_, y.1, y.2.1, _⟩ : Supervised σ)) hacts

lemma bare_supervise (turns : Nat) (x : Supervised (σ × γ)) :
    ((m.keeping r).supervise i turns x).bare = m.supervise i turns x.bare := by
  induction turns generalizing x with
  | zero => rfl
  | succ turns ih =>
    -- whether the supervisor has finished does not depend on the account, so both stop together
    unfold supervise
    by_cases hfinished : x.supervisor.isFinished = true
    · exact (congrArg Supervised.bare (if_pos hfinished)).trans (if_pos hfinished).symm
    · rw [if_neg hfinished, if_neg (show ¬ x.bare.supervisor.isFinished = true from hfinished), ih,
        bare_superviseStep]

variable {m i} in
lemma supervise_invariant {P : Supervised σ → Prop} (hstep : ∀ x, P x → P (m.superviseStep i x))
    (turns : Nat) {x : Supervised σ} (h : P x) : P (m.supervise i turns x) := by
  induction turns generalizing x with
  | zero => exact h
  | succ turns ih =>
    unfold supervise
    split
    · exact h
    · exact ih (hstep x h)

end Machinery

namespace Machine

variable {σ γ : Type} (m : Machine σ) (r : Recorder σ γ) (i : Invocation)

def keeping : Machine (σ × γ) where
  toMachinery := m.toMachinery.keeping r
  turns fs state := m.turns fs state.1
  ends i ceiling fs state launched h := by
    obtain ⟨bare, hlaunch, rfl⟩ := Machinery.launch_keeping h
    have hbare := m.bare_supervise r i (m.turns bare.1 bare.2) (.start i (bare.1, bare.2, state.2))
    exact (congrArg (fun x => x.supervisor.isFinished) hbare).trans
      (m.ends i ceiling fs state.1 bare hlaunch)

variable {m r i} {probe : DisplayProbe} {fs : FileSystem} {state : σ}

lemma launchChecked_keeping (account : γ) : (m.keeping r).launchChecked i fs (state, account) =
    (m.launchChecked i fs state).map fun x => (x.1, x.2, account) := by
  unfold launchChecked
  split <;> rfl

lemma executeStage_keeping {launched : FileSystem × σ} (hdisplay : displayCheck probe i fs = .ok ())
    (hlaunch : m.launchChecked i fs state = .ok launched) (account : γ) :
    let x := m.executeStage probe i fs state
    let y := (m.keeping r).supervised i (launched.1, launched.2, account)
    y.bare = m.supervised i launched ∧ (m.keeping r).executeStage probe i fs (state, account) =
      ⟨x.answer, x.files, (x.state, y.state.2), x.events⟩ := by
  have hlaunch' : (m.keeping r).launchChecked i fs (state, account) =
      .ok (launched.1, launched.2, account) := by
    rw [launchChecked_keeping, hlaunch]
    rfl
  have hbare : ((m.keeping r).supervised i (launched.1, launched.2, account)).bare =
      m.supervised i launched := m.bare_supervise r i _ _
  refine ⟨hbare, ?_⟩
  have hconclude : ∀ (y : Supervised (σ × γ)) (x : Supervised σ) (hy hx), y.bare = x →
      y.conclude hy i fs.clock = ⟨(x.conclude hx i fs.clock).answer, (x.conclude hx i fs.clock).files,
        ((x.conclude hx i fs.clock).state, y.state.2), (x.conclude hx i fs.clock).events⟩ := by
    rintro y _ hy hx rfl
    rfl
  rw [executeStage_of_launched hdisplay hlaunch', executeStage_of_launched hdisplay hlaunch]
  exact hconclude _ _ _ _ hbare

variable (m i)

def logged : Machine (σ × List Occurrence) :=
  m.keeping ⟨fun o log => log ++ [.observed o], fun a _ log => log ++ [.acted a]⟩

lemma actAll_logged (actions : List Action) (fs : FileSystem) (state : σ)
    (log : List Occurrence) :
    (m.logged.actAll actions (fs, state, log)).2.2 = log ++ actions.map .acted := by
  induction actions generalizing fs state log with
  | nil => exact (List.append_nil log).symm
  | cons a actions ih =>
    refine (ih _ _ (log ++ [.acted a])).trans ?_
    rw [List.append_assoc, List.singleton_append, List.map_cons]

lemma supervised_logged (launched : FileSystem × σ) :
    let y := m.logged.supervised i (launched.1, launched.2, [])
    ∃ os, y.state.2 = (Supervisor.start i.captureLimit).log os ∧
      y.supervisor = (Supervisor.start i.captureLimit).after os := by
  refine Machinery.supervise_invariant (P := fun y : Supervised (σ × List Occurrence) =>
    ∃ os, y.state.2 = Supervisor.log _ os ∧ y.supervisor = Supervisor.after _ os)
    (fun y hy => ?_) _ ⟨[], rfl, rfl⟩
  obtain ⟨os, hlog, hafter⟩ := hy
  let o := (m.observe y.files y.state.1).1
  have hacts := m.actAll_logged (y.supervisor.step o).2 (m.observe y.files y.state.1).2.1
    (m.observe y.files y.state.1).2.2 (y.state.2 ++ [.observed o])
  refine ⟨os ++ [o], ?_, ?_⟩
  · rw [Supervisor.log_append, ← hlog, ← hafter]
    exact hacts.trans (by simp [Supervisor.log])
  · rw [Supervisor.after_append, ← hafter]
    rfl

/-- What is observed of a tool, from its launch until the supervisor has finished. -/
def history (probe : DisplayProbe) (fs : FileSystem) (state : σ) : List Observation :=
  (m.logged.executeStage probe i fs (state, [])).state.2.filterMap Occurrence.observation?

variable {m i} in
lemma history_of_launched {launched : FileSystem × σ} (hdisplay : displayCheck probe i fs = .ok ())
    (hlaunch : m.launchChecked i fs state = .ok launched) :
    m.history i probe fs state = (m.logged.supervised i (launched.1, launched.2, [])).state.2.filterMap
      Occurrence.observation? := by
  rw [history, logged, (executeStage_keeping hdisplay hlaunch _).2]

variable {m i} in
lemma history_eq {probe : DisplayProbe} {fs : FileSystem} {state : σ} {x : Execution σ}
    {os : List Observation} (h : m.logged.executeStage probe i fs (state, []) =
      ⟨x.answer, x.files, (x.state, (Supervisor.start i.captureLimit).log os), x.events⟩) :
    m.history i probe fs state = os := by
  rw [history, h, Supervisor.filterMap_log]

lemma executeStage_logged (probe : DisplayProbe) (fs : FileSystem) (state : σ) :
    ∃ x os, m.executeStage probe i fs state = x ∧ m.history i probe fs state = os ∧
      m.logged.executeStage probe i fs (state, []) =
        ⟨x.answer, x.files, (x.state, (Supervisor.start i.captureLimit).log os), x.events⟩ ∧
      ((os = [] ∧ ∃ e, x.answer = .error e) ∨
        some x.answer = ((Supervisor.start i.captureLimit).after os).conclude i
          (.ofNanos (x.files.clock - fs.clock).toNat) (x.files.isFile i.expectedOutput)) := by
  suffices hlogged : ∃ os, m.logged.executeStage probe i fs (state, []) = _ ∧ _ by
    obtain ⟨os, hlogged, hanswer⟩ := hlogged
    exact ⟨_, os, rfl, history_eq hlogged, hlogged, hanswer⟩
  cases hdisplay : displayCheck probe i fs with
  | error e =>
    rw [executeStage_of_display hdisplay, executeStage_of_display hdisplay]
    exact ⟨[], rfl, Or.inl ⟨rfl, e, rfl⟩⟩
  | ok _ =>
    cases hlaunch : m.launchChecked i fs state with
    | error e =>
      have hlaunch' : m.logged.launchChecked i fs (state, []) = .error e := by
        rw [logged, launchChecked_keeping, hlaunch]
        rfl
      rw [executeStage_of_error hdisplay hlaunch, executeStage_of_error hdisplay hlaunch']
      exact ⟨[], rfl, Or.inl ⟨rfl, _, rfl⟩⟩
    | ok launched =>
      obtain ⟨os, hlog, hafter⟩ := m.supervised_logged i launched
      obtain ⟨hbare, hstage⟩ := executeStage_keeping hdisplay hlaunch ([] : List Occurrence)
      refine ⟨os, hlog ▸ hstage, Or.inr ?_⟩
      rw [executeStage_of_launched hdisplay hlaunch, ← hafter]
      have hsupervisor : (m.logged.supervised i (launched.1, launched.2, [])).supervisor =
          (m.supervised i launched).supervisor := congrArg Supervised.supervisor hbare
      rw [hsupervisor]
      exact Option.some_get _

variable {m i} in
lemma conclude_of_answer {probe : DisplayProbe} {fs : FileSystem} {state : σ} {result : StageResult}
    (h : (m.executeStage probe i fs state).answer = .ok result) :
    ((Supervisor.start i.captureLimit).after (m.history i probe fs state)).conclude i
      (.ofNanos ((m.executeStage probe i fs state).files.clock - fs.clock).toNat)
      ((m.executeStage probe i fs state).files.isFile i.expectedOutput) = some (.ok result) := by
  obtain ⟨x, os, hx, hos, -, hanswer⟩ := m.executeStage_logged i probe fs state
  rw [hx] at h ⊢
  rw [hos]
  rcases hanswer with ⟨-, e, he⟩ | hanswer
  · cases he.symm.trans h
  · exact hanswer.symm.trans (congrArg some h)

/-! A machine that plays a history -/

section Playing

variable {os : List Observation} {tool : Invocation → FileSystem → FileSystem}

def playingMachinery (tool : Invocation → FileSystem → FileSystem) (os : List Observation) :
    Machinery Nat where
  launch i _ fs _ := .ok (tool i fs, 0)
  observe fs seen := (os.getD seen .graceExpired, fs, seen + 1)
  act _ fs seen := (fs, seen)

lemma actAll_playingMachinery (actions : List Action) (x : FileSystem × Nat) :
    (playingMachinery tool os).actAll actions x = x := by
  induction actions generalizing x with
  | nil => rfl
  | cons a actions ih => exact ih x

lemma isFinished_playingMachinery {later : List Observation} {x : Supervised Nat}
    (hlater : os.drop x.state = later) (h : (x.supervisor.after later).isFinished = true) :
    ((playingMachinery tool os).supervise i later.length x).supervisor.isFinished = true := by
  induction later generalizing x with
  | nil => exact h
  | cons o later ih =>
    have hobserve : (playingMachinery tool os).observe x.files x.state =
        (o, x.files, x.state + 1) := by
      have ho : os[x.state]? = some o := by
        rw [← List.head?_drop, hlater, List.head?_cons]
      simp only [playingMachinery, List.getD_eq_getElem?_getD, ho, Option.getD_some]
    have hstate : ((playingMachinery tool os).superviseStep i x).state = x.state + 1 := by
      simp only [Machinery.superviseStep, hobserve, actAll_playingMachinery]
    have hsupervisor : ((playingMachinery tool os).superviseStep i x).supervisor =
        (x.supervisor.step o).1 := by
      simp only [Machinery.superviseStep, hobserve]
    refine Machinery.isFinished_supervise_succ (ih ?_ ?_)
    · rw [hstate, ← List.tail_drop, hlater, List.tail_cons]
    · rw [hsupervisor]
      exact h

def playing (tool : Invocation → FileSystem → FileSystem) (os : List Observation)
    (h : ∀ limit, ((Supervisor.start limit).after os).isFinished = true) : Machine Nat where
  toMachinery := playingMachinery tool os
  turns _ _ := os.length
  ends i ceiling fs state launched hlaunch := by
    cases hlaunch
    exact isFinished_playingMachinery (i := i) rfl (h _)

end Playing

end Machine

def exampleInvocation : Invocation where
  stageName := "build"
  program := Octets.ofAscii "meshpro"
  args := []
  env := []
  display := none
  cpuLimit := .ofSecs 15
  wallLimit := .ofSecs 45
  captureLimit := 1
  expectedOutput := Octets.ofAscii "/mesh"

def exampleFiles : FileSystem := { nodes := [], clock := 0, directory := [] }

end TreePipeline
