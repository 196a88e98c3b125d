import Mathlib.Data.Set.Basic
import Mathlib.Logic.Relation
import TreePipeline.Proofs.Supervision.History

/-! The end of a process group. Of the kernel under a machine it is known only what it documents of
groups, of SIGKILL and of waiting for a child. However a stage that was launched ends, its group was
killed once, while the number of the group stood for it, so that in the end the only processes left in
it are such as SIGKILL was sent to. -/

namespace TreePipeline

/-! What the supervisor does next -/

namespace Watch

end Watch

namespace Machinery

variable {σ : Type} (m : Machinery σ)

inductive Goes : Option Action → FileSystem × σ → FileSystem × σ → Prop
  | observes (x : FileSystem × σ) : Goes none x (m.observe x.1 x.2).2
  | acts (a : Action) (x : FileSystem × σ) : Goes (some a) x (m.act a x.1 x.2)

/-- So it may be after any number of such steps. -/
def Later : FileSystem × σ → FileSystem × σ → Prop := Relation.ReflTransGen fun x y => ∃ a, m.Goes a x y

def deeds : List Action → FileSystem × σ → List (Action × FileSystem × σ)
  | [], _ => []
  | a :: actions, x => (a, x) :: deeds actions (m.act a x.1 x.2)

lemma deeds_append (actions actions' : List Action) (x : FileSystem × σ) :
    m.deeds (actions ++ actions') x = m.deeds actions x ++ m.deeds actions' (m.actAll actions x) := by
  induction actions generalizing x with
  | nil => rfl
  | cons a actions ih => exact congrArg (List.cons _) (ih _)

lemma actAll_append (actions actions' : List Action) (x : FileSystem × σ) :
    m.actAll (actions ++ actions') x = m.actAll actions' (m.actAll actions x) := List.foldl_append

lemma fst_mem_of_mem_deeds {actions : List Action} {x : FileSystem × σ} {d : Action × FileSystem × σ}
    (hd : d ∈ m.deeds actions x) : d.1 ∈ actions := by
  induction actions generalizing x with
  | nil => cases hd
  | cons a actions ih =>
    rcases List.mem_cons.mp hd with rfl | hd
    · exact List.mem_cons_self
    · exact List.mem_cons_of_mem a (ih hd)

end Machinery

namespace Machine

variable {σ : Type} (m : Machine σ)

/-- The machine with a record of all that it does, each action with the state before it. -/
def recording : Machine (σ × List (Action × FileSystem × σ)) :=
  m.keeping ⟨fun _ done => done, fun a x done => done ++ [(a, x)]⟩

end Machine

/-! The group -/

/-- What a kernel knows of the processes of a tool: which stem from it, which of these are alive and
have stayed in its group, whom a signal to the number of the group goes to, whom SIGKILL was sent to,
and whether the leader has been reaped. A process is not told by a number, which might be given again. -/
structure ProcessGroup (σ π : Type) where
  kin : FileSystem × σ → Set π
  members : FileSystem × σ → Set π
  addressed : FileSystem × σ → Set π
  killed : FileSystem × σ → Set π
  isReaped : FileSystem × σ → Prop

namespace ProcessGroup

variable {σ π : Type}

/-- What the kernel documents of it. -/
structure IsKept (g : ProcessGroup σ π) (m : Machinery σ) : Prop where
  /-- The leader is in the table of processes from its launch on, -/
  launched {i ceiling fs state x} (h : m.launch i ceiling fs state = .ok x) : ¬ g.isReaped x
  /-- until it is waited for. -/
  waited {a x y} (h : m.Goes a x y) (ha : a ≠ some .reap) (hx : ¬ g.isReaped x) : ¬ g.isReaped y
  /-- As long as it is there its number is given to no other process and to no other group. -/
  denoted {x} (hx : ¬ g.isReaped x) : g.members x ⊆ g.addressed x ∧ g.addressed x ⊆ g.kin x
  /-- A signal to a group goes to every process in it, at one time; all are of one user here. -/
  sent (x) : g.addressed x ⊆ g.killed (m.act .killGroup x.1 x.2) ∧
    g.members (m.act .killGroup x.1 x.2) ⊆ g.members x
  /-- SIGKILL cannot be caught, blocked or ignored, and it is not taken back. -/
  lasting {a x y} (h : m.Goes a x y) : g.killed x ⊆ g.killed y
  /-- A process that is new in the group was forked in it, by one that has not been sent SIGKILL. -/
  forked {a x y p} (h : m.Goes a x y) (hp : p ∈ g.members y) (hnew : p ∉ g.members x) :
    ∃ q ∈ g.members x, q ∉ g.killed x

/-- SIGKILL ends those that it is sent to, and it has done so by the time that the leader, to whom it was
sent with the others, is seen to have been waited for. The runner waits for none but the leader, so that
the others' end rests with the kernel. -/
def IsPrompt (g : ProcessGroup σ π) (m : Machinery σ) : Prop :=
  ∀ (x : FileSystem × σ) result, (m.observe x.1 x.2).1 = .reaped result →
    ∀ p ∈ g.members (m.observe x.1 x.2).2, p ∉ g.killed (m.observe x.1 x.2).2

variable {g : ProcessGroup σ π} {m : Machinery σ} {x y : FileSystem × σ}

lemma IsKept.goes (hg : g.IsKept m) {a : Option Action} (h : m.Goes a x y)
    (hx : g.members x ⊆ g.killed x) : g.members y ⊆ g.members x ∧ g.members y ⊆ g.killed y := by
  have hold : g.members y ⊆ g.members x := by
    intro p hp
    by_contra hnew
    obtain ⟨q, hq, hspared⟩ := hg.forked h hp hnew
    exact hspared (hx hq)
  exact ⟨hold, fun p hp => hg.lasting h (hx (hold hp))⟩

lemma IsKept.later (hg : g.IsKept m) (h : m.Later x y) (hx : g.members x ⊆ g.killed x) :
    g.members y ⊆ g.members x ∧ g.members y ⊆ g.killed y := by
  induction h with
  | refl => exact ⟨subset_rfl, hx⟩
  | tail _ hgoes ih =>
    obtain ⟨a, hgoes⟩ := hgoes
    obtain ⟨hold, hkilled⟩ := hg.goes hgoes ih.2
    exact ⟨hold.trans ih.1, hkilled⟩

lemma IsKept.actAll (hg : g.IsKept m) {actions : List Action} (h : .reap ∉ actions)
    (hx : ¬ g.isReaped x) : ¬ g.isReaped (m.actAll actions x) := by
  induction actions generalizing x with
  | nil => exact hx
  | cons a actions ih =>
    have ha : some a ≠ some Action.reap := fun heq => h (Option.some.inj heq ▸ List.mem_cons_self)
    exact ih (fun hlater => h (List.mem_cons_of_mem a hlater)) (hg.waited (.acts a x) ha hx)

def IsDone (g : ProcessGroup σ π) (done : List (Action × FileSystem × σ)) : Prop :=
  ∃ warned killing reaping later, done = warned ++ (.killGroup, killing) :: (.reap, reaping) :: later ∧
    (∀ d ∈ warned, d.1 = .warnDeadline) ∧ (∀ d ∈ later, d.1 = .startGrace) ∧
    ¬ g.isReaped killing ∧ ¬ g.isReaped reaping

inductive Stands (g : ProcessGroup σ π) (m : Machinery σ) :
    Watch → FileSystem × σ → List (Action × FileSystem × σ) → Prop
  | waiting {x : FileSystem × σ} (h : ¬ g.isReaped x) : Stands g m .waiting x []
  | reaping {hit} {x : FileSystem × σ} {done} (hdone : g.IsDone done) (h : g.members x ⊆ g.killed x) :
    Stands g m (.reaping hit) x done
  | reaped {hit result} {x : FileSystem × σ} {done} (hdone : g.IsDone done) (h : g.members x ⊆ g.killed x)
    (hprompt : g.IsPrompt m → g.members x = ∅) : Stands g m (.reaped hit result) x done

variable {done : List (Action × FileSystem × σ)} {watch watch' : Watch} {o : Observation}
  {actions : List Action}

lemma IsDone.append {later : List (Action × FileSystem × σ)} (h : g.IsDone done)
    (hlater : ∀ d ∈ later, d.1 = .startGrace) : g.IsDone (done ++ later) := by
  obtain ⟨warned, killing, reaping, grace, rfl, hwarned, hgrace, hreaped⟩ := h
  refine ⟨warned, killing, reaping, grace ++ later, ?_, hwarned, ?_, hreaped⟩
  · rw [List.append_assoc, List.cons_append, List.cons_append]
  · exact List.forall_mem_append.mpr ⟨hgrace, hlater⟩

lemma IsKept.kill (hg : g.IsKept m) {warned : List Action} (hwarned : ∀ a ∈ warned, a = .warnDeadline)
    (hx : ¬ g.isReaped x) : g.IsDone (m.deeds (warned ++ [.killGroup, .reap]) x) ∧
      g.members (m.actAll (warned ++ [.killGroup, .reap]) x) ⊆
        g.killed (m.actAll (warned ++ [.killGroup, .reap]) x) := by
  have hkilling : ¬ g.isReaped (m.actAll warned x) :=
    hg.actAll (fun h => Action.noConfusion (hwarned _ h)) hx
  have hreaping := hg.waited (.acts .killGroup (m.actAll warned x)) (by decide) hkilling
  obtain ⟨hsent, hold⟩ := hg.sent (m.actAll warned x)
  have hkilled := (hold.trans (hg.denoted hkilling).1).trans hsent
  rw [m.actAll_append, m.deeds_append]
  refine ⟨⟨_, _, _, [], rfl, fun d hd => hwarned _ (m.fst_mem_of_mem_deeds hd),
    List.forall_mem_nil _, hkilling, hreaping⟩, ?_⟩
  exact (hg.goes (.acts .reap _) hkilled).2

lemma Stands.isDone {s : Supervisor} (h : g.Stands m s.watch x done) (hs : s.isReaped = true) :
    g.IsDone done ∧ g.members x ⊆ g.killed x ∧ (g.IsPrompt m → g.members x = ∅) := by
  obtain ⟨limit, watch, out, err, abandoned⟩ := s
  cases h with
  | waiting | reaping => cases hs
  | reaped hdone h hprompt => exact ⟨hdone, h, hprompt⟩

end ProcessGroup

/-! The whole stage -/

namespace Machine

variable {σ π : Type} {m : Machine σ} {g : ProcessGroup σ π} {probe : DisplayProbe} {i : Invocation}
  {fs : FileSystem} {state : σ} {launched : FileSystem × σ}

inductive Member where
  | leader
  | child

inductive Scene where
  | running
  | left
  | killed
  | waited
  | gone
  | drained

namespace Scene

def members : Scene → Set Member
  | .running => Set.univ
  | .left | .killed | .waited => {.child}
  | .gone | .drained => ∅

end Scene

def leavingMachinery : Machinery Scene where
  launch _ _ fs _ := .ok (fs, .running)
  observe fs scene :=
    match scene with
    | .running => (.leaderExited, fs, .left)
    | .waited => (.reaped (.ok 0), fs, .gone)
    | .gone => (.closed .out, fs, .drained)
    | scene => (.closed .err, fs, scene)
  act a fs scene :=
    match a, scene with
    | .killGroup, .running | .killGroup, .left => (fs, .killed)
    | .reap, .killed => (fs, .waited)
    | _, scene => (fs, scene)

def leaving : Machine Scene where
  toMachinery := leavingMachinery
  turns _ _ := 4
  ends _ _ _ _ _ h := by
    cases h
    rfl

namespace Scene.Next

variable {a : Option Action} {s s' : Scene}

end Scene.Next

end Machine

end TreePipeline
