import Mathlib.Data.List.Forall2
import Mathlib.Logic.Function.Basic
import TreePipeline.Proofs.Artifact.Naming
import TreePipeline.Proofs.Files.Reaching
import TreePipeline.Store.Allocation

/-! Allocators that contend for one store. Each draws candidates of its own, call after call, and the
steps of all of them are taken in any order. What is reserved once stays reserved, so that no
identifier is given away twice. -/

namespace TreePipeline.Store

open FileSystem

structure Allocator where
  drawn : Nat
  tried : Nat
  effects : List (FileSystem × FileSystem)

def Allocator.afterTry (a : Allocator) (before after : FileSystem) : Allocator :=
  ⟨a.drawn + 1, a.tried + 1, a.effects ++ [(before, after)]⟩

/-- The tree that an attempt leaves. -/
def Attempt.files (before : FileSystem) : Attempt → FileSystem
  | .reserved after => after
  | .taken | .refused _ => before

structure Call where
  effects : List (FileSystem × FileSystem)
  result : Except ArtifactError ArtifactSet

structure Contest (ι : Type) where
  files : FileSystem
  allocators : ι → Allocator
  ended : List Call

inductive Move (ι : Type) where
  | step (i : ι)
  | pass (nanos : Nat)

namespace Contest

variable {ι : Type} [DecidableEq ι]

def start (fs : FileSystem) : Contest ι := ⟨fs, fun _ => ⟨0, 0, []⟩, []⟩

def resume (s : Contest ι) (i : ι) (a : Allocator) : Contest ι :=
  { s with allocators := Function.update s.allocators i a }

def finish (s : Contest ι) (i : ι) (a : Allocator) (result : Except ArtifactError ArtifactSet) :
    Contest ι :=
  { s.resume i { a with tried := 0, effects := [] } with ended := s.ended ++ [⟨a.effects, result⟩] }

def step (store : Store) (draw : ι → Nat → BaseId) (s : Contest ι) (i : ι) : Contest ι :=
  let a := s.allocators i
  if maxAttempts ≤ a.tried then s.finish i a (.error store.exhausted)
  else
    let base := draw i a.drawn
    let attempt := store.attempt base s.files
    let s' := { s with files := attempt.files s.files }
    let a' := a.afterTry s.files s'.files
    match attempt with
    | .reserved _ => s'.finish i a' (.ok (store.setOf base))
    | .taken => s'.resume i a'
    | .refused e => s'.finish i a' (.error e)

def move (store : Store) (draw : ι → Nat → BaseId) (s : Contest ι) : Move ι → Contest ι
  | .step i => s.step store draw i
  | .pass nanos => { s with files := s.files.tick nanos }

def run (store : Store) (draw : ι → Nat → BaseId) (s : Contest ι) (moves : List (Move ι)) :
    Contest ι :=
  moves.foldl (move store draw) s

/-- What the calls that have succeeded returned. -/
def sets (s : Contest ι) : List ArtifactSet := s.ended.filterMap fun c => c.result.toOption

end Contest

def AddsEmpty (path : Octets) (before after : FileSystem) : Prop :=
  ∃ l mode time, before.get? l = none ∧ after.locate true path = .ok l ∧
    ∀ k, after.get? k = if k = l then some (.file [] mode time) else before.get? k

/-- A call that succeeded added its source in its last step and nothing else; one that failed changed
nothing. -/
def Call.IsClean (c : Call) : Prop :=
  match c.result with
  | .ok set => ∃ quiet before after, c.effects = quiet ++ [(before, after)] ∧
      (∀ x ∈ quiet, x.2 = x.1) ∧ AddsEmpty set.source before after
  | .error _ => ∀ x ∈ c.effects, x.2 = x.1

/-! One attempt -/

variable {store : Store} {fs fs' : FileSystem} {base : BaseId} {l : Location}

lemma attempt_eq (store : Store) (base : BaseId) (fs : FileSystem) :
    store.attempt base fs =
      match fs.createNew (store.derive base .source) with
      | .ok fs' => .reserved fs'
      | .error e =>
        if e.isAlreadyExists then .taken else .refused (.allocation store.root e.message) := (rfl)

lemma attempt_of_found (h : fs.Reaches true (store.derive base .source) (.found l)) :
    store.attempt base fs = .taken := by
  rw [attempt_eq, createNew_of_found h]
  rfl

lemma createNew_of_reserved (h : store.attempt base fs = .reserved fs') :
    fs.createNew (store.derive base .source) = .ok fs' := by
  rw [attempt_eq] at h
  split at h
  · rename_i hnew
    obtain rfl := Attempt.reserved.inj h
    exact hnew
  · split at h <;> cases h

/-! Any number of attempts -/

variable {ι : Type}

namespace Contest

structure Exclusive (store : Store) (fs : FileSystem) (s : Contest ι) (places : List Location) :
    Prop where
  distinct : s.sets.Pairwise fun a b => a.base ≠ b.base
  derived : ∀ set ∈ s.sets, set = store.setOf set.base
  reached : List.Forall₂ (fun set l => s.files.Reaches true set.source (.found l)) s.sets places
  nodup : places.Nodup
  vacant : ∀ l ∈ places, fs.get? l = none
  filled : ∀ l ∈ places, ∃ mode time, s.files.get? l = some (.file [] mode time)
  kept : ∀ l, l ∉ places → s.files.get? l = fs.get? l
  quiet : ∀ i, ∀ x ∈ (s.allocators i).effects, x.2 = x.1
  clean : ∀ c ∈ s.ended, c.IsClean

variable {s : Contest ι} {places : List Location} {draw : ι → Nat → BaseId} {i : ι}

lemma exclusive_start (store : Store) (fs : FileSystem) :
    Exclusive store fs (start fs : Contest ι) [] where
  distinct := by simp [sets, start]
  derived := by simp [sets, start]
  reached := by simp [sets, start]
  nodup := List.nodup_nil
  vacant := by simp
  filled := by simp
  kept _ _ := rfl
  quiet := by simp [start]
  clean := by simp [start]

lemma quiet_afterTry {a : Allocator} (h : ∀ x ∈ a.effects, x.2 = x.1) (fs : FileSystem) :
    ∀ x ∈ (a.afterTry fs fs).effects, x.2 = x.1 := by
  intro x hx
  rcases List.mem_append.mp hx with hx | hx
  · exact h x hx
  · rw [List.mem_singleton.mp hx]

lemma Exclusive.pass (h : Exclusive store fs s places) (nanos : Nat) :
    Exclusive store fs { s with files := s.files.tick nanos } places :=
  { h with reached := h.reached.imp fun _ _ hr => hr.grow (fun _ _ hl => hl) rfl }

lemma Exclusive.ne_of_reserved (h : Exclusive store fs s places)
    (hres : store.attempt base s.files = .reserved fs') : ∀ set ∈ s.sets, set.base ≠ base := by
  -- the source of a set is still reached, so the attempt would have found it
  rintro set hset rfl
  obtain ⟨j, hj, hget⟩ := List.getElem_of_mem hset
  have hreach := h.reached.get hj (h.reached.length_eq ▸ hj)
  simp only [List.get_eq_getElem, hget] at hreach
  have hsource : set.source = store.derive set.base .source :=
    congrArg ArtifactSet.source (h.derived set hset)
  rw [hsource] at hreach
  rw [attempt_of_found hreach] at hres
  cases hres

variable [DecidableEq ι]

lemma effects_update {a : Allocator} (h : ∀ i, ∀ x ∈ (s.allocators i).effects, x.2 = x.1)
    (ha : ∀ x ∈ a.effects, x.2 = x.1) (i j : ι) :
    ∀ x ∈ (Function.update s.allocators i a j).effects, x.2 = x.1 := by
  by_cases hj : j = i
  · simpa [hj] using ha
  · simpa [hj] using h j

lemma sets_finish_error (s : Contest ι) (i : ι) (a : Allocator) (e : ArtifactError) :
    (s.finish i a (.error e)).sets = s.sets := by
  simp [sets, finish, resume, Except.toOption]

lemma sets_finish_ok (s : Contest ι) (i : ι) (a : Allocator) (set : ArtifactSet) :
    (s.finish i a (.ok set)).sets = s.sets ++ [set] := by
  simp [sets, finish, resume, Except.toOption]

lemma Exclusive.resume (h : Exclusive store fs s places) {a : Allocator}
    (ha : ∀ x ∈ a.effects, x.2 = x.1) : Exclusive store fs (s.resume i a) places :=
  { h with quiet := effects_update h.quiet ha i }

lemma Exclusive.finish_error (h : Exclusive store fs s places) {a : Allocator}
    (ha : ∀ x ∈ a.effects, x.2 = x.1) (e : ArtifactError) :
    Exclusive store fs (s.finish i a (.error e)) places where
  distinct := by simpa only [sets_finish_error] using h.distinct
  derived := by simpa only [sets_finish_error] using h.derived
  reached := by
    rw [sets_finish_error]
    exact h.reached
  nodup := h.nodup
  vacant := h.vacant
  filled := h.filled
  kept := h.kept
  quiet := effects_update h.quiet (by simp) i
  clean := by
    intro c hc
    rcases List.mem_append.mp hc with hc | hc
    · exact h.clean c hc
    · rw [List.mem_singleton.mp hc]
      exact ha

lemma Exclusive.finish_ok (h : Exclusive store fs s places)
    (hres : store.attempt base s.files = .reserved fs') :
    ∃ l, Exclusive store fs
      (Contest.finish { s with files := fs' } i ((s.allocators i).afterTry s.files fs')
        (.ok (store.setOf base)))
      (places ++ [l]) := by
  obtain ⟨l, mode, time, hnone, rfl, hreach⟩ := exists_of_createNew (createNew_of_reserved hres)
  have hget := fun k => get?_put s.files k (.file [] mode time) (ne_nil_of_get?_eq_none hnone)
  have hgrows := Grows.put hnone (.file [] mode time)
  have hl : l ∉ places := by
    intro hl
    obtain ⟨_, _, hfile⟩ := h.filled l hl
    simp [hnone] at hfile
  refine ⟨l, ?_⟩
  constructor
  case distinct =>
    rw [sets_finish_ok, List.pairwise_append]
    refine ⟨h.distinct, List.pairwise_singleton _ _, fun a ha b hb => ?_⟩
    rw [List.mem_singleton.mp hb]
    exact h.ne_of_reserved hres a ha
  case derived =>
    intro set hset
    rw [sets_finish_ok] at hset
    rcases List.mem_append.mp hset with hset | hset
    · exact h.derived set hset
    · rw [List.mem_singleton.mp hset]
      rfl
  case reached =>
    rw [sets_finish_ok]
    exact List.rel_append (h.reached.imp fun _ _ hr => hr.grow hgrows rfl)
      (.cons hreach .nil)
  case nodup =>
    refine List.nodup_append.mpr ⟨h.nodup, List.pairwise_singleton _ l, ?_⟩
    rintro a ha b hb rfl
    exact hl (List.mem_singleton.mp hb ▸ ha)
  case vacant =>
    intro k hk
    rcases List.mem_append.mp hk with hk | hk
    · exact h.vacant k hk
    · rw [List.mem_singleton.mp hk, ← h.kept l hl, hnone]
  case filled =>
    intro k hk
    rcases List.mem_append.mp hk with hk | hk
    · obtain ⟨mode, time, hfile⟩ := h.filled k hk
      exact ⟨mode, time, hgrows k _ hfile⟩
    · rw [List.mem_singleton.mp hk]
      exact ⟨mode, time, (hget l).trans (if_pos rfl)⟩
  case kept =>
    intro k hk
    simp only [List.mem_append, List.mem_singleton, not_or] at hk
    exact ((hget k).trans (if_neg hk.2)).trans (h.kept k hk.1)
  case quiet => exact effects_update h.quiet (by simp) i
  case clean =>
    intro c hc
    rcases List.mem_append.mp hc with hc | hc
    · exact h.clean c hc
    · rw [List.mem_singleton.mp hc]
      exact ⟨_, _, _, rfl, h.quiet i, l, mode, time, hnone, locate_eq_ok_iff.mpr hreach, hget⟩

lemma step_exhausted (h : maxAttempts ≤ (s.allocators i).tried) :
    s.step store draw i = s.finish i (s.allocators i) (.error store.exhausted) := by
  simp only [step, if_pos h]

lemma step_reserved (h : ¬ maxAttempts ≤ (s.allocators i).tried)
    (hres : store.attempt (draw i (s.allocators i).drawn) s.files = .reserved fs') :
    s.step store draw i = Contest.finish { s with files := fs' } i
      ((s.allocators i).afterTry s.files fs') (.ok (store.setOf (draw i (s.allocators i).drawn))) := by
  simp only [step, if_neg h, hres, Attempt.files]

lemma step_taken (h : ¬ maxAttempts ≤ (s.allocators i).tried)
    (hres : store.attempt (draw i (s.allocators i).drawn) s.files = .taken) :
    s.step store draw i = s.resume i ((s.allocators i).afterTry s.files s.files) := by
  simp only [step, if_neg h, hres, Attempt.files]

lemma step_refused {e : ArtifactError} (h : ¬ maxAttempts ≤ (s.allocators i).tried)
    (hres : store.attempt (draw i (s.allocators i).drawn) s.files = .refused e) :
    s.step store draw i =
      s.finish i ((s.allocators i).afterTry s.files s.files) (.error e) := by
  simp only [step, if_neg h, hres, Attempt.files]

lemma Exclusive.step (h : Exclusive store fs s places) (draw : ι → Nat → BaseId) (i : ι) :
    ∃ places', Exclusive store fs (s.step store draw i) places' := by
  have hquiet := quiet_afterTry (h.quiet i) s.files
  by_cases hlast : maxAttempts ≤ (s.allocators i).tried
  · rw [step_exhausted hlast]
    exact ⟨places, h.finish_error (h.quiet i) _⟩
  · cases hres : store.attempt (draw i (s.allocators i).drawn) s.files with
    | reserved fs' =>
      rw [step_reserved hlast hres]
      obtain ⟨l, hl⟩ := h.finish_ok (i := i) hres
      exact ⟨_, hl⟩
    | taken =>
      rw [step_taken hlast hres]
      exact ⟨places, h.resume hquiet⟩
    | refused e =>
      rw [step_refused hlast hres]
      exact ⟨places, h.finish_error hquiet e⟩

lemma Exclusive.run (h : Exclusive store fs s places) (draw : ι → Nat → BaseId)
    (moves : List (Move ι)) : ∃ places', Exclusive store fs (s.run store draw moves) places' := by
  induction moves generalizing s places with
  | nil => exact ⟨places, h⟩
  | cons m rest ih =>
    cases m with
    | step i =>
      obtain ⟨places', h'⟩ := h.step draw i
      exact ih h'
    | pass nanos => exact ih (h.pass nanos)

/-! An allocator alone -/

lemma allocateFrom_succ (store : Store) (draw : Nat → BaseId) (fs : FileSystem) (left k : Nat) :
    store.allocateFrom draw fs (left + 1) k =
      match store.attempt (draw k) fs with
      | .reserved fs' => ⟨.ok (store.setOf (draw k)), fs', []⟩
      | .refused e => ⟨.error e, fs, []⟩
      | .taken =>
        { store.allocateFrom draw fs left (k + 1) with
          passed := draw k :: (store.allocateFrom draw fs left (k + 1)).passed } := (rfl)

lemma run_replicate_succ (s : Contest ι) (n : Nat) :
    s.run store draw (List.replicate (n + 1) (.step i)) =
      (s.step store draw i).run store draw (List.replicate n (.step i)) := rfl

lemma run_eq_allocateFrom (store : Store) (draw : ι → Nat → BaseId) {left : Nat}
    (h : (s.allocators i).tried + left = maxAttempts) :
    ∃ n effects, let a := store.allocateFrom (draw i) s.files left (s.allocators i).drawn
      (s.run store draw (List.replicate n (.step i))).ended = s.ended ++ [⟨effects, a.result⟩] ∧
        (s.run store draw (List.replicate n (.step i))).files = a.files := by
  induction left generalizing s with
  | zero =>
    have hlast : maxAttempts ≤ (s.allocators i).tried := by omega
    refine ⟨1, (s.allocators i).effects, ?_⟩
    rw [run_replicate_succ, step_exhausted hlast]
    exact ⟨rfl, rfl⟩
  | succ left ih =>
    have hmore : ¬ maxAttempts ≤ (s.allocators i).tried := by omega
    cases hres : store.attempt (draw i (s.allocators i).drawn) s.files with
    | reserved fs =>
      refine ⟨1, ((s.allocators i).afterTry s.files fs).effects, ?_⟩
      rw [run_replicate_succ, step_reserved hmore hres]
      rw [allocateFrom_succ, hres]
      exact ⟨rfl, rfl⟩
    | refused e =>
      refine ⟨1, ((s.allocators i).afterTry s.files s.files).effects, ?_⟩
      rw [run_replicate_succ, step_refused hmore hres]
      rw [allocateFrom_succ, hres]
      exact ⟨rfl, rfl⟩
    | taken =>
      have hnext : ((s.resume i ((s.allocators i).afterTry s.files s.files)).allocators i) =
          (s.allocators i).afterTry s.files s.files := Function.update_self ..
      have hleft : ((s.allocators i).afterTry s.files s.files).tried + left = maxAttempts := by
        simp only [Allocator.afterTry]
        omega
      obtain ⟨n, effects, hended, hfiles⟩ := ih (hnext ▸ hleft)
      refine ⟨n + 1, effects, ?_⟩
      rw [run_replicate_succ, step_taken hmore hres]
      rw [hnext] at hended hfiles
      rw [allocateFrom_succ, hres]
      exact ⟨hended, hfiles⟩

theorem run_alone (store : Store) (draw : ι → Nat → BaseId) (fs : FileSystem) (i : ι) :
    ∃ n, let s := (start fs).run store draw (List.replicate n (.step i))
      s.ended.map Call.result = [(store.allocate (draw i) fs).result] ∧
        s.files = (store.allocate (draw i) fs).files := by
  have hfresh : ((start fs).allocators i).tried + maxAttempts = maxAttempts := Nat.zero_add _
  obtain ⟨n, effects, hended, hfiles⟩ := run_eq_allocateFrom store draw hfresh
  exact ⟨n, by rw [hended]; rfl, hfiles⟩

end Contest

/-- However the steps of any number of allocators fall, no two calls that succeed return one
identifier or share a path, each adds the one empty file that is its source, calls that fail change
nothing, and all that stood in the tree still stands there. -/
theorem allocations_exclusive (store : Store) (draw : ι → Nat → BaseId) (fs : FileSystem)
    [DecidableEq ι] (moves : List (Move ι)) :
    let s := (Contest.start fs).run store draw moves
    (s.sets.Pairwise fun a b => a.base ≠ b.base ∧ ∀ role role', a.path role ≠ b.path role') ∧
      (∀ c ∈ s.ended, c.IsClean) ∧
      (∀ l node, fs.get? l = some node → s.files.get? l = some node) ∧
      ∃ places, places.Nodup ∧
        List.Forall₂ (fun set l => s.files.locate true set.source = .ok l) s.sets places ∧
        (∀ l ∈ places, fs.get? l = none ∧ ∃ mode time, s.files.get? l = some (.file [] mode time)) ∧
        ∀ l, l ∉ places → s.files.get? l = fs.get? l := by
  intro s
  obtain ⟨places, h⟩ := (Contest.exclusive_start store fs).run draw moves
  refine ⟨?_, h.clean, fun l node hl => ?_, places, h.nodup, ?_, fun l hl => ?_, h.kept⟩
  · refine h.distinct.imp_of_mem fun {a b} ha hb hab => ⟨hab, fun role role' hpath => hab ?_⟩
    rw [h.derived a ha, h.derived b hb, path_setOf, path_setOf] at hpath
    exact (store.derive_inj hpath).1
  · have hl' : l ∉ places := fun hmem => by simp [h.vacant l hmem] at hl
    rw [h.kept l hl', hl]
  · exact h.reached.imp fun _ _ hr => locate_eq_ok_iff.mpr hr
  · exact ⟨h.vacant l hl, h.filled l hl⟩

end TreePipeline.Store
