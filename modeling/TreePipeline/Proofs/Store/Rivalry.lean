import Mathlib.Algebra.BigOperators.Fin
import TreePipeline.Proofs.Store.Contention
import TreePipeline.Proofs.Store.Purging

/-! Sweeps that share a directory, their steps taken in any order. No entry is removed twice, none that
was not due to whoever removed it, and what is removed is all counted. But a sweep that comes to look at
an entry another has just removed takes that for a failure. -/

namespace TreePipeline.Store

open FileSystem

structure Rivals (ι : Type) where
  files : FileSystem
  sweeps : ι → Sweep

namespace Rivals

variable {ι : Type} [DecidableEq ι]

def start (fs : FileSystem) : Rivals ι := ⟨fs, fun _ => .listing⟩

def step (store : Store) (orders : ι → PurgeOrder) (s : Rivals ι) (i : ι) : Rivals ι :=
  let (sweep, files) := store.sweepStep (orders i) s.files (s.sweeps i)
  ⟨files, Function.update s.sweeps i sweep⟩

def move (store : Store) (orders : ι → PurgeOrder) (s : Rivals ι) : Move ι → Rivals ι
  | .step i => s.step store orders i
  | .pass nanos => { s with files := s.files.tick nanos }

def run (store : Store) (orders : ι → PurgeOrder) (s : Rivals ι) (moves : List (Move ι)) : Rivals ι :=
  moves.foldl (move store orders) s

end Rivals

/-! Who removed what -/

variable {ι : Type}

/-- What one of them has removed, of all that has been removed. -/
def removedBy [DecidableEq ι] (removals : List (ι × Octets)) (i : ι) : List Octets :=
  (removals.filter fun r => r.1 = i).map Prod.snd

section removedBy

variable [DecidableEq ι] {removals : List (ι × Octets)} {i j : ι} {n : Octets}

lemma mem_removedBy : n ∈ removedBy removals i ↔ (i, n) ∈ removals := by
  simp [removedBy]

lemma removedBy_append_self (removals : List (ι × Octets)) (i : ι) (taken : List Octets) :
    removedBy (removals ++ taken.map fun n => (i, n)) i = removedBy removals i ++ taken := by
  simp [removedBy, List.filter_map, Function.comp_def]

lemma removedBy_append_of_ne (removals : List (ι × Octets)) (taken : List Octets) (h : j ≠ i) :
    removedBy (removals ++ taken.map fun n => (i, n)) j = removedBy removals j := by
  simp [removedBy, List.filter_map, Function.comp_def, h.symm]

lemma sum_length_removedBy [Fintype ι] (removals : List (ι × Octets)) :
    ∑ i, (removedBy removals i).length = removals.length := by
  induction removals with
  | nil => simp [removedBy]
  | cons r removals ih =>
    have hcons : ∀ i, (removedBy (r :: removals) i).length =
        (if r.1 = i then 1 else 0) + (removedBy removals i).length := by
      intro i
      by_cases hr : r.1 = i
      · simp [removedBy, hr, Nat.add_comm]
      · simp [removedBy, hr]
    simp only [hcons, Finset.sum_add_distrib, ih, Finset.sum_ite_eq, Finset.mem_univ, if_true,
      List.length_cons, Nat.add_comm]

end removedBy

namespace Rivals

variable [DecidableEq ι]

structure Shares (store : Store) (orders : ι → PurgeOrder) (fs : FileSystem) (dir : Location)
    (removals : List (ι × Octets)) (s : Rivals ι) : Prop where
  files : ∃ nanos, s.files = remains fs dir (removals.map Prod.snd) nanos
  nodup : (removals.map Prod.snd).Nodup
  sound : ∀ i, (s.sweeps i).IsSound store (orders i) fs dir (removedBy removals i)
  complete : ∀ i, (s.sweeps i).IsComplete store (orders i) fs dir (removals.map Prod.snd)
    (removedBy removals i)

variable {store : Store} {orders : ι → PurgeOrder} {fs : FileSystem} {dir : Location}
  {removals : List (ι × Octets)} {s : Rivals ι} {i : ι}

lemma shares_start : Shares store orders fs dir [] (start fs : Rivals ι) where
  files := ⟨0, by simp [start, remains_zero, entries]⟩
  nodup := List.nodup_nil
  sound _ := isSound_listing
  complete _ := trivial

lemma sweeps_step_of_ne {i j : ι} (h : j ≠ i) : (s.step store orders i).sweeps j = s.sweeps j :=
  Function.update_of_ne h ..

lemma step_of_eq {sweep : Sweep} {files : FileSystem}
    (h : store.sweepStep (orders i) s.files (s.sweeps i) = (sweep, files)) :
    (s.step store orders i).files = files ∧ (s.step store orders i).sweeps i = sweep := by
  simp [Rivals.step, h]

lemma Shares.exists_isDue (h : Shares store orders fs dir removals s) :
    ∀ n ∈ removals.map Prod.snd, ∃ order, store.IsDue order fs dir n := by
  intro n hn
  obtain ⟨⟨i, n⟩, hmem, rfl⟩ := List.mem_map.mp hn
  exact ⟨orders i, ((h.sound i).due n (mem_removedBy.mpr hmem)).2⟩

lemma Shares.step (h : Shares store orders fs dir removals s) (hdir : fs.IsDirectoryAt store.root dir)
    (hnames : (fs.childNames dir).Nodup) (hshort : ∀ i, store.HasShortPaths (orders i) fs dir)
    (i : ι) :
    ∃ taken : List Octets,
      Shares store orders fs dir (removals ++ taken.map fun n => (i, n)) (s.step store orders i) ∧
      ((s.step store orders i).sweeps i).stepsLeft fs ≤ (s.sweeps i).stepsLeft fs - 1 := by
  obtain ⟨nanos, hfiles⟩ := h.files
  obtain ⟨taken, sweep, hstep, htakes⟩ :=
    sweepStep_takes nanos hdir h.exists_isDue (h.sound i)
  rw [← hfiles] at hstep
  obtain ⟨hfiles', hsweep⟩ := step_of_eq hstep
  obtain ⟨htaken, hfresh⟩ := htakes.notMem_gone
  have hgone : (removals ++ taken.map fun n => (i, n)).map Prod.snd =
      removals.map Prod.snd ++ taken := by simp [Function.comp_def]
  refine ⟨taken, ⟨⟨nanos, by rw [hfiles', hgone]⟩, ?_, fun j => ?_, fun j => ?_⟩, ?_⟩
  · rw [hgone, List.nodup_append]
    exact ⟨h.nodup, htaken, fun m hm n hn hmn => hfresh n hn (hmn ▸ hm)⟩
  · by_cases hj : j = i
    · subst hj
      rw [hsweep, removedBy_append_self]
      exact htakes.isSound (h.sound j) hnames
    · rw [sweeps_step_of_ne hj, removedBy_append_of_ne _ _ hj]
      exact h.sound j
  · rw [hgone]
    by_cases hj : j = i
    · subst hj
      rw [hsweep, removedBy_append_self]
      exact htakes.isComplete (h.sound j) (h.complete j) (hshort j)
    · rw [sweeps_step_of_ne hj, removedBy_append_of_ne _ _ hj]
      exact (h.complete j).mono fun n hn => List.mem_append_left _ hn
  · rw [hsweep]
    exact htakes.stepsLeft_le

lemma Shares.tick (h : Shares store orders fs dir removals s) (nanos : Nat) :
    Shares store orders fs dir removals { s with files := s.files.tick nanos } where
  files := by
    obtain ⟨before, hfiles⟩ := h.files
    refine ⟨before + nanos, ?_⟩
    simp [hfiles, remains, without, FileSystem.tick, Int.add_assoc]
  nodup := h.nodup
  sound := h.sound
  complete := h.complete

/-- How many of the moves are steps of one of them. -/
def ownSteps (moves : List (Move ι)) (i : ι) : Nat :=
  moves.countP fun
    | .step j => j = i
    | .pass _ => false

lemma Shares.run (h : Shares store orders fs dir removals s) (hdir : fs.IsDirectoryAt store.root dir)
    (hnames : (fs.childNames dir).Nodup) (hshort : ∀ i, store.HasShortPaths (orders i) fs dir)
    (moves : List (Move ι)) :
    ∃ removals, Shares store orders fs dir removals (s.run store orders moves) ∧
      ∀ i, ((s.run store orders moves).sweeps i).stepsLeft fs ≤
        (s.sweeps i).stepsLeft fs - ownSteps moves i := by
  induction moves generalizing s removals with
  | nil => exact ⟨removals, h, fun i => Nat.le_refl _⟩
  | cons m moves ih =>
    cases m with
    | step i =>
      obtain ⟨taken, h', hleft⟩ := h.step hdir hnames hshort i
      obtain ⟨removals', hrun, hsteps⟩ := ih h'
      refine ⟨removals', hrun, fun j => (hsteps j).trans ?_⟩
      by_cases hj : j = i
      · subst hj
        simp only [ownSteps, List.countP_cons, decide_true, if_true]
        omega
      · rw [sweeps_step_of_ne hj]
        simp [ownSteps, Ne.symm hj]
    | pass nanos => exact ih (h.tick nanos)

end Rivals

/-- What sweeps that share a directory come to, however their steps fall. Each comes to its end. What is
gone was removed by one of them alone, was due to it, and nothing else is gone. One that has finished
counted what it removed and left nothing that was due to it; so the counts add up if all have. One that
has failed missed an entry that another has removed. -/
theorem sweeps_share {ι : Type} [DecidableEq ι] [Fintype ι] (store : Store) (orders : ι → PurgeOrder)
    (fs : FileSystem) (dir : Location) (names : List Octets)
    (hlist : fs.listDirectory store.root = .ok (dir, names)) (hnames : names.Nodup)
    (hshort : ∀ i, ∀ n ∈ names, store.IsDue (orders i) fs dir n →
      (Path.join store.root n).length < pathLimit) (moves : List (Move ι)) :
    let s := (Rivals.start fs).run store orders moves
    (∀ i, 2 * fs.nodes.length + 2 ≤ Rivals.ownSteps moves i → (s.sweeps i).IsOver) ∧
    ∃ removals : List (ι × Octets), (removals.map Prod.snd).Nodup ∧
      (∀ i n, (i, n) ∈ removals → n ∈ names ∧ store.IsDue (orders i) fs dir n) ∧
      (∀ l, s.files.get? l = if ∃ r ∈ removals, l = dir ++ [r.2] then none else fs.get? l) ∧
      (∀ i removed, s.sweeps i = .finished removed → removed = (removedBy removals i).length ∧
        ∀ n ∈ names, store.IsDue (orders i) fs dir n → ∃ j, (j, n) ∈ removals) ∧
      (∀ counts : ι → Nat, (∀ i, s.sweeps i = .finished (counts i)) → ∑ i, counts i = removals.length) ∧
      ∀ i e, s.sweeps i = .failed e → e = .os .noEntry ∧
        ∃ j ≠ i, ∃ n ∈ names, (j, n) ∈ removals := by
  intro s
  obtain ⟨hdir, rfl⟩ := listDirectory_eq_ok_iff.mp hlist
  obtain ⟨removals, h, hsteps⟩ := Rivals.shares_start.run hdir hnames hshort moves
  have hfinished : ∀ i removed, s.sweeps i = .finished removed →
      removed = (removedBy removals i).length := fun i removed hi => by
    have hstands := (h.sound i).stands
    rwa [hi] at hstands
  refine ⟨fun i hi => ?_, removals, h.nodup, fun i n hn => ?_, fun l => ?_,
    fun i removed hi => ⟨hfinished i removed hi, fun n hn hdue => ?_⟩, fun counts hcounts => ?_,
    fun i e hi => ?_⟩
  · have hleft : (s.sweeps i).stepsLeft fs ≤
        2 * fs.nodes.length + 2 - Rivals.ownSteps moves i := hsteps i
    have hnone : (s.sweeps i).stepsLeft fs = 0 := by omega
    exact isOver_of_stepsLeft hnone
  · exact (h.sound i).due n (mem_removedBy.mpr hn)
  · obtain ⟨nanos, hfiles⟩ := h.files
    rw [hfiles, remains, get?_without _ nil_notMem_entries]
    refine if_congr ?_ rfl rfl
    simp [entries, eq_comm]
  · have hcomplete := h.complete i
    rw [hi] at hcomplete
    have hgone := (hcomplete n hn hdue).resolve_right (List.not_mem_nil)
    simpa using hgone
  · rw [← sum_length_removedBy]
    exact Finset.sum_congr rfl fun i _ => hfinished i _ (hcounts i)
  · have hcomplete := h.complete i
    rw [hi] at hcomplete
    obtain ⟨he, n, hn, hgone, hmine⟩ := hcomplete
    obtain ⟨⟨j, n⟩, hmem, rfl⟩ := List.mem_map.mp hgone
    refine ⟨he, j, ?_, n, hn, hmem⟩
    rintro rfl
    exact hmine (mem_removedBy.mpr hmem)

/-- Two sweeps of the example store. -/
def examplePair (moves : List (Move Bool)) : Rivals Bool :=
  (Rivals.start mixedTree).run exampleStore (fun _ => mixedOrder) moves

def inTurn : List (Move Bool) :=
  List.replicate 14 (.step false) ++ .pass 1 :: List.replicate 14 (.step true)

theorem sweeps_share_inTurn :
    (examplePair inTurn).sweeps false = .finished 1 ∧
      (examplePair inTurn).sweeps true = .finished 0 ∧
      ∀ l, (examplePair inTurn).files.get? l =
        if l = inStore (ArtifactName.ofRole default .source) then none else mixedTree.get? l := by
  have hfirst : (examplePair inTurn).sweeps false = .finished 1 := by decide +kernel
  have hsecond : (examplePair inTurn).sweeps true = .finished 0 := by decide +kernel
  have hshare := (sweeps_share exampleStore (fun _ : Bool => mixedOrder) mixedTree _ _
    listDirectory_mixedTree (by decide +kernel) (fun _ => by decide +kernel) inTurn).2
  rw [← examplePair] at hshare
  obtain ⟨removals, -, hdue, hget, hfinished, -⟩ := hshare
  refine ⟨hfirst, hsecond, fun l => ?_⟩
  rw [hget]
  refine if_congr ⟨?_, ?_⟩ rfl rfl
  · rintro ⟨⟨i, n⟩, hmem, rfl⟩
    obtain rfl := isDue_mixedTree.mp (hdue i n hmem)
    rfl
  · rintro rfl
    obtain ⟨hn, hsource⟩ := isDue_mixedTree.mpr rfl
    obtain ⟨j, hj⟩ := (hfinished false 1 hfirst).2 _ hn hsource
    exact ⟨_, hj, rfl⟩

/-- Both list the artifact that is due, then the first removes it before the second looks at it. -/
def overtaking : List (Move Bool) :=
  .step false :: .step true :: .step false :: .step false :: .step true ::
    List.replicate 10 (.step false)

/-- Each of two sweeps ends well alone, but one that is overtaken by the other fails. -/
theorem sweep_overtaken_fails :
    (exampleStore.purge (.ofSecs 1) mixedTree).1 = .ok 1 ∧
      (examplePair overtaking).sweeps false = .finished 1 ∧
      (examplePair overtaking).sweeps true = .failed (.os .noEntry) := by
  refine ⟨?_, ?_, ?_⟩ <;> decide +kernel

end TreePipeline.Store
