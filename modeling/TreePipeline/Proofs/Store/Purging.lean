import TreePipeline.Proofs.Store.Resolution
import TreePipeline.Proofs.Store.Sweeping

/-! A purge that has the directory to itself. It removes the artifacts that are due and counts them,
in whatever order they are listed, and if an operation on the system fails on the way, it has removed
nothing else. -/

namespace TreePipeline.Store

open FileSystem

variable {store : Store} {order : PurgeOrder} {fs : FileSystem} {dir : Location}
  {names mine : List Octets} {s s' : Sweep} {nanos : Nat} {maxAge : Duration}

def Sweep.fault (e : SystemError) : Sweep → Sweep
  | .listing | .looking .. => .failed e
  | .removing dir _ names removed =>
    if e.isNotFound then .looking dir names removed else .failed e
  | .finished removed => .finished removed
  | .failed e' => .failed e'

/-- The steps of a sweep, in some of which the operation on the system fails. -/
def sweepWith (store : Store) (order : PurgeOrder) :
    List (Option SystemError) → Sweep → FileSystem → Sweep × FileSystem
  | [], s, fs => (s, fs)
  | none :: faults, s, fs =>
    let (s, fs) := store.sweepStep order fs s
    sweepWith store order faults s fs
  | some e :: faults, s, fs => sweepWith store order faults (s.fault e) fs

lemma sweepWith_none (store : Store) (order : PurgeOrder) (n : Nat) (s : Sweep) (fs : FileSystem) :
    store.sweepWith order (List.replicate n none) s fs = store.runSweep order n s fs := by
  induction n generalizing s fs with
  | zero => rfl
  | succ n ih => exact ih ..

lemma Sweep.IsSound.fault (hs : s.IsSound store order fs dir mine) (e : SystemError) :
    (s.fault e).IsSound store order fs dir mine := by
  cases s with
  | listing | looking => exact hs.of_sublist (List.nil_sublist _) trivial
  | removing d n names removed =>
    rw [Sweep.fault]
    split
    · exact hs.of_sublist (List.sublist_cons_self n names) ⟨hs.stands.1, hs.stands.2.1⟩
    · exact hs.of_sublist (List.nil_sublist _) trivial
  | finished | failed => exact hs

lemma Sweep.IsSound.exists_isDue (hs : s.IsSound store order fs dir mine) :
    ∀ n ∈ mine, ∃ order, store.IsDue order fs dir n := fun n hn => ⟨order, (hs.due n hn).2⟩

lemma sweepStep_alone (nanos : Nat) (hdir : fs.IsDirectoryAt store.root dir)
    (hnames : (fs.childNames dir).Nodup) (hs : s.IsSound store order fs dir mine) :
    ∃ taken s', store.sweepStep order (remains fs dir mine nanos) s =
        (s', remains fs dir (mine ++ taken) nanos) ∧
      Takes store order fs dir mine s taken s' ∧ s'.IsSound store order fs dir (mine ++ taken) := by
  obtain ⟨taken, s', hstep, htakes⟩ := sweepStep_takes nanos hdir hs.exists_isDue hs
  exact ⟨taken, s', hstep, htakes, htakes.isSound hs hnames⟩

lemma sweepWith_isSound (nanos : Nat) (hdir : fs.IsDirectoryAt store.root dir)
    (hnames : (fs.childNames dir).Nodup) (faults : List (Option SystemError))
    (hs : s.IsSound store order fs dir mine) :
    ∃ mine' s', store.sweepWith order faults s (remains fs dir mine nanos) =
      (s', remains fs dir mine' nanos) ∧ s'.IsSound store order fs dir mine' := by
  induction faults generalizing s mine with
  | nil => exact ⟨mine, s, rfl, hs⟩
  | cons fault faults ih =>
    cases fault with
    | none =>
      obtain ⟨taken, s', hstep, -, hs'⟩ := sweepStep_alone nanos hdir hnames hs
      simp only [sweepWith, hstep]
      exact ih hs'
    | some e => exact ih (hs.fault e)

lemma runSweep_isComplete (nanos : Nat) (hdir : fs.IsDirectoryAt store.root dir)
    (hnames : (fs.childNames dir).Nodup) (hshort : store.HasShortPaths order fs dir)
    (hs : s.IsSound store order fs dir mine) (hc : s.IsComplete store order fs dir mine mine)
    (n : Nat) (hn : s.stepsLeft fs ≤ n) :
    ∃ mine' s', store.runSweep order n s (remains fs dir mine nanos) =
        (s', remains fs dir mine' nanos) ∧ s'.IsOver ∧
      s'.IsSound store order fs dir mine' ∧ s'.IsComplete store order fs dir mine' mine' := by
  induction n generalizing s mine with
  | zero => exact ⟨mine, s, rfl, isOver_of_stepsLeft (Nat.le_zero.mp hn), hs, hc⟩
  | succ n ih =>
    obtain ⟨taken, s', hstep, htakes, hs'⟩ := sweepStep_alone nanos hdir hnames hs
    simp only [runSweep, hstep]
    have hleft := htakes.stepsLeft_le
    exact ih hs' (htakes.isComplete hs hc hshort) (by omega)

lemma Sweep.IsSound.finished (hs : s.IsSound store order fs dir mine)
    (hc : s.IsComplete store order fs dir mine mine) (hover : s.IsOver) :
    s = .finished mine.length ∧
      ∀ n, n ∈ mine ↔ n ∈ fs.childNames dir ∧ store.IsDue order fs dir n := by
  cases s with
  | finished removed =>
    obtain rfl := hs.stands
    refine ⟨rfl, fun n => ⟨hs.due n, fun ⟨hn, hdue⟩ => ?_⟩⟩
    exact (hc n hn hdue).resolve_right (List.not_mem_nil)
  | failed e =>
    obtain ⟨-, n, -, hgone, hmine⟩ := hc
    exact absurd hgone hmine
  | listing | looking | removing => cases hover

lemma isSound_listing : Sweep.IsSound store order fs dir [] .listing where
  due := by simp
  nodup_mine := List.nodup_nil
  left := by simp [Sweep.left]
  nodup_left := List.nodup_nil
  stands := rfl

lemma isSound_looking (hnodup : (fs.childNames dir).Nodup) (hperm : names.Perm (fs.childNames dir)) :
    Sweep.IsSound store order fs dir [] (.looking dir names 0) where
  due := by simp
  nodup_mine := List.nodup_nil
  left n hn := ⟨hperm.mem_iff.mp hn, by simp⟩
  nodup_left := hperm.nodup_iff.mpr hnodup
  stands := ⟨rfl, rfl⟩

lemma remains_zero (fs : FileSystem) (dir : Location) (gone : List Octets) :
    remains fs dir gone 0 = fs.without (entries dir gone) := by
  simp [remains, tick]

lemma runSweep_alone (hdir : fs.IsDirectoryAt store.root dir) (hnames : (fs.childNames dir).Nodup)
    (hshort : store.HasShortPaths order fs dir) (hs : s.IsSound store order fs dir [])
    (hc : s.IsComplete store order fs dir [] []) {due : List Octets} (hdue : due.Nodup)
    (hmem : ∀ n, n ∈ due ↔ n ∈ fs.childNames dir ∧ store.IsDue order fs dir n) :
    store.runSweep order (s.stepsLeft fs) s fs =
      (.finished due.length, fs.without (entries dir due)) := by
  obtain ⟨mine, s', hrun, hover, hs', hc'⟩ :=
    runSweep_isComplete 0 hdir hnames hshort hs hc _ (Nat.le_refl _)
  obtain ⟨rfl, hmine⟩ := hs'.finished hc' hover
  have hperm : mine.Perm due := (List.perm_ext_iff_of_nodup hs'.nodup_mine hdue).mpr fun n =>
    (hmine n).trans (hmem n).symm
  have hentries : (entries dir mine).Perm (entries dir due) := hperm.map _
  rw [remains_zero, remains_zero, hperm.length_eq,
    without_congr fun l => hentries.mem_iff] at hrun
  simpa [entries] using hrun

lemma runSweep_of_isOver (hs : s.IsOver) (n : Nat) : store.runSweep order n s fs = (s, fs) := by
  induction n with
  | zero => rfl
  | succ n ih =>
    cases s with
    | finished | failed => exact ih
    | listing | looking | removing => cases hs

lemma purge_of_error {e : SystemError} (h : fs.listDirectory store.root = .error e) :
    store.purge maxAge fs = (.error (.system e), fs) := by
  have hover : (Sweep.failed e).IsOver := trivial
  unfold purge
  simp only [Sweep.stepsLeft, runSweep, sweepStep, h, runSweep_of_isOver hover, Sweep.result?,
    Option.getD_some]

/-- What a purge does. If the directory cannot be listed, it does nothing. Whichever operations fail on
the way, all that it removes is due: listed, itself a regular file, named as an artifact and older than
allowed. If none fails, it removes all that is due and returns how much that was, whatever the order in
which the names are listed, and everything else stays. -/
theorem purge_removes_due (store : Store) (maxAge : Duration) (fs : FileSystem) :
    (∀ e, fs.listDirectory store.root = .error e →
      store.purge maxAge fs = (.error (.system e), fs)) ∧
    ∀ dir names, fs.listDirectory store.root = .ok (dir, names) → names.Nodup →
      let order : PurgeOrder := ⟨fs.clock, maxAge⟩
      (∀ faults, ∃ removed s, removed.Nodup ∧
        (∀ n ∈ removed, n ∈ names ∧ store.IsDue order fs dir n) ∧
        store.sweepWith order faults .listing fs = (s, fs.without (entries dir removed))) ∧
      ((∀ n ∈ names, store.IsDue order fs dir n → (Path.join store.root n).length < pathLimit) →
        ∃ due fs', due.Nodup ∧ (∀ n, n ∈ due ↔ n ∈ names ∧ store.IsDue order fs dir n) ∧
          store.purge maxAge fs = (.ok due.length, fs') ∧ fs' = fs.without (entries dir due) ∧
          (∀ l, fs'.get? l = if ∃ n ∈ due, l = dir ++ [n] then none else fs.get? l) ∧
          ∀ names', names'.Perm names →
            store.runSweep order (2 * names'.length + 1) (.looking dir names' 0) fs =
              (.finished due.length, fs')) := by
  refine ⟨fun e => purge_of_error, fun dir names hlist hnodup => ?_⟩
  obtain ⟨hdir, rfl⟩ := listDirectory_eq_ok_iff.mp hlist
  refine ⟨fun faults => ?_, fun hshort => ?_⟩
  · have hstart : Sweep.IsSound store ⟨fs.clock, maxAge⟩ fs dir [] .listing := isSound_listing
    obtain ⟨removed, s, hrun, hs⟩ := sweepWith_isSound 0 hdir hnodup faults hstart
    rw [remains_zero, remains_zero] at hrun
    exact ⟨removed, s, hs.nodup_mine, hs.due, by simpa [entries] using hrun⟩
  let due := (fs.childNames dir).filter fun n => store.IsDue ⟨fs.clock, maxAge⟩ fs dir n
  have hdue : due.Nodup := hnodup.filter _
  have hmem : ∀ n, n ∈ due ↔
      n ∈ fs.childNames dir ∧ store.IsDue ⟨fs.clock, maxAge⟩ fs dir n := by simp [due]
  refine ⟨due, _, hdue, hmem, ?_, rfl, fun l => ?_, fun names' hperm => ?_⟩
  · unfold purge
    simp only [runSweep_alone hdir hnodup hshort isSound_listing trivial hdue hmem, Sweep.result?,
      Option.getD_some]
  · rw [get?_without fs nil_notMem_entries]
    simp only [entries, List.mem_map, eq_comm]
  · exact runSweep_alone hdir hnodup hshort (isSound_looking hnodup hperm)
      (fun n hn _ => Or.inr (hperm.mem_iff.mpr hn)) hdue hmem

/-- A store three seconds old: an artifact that has not changed since the beginning, one that changed a
second ago, one that is a link, and two files that are no artifacts. -/
def mixedTree : FileSystem where
  nodes := [([Octets.ofAscii "s"], .directory),
    (inStore (ArtifactName.ofRole default .source), .file [] 0o644 0),
    (inStore (ArtifactName.ofRole default .mesh), .file [] 0o644 2000000000),
    (inStore (ArtifactName.ofRole default .image), .link (Octets.ofAscii "README")),
    (inStore (Octets.ofAscii "README"), .file [] 0o644 0),
    (inStore [0xff], .file [] 0o644 0)]
  clock := 3000000000
  directory := []

def mixedOrder : PurgeOrder := ⟨mixedTree.clock, .ofSecs 1⟩

def mixedDirectory : Location := [Octets.ofAscii "s"]

lemma listDirectory_mixedTree : mixedTree.listDirectory exampleStore.root =
    .ok (mixedDirectory, mixedTree.childNames mixedDirectory) := by decide +kernel

lemma isDue_mixedTree {n : Octets} : n ∈ mixedTree.childNames mixedDirectory ∧
    exampleStore.IsDue mixedOrder mixedTree mixedDirectory n ↔
      n = ArtifactName.ofRole default .source := by
  have hfilter : ((mixedTree.childNames mixedDirectory).filter fun n =>
      exampleStore.IsDue mixedOrder mixedTree mixedDirectory n) =
      [ArtifactName.ofRole default .source] := by decide +kernel
  rw [← List.mem_singleton, ← hfilter, List.mem_filter, decide_eq_true_eq]

theorem purge_removes_due_mixed : ∃ fs',
    exampleStore.purge (.ofSecs 1) mixedTree = (.ok 1, fs') ∧
      ∀ l, fs'.get? l = if l = inStore (ArtifactName.ofRole default .source) then none
        else mixedTree.get? l := by
  obtain ⟨-, hpurge⟩ := (purge_removes_due exampleStore (.ofSecs 1) mixedTree).2 _ _
    listDirectory_mixedTree (by decide +kernel)
  obtain ⟨due, fs', hnodup, hmem, hrun, -, hget, -⟩ := hpurge (by decide +kernel)
  have hdue : due.Perm [ArtifactName.ofRole default .source] :=
    (List.perm_ext_iff_of_nodup hnodup (by simp)).mpr fun n =>
      (hmem n).trans (isDue_mixedTree.trans List.mem_singleton.symm)
  obtain rfl := List.perm_singleton.mp hdue
  refine ⟨fs', hrun, fun l => ?_⟩
  rw [hget]
  exact if_congr (by simp [inStore, mixedDirectory]) rfl rfl

end TreePipeline.Store
