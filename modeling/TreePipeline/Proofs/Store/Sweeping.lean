import TreePipeline.Proofs.Artifact.Recognition
import TreePipeline.Proofs.Files.Listing
import TreePipeline.Store.Purge

/-! What a sweep does in a directory from which entries are being removed, by itself or by others. A
step looks at one name or removes one entry that is due, and nothing else of the tree changes. -/

namespace TreePipeline.Store

open FileSystem

variable {store : Store} {order : PurgeOrder} {fs fs' : FileSystem} {dir : Location} {n : Octets}
  {names gone mine taken : List Octets} {s s' : Sweep} {nanos : Nat}

/-- The entry is itself a regular file, older than the order allows, under the last name of an
artifact's path. -/
structure IsDue (store : Store) (order : PurgeOrder) (fs : FileSystem) (dir : Location)
    (n : Octets) : Prop where
  named : ∃ base role, (Path.names (store.derive base role)).getLast? = some n
  old : ∃ content mode modified, fs.get? (dir ++ [n]) = some (.file content mode modified) ∧
    order.maxAge.total < order.age modified

lemma getLast?_names_derive (store : Store) (base : BaseId) (role : Role) :
    (Path.names (store.derive base role)).getLast? = some (ArtifactName.ofRole base role) :=
  (Path.endsIn_join store.root (ArtifactName.isEntryName_ofRole base role)).last

lemma exists_derive_iff : (∃ base role, (Path.names (store.derive base role)).getLast? = some n) ↔
    (ArtifactName.parse? n).isSome = true := by
  rw [ArtifactName.isSome_parse?_iff]
  simp only [getLast?_names_derive, Option.some.injEq, @eq_comm _ n]

lemma dooms_iff {node : Node} : order.dooms node = true ↔
    ∃ content mode modified, node = .file content mode modified ∧
      order.maxAge.total < order.age modified := by
  cases node <;> simp [PurgeOrder.dooms]

lemma isDue_iff : store.IsDue order fs dir n ↔ (ArtifactName.parse? n).isSome = true ∧
    ∃ node, fs.get? (dir ++ [n]) = some node ∧ order.dooms node = true := by
  simp only [dooms_iff]
  constructor
  · rintro ⟨hnamed, content, mode, modified, hget, hold⟩
    exact ⟨exists_derive_iff.mp hnamed, _, hget, content, mode, modified, rfl, hold⟩
  · rintro ⟨hnamed, _, hget, content, mode, modified, rfl, hold⟩
    exact ⟨exists_derive_iff.mpr hnamed, content, mode, modified, hget, hold⟩

instance (store : Store) (order : PurgeOrder) (fs : FileSystem) (dir : Location) (n : Octets) :
    Decidable (store.IsDue order fs dir n) :=
  decidable_of_iff ((ArtifactName.parse? n).isSome ∧ (fs.get? (dir ++ [n])).any order.dooms) <| by
    simp only [isDue_iff, Option.any_eq_true]

lemma IsDue.isEntryName (h : store.IsDue order fs dir n) : Path.IsEntryName n := by
  obtain ⟨base, role, rfl⟩ := ArtifactName.isSome_parse?_iff.mp (isDue_iff.mp h).1
  exact ArtifactName.isEntryName_ofRole base role

lemma IsDue.length_le (h : store.IsDue order fs dir n) : n.length ≤ nameLimit := by
  obtain ⟨base, role, rfl⟩ := ArtifactName.isSome_parse?_iff.mp (isDue_iff.mp h).1
  exact Nat.le_trans (ArtifactName.length_ofRole_le base role) (by decide)

/-! The tree without some of the directory's entries -/

def entries (dir : Location) (names : List Octets) : List Location := names.map fun n => dir ++ [n]

@[simp] lemma mem_entries : dir ++ [n] ∈ entries dir names ↔ n ∈ names := by
  simp [entries]

lemma nil_notMem_entries : [] ∉ entries dir names := by
  simp [entries]

def remains (fs : FileSystem) (dir : Location) (gone : List Octets) (nanos : Nat) : FileSystem :=
  (fs.tick nanos).without (entries dir gone)

lemma get?_remains (fs : FileSystem) (dir : Location) (gone : List Octets) (nanos : Nat)
    (n : Octets) :
    (remains fs dir gone nanos).get? (dir ++ [n]) =
      if n ∈ gone then none else fs.get? (dir ++ [n]) := by
  rw [remains, get?_without _ nil_notMem_entries]
  simp only [mem_entries]
  rfl

lemma childNames_remains (fs : FileSystem) (dir : Location) (gone : List Octets) (nanos : Nat) :
    (remains fs dir gone nanos).childNames dir = (fs.childNames dir).filter (· ∉ gone) := by
  rw [remains, childNames_without]
  simp only [mem_entries]
  rfl

lemma erase_remains (fs : FileSystem) (dir : Location) (gone : List Octets) (nanos : Nat)
    (n : Octets) :
    (remains fs dir gone nanos).erase (dir ++ [n]) = remains fs dir (gone ++ [n]) nanos := by
  rw [remains, erase_without, remains]
  simp [entries]

lemma isDirectoryAt_remains (hdir : fs.IsDirectoryAt store.root dir)
    (hgone : ∀ n ∈ gone, ∃ order, store.IsDue order fs dir n) (nanos : Nat) :
    (remains fs dir gone nanos).IsDirectoryAt store.root dir := by
  refine hdir.reframe (Eq.symm (frame_without nil_notMem_entries ?_))
  intro l hl node hnode
  obtain ⟨n, hn, rfl⟩ := List.mem_map.mp hl
  obtain ⟨order, -, content, mode, modified, hget, -⟩ := hgone n hn
  obtain rfl := Option.some.inj (hnode.symm.trans hget)
  rfl

/-! One step -/

def Sweep.left : Sweep → List Octets
  | .looking _ names _ => names
  | .removing _ n names _ => n :: names
  | .listing | .finished _ | .failed _ => []

inductive Takes (store : Store) (order : PurgeOrder) (fs : FileSystem) (dir : Location)
    (gone : List Octets) : Sweep → List Octets → Sweep → Prop
  | list : Takes store order fs dir gone .listing []
      (.looking dir ((fs.childNames dir).filter (· ∉ gone)) 0)
  | finish {removed} : Takes store order fs dir gone (.looking dir [] removed) [] (.finished removed)
  | pass {n names removed} (h : ¬ store.IsDue order fs dir n) :
      Takes store order fs dir gone (.looking dir (n :: names) removed) []
        (.looking dir names removed)
  | vanished {n names removed} (h : n ∈ gone) :
      Takes store order fs dir gone (.looking dir (n :: names) removed) [] (.failed (.os .noEntry))
  | choose {n names removed} (hdue : store.IsDue order fs dir n) (h : n ∉ gone) :
      Takes store order fs dir gone (.looking dir (n :: names) removed) []
        (.removing dir n names removed)
  | remove {n names removed} (h : n ∉ gone) :
      Takes store order fs dir gone (.removing dir n names removed) [n]
        (.looking dir names (removed + 1))
  | missed {n names removed} (h : n ∈ gone) :
      Takes store order fs dir gone (.removing dir n names removed) [] (.looking dir names removed)
  | refused {n names removed} (h : pathLimit ≤ (Path.join store.root n).length) :
      Takes store order fs dir gone (.removing dir n names removed) []
        (.failed (.os .nameTooLong))
  | finished {removed} : Takes store order fs dir gone (.finished removed) [] (.finished removed)
  | failed {e} : Takes store order fs dir gone (.failed e) [] (.failed e)

def Sweep.Stands (store : Store) (order : PurgeOrder) (fs : FileSystem) (dir : Location)
    (mine : List Octets) : Sweep → Prop
  | .listing => mine = []
  | .looking d _ removed => d = dir ∧ removed = mine.length
  | .removing d n _ removed => d = dir ∧ removed = mine.length ∧ store.IsDue order fs dir n
  | .finished removed => removed = mine.length
  | .failed _ => True

structure Sweep.IsSound (store : Store) (order : PurgeOrder) (fs : FileSystem) (dir : Location)
    (mine : List Octets) (s : Sweep) : Prop where
  due : ∀ n ∈ mine, n ∈ fs.childNames dir ∧ store.IsDue order fs dir n
  nodup_mine : mine.Nodup
  left : ∀ n ∈ s.left, n ∈ fs.childNames dir ∧ n ∉ mine
  nodup_left : s.left.Nodup
  stands : s.Stands store order fs dir mine

lemma Sweep.IsSound.of_sublist (hs : s.IsSound store order fs dir mine)
    (hleft : s'.left.Sublist s.left) (hstands : s'.Stands store order fs dir mine) :
    s'.IsSound store order fs dir mine where
  due := hs.due
  nodup_mine := hs.nodup_mine
  left n hn := hs.left n (hleft.subset hn)
  nodup_left := hs.nodup_left.sublist hleft
  stands := hstands

lemma sweepStep_unnamed {removed : Nat} (h : ArtifactName.parse? n = none) :
    store.sweepStep order fs (.looking dir (n :: names) removed) = (.looking dir names removed, fs) := by
  simp [sweepStep, h]

lemma sweepStep_named {removed : Nat} (h : (ArtifactName.parse? n).isSome = true) :
    store.sweepStep order fs (.looking dir (n :: names) removed) =
      match fs.get? (dir ++ [n]) with
      | none => (.failed (.os .noEntry), fs)
      | some node =>
        if order.dooms node then (.removing dir n names removed, fs)
        else (.looking dir names removed, fs) := by
  have hsome : ¬ (ArtifactName.parse? n).isNone = true := by simp [Option.isSome_iff_ne_none.mp h]
  exact if_neg hsome

lemma takes_looking {removed : Nat} (hn : n ∈ fs.childNames dir) (nanos : Nat) :
    ∃ s', store.sweepStep order (remains fs dir gone nanos) (.looking dir (n :: names) removed) =
        (s', remains fs dir gone nanos) ∧
      Takes store order fs dir gone (.looking dir (n :: names) removed) [] s' := by
  cases hnamed : ArtifactName.parse? n with
  | none =>
    refine ⟨_, sweepStep_unnamed hnamed, .pass fun h => ?_⟩
    simpa [hnamed] using (isDue_iff.mp h).1
  | some artifact =>
    rw [sweepStep_named (by simp [hnamed]), get?_remains]
    by_cases hgone : n ∈ gone
    · exact ⟨_, by rw [if_pos hgone], .vanished hgone⟩
    obtain ⟨node, hnode⟩ := exists_get?_of_mem_childNames hn
    rw [if_neg hgone, hnode]
    by_cases hdooms : order.dooms node = true
    · have hdue : store.IsDue order fs dir n :=
        isDue_iff.mpr ⟨by simp [hnamed], node, hnode, hdooms⟩
      exact ⟨_, by simp only [hdooms, if_true], .choose hdue hgone⟩
    · refine ⟨_, by simp only [hdooms]; rfl, .pass fun h => ?_⟩
      obtain ⟨-, node', hnode', hdooms'⟩ := isDue_iff.mp h
      obtain rfl := Option.some.inj (hnode.symm.trans hnode')
      exact hdooms hdooms'

lemma takes_removing {removed : Nat} (hdir : (remains fs dir gone nanos).IsDirectoryAt store.root dir)
    (hdue : store.IsDue order fs dir n) :
    ∃ taken s', store.sweepStep order (remains fs dir gone nanos) (.removing dir n names removed) =
        (s', remains fs dir (gone ++ taken) nanos) ∧
      Takes store order fs dir gone (.removing dir n names removed) taken s' := by
  by_cases hlong : pathLimit ≤ (Path.join store.root n).length
  · refine ⟨[], _, ?_, .refused hlong⟩
    rw [sweepStep, hdir.removeFile_join_long hdue.isEntryName hlong, List.append_nil]
    rfl
  have hshort := Nat.lt_of_not_le hlong
  have hget := get?_remains fs dir gone nanos n
  by_cases hgone : n ∈ gone
  · rw [if_pos hgone] at hget
    refine ⟨[], _, ?_, .missed hgone⟩
    rw [sweepStep, hdir.removeFile_join_vacant hdue.isEntryName hdue.length_le hshort hget,
      List.append_nil]
    rfl
  · obtain ⟨content, mode, modified, hfile, -⟩ := hdue.old
    rw [if_neg hgone, hfile] at hget
    refine ⟨[n], _, ?_, .remove hgone⟩
    rw [sweepStep, hdir.removeFile_join hdue.isEntryName hdue.length_le hshort hget rfl]
    exact congrArg _ (erase_remains fs dir gone nanos n)

lemma sweepStep_takes (nanos : Nat) (hdir : fs.IsDirectoryAt store.root dir)
    (hgone : ∀ n ∈ gone, ∃ order, store.IsDue order fs dir n)
    (hs : s.IsSound store order fs dir mine) :
    ∃ taken s', store.sweepStep order (remains fs dir gone nanos) s =
        (s', remains fs dir (gone ++ taken) nanos) ∧
      Takes store order fs dir gone s taken s' := by
  have hremains := isDirectoryAt_remains hdir hgone nanos
  cases s with
  | listing =>
    refine ⟨[], _, ?_, .list⟩
    rw [sweepStep, listDirectory_eq_ok_iff.mpr ⟨hremains, rfl⟩, childNames_remains,
      List.append_nil]
  | looking d names removed =>
    obtain ⟨rfl, -⟩ := hs.stands
    cases names with
    | nil => exact ⟨[], _, by rw [List.append_nil]; rfl, .finish⟩
    | cons n names =>
      obtain ⟨s', hstep, htakes⟩ := takes_looking (hs.left n List.mem_cons_self).1 nanos
      exact ⟨[], s', by rw [hstep, List.append_nil], htakes⟩
  | removing d n names removed =>
    obtain ⟨rfl, -, hdue⟩ := hs.stands
    exact takes_removing hremains hdue
  | finished removed => exact ⟨[], _, by rw [List.append_nil]; rfl, .finished⟩
  | failed e => exact ⟨[], _, by rw [List.append_nil]; rfl, .failed⟩

lemma Takes.notMem_gone (h : Takes store order fs dir gone s taken s') :
    taken.Nodup ∧ ∀ n ∈ taken, n ∉ gone := by
  cases h with
  | remove hgone => simpa using hgone
  | list | finish | pass | vanished | choose | missed | refused | finished | failed => simp

lemma Takes.isSound (h : Takes store order fs dir gone s taken s')
    (hs : s.IsSound store order fs dir mine) (hnames : (fs.childNames dir).Nodup) :
    s'.IsSound store order fs dir (mine ++ taken) := by
  cases h with
  | list =>
    obtain rfl : mine = [] := hs.stands
    exact ⟨by simp, List.nodup_nil, fun n hn => ⟨(List.mem_filter.mp hn).1, by simp⟩,
      hnames.filter _, rfl, rfl⟩
  | @remove n names removed =>
    obtain ⟨-, rfl, hdue⟩ := hs.stands
    obtain ⟨hn, hmine⟩ := hs.left n List.mem_cons_self
    obtain ⟨hnames, hnodup⟩ := List.nodup_cons.mp hs.nodup_left
    refine ⟨fun m hm => ?_, ?_, fun m hm => ?_, hnodup, rfl, by simp⟩
    · rcases List.mem_append.mp hm with hm | hm
      · exact hs.due m hm
      · obtain rfl := List.mem_singleton.mp hm
        exact ⟨hn, hdue⟩
    · rw [List.nodup_append]
      refine ⟨hs.nodup_mine, by simp, fun m hm k hk hmk => hmine ?_⟩
      rwa [hmk, List.mem_singleton.mp hk] at hm
    · obtain ⟨hlisted, hmine⟩ := hs.left m (List.mem_cons_of_mem n hm)
      have hne : m ≠ n := fun hmn => hnames (hmn ▸ hm)
      exact ⟨hlisted, by simp [hmine, hne]⟩
  | finish | refused | vanished =>
    rw [List.append_nil]
    exact hs.of_sublist (List.nil_sublist _) (by first | exact hs.stands.2 | trivial)
  | pass =>
    rw [List.append_nil]
    exact hs.of_sublist (List.sublist_cons_self _ _) hs.stands
  | missed =>
    rw [List.append_nil]
    exact hs.of_sublist (List.sublist_cons_self _ _) ⟨rfl, hs.stands.2.1⟩
  | choose hdue =>
    rw [List.append_nil]
    exact hs.of_sublist (List.Sublist.refl _) ⟨rfl, hs.stands.2, hdue⟩
  | finished | failed =>
    rw [List.append_nil]
    exact hs

def Sweep.IsComplete (store : Store) (order : PurgeOrder) (fs : FileSystem) (dir : Location)
    (gone mine : List Octets) (s : Sweep) : Prop :=
  match s with
  | .listing => True
  | .looking .. | .removing .. | .finished _ =>
    ∀ n ∈ fs.childNames dir, store.IsDue order fs dir n → n ∈ gone ∨ n ∈ s.left
  | .failed e => e = .os .noEntry ∧ ∃ n ∈ fs.childNames dir, n ∈ gone ∧ n ∉ mine

lemma Sweep.IsComplete.mono {gone' : List Octets} (h : s.IsComplete store order fs dir gone mine)
    (hgone : ∀ n ∈ gone, n ∈ gone') : s.IsComplete store order fs dir gone' mine := by
  cases s with
  | listing => trivial
  | looking | removing | finished => exact fun n hn hdue => (h n hn hdue).imp_left (hgone n)
  | failed e =>
    obtain ⟨he, n, hn, hmem, hmine⟩ := h
    exact ⟨he, n, hn, hgone n hmem, hmine⟩

def HasShortPaths (store : Store) (order : PurgeOrder) (fs : FileSystem) (dir : Location) : Prop :=
  ∀ n ∈ fs.childNames dir, store.IsDue order fs dir n →
    (Path.join store.root n).length < pathLimit

lemma Takes.isComplete (h : Takes store order fs dir gone s taken s')
    (hs : s.IsSound store order fs dir mine) (hc : s.IsComplete store order fs dir gone mine)
    (hshort : store.HasShortPaths order fs dir) :
    s'.IsComplete store order fs dir (gone ++ taken) (mine ++ taken) := by
  cases h with
  | list =>
    intro n hn _
    by_cases hgone : n ∈ gone
    · exact Or.inl (List.mem_append_left _ hgone)
    · exact Or.inr (List.mem_filter.mpr ⟨hn, by simpa using hgone⟩)
  | finish | choose | finished | failed =>
    rw [List.append_nil, List.append_nil]
    exact hc
  | pass hdue =>
    intro m hm hdue'
    rcases hc m hm hdue' with hgone | hleft
    · exact Or.inl (List.mem_append_left _ hgone)
    · exact Or.inr ((List.mem_cons.mp hleft).resolve_left fun hmn => hdue (hmn ▸ hdue'))
  | vanished hgone =>
    obtain ⟨hn, hmine⟩ := hs.left _ List.mem_cons_self
    exact ⟨rfl, _, hn, by simpa using hgone, by simpa using hmine⟩
  | remove =>
    intro m hm hdue
    rw [List.mem_append, List.mem_singleton, or_assoc]
    exact (hc m hm hdue).imp_right List.mem_cons.mp
  | missed hgone =>
    intro m hm hdue
    rw [List.append_nil]
    rcases hc m hm hdue with hmem | hleft
    · exact Or.inl hmem
    · rcases List.mem_cons.mp hleft with rfl | hleft
      · exact Or.inl hgone
      · exact Or.inr hleft
  | refused hlong =>
    obtain ⟨-, -, hdue⟩ := hs.stands
    exact absurd (hshort _ (hs.left _ List.mem_cons_self).1 hdue) (Nat.not_lt.mpr hlong)

/-! Coming to an end -/

def Sweep.IsOver : Sweep → Prop
  | .finished _ | .failed _ => True
  | .listing | .looking .. | .removing .. => False

lemma Takes.stepsLeft_le (h : Takes store order fs dir gone s taken s') :
    s'.stepsLeft fs ≤ s.stepsLeft fs - 1 := by
  cases h with
  | list =>
    have hfilter := List.length_filter_le (fun n => decide (n ∉ gone)) (fs.childNames dir)
    have hnames : (fs.childNames dir).length ≤ fs.nodes.length := List.length_filterMap_le ..
    simp only [Sweep.stepsLeft]
    omega
  | finish | pass | vanished | choose | remove | missed | refused =>
    simp only [Sweep.stepsLeft, List.length_cons, List.length_nil]
    omega
  | finished | failed => exact Nat.le_refl 0

lemma isOver_of_stepsLeft (h : s.stepsLeft fs = 0) : s.IsOver := by
  cases s <;> simp_all [Sweep.stepsLeft, Sweep.IsOver]

end TreePipeline.Store
