import TreePipeline.Proofs.Files.Plain

/-! Directories and what is listed in them. The path of an entry is the directory's path with a name
more, and entries that are removed take nothing else away. -/

namespace TreePipeline.FileSystem

variable {fs fs' : FileSystem} {path n : Octets} {l dir mid here : Location}
  {names xs ys : List Octets} {k j : Nat} {e e' : Ending} {a : Arrival} {node : Node}

/-! Paths into a directory -/

lemma Leads.descend {b : Arrival} (h : Leads fs k e here xs a) (hb : Leads fs j e' mid ys b)
    (ha : a = .found mid) (hmid : fs.get? mid = some .directory) (hkeep : e.keepLink = false)
    (hshort : e'.shortWay = e.shortWay) (hys : ys ≠ []) :
    Leads fs (k + j) e' here (xs ++ ys) b := by
  have hbounds : ∀ {e : Ending} {here n}, e'.shortWay = e.shortWay → InBounds e here n →
      InBounds e' here n := fun hs hin => ⟨hin.1, fun h => hin.2 (hs ▸ h)⟩
  induction h with
  | here =>
    obtain rfl := Arrival.found.inj ha
    rwa [Nat.zero_add]
  | dot _ ih => exact .dot (ih ha hkeep hshort)
  | dotDot _ ih => exact .dotDot (ih ha hkeep hshort)
  | directory hn hin hg _ ih => exact .directory hn (hbounds hshort hin) hg (ih ha hkeep hshort)
  | @link k e here n rest goal a hn hin hg _ _ ih =>
    have hrest : rest ++ ys ≠ [] := by simp [hys]
    have hon := ih ha hkeep hshort
    rw [List.append_assoc] at hon
    rw [Nat.add_right_comm]
    refine Leads.link hn (hbounds hshort hin) hg (Or.inl hrest) ?_
    change Leads fs (k + j) (e'.behind goal (rest ++ ys)) _ _ b
    rwa [Ending.behind_of_ne_nil hrest]
  | kept _ _ _ hk => simp [hkeep] at hk
  | leaf _ _ hg hleaf =>
    obtain rfl := Arrival.found.inj ha
    obtain rfl := Option.some.inj (hg.symm.trans hmid)
    cases hleaf
  | tooLong | vacant | broken | blocked => cases ha

lemma Leads.reframe_directory (h : Leads fs k e here names a) (ha : a = .found dir)
    (hdir : fs.get? dir = some .directory) (hframe : fs.frame = fs'.frame) :
    Leads fs' k e here names a := by
  induction h with
  | here => exact .here
  | dot _ ih => exact .dot (ih ha)
  | dotDot _ ih => exact .dotDot (ih ha)
  | directory hn hin hg _ ih => exact .directory hn hin (get?_of_frame hframe hg rfl) (ih ha)
  | kept hn hin hg hk hd => exact .kept hn hin (get?_of_frame hframe hg rfl) hk hd
  | link hn hin hg hopen _ ih => exact .link hn hin (get?_of_frame hframe hg rfl) hopen (ih ha)
  | leaf _ _ hg hleaf =>
    obtain rfl := Arrival.found.inj ha
    obtain rfl := Option.some.inj (hg.symm.trans hdir)
    cases hleaf
  | tooLong | vacant | broken | blocked => cases ha

structure IsDirectoryAt (fs : FileSystem) (path : Octets) (dir : Location) : Prop where
  reaches : fs.Reaches false path (.found dir)
  get? : fs.get? dir = some .directory

lemma IsDirectoryAt.reframe (h : fs.IsDirectoryAt path dir) (hframe : fs.frame = fs'.frame) :
    fs'.IsDirectoryAt path dir := by
  obtain ⟨⟨hlen, hnul, hne, k, hk, hleads⟩, hdir⟩ := h
  refine ⟨⟨hlen, hnul, hne, k, hk, ?_⟩, get?_of_frame hframe hdir rfl⟩
  rw [origin_eq (congrArg Frame.directory hframe).symm]
  exact hleads.reframe_directory rfl hdir hframe

lemma listDirectory_eq_ok_iff :
    fs.listDirectory path = .ok (dir, names) ↔
      fs.IsDirectoryAt path dir ∧ names = fs.childNames dir := by
  rw [listDirectory, bind_eq_ok_iff]
  constructor
  · rintro ⟨l, hlocate, h⟩
    split at h
    · obtain ⟨rfl, rfl⟩ := Prod.mk.inj (Except.ok.inj h)
      exact ⟨⟨locate_eq_ok_iff.mp hlocate, ‹_›⟩, rfl⟩
    · cases h
  · rintro ⟨⟨hreaches, hdir⟩, rfl⟩
    exact ⟨dir, locate_eq_ok_iff.mpr hreaches, if_pos hdir⟩

lemma IsDirectoryAt.place?_join (h : fs.IsDirectoryAt path dir) (hn : Path.IsEntryName n)
    (hlen : n.length ≤ nameLimit) (hshort : (Path.join path n).length < pathLimit)
    (hleaf : ∀ node, fs.get? (dir ++ [n]) = some node → node.isLeaf = true) :
    fs.place? (Path.join path n) = some (dir ++ [n]) := by
  obtain ⟨⟨-, hnul, -, k, hk, hleads⟩, hdir⟩ := h
  obtain ⟨a, ha, hplace⟩ : ∃ a, Leads fs 0 ⟨true, false, false⟩ dir [n] a ∧
      a.place? = some (dir ++ [n]) :=
    leads_last fs ⟨hn.ne_dot, hn.ne_dotDot⟩ ⟨hlen, by simp⟩ rfl hleaf
  have hwhole := hleads.descend ha rfl hdir rfl rfl (List.cons_ne_nil n [])
  refine place?_eq_some_iff.mpr ⟨a, ⟨hshort, mt (Path.nul_mem_join path hn).mp hnul,
    Path.join_ne_nil path hn, k, hk, ?_⟩, hplace⟩
  unfold origin
  rw [Path.isAbsolute_join path hn, Path.names_join path hn, Path.endsInSlash_join path hn]
  exact hwhole

/-! Removing an entry -/

lemma IsDirectoryAt.removeFile_join (h : fs.IsDirectoryAt path dir) (hn : Path.IsEntryName n)
    (hlen : n.length ≤ nameLimit) (hshort : (Path.join path n).length < pathLimit)
    (hget : fs.get? (dir ++ [n]) = some node) (hleaf : node.isLeaf = true) :
    fs.removeFile (Path.join path n) = .ok (fs.erase (dir ++ [n])) := by
  have hplace := h.place?_join hn hlen hshort (by simp [hget, hleaf])
  have hdir : fs.get? (dir ++ [n]) ≠ some .directory := by
    rw [hget]
    rintro ⟨⟩
    cases hleaf
  obtain ⟨-, ⟨hnone, -⟩ | ⟨-, hfound⟩⟩ := at_place? (Path.endsIn_join path hn) hplace
  · simp [hget] at hnone
  · exact removeFile_eq_ok_iff.mpr ⟨_, hfound, hdir, rfl⟩

lemma IsDirectoryAt.removeFile_join_vacant (h : fs.IsDirectoryAt path dir)
    (hn : Path.IsEntryName n) (hlen : n.length ≤ nameLimit)
    (hshort : (Path.join path n).length < pathLimit) (hget : fs.get? (dir ++ [n]) = none) :
    fs.removeFile (Path.join path n) = .error (.os .noEntry) := by
  have hplace := h.place?_join hn hlen hshort (by simp [hget])
  obtain ⟨-, ⟨-, dir', -, hvacant⟩ | ⟨⟨node, hnode⟩, -⟩⟩ :=
    at_place? (Path.endsIn_join path hn) hplace
  · simp [removeFile, locate, target_eq_absent_iff.mpr hvacant, bind, Except.bind]
  · simp [hget] at hnode

lemma IsDirectoryAt.removeFile_join_long (h : fs.IsDirectoryAt path dir) (hn : Path.IsEntryName n)
    (hlong : pathLimit ≤ (Path.join path n).length) :
    fs.removeFile (Path.join path n) = .error (.os .nameTooLong) := by
  have hnul : 0 ∉ Path.join path n := mt (Path.nul_mem_join path hn).mp h.reaches.2.1
  simp [removeFile, locate, target, hnul, hlong, bind, Except.bind]

/-! Listed names -/

lemma childName?_eq_some_iff : childName? dir l = some n ↔ l = dir ++ [n] := by
  unfold childName?
  constructor
  · intro h
    split at h
    · rename_i hchild
      obtain ⟨hlen, hprefix⟩ := hchild
      obtain ⟨r, rfl⟩ := List.isPrefixOf_iff_prefix.mp hprefix
      rw [List.length_append, Nat.add_left_cancel_iff, eq_comm, List.length_eq_one_iff] at hlen
      obtain ⟨m, rfl⟩ := hlen
      simpa using h
    · cases h
  · rintro rfl
    simp

lemma mem_childNames : n ∈ fs.childNames dir ↔ ∃ node, (dir ++ [n], node) ∈ fs.nodes := by
  simp only [childNames, List.mem_filterMap, Prod.exists, childName?_eq_some_iff]
  constructor
  · rintro ⟨l, node, hmem, rfl⟩
    exact ⟨node, hmem⟩
  · rintro ⟨node, hmem⟩
    exact ⟨_, node, hmem, rfl⟩

lemma exists_lookupIn_of_mem {ns : List (Location × Node)} (h : (l, node) ∈ ns) :
    ∃ node', lookupIn ns l = some node' := by
  induction ns with
  | nil => cases h
  | cons e r ih =>
    by_cases he : e.1 = l
    · exact ⟨e.2, by simp [lookupIn, he]⟩
    · have hr : (l, node) ∈ r := (List.mem_cons.mp h).resolve_left fun h => he (h ▸ rfl)
      simpa [lookupIn, he] using ih hr

lemma exists_get?_of_mem_childNames (h : n ∈ fs.childNames dir) :
    ∃ node, fs.get? (dir ++ [n]) = some node := by
  obtain ⟨node, hmem⟩ := mem_childNames.mp h
  obtain ⟨node', hlookup⟩ := exists_lookupIn_of_mem hmem
  exact ⟨node', by simp [get?, hlookup]⟩

/-! Entries taken away -/

/-- The tree but for the entries at some locations. -/
def without (fs : FileSystem) (ls : List Location) : FileSystem :=
  { fs with
    nodes := fs.nodes.filter fun e => !ls.contains e.1
    unlisted := fs.unlisted.filter fun e => !ls.contains e.1
    numbers := fs.numbers.filter fun e => !ls.contains e.1
    traits := fs.traits.filter fun e => !ls.contains e.1 }

variable {ls ls' : List Location}

@[simp] lemma without_nil (fs : FileSystem) : fs.without [] = fs := by
  have hall {α : Type} (table : List (Location × α)) :
      (table.filter fun e => !([] : List Location).contains e.1) = table :=
    List.filter_eq_self.mpr (by simp)
  simp only [without, hall]

lemma erase_without (fs : FileSystem) (ls : List Location) (l : Location) :
    (fs.without ls).erase l = fs.without (ls ++ [l]) := by
  simp [without, erase, List.filter_filter, Bool.and_comm]

lemma without_congr (h : ∀ l, l ∈ ls ↔ l ∈ ls') : fs.without ls = fs.without ls' := by
  simp only [without, List.contains_eq_mem, h]

lemma lookupIn_filter_notMem (ns : List (Location × Node)) (ls : List Location) (l : Location) :
    lookupIn (ns.filter fun e => !ls.contains e.1) l = if l ∈ ls then none else lookupIn ns l := by
  induction ns with
  | nil => simp [lookupIn]
  | cons e r ih =>
    by_cases hl : e.1 = l
    · subst hl
      by_cases he : e.1 ∈ ls
      · simpa [he] using ih
      · simp [lookupIn, he]
    · by_cases he : e.1 ∈ ls
      · simpa [lookupIn, he, hl] using ih
      · simpa [lookupIn, he, hl] using ih

lemma get?_without (fs : FileSystem) (hls : [] ∉ ls) (l : Location) :
    (fs.without ls).get? l = if l ∈ ls then none else fs.get? l := by
  unfold get?
  by_cases hl : l = []
  · simp [hl, hls]
  · simp only [hl, if_false, without, lookupIn_filter_notMem]
    split <;> simp

lemma frame_without (hls : [] ∉ ls)
    (hleaf : ∀ l ∈ ls, ∀ node, fs.get? l = some node → node.isLeaf = true) :
    (fs.without ls).frame = fs.frame := by
  unfold frame
  congr 1
  funext l
  rw [get?_without fs hls]
  split
  · rename_i hl
    cases hget : fs.get? l with
    | none => rfl
    | some node => simp [Option.filter, hleaf l hl node hget]
  · rfl

lemma childNames_without (fs : FileSystem) (ls : List Location) (dir : Location) :
    (fs.without ls).childNames dir = (fs.childNames dir).filter fun n => dir ++ [n] ∉ ls := by
  unfold childNames without
  rw [List.filterMap_filter, List.filter_filterMap]
  congr 1
  funext e
  cases hname : childName? dir e.1 with
  | none => simp
  | some n => simp [childName?_eq_some_iff.mp hname, Option.filter]

end TreePipeline.FileSystem
