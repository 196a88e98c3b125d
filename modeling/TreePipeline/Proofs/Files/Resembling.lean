import TreePipeline.Proofs.Files.Reaching

/-! Trees in which the same kind of entry stands everywhere, whatever the files hold. Every path leads
to the same place in them, and what is written to it makes the same of both. -/

namespace TreePipeline

namespace Node

def emptied : Node → Node
  | .file .. => .file [] 0 0
  | node => node

lemma isFile_emptied (node : Node) : node.emptied.isFile = node.isFile := by cases node <;> rfl

lemma isLeaf_emptied (node : Node) : node.emptied.isLeaf = node.isLeaf := by cases node <;> rfl

lemma emptied_of_not_isFile {node : Node} (h : node.isFile = false) : node.emptied = node := by
  cases node with
  | file => cases h
  | directory | link | device => rfl

end Node

namespace FileSystem

structure Resembles (fs fs' : FileSystem) : Prop where
  directory : fs'.directory = fs.directory
  kinds : ∀ l, (fs'.get? l).map Node.emptied = (fs.get? l).map Node.emptied
  names : ∀ l, fs'.namesOf l = fs.namesOf l

variable {fs fs' fs'' : FileSystem} {k : Nat} {e : Ending} {here l : Location} {names : List Octets}
  {a : Arrival} {path content content' : Octets} {keepLink : Bool} {node node' : Node}

lemma pathExists_iff :
    fs.pathExists path = true ↔ ∃ l, fs.Reaches false path (.found l) ∧ fs.get? l ≠ none := by
  have hstat : fs.pathExists path = true ↔ ∃ node, fs.stat path = .ok node := by
    unfold pathExists
    cases fs.stat path <;> simp
  simp only [hstat, stat_eq_ok_iff]
  constructor
  · rintro ⟨node, l, hl, hnode⟩
    exact ⟨l, hl, hnode ▸ Option.some_ne_none node⟩
  · rintro ⟨l, hl, hne⟩
    obtain ⟨node, hnode⟩ := Option.ne_none_iff_exists'.mp hne
    exact ⟨node, l, hl, hnode⟩

lemma pathExists_of_isFile (h : fs.isFile path = true) : fs.pathExists path = true := by
  obtain ⟨l, hl, content, mode, modified, hfile⟩ := isFile_iff.mp h
  exact pathExists_iff.mpr ⟨l, hl, hfile ▸ Option.some_ne_none _⟩

lemma get?_put_root (fs : FileSystem) (node : Node) (k : Location) :
    (fs.put [] node).get? k = fs.get? k := by
  by_cases hk : k = []
  · subst hk
    rfl
  · simp only [get?, put, hk, if_false, lookupIn_putIn_ne fs.nodes node hk]

namespace Resembles

lemma refl (fs : FileSystem) : fs.Resembles fs := ⟨rfl, fun _ => rfl, fun _ => rfl⟩

lemma symm (h : fs.Resembles fs') : fs'.Resembles fs :=
  ⟨h.directory.symm, fun l => (h.kinds l).symm, fun l => (h.names l).symm⟩

lemma trans (h : fs.Resembles fs') (h' : fs'.Resembles fs'') : fs.Resembles fs'' :=
  ⟨h'.directory.trans h.directory, fun l => (h'.kinds l).trans (h.kinds l),
    fun l => (h'.names l).trans (h.names l)⟩

lemma get?_eq_none (h : fs.Resembles fs') (hl : fs.get? l = none) : fs'.get? l = none := by
  have hkinds := h.kinds l
  rw [hl] at hkinds
  exact Option.map_eq_none_iff.mp hkinds

lemma exists_get? (h : fs.Resembles fs') (hl : fs.get? l = some node) :
    ∃ node', fs'.get? l = some node' ∧ node'.emptied = node.emptied := by
  have hkinds := h.kinds l
  rw [hl] at hkinds
  exact Option.map_eq_some_iff.mp hkinds

lemma get?_eq_some (h : fs.Resembles fs') (hl : fs.get? l = some node) (hnode : node.isFile = false) :
    fs'.get? l = some node := by
  obtain ⟨node', hl', hkind⟩ := h.exists_get? hl
  have hnode' : node'.isFile = false := by
    rw [← Node.isFile_emptied, hkind, Node.isFile_emptied, hnode]
  rw [Node.emptied_of_not_isFile hnode, Node.emptied_of_not_isFile hnode'] at hkind
  rw [hl', hkind]

lemma exists_leaf (h : fs.Resembles fs') (hl : fs.get? l = some node) (hleaf : node.isLeaf = true) :
    ∃ node', fs'.get? l = some node' ∧ node'.isLeaf = true := by
  obtain ⟨node', hl', hkind⟩ := h.exists_get? hl
  refine ⟨node', hl', ?_⟩
  rw [← Node.isLeaf_emptied, hkind, Node.isLeaf_emptied, hleaf]

/-! Paths lead to the same places -/

lemma leads (hfs : fs.Resembles fs') (h : Leads fs k e here names a) : Leads fs' k e here names a := by
  induction h with
  | here => exact .here
  | dot _ ih => exact .dot ih
  | dotDot _ ih => exact .dotDot ih
  | tooLong hn hb => exact .tooLong hn hb
  | vacant hn hb hg => exact .vacant hn hb (hfs.get?_eq_none hg)
  | broken hn hb hg hrest => exact .broken hn hb (hfs.get?_eq_none hg) hrest
  | directory hn hb hg _ ih => exact .directory hn hb (hfs.get?_eq_some hg rfl) ih
  | kept hn hb hg hkeep hd => exact .kept hn hb (hfs.get?_eq_some hg rfl) hkeep hd
  | link hn hb hg hopen _ ih => exact .link hn hb (hfs.get?_eq_some hg rfl) hopen ih
  | leaf hn hb hg hleaf hd =>
    obtain ⟨node', hg', hleaf'⟩ := hfs.exists_leaf hg hleaf
    exact .leaf hn hb hg' hleaf' hd
  | blocked hn hb hg hleaf hopen =>
    obtain ⟨node', hg', hleaf'⟩ := hfs.exists_leaf hg hleaf
    exact .blocked hn hb hg' hleaf' hopen

lemma reaches (hfs : fs.Resembles fs') (h : fs.Reaches keepLink path a) :
    fs'.Reaches keepLink path a := by
  obtain ⟨hlen, hnul, hne, k, hk, h⟩ := h
  refine ⟨hlen, hnul, hne, k, hk, ?_⟩
  rw [origin_eq hfs.directory]
  exact hfs.leads h

lemma isRegular (hfs : fs.Resembles fs') (h : fs.IsRegular l) : fs'.IsRegular l := by
  obtain ⟨content, mode, modified, hl⟩ := h
  obtain ⟨node', hl', hkind⟩ := hfs.exists_get? hl
  cases node' with
  | file content' mode' modified' => exact ⟨content', mode', modified', hl'⟩
  | directory | link | device => cases hkind

lemma isFile_mono (hfs : fs.Resembles fs') (h : fs.isFile path = true) : fs'.isFile path = true := by
  obtain ⟨l, hl, hfile⟩ := isFile_iff.mp h
  exact isFile_iff.mpr ⟨l, hfs.reaches hl, hfs.isRegular hfile⟩

lemma isFile_eq (hfs : fs.Resembles fs') (path : Octets) : fs'.isFile path = fs.isFile path :=
  Bool.eq_iff_iff.mpr ⟨hfs.symm.isFile_mono, hfs.isFile_mono⟩

lemma pathExists_mono (hfs : fs.Resembles fs') (h : fs.pathExists path = true) :
    fs'.pathExists path = true := by
  obtain ⟨l, hl, hne⟩ := pathExists_iff.mp h
  exact pathExists_iff.mpr ⟨l, hfs.reaches hl, fun hnone => hne (hfs.symm.get?_eq_none hnone)⟩

lemma pathExists_eq (hfs : fs.Resembles fs') (path : Octets) :
    fs'.pathExists path = fs.pathExists path :=
  Bool.eq_iff_iff.mpr ⟨hfs.symm.pathExists_mono, hfs.pathExists_mono⟩

/-! Writing -/

lemma put (hfs : fs.Resembles fs') (l : Location) (hnode : node'.emptied = node.emptied) :
    (fs.put l node).Resembles (fs'.put l node') := by
  refine ⟨hfs.directory, fun k => ?_, hfs.names⟩
  by_cases hl : l = []
  · subst hl
    rw [get?_put_root, get?_put_root]
    exact hfs.kinds k
  · rw [get?_put fs k node hl, get?_put fs' k node' hl]
    split
    · exact congrArg some hnode
    · exact hfs.kinds k

lemma foldl_put (hfs : fs.Resembles fs') (ls : List Location) (hnode : node'.emptied = node.emptied) :
    (ls.foldl (fun fs l => fs.put l node) fs).Resembles
      (ls.foldl (fun fs l => fs.put l node') fs') := by
  induction ls generalizing fs fs' with
  | nil => exact hfs
  | cons l rest ih => exact ih (hfs.put l hnode)

lemma putAll (hfs : fs.Resembles fs') (l : Location) (hnode : node'.emptied = node.emptied) :
    (fs.putAll l node).Resembles (fs'.putAll l node') := by
  unfold FileSystem.putAll
  rw [hfs.names l]
  exact hfs.foldl_put _ hnode

lemma store (hfs : fs.Resembles fs') (l : Location) (content content' : Octets) :
    (fs.store l content).Resembles (fs'.store l content') := by
  unfold FileSystem.store
  cases hl : fs.get? l with
  | none =>
    rw [hfs.get?_eq_none hl]
    exact hfs.put l rfl
  | some node =>
    obtain ⟨node', hl', hkind⟩ := hfs.exists_get? hl
    rw [hl']
    cases node with
    | file content mode time =>
      cases node' with
      | file content' mode' time' => exact hfs.putAll l rfl
      | directory | link | device => cases hkind
    | directory | link | device =>
      cases node' with
      | file => cases hkind
      | directory | link | device => exact hfs

lemma writable_mono (hfs : fs.Resembles fs') (h : fs.writable path = .ok l) :
    fs'.writable path = .ok l := by
  rw [writable_eq_ok_iff] at h ⊢
  rcases h with ⟨hl, hdir⟩ | ⟨hslash, dir, n, hl, hend⟩
  · exact Or.inl ⟨hfs.reaches hl, fun hget => hdir (hfs.symm.get?_eq_some hget rfl)⟩
  · exact Or.inr ⟨hslash, dir, n, hfs.reaches hl, hend⟩

lemma refusal?_eq_none (hfs : fs.Resembles fs') (h : (fs.get? l).bind (refusal? content) = none)
    (hcontent : content = [] → content' = []) : (fs'.get? l).bind (refusal? content') = none := by
  cases hl : fs.get? l with
  | none =>
    rw [hfs.get?_eq_none hl]
    rfl
  | some node =>
    rw [hl] at h
    obtain ⟨node', hl', hkind⟩ := hfs.exists_get? hl
    rw [hl']
    cases node' with
    | file | directory | link => rfl
    | device kind' =>
      cases node with
      | file | directory | link => cases hkind
      | device kind =>
        cases hkind
        cases kind' with
        | null | zero | random | pipe => rfl
        | terminal => cases h
        | full =>
          have hempty : content = [] := by
            by_contra hne
            simp [refusal?, hne] at h
          rw [hcontent hempty]
          rfl

lemma writeFile (hfs : fs.Resembles fs') {written : FileSystem}
    (h : fs.writeFile path content = .ok written) (hcontent : content = [] → content' = []) :
    ∃ written', fs'.writeFile path content' = .ok written' ∧ written.Resembles written' := by
  obtain ⟨l, hl, hrefusal, rfl⟩ := writeFile_eq_ok_iff.mp h
  refine ⟨fs'.store l content', ?_, hfs.store l content content'⟩
  exact writeFile_eq_ok_iff.mpr
    ⟨l, hfs.writable_mono hl, hfs.refusal?_eq_none hrefusal hcontent, rfl⟩

end Resembles

/-! What stands at a path that was written to -/

/-- All names of a regular file stand for one. -/
def NamesFiles (fs : FileSystem) : Prop := ∀ l, fs.IsRegular l → ∀ k ∈ fs.namesOf l, fs.IsRegular k

lemma namesFiles_of_numbers (h : fs.numbers = []) : fs.NamesFiles := by
  intro l hl k hk
  have hnames : fs.namesOf l = [l] := by
    unfold namesOf
    rw [h]
    rfl
  rw [hnames, List.mem_singleton] at hk
  exact hk ▸ hl

lemma resembles_put {mode : Nat} {time : Int} (h : fs.IsRegular l) :
    fs.Resembles (fs.put l (.file content mode time)) := by
  obtain ⟨content', mode', time', hfile⟩ := h
  refine ⟨rfl, fun k => ?_, fun _ => rfl⟩
  by_cases hl : l = []
  · subst hl
    rw [get?_put_root]
  · rw [get?_put fs k _ hl]
    split
    · rename_i hk
      rw [hk, hfile]
      rfl
    · rfl

lemma resembles_foldl_put {mode : Nat} {time : Int} (ls : List Location)
    (h : ∀ k ∈ ls, fs.IsRegular k) :
    fs.Resembles (ls.foldl (fun fs k => fs.put k (.file content mode time)) fs) := by
  induction ls generalizing fs with
  | nil => exact .refl fs
  | cons k rest ih =>
    have hput : fs.Resembles (fs.put k (.file content mode time)) :=
      resembles_put (h k List.mem_cons_self)
    have hrest : ∀ k' ∈ rest, (fs.put k (.file content mode time)).IsRegular k' :=
      fun k' hk' => hput.isRegular (h k' (List.mem_cons_of_mem k hk'))
    exact hput.trans (ih hrest)

lemma store_of_get?_eq_none (h : fs.get? l = none) (content : Octets) :
    fs.store l content = fs.put l (.file content fs.newFileMode fs.stamp) := by
  unfold store
  rw [h]

lemma NamesFiles.resembles_store (hnames : fs.NamesFiles) (hl : fs.get? l ≠ none) (content : Octets) :
    fs.Resembles (fs.store l content) := by
  obtain ⟨node, hnode⟩ := Option.ne_none_iff_exists'.mp hl
  unfold store
  rw [hnode]
  cases node with
  | file content' mode time => exact resembles_foldl_put _ (hnames l ⟨_, _, _, hnode⟩)
  | directory | link | device => exact .refl fs

lemma Leads.fill_or_block {dir : Location} {n : Octets} (h : Leads fs k e here names a)
    (ha : a = .vacant dir n) (hfs : fs.Grows fs') (hput : fs'.get? (dir ++ [n]) = some node)
    (hleaf : node.isLeaf = true) :
    ∃ a', Leads fs' k e here names a' ∧ (a' = .found (dir ++ [n]) ∨ a' = .blocked) := by
  induction h with
  | dot _ ih =>
    obtain ⟨a', h', hend⟩ := ih ha
    exact ⟨a', .dot h', hend⟩
  | dotDot _ ih =>
    obtain ⟨a', h', hend⟩ := ih ha
    exact ⟨a', .dotDot h', hend⟩
  | directory hn hb hg _ ih =>
    obtain ⟨a', h', hend⟩ := ih ha
    exact ⟨a', .directory hn hb (hfs _ _ hg) h', hend⟩
  | link hn hb hg hopen _ ih =>
    obtain ⟨a', h', hend⟩ := ih ha
    exact ⟨a', .link hn hb (hfs _ _ hg) hopen h', hend⟩
  | @vacant e _ _ hn hb hg =>
    cases ha
    cases hd : e.directory with
    | false => exact ⟨_, .leaf hn hb hput hleaf hd, Or.inl rfl⟩
    | true => exact ⟨_, .blocked hn hb hput hleaf (Or.inr hd), Or.inr rfl⟩
  | here | tooLong | broken | kept | leaf | blocked => cases ha

lemma isFile_of_reaches (h : ∀ l, fs.Reaches false path (.found l) → fs.IsRegular l)
    (hexists : fs.pathExists path = true) : fs.isFile path = true := by
  obtain ⟨l, hl, -⟩ := pathExists_iff.mp hexists
  exact isFile_iff.mpr ⟨l, hl, h l hl⟩

lemma isRegular_put (fs : FileSystem) {l : Location} (hl : l ≠ []) (mode : Nat) (time : Int) :
    (fs.put l (.file content mode time)).IsRegular l :=
  ⟨content, mode, time, (get?_put fs l _ hl).trans (if_pos rfl)⟩

lemma isFile_of_fill {dir : Location} {n : Octets} {mode : Nat} {time : Int}
    (h : fs.Reaches false path (.vacant dir n)) :
    let written := fs.put (dir ++ [n]) (.file content mode time)
    written.pathExists path = true → written.isFile path = true := by
  intro written
  have hnone := h.get?_of_vacant
  have hregular : written.IsRegular (dir ++ [n]) := isRegular_put fs (ne_nil_of_get?_eq_none hnone) _ _
  obtain ⟨_, _, _, hput⟩ := hregular
  obtain ⟨hlen, hnul, hne, j, hj, hleads⟩ := h
  obtain ⟨a', hleads', hend⟩ := hleads.fill_or_block rfl (Grows.put hnone _) hput rfl
  have hreaches : written.Reaches false path a' := ⟨hlen, hnul, hne, j, hj, hleads'⟩
  refine isFile_of_reaches fun l hl => ?_
  have hsame := hl.unique hreaches
  rcases hend with rfl | rfl
  · obtain rfl := Arrival.found.inj hsame
    exact ⟨_, _, _, hput⟩
  · cases hsame

lemma not_pathExists_of_vacant {dir : Location} {n : Octets} (h : fs.Reaches false path (.vacant dir n)) :
    fs.pathExists path ≠ true := by
  intro hexists
  obtain ⟨l, hl, -⟩ := pathExists_iff.mp hexists
  cases hl.unique h

lemma isFile_of_void (h : fs.Reaches false path (.found l)) (hnone : fs.get? l = none) :
    fs.pathExists path ≠ true ∧ (fs.store l content).isFile path = true := by
  constructor
  · intro hexists
    obtain ⟨l', hl', hne⟩ := pathExists_iff.mp hexists
    obtain rfl := Arrival.found.inj (h.unique hl')
    exact hne hnone
  · rw [store_of_get?_eq_none hnone]
    have hreaches := h.grow (Grows.put hnone (.file content fs.newFileMode fs.stamp)) rfl
    exact (isFile_iff_of_reaches hreaches).mpr (isRegular_put fs (ne_nil_of_get?_eq_none hnone) _ _)

lemma NamesFiles.isFile_written_iff (hnames : fs.NamesFiles) {written : FileSystem}
    (h : fs.writeFile path content = .ok written) :
    (written.pathExists path = true → written.isFile path = true) ↔
      (fs.pathExists path = true → fs.isFile path = true) := by
  obtain ⟨l, hl, -, rfl⟩ := writeFile_eq_ok_iff.mp h
  rcases writable_eq_ok_iff.mp hl with ⟨hfound, -⟩ | ⟨-, dir, n, hvacant, rfl⟩
  · by_cases hnone : fs.get? l = none
    · obtain ⟨hvoid, hfile⟩ := isFile_of_void hfound hnone
      exact iff_of_true (fun _ => hfile) fun hexists => absurd hexists hvoid
    · have hsame := hnames.resembles_store hnone content
      rw [hsame.pathExists_eq, hsame.isFile_eq]
  · rw [store_of_get?_eq_none hvacant.get?_of_vacant]
    exact iff_of_true (isFile_of_fill hvacant)
      fun hexists => absurd hexists (not_pathExists_of_vacant hvacant)

end FileSystem

end TreePipeline
