import Mathlib.Data.List.Induction
import TreePipeline.Proofs.Files.Reaching

/-! Trees in which every entry stands in a directory under a name of its own. There the path of a
canonical location leads back to it, so that what is asked of the path is asked of the entry. -/

namespace TreePipeline

namespace Path

instance (n : Octets) : Decidable (IsEntryName n) :=
  decidable_of_iff (n ≠ [] ∧ n ≠ dot ∧ n ≠ dotDot ∧ slash ∉ n ∧ 0 ∉ n)
    ⟨fun ⟨h₁, h₂, h₃, h₄, h₅⟩ => ⟨h₁, h₂, h₃, h₄, h₅⟩,
      fun h => ⟨h.ne_nil, h.ne_dot, h.ne_dotDot, h.noSlash, h.noNul⟩⟩

end Path

namespace FileSystem

/-- Entries stand in directories, under names that directories can hold. -/
structure IsOrdered (fs : FileSystem) : Prop where
  parent : ∀ l n, fs.get? (l ++ [n]) ≠ none → fs.get? l = some .directory
  isEntryName : ∀ l n, fs.get? (l ++ [n]) ≠ none → Path.IsEntryName n
  length_le : ∀ l n, fs.get? (l ++ [n]) ≠ none → n.length ≤ nameLimit

lemma mem_of_lookupIn {ns : List (Location × Node)} {l : Location} {node : Node}
    (h : lookupIn ns l = some node) : (l, node) ∈ ns := by
  induction ns with
  | nil => simp [lookupIn] at h
  | cons e r ih =>
    by_cases he : e.1 = l
    · simp only [lookupIn, he, if_true, Option.some.injEq] at h
      simp [← he, ← h]
    · simp only [lookupIn, he, if_false] at h
      exact List.mem_cons_of_mem _ (ih h)

lemma mem_of_get? {fs : FileSystem} {l : Location} {node : Node} (hl : l ≠ [])
    (h : fs.get? l = some node) : (l, node) ∈ fs.nodes ++ fs.unlisted := by
  simp only [get?, hl, if_false, Option.or_eq_some_iff] at h
  rcases h with h | ⟨_, h⟩
  · exact List.mem_append_left _ (mem_of_lookupIn h)
  · exact List.mem_append_right _ (mem_of_lookupIn h)

def entryInOrder (fs : FileSystem) (l : Location) : Prop :=
  ∀ n ∈ l.getLast?,
    fs.get? l.dropLast = some .directory ∧ Path.IsEntryName n ∧ n.length ≤ nameLimit

instance (fs : FileSystem) (l : Location) : Decidable (fs.entryInOrder l) :=
  inferInstanceAs (Decidable (∀ n ∈ l.getLast?, _))

lemma isOrdered_of_entries {fs : FileSystem}
    (h : ∀ e ∈ fs.nodes ++ fs.unlisted, fs.entryInOrder e.1) : fs.IsOrdered := by
  have key : ∀ l n, fs.get? (l ++ [n]) ≠ none →
      fs.get? l = some .directory ∧ Path.IsEntryName n ∧ n.length ≤ nameLimit := by
    intro l n hln
    obtain ⟨node, hnode⟩ := Option.ne_none_iff_exists'.mp hln
    have hin := h _ (mem_of_get? (by simp) hnode) n (by simp)
    simpa using hin
  exact ⟨fun l n hln => (key l n hln).1, fun l n hln => (key l n hln).2.1,
    fun l n hln => (key l n hln).2.2⟩

variable {fs : FileSystem} {e : Ending} {k : Nat} {here l : Location} {names : List Octets}
  {path : Octets} {node : Node} {a : Arrival}

lemma IsOrdered.names_of_get? (hfs : fs.IsOrdered) (h : fs.get? l ≠ none) :
    ∀ n ∈ l, Path.IsEntryName n ∧ n.length ≤ nameLimit := by
  induction l using List.reverseRecOn with
  | nil => simp
  | append_singleton r m ih =>
    intro n hn
    rcases List.mem_append.mp hn with hn | hn
    · exact ih (by simp [hfs.parent r m h]) n hn
    · obtain rfl := List.mem_singleton.mp hn
      exact ⟨hfs.isEntryName r n h, hfs.length_le r n h⟩

lemma IsOrdered.dropLast (hfs : fs.IsOrdered) (h : fs.get? l = some .directory) :
    fs.get? l.dropLast = some .directory := by
  induction l using List.reverseRecOn with
  | nil => exact h
  | append_singleton r m _ => simpa using hfs.parent r m (by simp [h])

lemma IsOrdered.above (hfs : fs.IsOrdered) (h : fs.get? (here ++ names) ≠ none) (hne : names ≠ []) :
    fs.get? here = some .directory := by
  induction names using List.reverseRecOn with
  | nil => exact absurd rfl hne
  | append_singleton r m ih =>
    rw [← List.append_assoc] at h
    have hr := hfs.parent _ m h
    by_cases hr' : r = []
    · simpa [hr'] using hr
    · exact ih (by simp [hr]) hr'

lemma get?_nil (fs : FileSystem) : fs.get? [] = some .directory := by simp [get?]

lemma get?_linkBase (goal : Octets) (h : fs.get? here = some .directory) :
    fs.get? (linkBase goal here) = some .directory := by
  unfold linkBase
  split
  · exact fs.get?_nil
  · exact h

lemma Leads.get?_of_found (h : Leads fs k e here names a) (hfs : fs.IsOrdered) (ha : a = .found l)
    (hhere : fs.get? here = some .directory) :
    ∃ node, fs.get? l = some node ∧ (node ≠ .directory → e.shortWay = true →
      (pathOf l).length < pathLimit) := by
  induction h with
  | here =>
    cases ha
    exact ⟨.directory, hhere, fun hd => absurd rfl hd⟩
  | dot _ ih => exact ih ha hhere
  | dotDot _ ih => exact ih ha (hfs.dropLast hhere)
  | directory _ _ hg _ ih => exact ih ha hg
  | link _ _ _ _ _ ih => exact ih ha (get?_linkBase _ hhere)
  | kept _ hb hg _ _ =>
    cases ha
    exact ⟨_, hg, fun _ => hb.2⟩
  | leaf _ hb hg _ _ =>
    cases ha
    exact ⟨_, hg, fun _ => hb.2⟩
  | tooLong | vacant | broken | blocked => cases ha

lemma Leads.not_link (h : Leads fs k e here names a) (ha : a = .found l) (hkeep : e.keepLink = false)
    (hhere : fs.get? here = some .directory) (hfs : fs.IsOrdered) (goal : Octets) :
    fs.get? l ≠ some (.link goal) := by
  induction h with
  | here =>
    cases ha
    simp [hhere]
  | dot _ ih => exact ih ha hkeep hhere
  | dotDot _ ih => exact ih ha hkeep (hfs.dropLast hhere)
  | directory _ _ hg _ ih => exact ih ha hkeep hg
  | link _ _ _ _ _ ih => exact ih ha hkeep (get?_linkBase _ hhere)
  | kept _ _ _ hk _ => simp [hkeep] at hk
  | leaf _ _ hg hleaf _ =>
    cases ha
    rw [hg]
    rintro ⟨⟩
    cases hleaf
  | tooLong | vacant | broken | blocked => cases ha

lemma IsOrdered.leads_down (hfs : fs.IsOrdered) (names : List Octets) (here : Location)
    (h : fs.get? (here ++ names) = some node) (hnode : ∀ goal, node ≠ .link goal)
    (hdir : node ≠ .directory → e.directory = false) (hway : e.shortWay = false) :
    Leads fs 0 e here names (.found (here ++ names)) := by
  induction names generalizing here with
  | nil => simpa using Leads.here
  | cons n rest ih =>
    have hall := hfs.names_of_get? (l := here ++ n :: rest) (by simp [h])
    have hname := hall n (by simp)
    have hn : IsStep n := ⟨hname.1.ne_dot, hname.1.ne_dotDot⟩
    have hb : InBounds e here n := ⟨hname.2, by simp [hway]⟩
    rw [List.append_cons] at h ⊢
    by_cases hd : fs.get? (here ++ [n]) = some .directory
    · exact .directory hn hb hd (ih _ h)
    · have hrest : rest = [] :=
        by_contra fun hrest => hd (hfs.above (h ▸ Option.some_ne_none node) hrest)
      subst hrest
      rw [List.append_nil] at h ⊢
      have hne : node ≠ .directory := fun hne => hd (hne ▸ h)
      exact .leaf hn hb h (by cases node <;> simp_all [Node.isLeaf]) (hdir hne)

lemma IsOrdered.reaches_pathOf (hfs : fs.IsOrdered) (h : fs.get? l = some node)
    (hnode : ∀ goal, node ≠ .link goal) (hlen : (pathOf l).length < pathLimit) :
    fs.Reaches false (pathOf l) (.found l) := by
  have hl : ∀ n ∈ l, Path.IsEntryName n :=
    fun n hn => (hfs.names_of_get? (h ▸ Option.some_ne_none node) n hn).1
  have hne : pathOf l ≠ [] := by cases l <;> simp [pathOf]
  refine ⟨hlen, nul_notMem_pathOf hl, hne, 0, Nat.zero_le _, ?_⟩
  rw [FileSystem.origin, isAbsolute_pathOf, if_pos rfl, names_pathOf hl]
  refine hfs.leads_down l [] h hnode (fun hdir => endsInSlash_pathOf ?_ hl) rfl
  rintro rfl
  exact hdir (Option.some.inj (h.symm.trans fs.get?_nil))

lemma IsOrdered.enters (hfs : fs.IsOrdered) {dir n : Octets} (hn : Path.IsEntryName n)
    (h : fs.LeadsTo (Path.join dir n) (.found l)) :
    ∃ j mid, fs.get? mid = some .directory ∧ Leads fs j ⟨false, false, true⟩ mid [n] (.found l) := by
  obtain ⟨_, _, j, mid, _, _, hj⟩ := h.split hn
  obtain ⟨node, hnode, _⟩ := hj.found_name hn
  exact ⟨j, mid, hfs.parent mid n (hnode ▸ Option.some_ne_none node), hj⟩

lemma IsOrdered.names_pathOf (hfs : fs.IsOrdered) {dir n : Octets} (hn : Path.IsEntryName n)
    (h : fs.LeadsTo (Path.join dir n) (.found l)) : Path.names (pathOf l) = l := by
  obtain ⟨_, _, hmid, hj⟩ := hfs.enters hn h
  obtain ⟨node, hnode, _⟩ := hj.get?_of_found hfs rfl hmid
  exact FileSystem.names_pathOf fun n hn =>
    (hfs.names_of_get? (hnode ▸ Option.some_ne_none node) n hn).1

lemma IsOrdered.isFile_pathOf (hfs : fs.IsOrdered) {dir n : Octets} (hn : Path.IsEntryName n)
    (h : fs.LeadsTo (Path.join dir n) (.found l)) : fs.isFile (pathOf l) = true ↔ fs.IsRegular l := by
  obtain ⟨_, _, hmid, hj⟩ := hfs.enters hn h
  obtain ⟨node, hnode, hshort⟩ := hj.get?_of_found hfs rfl hmid
  have hlink : ∀ goal, node ≠ .link goal := fun goal hgoal =>
    hj.not_link rfl rfl hmid hfs goal (hgoal ▸ hnode)
  constructor
  · intro hfile
    have hreach := hfs.reaches_pathOf hnode hlink (length_lt_of_isFile hfile)
    exact (isFile_iff_of_reaches hreach).mp hfile
  · rintro ⟨content, mode, modified, hreg⟩
    have hlen : (pathOf l).length < pathLimit := by
      refine hshort ?_ rfl
      rintro rfl
      simp [hreg] at hnode
    exact isFile_iff.mpr ⟨l, hfs.reaches_pathOf hnode hlink hlen, content, mode, modified, hreg⟩

end FileSystem

end TreePipeline
