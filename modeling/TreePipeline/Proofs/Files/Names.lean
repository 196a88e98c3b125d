import Mathlib.Tactic.Common
import TreePipeline.Files.Walk

/-! Path names against their parts: joining a name to a directory adds it behind the directory's
names, and the absolute path of a location has just the location's names. -/

namespace TreePipeline

namespace Octets

lemma splitOn_ne_nil (sep : UInt8) (bs : Octets) : splitOn sep bs ≠ [] := by
  induction bs with
  | nil => simp [splitOn]
  | cons b r ih =>
    by_cases hb : b = sep
    · simp [splitOn, hb]
    · obtain ⟨p, ps, hp⟩ := List.exists_cons_of_ne_nil ih
      simp [splitOn, hb, hp]

lemma splitOn_append_sep (sep : UInt8) (a b : Octets) :
    splitOn sep (a ++ sep :: b) = splitOn sep a ++ splitOn sep b := by
  induction a with
  | nil => simp [splitOn]
  | cons c a ih =>
    by_cases hc : c = sep
    · simp [splitOn, hc, ih]
    · obtain ⟨p, ps, hp⟩ := List.exists_cons_of_ne_nil (splitOn_ne_nil sep a)
      simp [splitOn, hc, ih, hp]

lemma splitOn_of_notMem {sep : UInt8} {bs : Octets} (h : sep ∉ bs) : splitOn sep bs = [bs] := by
  induction bs with
  | nil => rfl
  | cons b r ih =>
    have hb : b ≠ sep := fun hb => h (by simp [hb])
    have hr : sep ∉ r := fun hr => h (List.mem_cons_of_mem _ hr)
    simp [splitOn, hb, ih hr]

end Octets

namespace Path

/-- A name under which a directory can hold an entry. -/
structure IsEntryName (n : Octets) : Prop where
  ne_nil : n ≠ []
  ne_dot : n ≠ dot
  ne_dotDot : n ≠ dotDot
  noSlash : slash ∉ n
  noNul : 0 ∉ n

@[simp] lemma names_nil : names [] = [] := rfl

lemma names_append_slash (a b : Octets) : names (a ++ slash :: b) = names a ++ names b := by
  simp only [names, Octets.splitOn_append_sep, List.filter_append]

lemma names_of_isEntryName {n : Octets} (hn : IsEntryName n) : names n = [n] := by
  simp [names, Octets.splitOn_of_notMem hn.noSlash, hn.ne_nil]

lemma isAbsolute_of_isEntryName {n : Octets} (hn : IsEntryName n) : isAbsolute n = false := by
  have h : n.head? ≠ some slash := fun h => hn.noSlash (List.mem_of_mem_head? h)
  simpa [isAbsolute] using h

lemma names_ne_nil {c : UInt8} (h : c ≠ slash) (r : Octets) : names (c :: r) ≠ [] := by
  obtain ⟨p, ps, hp⟩ := List.exists_cons_of_ne_nil (Octets.splitOn_ne_nil slash r)
  simp [names, Octets.splitOn, h, hp]

lemma eq_append_slash {dir : Octets} (h : endsInSlash dir = true) : ∃ a, dir = a ++ [slash] := by
  simp only [endsInSlash, decide_eq_true_eq, List.getLast?_eq_some_iff] at h
  exact h

lemma join_of_ne_nil {dir n : Octets} (hdir : dir ≠ []) (hn : IsEntryName n) :
    join dir n = dir ++ n ∧ endsInSlash dir = true ∨ join dir n = dir ++ slash :: n := by
  by_cases he : endsInSlash dir = true
  · exact Or.inl ⟨by simp [join, isAbsolute_of_isEntryName hn, hdir, he], he⟩
  · exact Or.inr (by simp [join, isAbsolute_of_isEntryName hn, hdir, he])

@[simp] lemma join_nil (n : Octets) : join [] n = n := by simp [join]

lemma names_join (dir : Octets) {n : Octets} (hn : IsEntryName n) :
    names (join dir n) = names dir ++ [n] := by
  by_cases hdir : dir = []
  · simp [hdir, names_of_isEntryName hn]
  · rcases join_of_ne_nil hdir hn with ⟨hj, he⟩ | hj
    · obtain ⟨a, rfl⟩ := eq_append_slash he
      rw [hj, List.append_assoc, List.singleton_append, names_append_slash,
        names_append_slash, names_of_isEntryName hn, names_nil, List.append_nil]
    · rw [hj, names_append_slash, names_of_isEntryName hn]

lemma isAbsolute_join (dir : Octets) {n : Octets} (hn : IsEntryName n) :
    isAbsolute (join dir n) = isAbsolute dir := by
  by_cases hdir : dir = []
  · rw [hdir, join_nil, isAbsolute_of_isEntryName hn]
    rfl
  · obtain ⟨b, r, rfl⟩ := List.exists_cons_of_ne_nil hdir
    rcases join_of_ne_nil hdir hn with ⟨hj, _⟩ | hj <;> simp [hj, isAbsolute]

lemma IsEntryName.filter_ne_dot {n : Octets} (hn : IsEntryName n) (ns : List Octets) :
    (ns ++ [n]).filter (fun m => m ≠ dot) = ns.filter (fun m => m ≠ dot) ++ [n] := by
  simp [List.filter_append, hn.ne_dot]

lemma components_join (dir : Octets) {n : Octets} (hn : IsEntryName n) :
    components (join dir n) = components dir ++ [n] := by
  unfold components
  rw [isAbsolute_join dir hn, names_join dir hn]
  by_cases habsolute : isAbsolute dir = true
  · rw [if_pos habsolute, if_pos habsolute, hn.filter_ne_dot, List.cons_append]
  rw [if_neg habsolute, if_neg habsolute]
  cases dir with
  | nil => rfl
  | cons c r =>
    have hc : c ≠ slash := fun hc => habsolute (by rw [hc]; rfl)
    -- a leading dot is a part of its own, so that the first name is kept as it is
    obtain ⟨m, ms, hms⟩ := List.exists_cons_of_ne_nil (names_ne_nil hc r)
    simp only [hms, List.cons_append]
    rw [hn.filter_ne_dot]

lemma endsInSlash_append {a n : Octets} (hn : IsEntryName n) : endsInSlash (a ++ n) = false := by
  have h : n.getLast? ≠ some slash := fun h => hn.noSlash (List.mem_of_getLast? h)
  simpa [endsInSlash, hn.ne_nil] using h

lemma endsInSlash_join (dir : Octets) {n : Octets} (hn : IsEntryName n) :
    endsInSlash (join dir n) = false := by
  by_cases hdir : dir = []
  · simpa [hdir] using endsInSlash_append (a := []) hn
  · rcases join_of_ne_nil hdir hn with ⟨hj, _⟩ | hj
    · rw [hj, endsInSlash_append hn]
    · rw [hj, List.append_cons, endsInSlash_append hn]

lemma join_ne_nil (dir : Octets) {n : Octets} (hn : IsEntryName n) : join dir n ≠ [] := by
  intro h
  have hnames := names_join dir hn
  simp [h] at hnames

lemma nul_mem_join (dir : Octets) {n : Octets} (hn : IsEntryName n) :
    0 ∈ join dir n ↔ 0 ∈ dir := by
  have hslash : (0 : UInt8) ≠ slash := by decide
  by_cases hdir : dir = []
  · simp [hdir, hn.noNul]
  · rcases join_of_ne_nil hdir hn with ⟨hj, _⟩ | hj <;> simp [hj, hn.noNul, hslash]

end Path

namespace FileSystem

lemma pathOf_of_ne_nil {l : Location} (h : l ≠ []) :
    pathOf l = l.flatMap fun n => Path.slash :: n := by
  cases l with
  | nil => exact absurd rfl h
  | cons n r => rfl

lemma isAbsolute_pathOf (l : Location) : Path.isAbsolute (pathOf l) = true := by
  cases l <;> simp [pathOf, Path.isAbsolute]

lemma names_append_flatMap {l : Location} (hl : ∀ n ∈ l, Path.IsEntryName n) (a : Octets) :
    Path.names (a ++ l.flatMap fun n => Path.slash :: n) = Path.names a ++ l := by
  induction l generalizing a with
  | nil => simp
  | cons n r ih =>
    have hr := ih (fun m hm => hl m (List.mem_cons_of_mem _ hm)) n
    rw [List.flatMap_cons, List.cons_append, Path.names_append_slash, hr,
      Path.names_of_isEntryName (hl n List.mem_cons_self), List.singleton_append]

lemma names_pathOf {l : Location} (hl : ∀ n ∈ l, Path.IsEntryName n) :
    Path.names (pathOf l) = l := by
  by_cases h : l = []
  · subst h
    rfl
  · simpa [pathOf_of_ne_nil h] using names_append_flatMap hl []

lemma endsInSlash_pathOf {l : Location} (h : l ≠ []) (hl : ∀ n ∈ l, Path.IsEntryName n) :
    Path.endsInSlash (pathOf l) = false := by
  obtain ⟨r, n, rfl⟩ := List.eq_nil_or_concat l |>.resolve_left h
  have hn : Path.IsEntryName n := hl n (by simp)
  rw [pathOf_of_ne_nil h, List.concat_eq_append, List.flatMap_append, List.flatMap_singleton,
    List.append_cons, Path.endsInSlash_append hn]

lemma nul_notMem_pathOf {l : Location} (hl : ∀ n ∈ l, Path.IsEntryName n) : 0 ∉ pathOf l := by
  have hslash : (0 : UInt8) ≠ Path.slash := by decide
  by_cases h : l = []
  · simpa [h, pathOf] using hslash
  · simp only [pathOf_of_ne_nil h, List.mem_flatMap, List.mem_cons, not_exists, not_and, not_or]
    exact fun n hn => ⟨hslash, (hl n hn).noNul⟩

end FileSystem

end TreePipeline
