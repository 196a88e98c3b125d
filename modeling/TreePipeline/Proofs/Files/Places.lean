import TreePipeline.Proofs.Files.Reaching

/-! The place of a path: where its last name stands, or would stand if it did. Which place that is
depends on the directories and links of the tree alone, its frame, so that files come and go at the
place of one path without moving the place of another. -/

namespace TreePipeline

structure Path.EndsIn (path n : Octets) : Prop where
  noSlash : endsInSlash path = false
  last : (names path).getLast? = some n
  step : FileSystem.IsStep n

lemma Path.endsIn_join (dir : Octets) {n : Octets} (hn : IsEntryName n) : EndsIn (join dir n) n where
  noSlash := endsInSlash_join dir hn
  last := by
    rw [names_join dir hn]
    exact List.getLast?_concat
  step := ⟨hn.ne_dot, hn.ne_dotDot⟩

namespace FileSystem

def Target.place : Target → Location
  | .found l => l
  | .absent dir name => dir ++ [name]

def place? (fs : FileSystem) (path : Octets) : Option Location :=
  (fs.target true path).toOption.map Target.place

def Arrival.place? : Arrival → Option Location
  | .found l => some l
  | .vacant dir n => some (dir ++ [n])
  | .broken | .blocked | .tooLong => none

variable {fs fs' : FileSystem} {path n : Octets} {l here : Location} {names : List Octets}
  {k : Nat} {e : Ending} {a : Arrival} {node : Node}

lemma place?_eq_some_iff :
    fs.place? path = some l ↔ ∃ a, fs.Reaches true path a ∧ a.place? = some l := by
  unfold place?
  constructor
  · intro h
    cases ht : fs.target true path with
    | error e => simp [ht, Except.toOption] at h
    | ok t =>
      simp only [ht, Except.toOption, Option.map_some, Option.some.injEq] at h
      subst h
      cases t with
      | found l => exact ⟨.found l, target_eq_found_iff.mp ht, rfl⟩
      | absent dir n => exact ⟨.vacant dir n, target_eq_absent_iff.mp ht, rfl⟩
  · rintro ⟨a, ha, hl⟩
    cases a with
    | found k =>
      rw [target_eq_found_iff.mpr ha]
      exact hl
    | vacant dir n =>
      rw [target_eq_absent_iff.mpr ha]
      exact hl
    | broken | blocked | tooLong => cases hl

/-! Frames -/

structure Frame where
  entries : Location → Option Node
  directory : Location
  mask : Nat

def frame (fs : FileSystem) : Frame :=
  ⟨fun l => (fs.get? l).filter fun node => !node.isLeaf, fs.directory, fs.mask⟩

lemma get?_of_frame (hframe : fs.frame = fs'.frame) (hget : fs.get? l = some node)
    (hnode : node.isLeaf = false) : fs'.get? l = some node := by
  have hl : (fs.get? l).filter _ = (fs'.get? l).filter _ :=
    congrFun (congrArg Frame.entries hframe) l
  rw [hget] at hl
  simp only [Option.filter, hnode, Bool.not_false, if_true] at hl
  cases hget' : fs'.get? l with
  | none => simp [hget'] at hl
  | some node' =>
    rw [hget'] at hl
    cases hnode' : node'.isLeaf <;> simp_all

lemma isLeaf_of_frame (hframe : fs.frame = fs'.frame)
    (hleaf : ∀ node, fs.get? l = some node → node.isLeaf = true) :
    ∀ node, fs'.get? l = some node → node.isLeaf = true := by
  intro node hget
  by_contra hnode
  exact hnode (hleaf node (get?_of_frame hframe.symm hget (Bool.eq_false_iff.mpr hnode)))

lemma leads_last (fs : FileSystem) (hn : IsStep n) (hb : InBounds e here n) (hdir : e.directory = false)
    (hleaf : ∀ node, fs.get? (here ++ [n]) = some node → node.isLeaf = true) :
    ∃ a, Leads fs 0 e here [n] a ∧ a.place? = some (here ++ [n]) := by
  cases hget : fs.get? (here ++ [n]) with
  | none => exact ⟨_, .vacant hn hb hget, rfl⟩
  | some node => exact ⟨_, .leaf hn hb hget (hleaf node hget) hdir, rfl⟩

lemma Leads.reframe (h : Leads fs k e here names a) (hframe : fs.frame = fs'.frame)
    (hkeep : e.keepLink = true) (hdir : e.directory = false) (hplace : a.place? = some l) :
    ∃ a', Leads fs' k e here names a' ∧ a'.place? = some l := by
  induction h with
  | here => exact ⟨_, .here, hplace⟩
  | dot _ ih =>
    obtain ⟨a', ha', hl⟩ := ih hkeep hdir hplace
    exact ⟨a', .dot ha', hl⟩
  | dotDot _ ih =>
    obtain ⟨a', ha', hl⟩ := ih hkeep hdir hplace
    exact ⟨a', .dotDot ha', hl⟩
  | directory hn hb hg _ ih =>
    obtain ⟨a', ha', hl⟩ := ih hkeep hdir hplace
    exact ⟨a', .directory hn hb (get?_of_frame hframe hg rfl) ha', hl⟩
  | kept hn hb hg _ _ => exact ⟨_, .kept hn hb (get?_of_frame hframe hg rfl) hkeep hdir, hplace⟩
  | link hn hb hg hopen _ ih =>
    -- what follows the link is not its target alone, so the ending stays as it is
    have hrest := hopen.resolve_right (by simp [hkeep, hdir])
    rw [Ending.behind_of_ne_nil hrest] at ih
    obtain ⟨a', ha', hl⟩ := ih hkeep hdir hplace
    refine ⟨a', .link hn hb (get?_of_frame hframe hg rfl) hopen ?_, hl⟩
    rwa [Ending.behind_of_ne_nil hrest]
  | vacant hn hb hg =>
    obtain ⟨a', ha', hl⟩ := leads_last fs' hn hb hdir
      (isLeaf_of_frame hframe (by simp [hg]))
    exact ⟨a', ha', hl.trans hplace⟩
  | leaf hn hb hg hleaf _ =>
    obtain ⟨a', ha', hl⟩ := leads_last fs' hn hb hdir
      (isLeaf_of_frame hframe (by simp [hg, hleaf]))
    exact ⟨a', ha', hl.trans hplace⟩
  | tooLong | broken | blocked => cases hplace

lemma place?_mono (hframe : fs.frame = fs'.frame) (hslash : Path.endsInSlash path = false)
    (h : fs.place? path = some l) : fs'.place? path = some l := by
  obtain ⟨a, ⟨hlen, hnul, hne, k, hk, ha⟩, hl⟩ := place?_eq_some_iff.mp h
  obtain ⟨a', ha', hl'⟩ := ha.reframe hframe rfl hslash hl
  rw [← origin_eq (congrArg Frame.directory hframe).symm] at ha'
  exact place?_eq_some_iff.mpr ⟨a', ⟨hlen, hnul, hne, k, hk, ha'⟩, hl'⟩

lemma place?_eq_of_frame (hframe : fs.frame = fs'.frame) (hslash : Path.endsInSlash path = false) :
    fs.place? path = fs'.place? path := by
  ext l
  exact ⟨place?_mono hframe hslash, place?_mono hframe.symm hslash⟩

/-! The name at the end -/

lemma last_of_cons {m : Octets} {rest : List Octets} (h : (m :: rest).getLast? = some n) :
    rest = [] ∧ m = n ∨ rest ≠ [] ∧ rest.getLast? = some n := by
  cases rest with
  | nil => exact Or.inl ⟨rfl, by simpa using h⟩
  | cons x r => exact Or.inr ⟨List.cons_ne_nil x r, by simpa only [List.getLast?_cons_cons] using h⟩

lemma Leads.at_place (h : Leads fs k e here names a) (hkeep : e.keepLink = true)
    (hdir : e.directory = false) (hplace : a.place? = some l) (hlast : names.getLast? = some n)
    (hn : IsStep n) : l.getLast? = some n ∧
      (fs.get? l = none ∧ (∃ dir, l = dir ++ [n] ∧ a = .vacant dir n) ∨
        (∃ node, fs.get? l = some node) ∧ a = .found l) := by
  induction h with
  | here => cases hlast
  | dot _ ih =>
    rcases last_of_cons hlast with ⟨rfl, rfl⟩ | ⟨-, hlast⟩
    · exact absurd rfl hn.1
    · exact ih hkeep hdir hplace hlast
  | dotDot _ ih =>
    rcases last_of_cons hlast with ⟨rfl, rfl⟩ | ⟨-, hlast⟩
    · exact absurd rfl hn.2
    · exact ih hkeep hdir hplace hlast
  | directory _ _ hg h ih =>
    rcases last_of_cons hlast with ⟨rfl, rfl⟩ | ⟨-, hlast⟩
    · cases h
      cases hplace
      exact ⟨List.getLast?_concat, Or.inr ⟨⟨_, hg⟩, rfl⟩⟩
    · exact ih hkeep hdir hplace hlast
  | link _ _ _ hopen _ ih =>
    have hrest := hopen.resolve_right (by simp [hkeep, hdir])
    rw [Ending.behind_of_ne_nil hrest] at ih
    rcases last_of_cons hlast with ⟨rfl, -⟩ | ⟨-, hlast⟩
    · exact absurd rfl hrest
    · exact ih hkeep hdir hplace (by rw [List.getLast?_append, hlast, Option.some_or])
  | vacant _ _ hg =>
    obtain rfl := Option.some.inj hlast
    cases hplace
    exact ⟨List.getLast?_concat, Or.inl ⟨hg, _, rfl, rfl⟩⟩
  | kept _ _ hg | leaf _ _ hg =>
    obtain rfl := Option.some.inj hlast
    cases hplace
    exact ⟨List.getLast?_concat, Or.inr ⟨⟨_, hg⟩, rfl⟩⟩
  | tooLong | broken | blocked => cases hplace

lemma at_place? (hn : Path.EndsIn path n) (h : fs.place? path = some l) :
    l.getLast? = some n ∧
      (fs.get? l = none ∧ (∃ dir, l = dir ++ [n] ∧ fs.Reaches true path (.vacant dir n)) ∨
        (∃ node, fs.get? l = some node) ∧ fs.Reaches true path (.found l)) := by
  obtain ⟨a, ha, hl⟩ := place?_eq_some_iff.mp h
  obtain ⟨_, _, _, k, _, hleads⟩ := id ha
  obtain ⟨hlast, ⟨hnone, dir, hdir, rfl⟩ | ⟨hsome, rfl⟩⟩ :=
    hleads.at_place rfl hn.noSlash hl hn.last hn.step
  · exact ⟨hlast, Or.inl ⟨hnone, dir, hdir, ha⟩⟩
  · exact ⟨hlast, Or.inr ⟨hsome, ha⟩⟩

lemma ne_nil_of_place? (hn : Path.EndsIn path n) (h : fs.place? path = some l) : l ≠ [] := by
  rintro rfl
  cases (at_place? hn h).1

end FileSystem

end TreePipeline
