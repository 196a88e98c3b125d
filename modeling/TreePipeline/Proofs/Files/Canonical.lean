import TreePipeline.Proofs.Files.Following

/-! Canonical locations: where a path leads when all its links are followed, within the bounds on
links, names and paths. The way to a name in a directory goes through the directory. -/

namespace TreePipeline.FileSystem

def origin (fs : FileSystem) (path : Octets) : Location :=
  if Path.isAbsolute path then [] else fs.directory

def canonicalEnding (path : Octets) : Ending := ⟨false, Path.endsInSlash path, true⟩

/-- What following a path comes to when at most forty links are followed. -/
def LeadsTo (fs : FileSystem) (path : Octets) (a : Arrival) : Prop :=
  0 ∉ path ∧ path ≠ [] ∧
    ∃ k ≤ linkLimit, Leads fs k (canonicalEnding path) (fs.origin path) (Path.names path) a

variable {fs : FileSystem} {path : Octets}

lemma follow_eq {keepLink shortWay : Bool} (hnul : 0 ∉ path) (hne : path ≠ []) :
    fs.follow keepLink shortWay path =
      match fs.walk linkLimit ⟨keepLink, Path.endsInSlash path, shortWay⟩ (fs.origin path)
        (Path.names path) with
      | .ok t => .ok t
      | .error e => .error (.os e) := by
  unfold origin
  cases hwalk : fs.walk linkLimit ⟨keepLink, Path.endsInSlash path, shortWay⟩
    (if Path.isAbsolute path then [] else fs.directory) (Path.names path) with
  | ok t => simp only [follow, hnul, hne, hwalk, if_false]
  | error e => simp only [follow, hnul, hne, hwalk, if_false]

lemma follow_of_leadsTo {a : Arrival} (h : fs.LeadsTo path a) :
    fs.follow false true path =
      match a.result with
      | .ok t => .ok t
      | .error e => .error (.os e) := by
  obtain ⟨hnul, hne, hk⟩ := h
  rw [follow_eq hnul hne, ← walk_eq_result_iff.mpr hk]
  rfl

lemma LeadsTo.unique {a b : Arrival} (ha : fs.LeadsTo path a) (hb : fs.LeadsTo path b) : a = b := by
  obtain ⟨_, _, _, _, ha⟩ := ha
  obtain ⟨_, _, _, _, hb⟩ := hb
  exact ha.unique hb

lemma LeadsTo.iff_eq {a b : Arrival} (ha : fs.LeadsTo path a) : fs.LeadsTo path b ↔ b = a :=
  ⟨fun hb => hb.unique ha, fun hb => hb ▸ ha⟩

lemma canonicalize_of_not_leadsTo (hne : path ≠ []) (h : ∀ a, ¬ fs.LeadsTo path a) :
    ∃ e, fs.canonicalize path = .error e ∧ e.isNotFound = false := by
  by_cases hnul : 0 ∈ path
  · exact ⟨.nulInName, by simp [canonicalize, follow, hnul], rfl⟩
  · rcases exists_leads fs linkLimit (canonicalEnding path) (fs.origin path) (Path.names path) with
      hloop | ⟨k, hk, a, ha⟩
    · refine ⟨.os .linkLoop, ?_, rfl⟩
      rw [canonicalize, follow_eq hnul hne]
      rw [canonicalEnding] at hloop
      rw [hloop]
    · exact absurd ⟨hnul, hne, k, hk, ha⟩ (h a)

lemma canonicalize_nil (fs : FileSystem) : fs.canonicalize [] = .error (.os .noEntry) := by
  simp [canonicalize, follow]

lemma canonicalize_of_found {l : Location} (h : fs.LeadsTo path (.found l)) :
    fs.canonicalize path = .ok l := by
  simp [canonicalize, follow_of_leadsTo h, Arrival.result]

lemma canonicalize_of_missing {a : Arrival} (h : fs.LeadsTo path a) (ha : a.IsMissing) :
    fs.canonicalize path = .error (.os .noEntry) := by
  rcases ha with rfl | ⟨dir, name, rfl⟩ <;>
    simp [canonicalize, follow_of_leadsTo h, Arrival.result]

lemma canonicalize_cases (fs : FileSystem) (hne : path ≠ []) :
    (∃ l, fs.LeadsTo path (.found l) ∧ fs.canonicalize path = .ok l) ∨
      (∃ a, a.IsMissing ∧ fs.LeadsTo path a ∧ fs.canonicalize path = .error (.os .noEntry)) ∨
      ((∀ a, fs.LeadsTo path a → ¬ a.IsMissing ∧ ∀ l, a ≠ .found l) ∧
        ∃ e, fs.canonicalize path = .error e ∧ e.isNotFound = false) := by
  by_cases hex : ∃ a, fs.LeadsTo path a
  · obtain ⟨a, ha⟩ := hex
    cases a with
    | found l => exact Or.inl ⟨l, ha, canonicalize_of_found ha⟩
    | vacant dir name =>
      have hm : (Arrival.vacant dir name).IsMissing := Or.inr ⟨dir, name, rfl⟩
      exact Or.inr (Or.inl ⟨_, hm, ha, canonicalize_of_missing ha hm⟩)
    | broken => exact Or.inr (Or.inl ⟨_, Or.inl rfl, ha, canonicalize_of_missing ha (Or.inl rfl)⟩)
    | blocked =>
      refine Or.inr (Or.inr ⟨fun b hb => ?_, .os .notDirectory, ?_, rfl⟩)
      · simp [← ha.unique hb, Arrival.IsMissing]
      · simp [canonicalize, follow_of_leadsTo ha, Arrival.result]
    | tooLong =>
      refine Or.inr (Or.inr ⟨fun b hb => ?_, .os .nameTooLong, ?_, rfl⟩)
      · simp [← ha.unique hb, Arrival.IsMissing]
      · simp [canonicalize, follow_of_leadsTo ha, Arrival.result]
  · have hnone : ∀ a, ¬ fs.LeadsTo path a := fun a ha => hex ⟨a, ha⟩
    exact Or.inr (Or.inr ⟨fun a ha => absurd ha (hnone a), canonicalize_of_not_leadsTo hne hnone⟩)

lemma canonicalize_eq_ok_iff {l : Location} :
    fs.canonicalize path = .ok l ↔ fs.LeadsTo path (.found l) := by
  constructor
  · intro h
    have hne : path ≠ [] := by
      rintro rfl
      simp [canonicalize_nil] at h
    rcases canonicalize_cases fs hne with ⟨m, hm, he⟩ | ⟨a, _, _, he⟩ | ⟨_, e, he, _⟩
    · rw [he] at h
      cases h
      exact hm
    · simp [he] at h
    · simp [he] at h
  · exact canonicalize_of_found

/-! The way to what is found -/

def Grows (fs fs' : FileSystem) : Prop := ∀ l node, fs.get? l = some node → fs'.get? l = some node

lemma Grows.refl (fs : FileSystem) : fs.Grows fs := fun _ _ h => h

lemma Grows.trans {fs₁ fs₂ fs₃ : FileSystem} (h : fs₁.Grows fs₂) (h' : fs₂.Grows fs₃) :
    fs₁.Grows fs₃ := fun l node hl => h' l node (h l node hl)

structure Ending.Eases (e e' : Ending) : Prop where
  keepLink : e'.keepLink = e.keepLink
  directory : e'.directory = true → e.directory = true
  shortWay : e'.shortWay = true → e.shortWay = true
  link : e.keepLink = true → e'.directory = e.directory

lemma Ending.Eases.behind {e e' : Ending} (h : e.Eases e') (goal : Octets) (rest : List Octets) :
    (e.behind goal rest).Eases (e'.behind goal rest) where
  keepLink := h.keepLink
  directory hd := by
    simp only [Ending.behind, Bool.or_eq_true] at hd ⊢
    exact hd.imp_left h.directory
  shortWay := h.shortWay
  link hk := by simp only [Ending.behind, h.link hk]

variable {fs' : FileSystem} {e e' : Ending} {k : Nat} {here l : Location} {n : Octets}
  {names xs ys : List Octets} {a : Arrival}

lemma InBounds.ease (h : InBounds e here n) (he : e.Eases e') : InBounds e' here n :=
  ⟨h.1, fun hs => h.2 (he.shortWay hs)⟩

lemma directory_eq_false (he : e.Eases e') (hd : e.directory = false) : e'.directory = false :=
  Bool.eq_false_iff.mpr fun h => by simp [he.directory h] at hd

lemma Leads.ease (h : Leads fs k e here names a) (ha : a = .found l) (hfs : fs.Grows fs')
    (he : e.Eases e') : Leads fs' k e' here names a := by
  induction h generalizing e' with
  | here => exact .here
  | dot _ ih => exact .dot (ih ha he)
  | dotDot _ ih => exact .dotDot (ih ha he)
  | directory hn hb hg _ ih => exact .directory hn (hb.ease he) (hfs _ _ hg) (ih ha he)
  | kept hn hb hg hk hd =>
    exact .kept hn (hb.ease he) (hfs _ _ hg) (he.keepLink.trans hk) (directory_eq_false he hd)
  | @link k e here n rest goal a hn hb hg hopen _ ih =>
    refine .link hn (hb.ease he) (hfs _ _ hg) ?_ (ih ha (he.behind goal rest))
    rw [he.keepLink]
    cases hk : e.keepLink with
    | false => exact Or.inr (Or.inl rfl)
    | true => simpa only [he.link hk, hk] using hopen
  | leaf hn hb hg hleaf hd =>
    exact .leaf hn (hb.ease he) (hfs _ _ hg) hleaf (directory_eq_false he hd)
  | tooLong | vacant | broken | blocked => cases ha

lemma Ending.behind_of_ne_nil {rest : List Octets} (h : rest ≠ []) (goal : Octets) :
    e.behind goal rest = e := by
  obtain ⟨n, r, rfl⟩ := List.exists_cons_of_ne_nil h
  simp [Ending.behind]

def Ending.atDirectory (e : Ending) : Ending := { e with directory := true }

lemma Ending.behind_atDirectory (goal : Octets) (rest : List Octets) :
    e.atDirectory.behind goal rest = e.atDirectory := by
  simp [Ending.behind, Ending.atDirectory]

lemma InBounds.atDirectory (h : InBounds e here n) : InBounds e.atDirectory here n := h

def PassesThrough (fs : FileSystem) (k : Nat) (e : Ending) (here : Location) (xs ys : List Octets)
    (a : Arrival) : Prop :=
  ∃ i j mid, i + j = k ∧ Leads fs i e.atDirectory here xs (.found mid) ∧ Leads fs j e mid ys a

lemma PassesThrough.start (h : Leads fs k e here names a) (hnames : names = [] ++ ys) :
    PassesThrough fs k e here [] ys a := by
  subst hnames
  exact ⟨0, k, here, Nat.zero_add k, .here, h⟩

lemma Leads.passesThrough (h : Leads fs k e here names a) (ha : a = .found l) (hys : ys ≠ []) :
    ∀ xs, names = xs ++ ys → PassesThrough fs k e here xs ys a := by
  induction h with
  | here =>
    intro xs hnames
    exact absurd (List.append_eq_nil_iff.mp hnames.symm).2 hys
  | dot h ih =>
    rintro (_ | ⟨x, xs⟩) hnames
    · exact .start (.dot h) hnames
    · obtain ⟨rfl, hrest⟩ := List.cons.inj hnames
      obtain ⟨i, j, mid, hk, hi, hj⟩ := ih ha xs hrest
      exact ⟨i, j, mid, hk, .dot hi, hj⟩
  | dotDot h ih =>
    rintro (_ | ⟨x, xs⟩) hnames
    · exact .start (.dotDot h) hnames
    · obtain ⟨rfl, hrest⟩ := List.cons.inj hnames
      obtain ⟨i, j, mid, hk, hi, hj⟩ := ih ha xs hrest
      exact ⟨i, j, mid, hk, .dotDot hi, hj⟩
  | directory hn hb hg h ih =>
    rintro (_ | ⟨x, xs⟩) hnames
    · exact .start (.directory hn hb hg h) hnames
    · obtain ⟨rfl, hrest⟩ := List.cons.inj hnames
      obtain ⟨i, j, mid, hk, hi, hj⟩ := ih ha xs hrest
      exact ⟨i, j, mid, hk, .directory hn hb.atDirectory hg hi, hj⟩
  | @link k e here n rest goal a hn hb hg hopen h ih =>
    rintro (_ | ⟨x, xs⟩) hnames
    · exact .start (.link hn hb hg hopen h) hnames
    · obtain ⟨rfl, rfl⟩ : n = x ∧ rest = xs ++ ys := List.cons.inj hnames
      -- names follow the link, so it need not itself lead to a directory
      have hrest : xs ++ ys ≠ [] := by simp [hys]
      rw [Ending.behind_of_ne_nil hrest] at ih
      obtain ⟨i, j, mid, hk, hi, hj⟩ := ih ha (Path.names goal ++ xs) (List.append_assoc _ _ _).symm
      refine ⟨i + 1, j, mid, by omega, .link hn hb.atDirectory hg (Or.inr (Or.inr rfl)) ?_, hj⟩
      rwa [Ending.behind_atDirectory]
  | kept hn hb hg hkeep hd =>
    rintro (_ | ⟨x, xs⟩) hnames
    · exact .start (.kept hn hb hg hkeep hd) hnames
    · simp_all
  | leaf hn hb hg hleaf hd =>
    rintro (_ | ⟨x, xs⟩) hnames
    · exact .start (.leaf hn hb hg hleaf hd) hnames
    · simp_all
  | tooLong | vacant | broken | blocked => cases ha

lemma LeadsTo.split {dir : Octets} (hn : Path.IsEntryName n)
    (h : fs.LeadsTo (Path.join dir n) (.found l)) :
    0 ∉ dir ∧ ∃ i j mid, i + j ≤ linkLimit ∧
      Leads fs i (Ending.atDirectory ⟨false, false, true⟩) (fs.origin dir) (Path.names dir)
        (.found mid) ∧
      Leads fs j ⟨false, false, true⟩ mid [n] (.found l) := by
  obtain ⟨hnul, -, k, hk, h⟩ := h
  rw [canonicalEnding, Path.endsInSlash_join dir hn, origin, Path.isAbsolute_join dir hn,
    Path.names_join dir hn] at h
  obtain ⟨i, j, mid, rfl, hi, hj⟩ := h.passesThrough rfl (List.cons_ne_nil n []) _ rfl
  exact ⟨mt (Path.nul_mem_join dir hn).mpr hnul, i, j, mid, hk, hi, hj⟩

lemma LeadsTo.passesThrough {dir : Octets} (hn : Path.IsEntryName n) (hdir : dir ≠ [])
    (h : fs.LeadsTo (Path.join dir n) (.found l)) :
    ∃ j mid, fs.LeadsTo dir (.found mid) ∧ Leads fs j ⟨false, false, true⟩ mid [n] (.found l) := by
  obtain ⟨hnul, i, j, mid, hk, hi, hj⟩ := h.split hn
  have hease : (Ending.atDirectory ⟨false, false, true⟩).Eases (canonicalEnding dir) :=
    ⟨rfl, fun _ => rfl, fun _ => rfl, fun h => absurd h Bool.false_ne_true⟩
  have hmid : fs.LeadsTo dir (.found mid) :=
    ⟨hnul, hdir, i, Nat.le_trans (Nat.le_add_right i j) hk, hi.ease rfl (Grows.refl fs) hease⟩
  exact ⟨j, mid, hmid, hj⟩

lemma Leads.found_name {j : Nat} (hn : Path.IsEntryName n) (h : Leads fs j e here [n] (.found l)) :
    ∃ node, fs.get? (here ++ [n]) = some node ∧ (l = here ++ [n] ∨ ∃ goal, node = .link goal) := by
  generalize hnames : [n] = names at h
  cases h with
  | here => cases hnames
  | dot => exact absurd (List.cons.inj hnames).1 hn.ne_dot
  | dotDot => exact absurd (List.cons.inj hnames).1 hn.ne_dotDot
  | directory _ _ hg h =>
    obtain ⟨rfl, rfl⟩ := List.cons.inj hnames
    cases h
    exact ⟨_, hg, Or.inl rfl⟩
  | kept _ _ hg | leaf _ _ hg =>
    obtain ⟨rfl, -⟩ := List.cons.inj hnames
    exact ⟨_, hg, Or.inl rfl⟩
  | link _ _ hg =>
    obtain ⟨rfl, rfl⟩ := List.cons.inj hnames
    exact ⟨_, hg, Or.inr ⟨_, rfl⟩⟩

end TreePipeline.FileSystem
