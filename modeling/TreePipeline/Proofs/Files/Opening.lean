import TreePipeline.Proofs.Files.Plain

/-! What is done to files by paths that lead to plain places. Opening such a path follows no link at
its end, and so comes to the same wherever the same stands at the place. -/

namespace TreePipeline.FileSystem

variable {fs fs' : FileSystem} {path n : Octets} {l here : Location} {names : List Octets}
  {k : Nat} {e : Ending} {a : Arrival} {node : Node}

lemma createNew_eq_ok_iff_place? (hn : Path.EndsIn path n) : fs.createNew path = .ok fs' ↔
    ∃ l, fs.place? path = some l ∧ fs.get? l = none ∧
      fs' = fs.put l (.file [] fs.newFileMode fs.stamp) := by
  rw [createNew_eq_ok_iff]
  constructor
  · rintro ⟨-, dir, m, hvacant, hfs⟩
    exact ⟨_, place?_eq_some_iff.mpr ⟨_, hvacant, rfl⟩, hvacant.get?_of_vacant, hfs⟩
  · rintro ⟨l, hl, hnone, hfs⟩
    obtain ⟨-, ⟨-, dir, rfl, hvacant⟩ | ⟨⟨node, hnode⟩, -⟩⟩ := at_place? hn hl
    · exact ⟨hn.noSlash, dir, n, hvacant, hfs⟩
    · simp [hnone] at hnode

lemma Leads.release (h : Leads fs k e here names a)
    (ha : ∀ l goal, a = .found l → fs.get? l ≠ some (.link goal)) :
    Leads fs k { e with keepLink := false } here names a := by
  induction h with
  | here => exact .here
  | dot _ ih => exact .dot (ih ha)
  | dotDot _ ih => exact .dotDot (ih ha)
  | tooLong hn hb => exact .tooLong hn hb
  | vacant hn hb hg => exact .vacant hn hb hg
  | broken hn hb hg hr => exact .broken hn hb hg hr
  | directory hn hb hg _ ih => exact .directory hn hb hg (ih ha)
  | kept _ _ hg => exact absurd hg (ha _ _ rfl)
  | link hn hb hg _ _ ih => exact .link hn hb hg (Or.inr (Or.inl rfl)) (ih ha)
  | leaf hn hb hg hleaf hd => exact .leaf hn hb hg hleaf hd
  | blocked hn hb hg hleaf hgo => exact .blocked hn hb hg hleaf hgo

lemma Leads.keep (h : Leads fs k e here names a) :
    ∃ j ≤ k, Leads fs j { e with keepLink := true } here names a ∨
      ∃ l, Leads fs j { e with keepLink := true } here names (.found l) := by
  induction h with
  | here => exact ⟨0, Nat.le_refl 0, Or.inl .here⟩
  | dot _ ih =>
    obtain ⟨j, hj, h⟩ := ih
    exact ⟨j, hj, h.imp .dot fun ⟨l, h⟩ => ⟨l, .dot h⟩⟩
  | dotDot _ ih =>
    obtain ⟨j, hj, h⟩ := ih
    exact ⟨j, hj, h.imp .dotDot fun ⟨l, h⟩ => ⟨l, .dotDot h⟩⟩
  | tooLong hn hb => exact ⟨0, Nat.le_refl 0, Or.inl (.tooLong hn hb)⟩
  | vacant hn hb hg => exact ⟨0, Nat.le_refl 0, Or.inl (.vacant hn hb hg)⟩
  | broken hn hb hg hr => exact ⟨0, Nat.le_refl 0, Or.inl (.broken hn hb hg hr)⟩
  | directory hn hb hg _ ih =>
    obtain ⟨j, hj, h⟩ := ih
    exact ⟨j, hj, h.imp (.directory hn hb hg) fun ⟨l, h⟩ => ⟨l, .directory hn hb hg h⟩⟩
  | kept hn hb hg _ hd => exact ⟨0, Nat.le_refl 0, Or.inl (.kept hn hb hg rfl hd)⟩
  | @link k e here n rest goal a hn hb hg _ _ ih =>
    by_cases hend : rest = [] ∧ e.directory = false
    · obtain ⟨rfl, hd⟩ := hend
      exact ⟨0, Nat.zero_le _, Or.inr ⟨_, .kept hn hb hg rfl hd⟩⟩
    · have hgo : rest ≠ [] ∨ e.directory = true := by
        simpa only [not_and_or, Bool.not_eq_false] using hend
      have hopen : rest ≠ [] ∨ true = false ∨ e.directory = true := hgo.imp_right Or.inr
      obtain ⟨j, hj, h⟩ := ih
      exact ⟨j + 1, Nat.succ_le_succ hj,
        h.imp (.link hn hb hg hopen) fun ⟨l, h⟩ => ⟨l, .link hn hb hg hopen h⟩⟩
  | leaf hn hb hg hleaf hd => exact ⟨0, Nat.le_refl 0, Or.inl (.leaf hn hb hg hleaf hd)⟩
  | blocked hn hb hg hleaf hgo => exact ⟨0, Nat.le_refl 0, Or.inl (.blocked hn hb hg hleaf hgo)⟩

lemma Reaches.release (h : fs.Reaches true path a)
    (ha : ∀ l goal, a = .found l → fs.get? l ≠ some (.link goal)) : fs.Reaches false path a := by
  obtain ⟨hlen, hnul, hne, k, hk, h⟩ := h
  exact ⟨hlen, hnul, hne, k, hk, h.release ha⟩

lemma Reaches.release_file {content : Octets} {mode : Nat} {time : Int}
    (h : fs.Reaches true path (.found l)) (hl : fs.get? l = some (.file content mode time)) :
    fs.Reaches false path (.found l) := by
  refine h.release fun k goal hk hlink => ?_
  obtain rfl := Arrival.found.inj hk
  cases hl.symm.trans hlink

lemma exists_place?_of_reaches (h : fs.Reaches false path a) (hl : a.place? = some l) :
    ∃ l', fs.place? path = some l' := by
  obtain ⟨hlen, hnul, hne, k, hk, h⟩ := h
  obtain ⟨j, hj, hleads | ⟨l', hleads⟩⟩ := h.keep
  · exact ⟨l, place?_eq_some_iff.mpr
      ⟨a, ⟨hlen, hnul, hne, j, Nat.le_trans hj hk, hleads⟩, hl⟩⟩
  · exact ⟨l', place?_eq_some_iff.mpr
      ⟨.found l', ⟨hlen, hnul, hne, j, Nat.le_trans hj hk, hleads⟩, rfl⟩⟩

lemma IsPlainAt.reaches (hpath : fs.IsPlainAt path) (hl : fs.place? path = some l) :
    fs.get? l = none ∧ (∃ dir n, l = dir ++ [n] ∧ fs.Reaches false path (.vacant dir n)) ∨
      (∃ node, fs.get? l = some node) ∧ fs.Reaches false path (.found l) := by
  obtain ⟨n, hn⟩ := hpath.named
  obtain ⟨-, ⟨hnone, dir, hdir, hvacant⟩ | ⟨hsome, hfound⟩⟩ := at_place? hn hl
  · exact Or.inl ⟨hnone, dir, n, hdir, hvacant.release (by simp)⟩
  · refine Or.inr ⟨hsome, hfound.release fun k goal hk => ?_⟩
    obtain rfl := Arrival.found.inj hk
    exact (hpath.plain l hl).noLink goal

def modeFor (fs : FileSystem) (l : Location) : Nat :=
  match fs.get? l with
  | some (.file _ mode _) => mode
  | _ => fs.newFileMode

lemma store_of_isFillable (hsingle : fs.namesOf l = [l]) (hfill : fs.IsFillable l) (content : Octets) :
    fs.store l content = fs.put l (.file content (fs.modeFor l) fs.stamp) := by
  unfold store modeFor
  cases hget : fs.get? l with
  | none => rfl
  | some node =>
    have hfile := hfill node hget
    cases node with
    | file content' mode time =>
      simp only [putAll, hsingle, List.foldl_cons, List.foldl_nil]
    | directory | link | device => cases hfile

lemma putIn_putIn (ns : List (Location × Node)) (l : Location) (m n : Node) :
    putIn l n (putIn l m ns) = putIn l n ns := by
  induction ns with
  | nil => simp [putIn]
  | cons e r ih =>
    by_cases he : e.1 = l
    · simp [putIn, he]
    · simp [putIn, he, ih]

lemma put_put (fs : FileSystem) (l : Location) (m n : Node) :
    (fs.put l m).put l n = fs.put l n := by
  simp [put, putIn_putIn]

def HasPlace (fs : FileSystem) (path : Octets) (l : Location) : Prop :=
  ∀ content, fs.writeFile path content = .ok (fs.store l content)

lemma hasPlace_of_createNew (h : fs.createNew path = .ok fs') :
    ∃ l, fs.get? l = none ∧ fs' = fs.put l (.file [] fs.newFileMode fs.stamp) ∧ fs'.HasPlace path l ∧
      ∀ content mode time, (fs.put l (.file content mode time)).Reaches true path (.found l) := by
  obtain ⟨hslash, dir, n, hvacant, rfl⟩ := createNew_eq_ok_iff.mp h
  have hnone := hvacant.get?_of_vacant
  have hne := ne_nil_of_get?_eq_none hnone
  generalize hl : dir ++ [n] = l at hnone hne
  have hget : ∀ node, (fs.put l node).get? l = some node := fun node => by
    rw [get?_put fs l node hne, if_pos rfl]
  have hreaches : ∀ content mode time,
      (fs.put l (.file content mode time)).Reaches true path (.found l) := by
    subst hl
    exact fun _ _ _ => hvacant.fill hslash (Grows.put hnone _) rfl (hget _) rfl
  let created := fs.put l (.file [] fs.newFileMode fs.stamp)
  have hcreated : created.get? l = some (.file [] fs.newFileMode fs.stamp) := hget _
  have hwritable : created.writable path = .ok l :=
    writable_eq_ok_iff.mpr (Or.inl ⟨(hreaches _ _ _).release_file hcreated, by simp [hcreated]⟩)
  refine ⟨l, hnone, rfl, fun content => writeFile_eq_ok_iff.mpr ⟨l, hwritable, ?_, rfl⟩, hreaches⟩
  rw [hcreated]
  rfl

lemma writeFile_of_createNew (hsingle : ∀ l, fs.get? l = none → fs.namesOf l = [l])
    (h : fs.createNew path = .ok fs') (content : Octets) :
    ∃ l mode time, fs.get? l = none ∧
      fs'.writeFile path content = .ok (fs.put l (.file content mode time)) ∧
      (fs.put l (.file content mode time)).Reaches true path (.found l) := by
  obtain ⟨l, hnone, rfl, hplace, hreaches⟩ := hasPlace_of_createNew h
  let created := fs.put l (.file [] fs.newFileMode fs.stamp)
  have hfill : created.IsFillable l := fun node hnode => by
    rw [get?_put fs l _ (ne_nil_of_get?_eq_none hnone), if_pos rfl] at hnode
    obtain rfl := Option.some.inj hnode
    rfl
  have hname : created.namesOf l = [l] := hsingle l hnone
  refine ⟨l, created.modeFor l, created.stamp, hnone, ?_, hreaches _ _ _⟩
  rw [hplace content, store_of_isFillable hname hfill]
  exact congrArg Except.ok (put_put ..)

/-- The later tree has one entry more, a file of that content to which the path leads. -/
def AddsFile (before : FileSystem) (path content : Octets) (after : FileSystem) : Prop :=
  ∃ l mode time, before.get? l = none ∧ after = before.put l (.file content mode time) ∧
    after.locate true path = .ok l ∧ after.readFile path = .ok content ∧
    ∀ k, k ≠ l → after.get? k = before.get? k

lemma exists_addsFile (hsingle : ∀ l, fs.get? l = none → fs.namesOf l = [l])
    (h : fs.createNew path = .ok fs') (content : Octets) :
    ∃ after, fs'.writeFile path content = .ok after ∧ fs.AddsFile path content after := by
  obtain ⟨l, mode, time, hnone, hwrite, hreaches⟩ := writeFile_of_createNew hsingle h content
  have hget := fun k => get?_put fs k (.file content mode time) (ne_nil_of_get?_eq_none hnone)
  have hl := (hget l).trans (if_pos rfl)
  refine ⟨_, hwrite, l, mode, time, hnone, rfl, locate_eq_ok_iff.mpr hreaches, ?_,
    fun k hk => (hget k).trans (if_neg hk)⟩
  unfold readFile
  rw [stat_eq_ok_iff.mpr ⟨l, hreaches.release_file hl, hl⟩]
  rfl

lemma store_of_not_isFillable (hfill : ¬ fs.IsFillable l) (content : Octets) :
    fs.store l content = fs := by
  unfold store
  cases hget : fs.get? l with
  | none => exact absurd (isFillable_of_none hget) hfill
  | some node =>
    cases node with
    | file content' mode time => exact absurd (by simp [IsFillable, hget, Node.isFile]) hfill
    | directory | link | device => rfl

lemma writeAt_of_isFillable (hsingle : fs.namesOf l = [l]) (hfill : fs.IsFillable l)
    (content : Octets) :
    fs.writeAt l content = .ok (fs.put l (.file content (fs.modeFor l) fs.stamp)) := by
  have hrefusal : (fs.get? l).bind (refusal? content) = none := by
    cases hget : fs.get? l with
    | none => rfl
    | some node =>
      cases node with
      | file => rfl
      | directory | link | device => cases hfill _ hget
  unfold writeAt
  rw [hrefusal, store_of_isFillable hsingle hfill]

lemma writeAt_of_not_isFillable (hfill : ¬ fs.IsFillable l) (content : Octets) :
    (∃ e, fs.writeAt l content = .error e) ∨ fs.writeAt l content = .ok fs := by
  unfold writeAt
  rw [store_of_not_isFillable hfill]
  split
  · exact Or.inl ⟨_, rfl⟩
  · exact Or.inr rfl

lemma writeAt_congr (hstanding : fs.standing path = fs'.standing path) (hl : fs.place? path = some l)
    (hl' : fs'.place? path = some l) (content : Octets) :
    (∃ e, fs.writeAt l content = .error e ∧ fs'.writeAt l content = .error e) ∨
      fs.writeAt l content = .ok (fs.store l content) ∧
        fs'.writeAt l content = .ok (fs'.store l content) := by
  have huntimed : ∀ found : Option Node,
      (found.map Node.untimed).bind (refusal? content) = found.bind (refusal? content) := by
    rintro (_ | node)
    · rfl
    · cases node <;> rfl
  simp only [standing, hl, hl', Option.bind_some] at hstanding
  have hrefusal : (fs.get? l).bind (refusal? content) = (fs'.get? l).bind (refusal? content) := by
    rw [← huntimed, hstanding, huntimed]
  unfold writeAt
  rw [← hrefusal]
  cases (fs.get? l).bind (refusal? content) with
  | some e => exact Or.inl ⟨_, rfl, rfl⟩
  | none => exact Or.inr ⟨rfl, rfl⟩

lemma IsPlainAt.writeFile_eq (hpath : fs.IsPlainAt path) (hl : fs.place? path = some l)
    (content : Octets) : fs.writeFile path content =
      if fs.get? l = some .directory then .error (.os .isDirectory) else fs.writeAt l content := by
  obtain ⟨n, hn⟩ := hpath.named
  unfold writeFile writable
  obtain ⟨hnone, dir, m, rfl, hvacant⟩ | ⟨⟨node, hnode⟩, hfound⟩ := hpath.reaches hl
  · rw [target_eq_absent_iff.mpr hvacant, hnone]
    simp [bind, Except.bind, hn.noSlash]
  · rw [target_eq_found_iff.mpr hfound]
    by_cases hdir : fs.get? l = some .directory <;> simp [bind, Except.bind, hdir]

lemma IsPlainAt.writeFile_eq_ok (hpath : fs.IsPlainAt path) (hl : fs.place? path = some l)
    (hfill : fs.IsFillable l) (content : Octets) :
    fs.writeFile path content = .ok (fs.put l (.file content (fs.modeFor l) fs.stamp)) := by
  have hdir : fs.get? l ≠ some .directory := fun hget => Bool.false_ne_true (hfill _ hget)
  rw [hpath.writeFile_eq hl, if_neg hdir, writeAt_of_isFillable (hpath.plain l hl).single hfill]

lemma writeFile_of_no_place (h : fs.place? path = none) (content : Octets) :
    ∃ e, fs.writeFile path content = .error e := by
  have hnot : ∀ a l, fs.Reaches false path a → a.place? ≠ some l := by
    intro a l ha hl
    obtain ⟨l', hl'⟩ := exists_place?_of_reaches ha hl
    simp [h] at hl'
  cases hwrite : fs.writeFile path content with
  | error e => exact ⟨e, rfl⟩
  | ok written =>
    obtain ⟨l, hl, -, -⟩ := writeFile_eq_ok_iff.mp hwrite
    rcases writable_eq_ok_iff.mp hl with ⟨hfound, -⟩ | ⟨-, dir, n, hvacant, rfl⟩
    · exact absurd rfl (hnot _ l hfound)
    · exact absurd rfl (hnot _ _ hvacant)

lemma IsPlainAt.pathExists_eq (hpath : fs.IsPlainAt path) :
    fs.pathExists path = (fs.standing path).isSome := by
  have hexists : fs.pathExists path = true ↔
      ∃ l node, fs.Reaches false path (.found l) ∧ fs.get? l = some node := by
    unfold pathExists
    cases hstat : fs.stat path with
    | error e =>
      simp only [Bool.false_eq_true, false_iff]
      rintro ⟨l, node, hl⟩
      simp [stat_eq_ok_iff.mpr ⟨l, hl⟩] at hstat
    | ok node =>
      obtain ⟨l, hl⟩ := stat_eq_ok_iff.mp hstat
      exact ⟨fun _ => ⟨l, node, hl⟩, fun _ => rfl⟩
  rw [Bool.eq_iff_iff, hexists]
  unfold standing
  constructor
  · rintro ⟨l, node, hfound, hnode⟩
    obtain ⟨l', hl'⟩ := exists_place?_of_reaches hfound rfl
    obtain ⟨-, dir, m, -, hvacant⟩ | ⟨-, hfound'⟩ := hpath.reaches hl'
    · cases hvacant.unique hfound
    · obtain rfl := Arrival.found.inj (hfound'.unique hfound)
      simp [hl', hnode]
  · intro h
    obtain ⟨node, hnode⟩ := Option.isSome_iff_exists.mp h
    obtain ⟨l, hl, hmap⟩ := Option.bind_eq_some_iff.mp hnode
    obtain ⟨node', hnode', -⟩ := Option.map_eq_some_iff.mp hmap
    obtain ⟨hnone, -⟩ | ⟨-, hfound⟩ := hpath.reaches hl
    · simp [hnone] at hnode'
    · exact ⟨l, node', hfound, hnode'⟩

lemma newFileMode_of_frame (hframe : fs.frame = fs'.frame) : fs.newFileMode = fs'.newFileMode := by
  have hmask : fs.mask = fs'.mask := congrArg Frame.mask hframe
  unfold newFileMode
  rw [hmask]

lemma modeFor_congr (hframe : fs.frame = fs'.frame) (hstanding : fs.standing path = fs'.standing path)
    (hl : fs.place? path = some l) (hl' : fs'.place? path = some l) :
    fs.modeFor l = fs'.modeFor l := by
  simp only [standing, hl, hl', Option.bind_some] at hstanding
  unfold modeFor
  rw [newFileMode_of_frame hframe]
  cases hget : fs.get? l with
  | none =>
    cases hget' : fs'.get? l with
    | none => rfl
    | some node' => simp [hget, hget'] at hstanding
  | some node =>
    cases hget' : fs'.get? l with
    | none => simp [hget, hget'] at hstanding
    | some node' =>
      simp only [hget, hget', Option.map_some, Option.some.injEq] at hstanding
      cases node <;> cases node' <;> simp_all [Node.untimed]

lemma IsPlainAt.readFile_eq_ok {content : Octets} {mode : Nat} {time : Int}
    (hpath : fs.IsPlainAt path) (h : fs.standing path = some (.file content mode time)) :
    fs.readFile path = .ok content := by
  obtain ⟨l, hl, hmap⟩ := Option.bind_eq_some_iff.mp h
  obtain ⟨node, hnode, huntimed⟩ := Option.map_eq_some_iff.mp hmap
  obtain ⟨hnone, -⟩ | ⟨-, hfound⟩ := hpath.reaches hl
  · simp [hnone] at hnode
  · unfold readFile
    rw [stat_eq_ok_iff.mpr ⟨l, hfound, hnode⟩]
    cases node <;> cases huntimed
    rfl

/-! Operations at one place -/

structure ActsAt (path : Octets) (op : FileSystem → Except SystemError FileSystem) : Prop where
  changes : ∀ fs fs₁, fs.IsPlainAt path → op fs = .ok fs₁ →
    fs.ChangesOnly fs₁ fun l => fs.place? path = some l
  agrees : ∀ fs fs', fs.frame = fs'.frame → fs.IsPlainAt path → fs'.IsPlainAt path →
    fs.standing path = fs'.standing path →
    (∃ e e', op fs = .error e ∧ op fs' = .error e') ∨
      ∃ fs₁ fs₁', op fs = .ok fs₁ ∧ op fs' = .ok fs₁' ∧ fs₁.standing path = fs₁'.standing path

lemma IsPlainAt.changesOnly_writeFile {content : Octets} (hpath : fs.IsPlainAt path)
    (h : fs.writeFile path content = .ok fs') :
    fs.ChangesOnly fs' fun l => fs.place? path = some l := by
  obtain ⟨n, hn⟩ := hpath.named
  cases hl : fs.place? path with
  | none =>
    obtain ⟨e, he⟩ := writeFile_of_no_place hl content
    simp [he] at h
  | some l =>
    by_cases hfill : fs.IsFillable l
    · rw [hpath.writeFile_eq_ok hl hfill] at h
      obtain rfl := Except.ok.inj h
      have hput := changesOnly_put (ne_nil_of_place? hn hl) hfill content (fs.modeFor l) fs.stamp
      exact hput.mono fun k hk => congrArg some hk.symm
    · rw [hpath.writeFile_eq hl] at h
      split at h
      · cases h
      · obtain ⟨e, he⟩ | hsame := writeAt_of_not_isFillable hfill content
        · cases he.symm.trans h
        · obtain rfl := Except.ok.inj (hsame.symm.trans h)
          exact .refl fs _

lemma actsAt_writeFile (path content : Octets) : ActsAt path fun fs => fs.writeFile path content where
  changes _ _ hpath := hpath.changesOnly_writeFile
  agrees fs fs' hframe hpath hpath' hstanding := by
    obtain ⟨n, hn⟩ := hpath.named
    have hplace : fs.place? path = fs'.place? path := place?_eq_of_frame hframe hn.noSlash
    cases hl : fs.place? path with
    | none =>
      obtain ⟨e, he⟩ := writeFile_of_no_place hl content
      obtain ⟨e', he'⟩ := writeFile_of_no_place (hplace.symm.trans hl) content
      exact Or.inl ⟨e, e', he, he'⟩
    | some l =>
      have hl' : fs'.place? path = some l := hplace.symm.trans hl
      have hfills : fs.IsFillable l ↔ fs'.IsFillable l := by
        rw [isFillable_iff hl, isFillable_iff hl', hstanding]
      by_cases hfill : fs.IsFillable l
      · have hfill' := hfills.mp hfill
        have hne := ne_nil_of_place? hn hl
        refine Or.inr ⟨_, _, hpath.writeFile_eq_ok hl hfill content,
          hpath'.writeFile_eq_ok hl' hfill' content, ?_⟩
        rw [standing_put hne hfill hn, standing_put hne hfill' hn, if_pos hl, if_pos hl',
          modeFor_congr hframe hstanding hl hl']
      · -- a directory or a device is in the way, in both trees
        have hdir : fs.get? l = some .directory ↔ fs'.get? l = some .directory :=
          ⟨fun h => get?_of_frame hframe h rfl, fun h => get?_of_frame hframe.symm h rfl⟩
        rw [hpath.writeFile_eq hl, hpath'.writeFile_eq hl']
        by_cases h : fs.get? l = some .directory
        · exact Or.inl ⟨_, _, if_pos h, if_pos (hdir.mp h)⟩
        · rw [if_neg h, if_neg (mt hdir.mpr h)]
          obtain ⟨e, he, he'⟩ | ⟨hok, hok'⟩ := writeAt_congr hstanding hl hl' content
          · exact Or.inl ⟨e, e, he, he'⟩
          · rw [store_of_not_isFillable hfill] at hok
            rw [store_of_not_isFillable (mt hfills.mpr hfill)] at hok'
            exact Or.inr ⟨fs, fs', hok, hok', hstanding⟩

def HoldsLeaf (fs : FileSystem) (path : Octets) : Prop :=
  ∃ node, fs.standing path = some node ∧ node.isLeaf = true

lemma holdsLeaf_iff (hl : fs.place? path = some l) :
    fs.HoldsLeaf path ↔ ∃ node, fs.get? l = some node ∧ node.isLeaf = true := by
  have hleaf : ∀ node : Node, node.untimed.isLeaf = node.isLeaf := fun node => by cases node <;> rfl
  simp [HoldsLeaf, standing, hl, hleaf]

lemma HoldsLeaf.isLeaf (h : fs.HoldsLeaf path) (hl : fs.place? path = some l) :
    ∀ node, fs.get? l = some node → node.isLeaf = true := by
  obtain ⟨node, hnode, hleaf⟩ := (holdsLeaf_iff hl).mp h
  simp [hnode, hleaf]

lemma IsPlainAt.removeFile_eq_ok_iff (hpath : fs.IsPlainAt path) : fs.removeFile path = .ok fs' ↔
    ∃ l, fs.place? path = some l ∧ fs.HoldsLeaf path ∧ fs' = fs.erase l := by
  obtain ⟨n, hn⟩ := hpath.named
  rw [FileSystem.removeFile_eq_ok_iff]
  constructor
  · rintro ⟨l, hfound, hdir, rfl⟩
    have hl := place?_eq_some_iff.mpr ⟨_, hfound, rfl⟩
    refine ⟨l, hl, (holdsLeaf_iff hl).mpr ?_, rfl⟩
    obtain ⟨-, ⟨-, dir, -, hvacant⟩ | ⟨⟨node, hnode⟩, -⟩⟩ := at_place? hn hl
    · cases hvacant.unique hfound
    · refine ⟨node, hnode, ?_⟩
      cases node with
      | directory => exact absurd hnode hdir
      | link goal => exact absurd hnode ((hpath.plain l hl).noLink goal)
      | file | device => rfl
  · rintro ⟨l, hl, hholds, rfl⟩
    obtain ⟨node, hnode, hleaf⟩ := (holdsLeaf_iff hl).mp hholds
    obtain ⟨-, ⟨hnone, -⟩ | ⟨-, hfound⟩⟩ := at_place? hn hl
    · simp [hnode] at hnone
    · refine ⟨l, hfound, fun hget => ?_, rfl⟩
      obtain rfl := Option.some.inj (hnode.symm.trans hget)
      cases hleaf

lemma actsAt_removeFile (path : Octets) : ActsAt path fun fs => fs.removeFile path where
  changes fs fs₁ hpath h := by
    obtain ⟨n, hn⟩ := hpath.named
    obtain ⟨l, hl, hholds, rfl⟩ := hpath.removeFile_eq_ok_iff.mp h
    have herase := changesOnly_erase (ne_nil_of_place? hn hl) (hholds.isLeaf hl)
    exact herase.mono fun k hk => hk ▸ hl
  agrees fs fs' hframe hpath hpath' hstanding := by
    obtain ⟨n, hn⟩ := hpath.named
    have hplace : fs.place? path = fs'.place? path := place?_eq_of_frame hframe hn.noSlash
    have hholds : fs.HoldsLeaf path ↔ fs'.HoldsLeaf path := by
      unfold HoldsLeaf
      rw [hstanding]
    cases hfs : fs.removeFile path with
    | ok fs₁ =>
      obtain ⟨l, hl, hleaf, rfl⟩ := hpath.removeFile_eq_ok_iff.mp hfs
      have hl' := hplace.symm.trans hl
      have hleaf' := hholds.mp hleaf
      have hne := ne_nil_of_place? hn hl
      refine Or.inr ⟨_, _, rfl, hpath'.removeFile_eq_ok_iff.mpr ⟨l, hl', hleaf', rfl⟩, ?_⟩
      rw [standing_erase hne (hleaf.isLeaf hl) hl hn, standing_erase hne (hleaf'.isLeaf hl') hl' hn]
    | error e =>
      cases hfs' : fs'.removeFile path with
      | error e' => exact Or.inl ⟨e, e', rfl, rfl⟩
      | ok fs₁ =>
        obtain ⟨l, hl', hleaf', -⟩ := hpath'.removeFile_eq_ok_iff.mp hfs'
        have hok := hpath.removeFile_eq_ok_iff.mpr ⟨l, hplace.trans hl', hholds.mpr hleaf', rfl⟩
        cases hfs.symm.trans hok

/-! Making directories. What was there stays, and nothing is given another name. -/

section Making

variable {fs'' : FileSystem}

/-- Nothing has other names where nothing stands. -/
def IsTidy (fs : FileSystem) : Prop := ∀ l, fs.get? l = none → fs.namesOf l = [l]

structure Keeps (fs fs' : FileSystem) : Prop where
  grows : fs.Grows fs'
  numbers : fs'.numbers = fs.numbers

lemma Keeps.refl (fs : FileSystem) : fs.Keeps fs := ⟨.refl fs, rfl⟩

lemma Keeps.trans (h : fs.Keeps fs') (h' : fs'.Keeps fs'') : fs.Keeps fs'' :=
  ⟨h.grows.trans h'.grows, h'.numbers.trans h.numbers⟩

lemma Keeps.isTidy (h : fs.Keeps fs') (hfs : fs.IsTidy) : fs'.IsTidy := by
  intro l hl
  have hbefore : fs.get? l = none := by
    cases hget : fs.get? l with
    | none => rfl
    | some node => cases (h.grows l node hget).symm.trans hl
  rw [namesOf, h.numbers]
  exact hfs l hbefore

lemma keeps_putDirectory (h : fs.get? l = none) : fs.Keeps (fs.putDirectory l) := by
  have hput : fs.Keeps (fs.put l .directory) := ⟨Grows.put h _, rfl⟩
  have hget : (fs.put l .directory).get? l = some .directory := by
    rw [get?_put fs l .directory (ne_nil_of_get?_eq_none h), if_pos rfl]
  unfold putDirectory
  dsimp only
  split
  · exact hput
  · rw [setModeAt, hget]
    exact ⟨hput.grows, rfl⟩

lemma keeps_makeDirectory (h : fs.makeDirectory path = .ok fs') : fs.Keeps fs' := by
  obtain ⟨t, ht, h⟩ := bind_eq_ok_iff.mp h
  cases t with
  | found l => cases h
  | absent dir name =>
    obtain rfl := Except.ok.inj h
    exact keeps_putDirectory (target_eq_absent_iff.mp ht).get?_of_vacant

lemma keeps_makeDeepest {missing paths rest : List Octets}
    (h : fs.makeDeepest missing paths = .ok (fs', rest)) : fs.Keeps fs' := by
  induction paths generalizing missing with
  | nil =>
    obtain ⟨rfl, -⟩ := Prod.mk.inj (Except.ok.inj h)
    exact .refl fs
  | cons path paths ih =>
    unfold makeDeepest at h
    split at h
    · obtain ⟨rfl, -⟩ := Prod.mk.inj (Except.ok.inj h)
      exact .refl fs
    · split at h
      · rename_i hmake
        obtain ⟨rfl, -⟩ := Prod.mk.inj (Except.ok.inj h)
        exact keeps_makeDirectory hmake
      · split_ifs at h
        · exact ih h
        · obtain ⟨rfl, -⟩ := Prod.mk.inj (Except.ok.inj h)
          exact .refl fs

lemma keeps_makeEach {paths : List Octets} (h : fs.makeEach paths = .ok fs') : fs.Keeps fs' := by
  induction paths generalizing fs with
  | nil =>
    obtain rfl := Except.ok.inj h
    exact .refl fs
  | cons path paths ih =>
    unfold makeEach at h
    split at h
    · rename_i hmake
      exact (keeps_makeDirectory hmake).trans (ih h)
    · split_ifs at h
      exact ih h

lemma keeps_makeDirectories (h : fs.makeDirectories path = .ok fs') : fs.Keeps fs' := by
  unfold makeDirectories at h
  split_ifs at h
  · obtain rfl := Except.ok.inj h
    exact .refl fs
  · obtain ⟨⟨between, missing⟩, hmake, h⟩ := bind_eq_ok_iff.mp h
    exact (keeps_makeDeepest hmake).trans (keeps_makeEach h)

end Making

end TreePipeline.FileSystem
