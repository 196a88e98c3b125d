import TreePipeline.Files.Operations
import TreePipeline.Proofs.Files.Canonical

/-! What opening a path reaches: the location of an entry, or the vacant place where one could be
created. An entry that is reached stays reached as the tree grows, and so does one put in a vacant
place. -/

namespace TreePipeline.FileSystem

def Reaches (fs : FileSystem) (keepLink : Bool) (path : Octets) (a : Arrival) : Prop :=
  path.length < pathLimit ∧ 0 ∉ path ∧ path ≠ [] ∧ ∃ k ≤ linkLimit,
    Leads fs k ⟨keepLink, Path.endsInSlash path, false⟩ (fs.origin path) (Path.names path) a

def IsRegular (fs : FileSystem) (l : Location) : Prop :=
  ∃ content mode modified, fs.get? l = some (.file content mode modified)

variable {fs fs' : FileSystem} {keepLink : Bool} {path : Octets} {l dir : Location} {n : Octets}
  {node : Node} {a : Arrival}

lemma target_eq_ok_iff {t : Target} (ha : a.result = .ok t) :
    fs.target keepLink path = .ok t ↔ fs.Reaches keepLink path a := by
  unfold target Reaches
  by_cases hnul : 0 ∈ path
  · simp [follow, hnul]
  by_cases hne : path = []
  · simp [follow, hne, pathLimit]
  by_cases hlen : path.length < pathLimit
  · have hlong : ¬ (0 ∉ path ∧ pathLimit ≤ path.length) := fun h => Nat.not_lt.mpr h.2 hlen
    rw [if_neg hlong, follow_eq hnul hne, ← walk_eq_result_iff, ha]
    cases fs.walk linkLimit ⟨keepLink, Path.endsInSlash path, false⟩ (fs.origin path)
      (Path.names path) with
    | ok t' => simp [hlen, hnul, hne]
    | error e => simp
  · simp [hnul, hlen, Nat.le_of_not_lt hlen]

lemma target_eq_found_iff :
    fs.target keepLink path = .ok (.found l) ↔ fs.Reaches keepLink path (.found l) :=
  target_eq_ok_iff rfl

lemma target_eq_absent_iff :
    fs.target keepLink path = .ok (.absent dir n) ↔ fs.Reaches keepLink path (.vacant dir n) :=
  target_eq_ok_iff rfl

lemma bind_eq_ok_iff {ε α β : Type} {x : Except ε α} {f : α → Except ε β} {b : β} :
    (x >>= f) = .ok b ↔ ∃ a, x = .ok a ∧ f a = .ok b := by
  cases x with
  | error e => exact ⟨nofun, fun ⟨_, h, _⟩ => nomatch h⟩
  | ok a =>
    refine ⟨fun h => ⟨a, rfl, h⟩, ?_⟩
    rintro ⟨_, ⟨⟩, h⟩
    exact h

lemma locate_eq_ok_iff : fs.locate keepLink path = .ok l ↔ fs.Reaches keepLink path (.found l) := by
  rw [← target_eq_found_iff, locate]
  cases fs.target keepLink path with
  | error e => simp
  | ok t => cases t <;> simp

lemma stat_eq_ok_iff :
    fs.stat path = .ok node ↔ ∃ l, fs.Reaches false path (.found l) ∧ fs.get? l = some node := by
  simp only [← locate_eq_ok_iff, stat, bind_eq_ok_iff]
  refine exists_congr fun l => and_congr_right fun _ => ?_
  cases fs.get? l <;> simp

lemma LeadsTo.reaches (h : fs.LeadsTo path (.found l)) (hlen : path.length < pathLimit) :
    fs.Reaches false path (.found l) := by
  obtain ⟨hnul, hne, k, hk, h⟩ := h
  have hease : (canonicalEnding path).Eases ⟨false, Path.endsInSlash path, false⟩ :=
    ⟨rfl, id, fun hs => absurd hs Bool.false_ne_true, fun _ => rfl⟩
  exact ⟨hlen, hnul, hne, k, hk, h.ease rfl (Grows.refl fs) hease⟩

lemma Reaches.unique {b : Arrival} (ha : fs.Reaches keepLink path a) (hb : fs.Reaches keepLink path b) :
    a = b := by
  obtain ⟨_, _, _, _, _, ha⟩ := ha
  obtain ⟨_, _, _, _, _, hb⟩ := hb
  exact ha.unique hb

lemma isFile_iff :
    fs.isFile path = true ↔ ∃ l, fs.Reaches false path (.found l) ∧ fs.IsRegular l := by
  have hstat : fs.isFile path = true ↔
      ∃ content mode modified, fs.stat path = .ok (.file content mode modified) := by
    unfold isFile
    cases fs.stat path with
    | error e => simp
    | ok node => cases node <;> simp [Node.isFile]
  simp only [hstat, stat_eq_ok_iff]
  constructor
  · rintro ⟨content, mode, modified, l, hl, hfile⟩
    exact ⟨l, hl, content, mode, modified, hfile⟩
  · rintro ⟨l, hl, content, mode, modified, hfile⟩
    exact ⟨content, mode, modified, l, hl, hfile⟩

lemma length_lt_of_isFile (h : fs.isFile path = true) : path.length < pathLimit := by
  obtain ⟨_, hl, _⟩ := isFile_iff.mp h
  exact hl.1

lemma isFile_iff_of_reaches (h : fs.Reaches false path (.found l)) :
    fs.isFile path = true ↔ fs.IsRegular l := by
  rw [isFile_iff]
  constructor
  · rintro ⟨l', hl', hfile⟩
    obtain rfl : l = l' := Arrival.found.inj (h.unique hl')
    exact hfile
  · exact fun hfile => ⟨l, h, hfile⟩

lemma origin_eq (hdir : fs'.directory = fs.directory) (path : Octets) :
    fs'.origin path = fs.origin path := by
  simp only [origin, hdir]

lemma Reaches.grow (h : fs.Reaches keepLink path (.found l)) (hfs : fs.Grows fs')
    (hdir : fs'.directory = fs.directory) : fs'.Reaches keepLink path (.found l) := by
  obtain ⟨hlen, hnul, hne, k, hk, h⟩ := h
  refine ⟨hlen, hnul, hne, k, hk, ?_⟩
  rw [origin_eq hdir]
  exact h.ease rfl hfs ⟨rfl, id, id, fun _ => rfl⟩

lemma ne_nil_of_get?_eq_none (h : fs.get? l = none) : l ≠ [] := by
  rintro rfl
  simp [get?] at h

lemma Grows.put (h : fs.get? l = none) (node : Node) : fs.Grows (fs.put l node) := by
  intro k node' hk
  rw [get?_put fs k node (ne_nil_of_get?_eq_none h), if_neg]
  · exact hk
  · rintro rfl
    simp [h] at hk

lemma Leads.fill {k : Nat} {e : Ending} {here : Location} {names : List Octets}
    (h : Leads fs k e here names a) (ha : a = .vacant dir n) (hkeep : e.keepLink = true)
    (hd : e.directory = false) (hfs : fs.Grows fs') (hput : fs'.get? (dir ++ [n]) = some node)
    (hleaf : node.isLeaf = true) : Leads fs' k e here names (.found (dir ++ [n])) := by
  induction h with
  | dot _ ih => exact .dot (ih ha hkeep hd)
  | dotDot _ ih => exact .dotDot (ih ha hkeep hd)
  | directory hn hb hg _ ih => exact .directory hn hb (hfs _ _ hg) (ih ha hkeep hd)
  | link hn hb hg hopen _ ih =>
    have hrest := hopen.resolve_right (by simp [hkeep, hd])
    rw [Ending.behind_of_ne_nil hrest] at ih
    refine .link hn hb (hfs _ _ hg) hopen ?_
    rw [Ending.behind_of_ne_nil hrest]
    exact ih ha hkeep hd
  | vacant hn hb hg =>
    cases ha
    exact .leaf hn hb hput hleaf hd
  | here | tooLong | broken | kept | leaf | blocked => cases ha

lemma Reaches.fill (h : fs.Reaches true path (.vacant dir n)) (hslash : Path.endsInSlash path = false)
    (hfs : fs.Grows fs') (hdir : fs'.directory = fs.directory)
    (hput : fs'.get? (dir ++ [n]) = some node) (hleaf : node.isLeaf = true) :
    fs'.Reaches true path (.found (dir ++ [n])) := by
  obtain ⟨hlen, hnul, hne, k, hk, h⟩ := h
  refine ⟨hlen, hnul, hne, k, hk, ?_⟩
  rw [origin_eq hdir]
  exact h.fill rfl rfl hslash hfs hput hleaf

lemma Leads.get?_of_vacant {k : Nat} {e : Ending} {here : Location} {names : List Octets}
    (h : Leads fs k e here names a) (ha : a = .vacant dir n) : fs.get? (dir ++ [n]) = none := by
  induction h with
  | dot _ ih | dotDot _ ih | directory _ _ _ _ ih | link _ _ _ _ _ ih => exact ih ha
  | vacant _ _ hg =>
    cases ha
    exact hg
  | here | tooLong | broken | kept | leaf | blocked => cases ha

lemma Reaches.get?_of_vacant (h : fs.Reaches keepLink path (.vacant dir n)) :
    fs.get? (dir ++ [n]) = none := by
  obtain ⟨_, _, _, _, _, h⟩ := h
  exact h.get?_of_vacant rfl

/-! Creating a file -/

lemma createNew_of_found (h : fs.Reaches true path (.found l)) :
    fs.createNew path = .error (.os .fileExists) := by
  rw [createNew, target_eq_found_iff.mpr h]
  rfl

lemma createNew_eq_ok_iff : fs.createNew path = .ok fs' ↔
    Path.endsInSlash path = false ∧ ∃ dir n, fs.Reaches true path (.vacant dir n) ∧
      fs' = fs.put (dir ++ [n]) (.file [] fs.newFileMode fs.stamp) := by
  simp only [← target_eq_absent_iff, createNew]
  cases fs.target true path with
  | error e => simp [bind, Except.bind]
  | ok t =>
    cases t with
    | found l => simp [bind, Except.bind]
    | absent dir n => cases Path.endsInSlash path <;> simp [bind, Except.bind, eq_comm]

lemma exists_of_createNew (h : fs.createNew path = .ok fs') :
    ∃ l mode time, fs.get? l = none ∧ fs' = fs.put l (.file [] mode time) ∧
      fs'.Reaches true path (.found l) := by
  obtain ⟨hslash, dir, n, hvacant, rfl⟩ := createNew_eq_ok_iff.mp h
  have hnone := hvacant.get?_of_vacant
  refine ⟨dir ++ [n], _, _, hnone, rfl, ?_⟩
  have hput := get?_put fs (dir ++ [n]) (.file [] fs.newFileMode fs.stamp)
    (ne_nil_of_get?_eq_none hnone)
  exact hvacant.fill hslash (Grows.put hnone _) rfl (by simpa using hput) rfl

/-! Writing and removing a file -/

lemma writable_eq_ok_iff : fs.writable path = .ok l ↔
    fs.Reaches false path (.found l) ∧ fs.get? l ≠ some .directory ∨
      Path.endsInSlash path = false ∧
        ∃ dir n, fs.Reaches false path (.vacant dir n) ∧ l = dir ++ [n] := by
  simp only [← target_eq_found_iff, ← target_eq_absent_iff, writable, bind_eq_ok_iff]
  constructor
  · rintro ⟨t, ht, h⟩
    cases t with
    | found k =>
      dsimp only at h
      split_ifs at h with hdir
      obtain rfl := Except.ok.inj h
      exact Or.inl ⟨ht, hdir⟩
    | absent dir n =>
      dsimp only at h
      split_ifs at h with hslash
      obtain rfl := Except.ok.inj h
      exact Or.inr ⟨eq_false_of_ne_true hslash, dir, n, ht, rfl⟩
  · rintro (⟨ht, hdir⟩ | ⟨hslash, dir, n, ht, rfl⟩)
    · exact ⟨_, ht, if_neg hdir⟩
    · exact ⟨_, ht, if_neg (ne_true_of_eq_false hslash)⟩

lemma writeFile_eq_ok_iff {content : Octets} : fs.writeFile path content = .ok fs' ↔
    ∃ l, fs.writable path = .ok l ∧ (fs.get? l).bind (refusal? content) = none ∧
      fs' = fs.store l content := by
  rw [writeFile, bind_eq_ok_iff]
  refine exists_congr fun l => and_congr_right fun _ => ?_
  rw [writeAt]
  cases (fs.get? l).bind (refusal? content) with
  | some e => simp
  | none => simp [eq_comm]

lemma removeFile_eq_ok_iff : fs.removeFile path = .ok fs' ↔
    ∃ l, fs.Reaches true path (.found l) ∧ fs.get? l ≠ some .directory ∧ fs' = fs.erase l := by
  simp only [← locate_eq_ok_iff, removeFile, bind_eq_ok_iff]
  refine exists_congr fun l => and_congr_right fun _ => ?_
  by_cases hdir : fs.get? l = some .directory
  · simp [hdir]
  · simp [hdir, eq_comm]

end TreePipeline.FileSystem
