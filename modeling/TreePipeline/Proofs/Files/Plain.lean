import TreePipeline.Proofs.Files.Places

/-! Plain places, where no link is and no file that has another name. What is done to files there
neither moves a place nor shows at another. -/

namespace TreePipeline

/-- The node but for the time of its last change. -/
def Node.untimed : Node → Node
  | .file content mode _ => .file content mode 0
  | node => node

namespace FileSystem

variable {fs fs' : FileSystem} {path n : Octets} {l here : Location} {names : List Octets}
  {k : Nat} {e : Ending} {a : Arrival} {node : Node}

structure IsPlain (fs : FileSystem) (l : Location) : Prop where
  noLink : ∀ goal, fs.get? l ≠ some (.link goal)
  single : fs.namesOf l = [l]

structure IsPlainAt (fs : FileSystem) (path : Octets) : Prop where
  named : ∃ n, Path.EndsIn path n
  plain : ∀ l, fs.place? path = some l → fs.IsPlain l

def standing (fs : FileSystem) (path : Octets) : Option Node :=
  (fs.place? path).bind fun l => (fs.get? l).map Node.untimed

lemma standing_congr {path' : Octets} (h : fs.place? path = fs.place? path') :
    fs.standing path = fs.standing path' := by
  unfold standing
  rw [h]

structure ChangesOnly (fs fs' : FileSystem) (S : Location → Prop) : Prop where
  get? : ∀ l, ¬ S l → fs'.get? l = fs.get? l
  single : ∀ l, fs.namesOf l = [l] → fs'.namesOf l = [l]
  frame : fs'.frame = fs.frame

section ChangesOnly

variable {S S' : Location → Prop}

lemma ChangesOnly.refl (fs : FileSystem) (S : Location → Prop) : fs.ChangesOnly fs S :=
  ⟨fun _ _ => rfl, fun _ h => h, rfl⟩

lemma ChangesOnly.mono (h : fs.ChangesOnly fs' S) (hS : ∀ l, S l → S' l) :
    fs.ChangesOnly fs' S' where
  get? l hl := h.get? l (mt (hS l) hl)
  single := h.single
  frame := h.frame

lemma ChangesOnly.trans {fs₁ : FileSystem} (h : fs.ChangesOnly fs' S) (h' : fs'.ChangesOnly fs₁ S) :
    fs.ChangesOnly fs₁ S where
  get? l hl := (h'.get? l hl).trans (h.get? l hl)
  single l hl := h'.single l (h.single l hl)
  frame := h'.frame.trans h.frame

lemma ChangesOnly.isPlain (h : fs.ChangesOnly fs' S) (hplain : fs.IsPlain l) : fs'.IsPlain l where
  noLink goal hget := hplain.noLink goal (get?_of_frame h.frame hget rfl)
  single := h.single l hplain.single

lemma ChangesOnly.place?_eq (h : fs.ChangesOnly fs' S) (hn : Path.EndsIn path n) :
    fs'.place? path = fs.place? path :=
  place?_eq_of_frame h.frame hn.noSlash

lemma ChangesOnly.isPlainAt (h : fs.ChangesOnly fs' S) (hpath : fs.IsPlainAt path) :
    fs'.IsPlainAt path := by
  obtain ⟨n, hn⟩ := hpath.named
  refine ⟨hpath.named, fun _ hl => ?_⟩
  rw [h.place?_eq hn] at hl
  exact h.isPlain (hpath.plain _ hl)

lemma ChangesOnly.standing_eq (h : fs.ChangesOnly fs' S) (hn : Path.EndsIn path n)
    (hpath : ∀ l, fs.place? path = some l → ¬ S l) : fs'.standing path = fs.standing path := by
  unfold standing
  rw [h.place?_eq hn]
  cases hl : fs.place? path with
  | none => rfl
  | some l => simp only [Option.bind_some, h.get? l (hpath l hl)]

end ChangesOnly

lemma changesOnly_tick (fs : FileSystem) (nanos : Nat) :
    fs.ChangesOnly (fs.tick nanos) fun _ => False where
  get? _ _ := rfl
  single _ h := h
  frame := rfl

def IsFillable (fs : FileSystem) (l : Location) : Prop :=
  ∀ node, fs.get? l = some node → node.isFile = true

lemma isFillable_of_none (h : fs.get? l = none) : fs.IsFillable l := by
  simp [IsFillable, h]

lemma isFillable_iff (hl : fs.place? path = some l) :
    fs.IsFillable l ↔ ∀ node, fs.standing path = some node → node.isFile = true := by
  have hfile : ∀ node : Node, node.untimed.isFile = node.isFile := fun node => by cases node <;> rfl
  simp [IsFillable, standing, hl, hfile]

def HoldsFile (fs : FileSystem) (path : Octets) : Prop :=
  ∃ content mode, fs.standing path = some (.file content mode 0)

lemma HoldsFile.isFillable (h : fs.HoldsFile path) (hl : fs.place? path = some l) :
    fs.IsFillable l := by
  obtain ⟨content, mode, h⟩ := h
  rw [isFillable_iff hl, h]
  rintro _ ⟨⟩
  rfl

lemma HoldsFile.exists_place? (h : fs.HoldsFile path) : ∃ l, fs.place? path = some l := by
  obtain ⟨content, mode, h⟩ := h
  obtain ⟨l, hl, -⟩ := Option.bind_eq_some_iff.mp h
  exact ⟨l, hl⟩

lemma isLeaf_of_isFile (h : node.isFile = true) : node.isLeaf = true := by
  cases node <;> first | rfl | cases h

lemma frame_eq_of_leaf (hother : ∀ k, k ≠ l → fs'.get? k = fs.get? k)
    (hleaf : ∀ node, fs.get? l = some node → node.isLeaf = true)
    (hleaf' : ∀ node, fs'.get? l = some node → node.isLeaf = true)
    (hdirectory : fs'.directory = fs.directory) (hmask : fs'.mask = fs.mask) :
    fs'.frame = fs.frame := by
  have hnone : ∀ o : Option Node, (∀ node, o = some node → node.isLeaf = true) →
      (o.filter fun node => !node.isLeaf) = none := by
    intro o ho
    cases o with
    | none => rfl
    | some node => simp [Option.filter, ho node rfl]
  unfold frame
  rw [hdirectory, hmask]
  congr 1
  funext k
  by_cases hk : k = l
  · rw [hk, hnone _ hleaf, hnone _ hleaf']
  · rw [hother k hk]

lemma changesOnly_put (hl : l ≠ []) (hfill : fs.IsFillable l) (content : Octets) (mode : Nat)
    (time : Int) : fs.ChangesOnly (fs.put l (.file content mode time)) (· = l) := by
  have hother : ∀ k, k ≠ l → (fs.put l (.file content mode time)).get? k = fs.get? k := by
    intro k hk
    rw [get?_put fs k _ hl, if_neg hk]
  refine ⟨hother, fun _ h => h, frame_eq_of_leaf hother
    (fun node hnode => isLeaf_of_isFile (hfill node hnode)) (fun node hnode => ?_) rfl rfl⟩
  rw [get?_put fs l _ hl, if_pos rfl] at hnode
  cases hnode
  rfl

lemma standing_put (hl : l ≠ []) (hfill : fs.IsFillable l) (hn : Path.EndsIn path n)
    (content : Octets) (mode : Nat) (time : Int) : (fs.put l (.file content mode time)).standing path =
      if fs.place? path = some l then some (.file content mode 0) else fs.standing path := by
  have hchange := changesOnly_put hl hfill content mode time
  split
  · rename_i hpath
    unfold standing
    rw [hchange.place?_eq hn, hpath, Option.bind_some, get?_put fs l _ hl, if_pos rfl]
    rfl
  · rename_i hpath
    refine hchange.standing_eq hn fun k hk hkl => hpath ?_
    rw [hk, hkl]

lemma lookup_filter_ne {α : Type} (table : List (Location × α)) (hne : here ≠ l) :
    (table.filter fun entry => entry.1 ≠ l).lookup here = table.lookup here := by
  induction table with
  | nil => rfl
  | cons entry rest ih =>
    by_cases hkey : entry.1 = l
    · have hskip : (here == entry.1) = false := by simpa [hkey] using hne
      rw [List.filter_cons_of_neg (by simp [hkey]), ih, List.lookup_cons, hskip]
    · rw [List.filter_cons_of_pos (by simp [hkey]), List.lookup_cons, List.lookup_cons, ih]

lemma namesOf_erase (l : Location) (h : fs.namesOf here = [here]) :
    (fs.erase l).namesOf here = [here] := by
  by_cases hne : here = l
  · have hnone : (fs.erase l).numbers.lookup here = none := by
      rw [List.lookup_eq_none_iff]
      rintro entry hentry
      have hkey := (List.mem_filter.mp hentry).2
      simp only [decide_eq_true_eq] at hkey
      simpa [hne] using Ne.symm hkey
    unfold namesOf
    rw [hnone]
  · have hlookup : (fs.erase l).numbers.lookup here = fs.numbers.lookup here :=
      lookup_filter_ne fs.numbers hne
    unfold namesOf at h ⊢
    rw [hlookup]
    cases hn : fs.numbers.lookup here with
    | none => rfl
    | some number =>
      rw [hn] at h
      simp only [List.cons.injEq, true_and, List.map_eq_nil_iff, List.filter_eq_nil_iff] at h ⊢
      exact fun entry hentry => h entry (List.mem_filter.mp hentry).1

lemma changesOnly_erase (hl : l ≠ []) (hleaf : ∀ node, fs.get? l = some node → node.isLeaf = true) :
    fs.ChangesOnly (fs.erase l) (· = l) := by
  have hother : ∀ k, k ≠ l → (fs.erase l).get? k = fs.get? k := by
    intro k hk
    rw [get?_erase fs k hl, if_neg hk]
  refine ⟨hother, fun _ => namesOf_erase l, frame_eq_of_leaf hother hleaf ?_ rfl rfl⟩
  simp [get?_erase fs l hl]

lemma standing_erase (hl : l ≠ []) (hleaf : ∀ node, fs.get? l = some node → node.isLeaf = true)
    (hpath : fs.place? path = some l) (hn : Path.EndsIn path n) :
    (fs.erase l).standing path = none := by
  unfold standing
  rw [(changesOnly_erase hl hleaf).place?_eq hn, hpath, Option.bind_some, get?_erase fs l hl,
    if_pos rfl]
  rfl

end FileSystem

end TreePipeline
