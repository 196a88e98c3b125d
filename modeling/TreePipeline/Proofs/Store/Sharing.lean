import TreePipeline.Proofs.Artifact.Naming
import TreePipeline.Proofs.Files.Opening
import TreePipeline.Proofs.Files.Ordered
import TreePipeline.Store.Allocation

/-! A store that many submissions share. What is done to the files of one identifier shows at those
of no other, and comes to the same in stores that agree on that identifier. -/

namespace TreePipeline.Store

open FileSystem

variable {store : Store} {fs fs' fs₁ fs₁' : FileSystem} {base base' : BaseId} {role role' : Role}
  {l : Location} {content : Octets} {mode : Nat} {time time' : Int}

lemma endsIn_derive (store : Store) (base : BaseId) (role : Role) :
    Path.EndsIn (store.derive base role) (ArtifactName.ofRole base role) :=
  Path.endsIn_join store.root (ArtifactName.isEntryName_ofRole base role)

lemma place?_derive_inj (h : fs.place? (store.derive base role) = some l)
    (h' : fs.place? (store.derive base' role') = some l) : base = base' ∧ role = role' := by
  have hlast := (at_place? (store.endsIn_derive base role) h).1
  have hlast' := (at_place? (store.endsIn_derive base' role') h').1
  exact ArtifactName.ofRole_inj (Option.some.inj (hlast.symm.trans hlast'))

/-- No artifact is a link, and none has another name. -/
def IsPlain (store : Store) (fs : FileSystem) : Prop :=
  ∀ base role, fs.IsPlainAt (store.derive base role)

lemma isPlain_of_entries (store : Store)
    (hentries : ∀ e ∈ fs.nodes ++ fs.unlisted, (e.2.isFile || e.2.isDirectory) = true)
    (hnumbers : fs.numbers = []) : store.IsPlain fs := by
  refine fun base role => ⟨⟨_, store.endsIn_derive base role⟩, fun l hl => ⟨fun goal hget => ?_, ?_⟩⟩
  · have hne := ne_nil_of_place? (store.endsIn_derive base role) hl
    exact Bool.false_ne_true (hentries _ (mem_of_get? hne hget))
  · unfold namesOf
    rw [hnumbers]
    rfl

structure Affects (store : Store) (base : BaseId) (fs fs' : FileSystem) : Prop where
  frame : fs'.frame = fs.frame
  plain : store.IsPlain fs'
  others : ∀ base' ≠ base, ∀ role,
    fs'.standing (store.derive base' role) = fs.standing (store.derive base' role)

structure Alike (store : Store) (base : BaseId) (fs fs' : FileSystem) : Prop where
  frame : fs.frame = fs'.frame
  standing : ∀ role, fs.standing (store.derive base role) = fs'.standing (store.derive base role)

lemma Alike.place? (h : store.Alike base fs fs') (base' : BaseId) (role : Role) :
    fs.place? (store.derive base' role) = fs'.place? (store.derive base' role) :=
  place?_eq_of_frame h.frame (store.endsIn_derive base' role).noSlash

lemma affects_of_changesOnly {S : Location → Prop} (hfs : store.IsPlain fs)
    (h : fs.ChangesOnly fs' S)
    (hS : ∀ l, S l → ∃ role, fs.place? (store.derive base role) = some l) :
    store.Affects base fs fs' := by
  refine ⟨h.frame, fun base' role => h.isPlainAt (hfs base' role), fun base' hne role => ?_⟩
  refine h.standing_eq (store.endsIn_derive base' role) fun l hl hSl => hne ?_
  obtain ⟨role', hrole'⟩ := hS l hSl
  exact (place?_derive_inj hl hrole').1

lemma affects_put (hfs : store.IsPlain fs) (hl : fs.place? (store.derive base role) = some l)
    (hfill : fs.IsFillable l) (content : Octets) (mode : Nat) (time : Int) :
    store.Affects base fs (fs.put l (.file content mode time)) := by
  have hne := ne_nil_of_place? (store.endsIn_derive base role) hl
  exact affects_of_changesOnly hfs (changesOnly_put hne hfill content mode time)
    fun k hk => ⟨role, hk ▸ hl⟩

lemma alike_tick (store : Store) (base : BaseId) (fs : FileSystem) (nanos : Nat) :
    store.Alike base (fs.tick nanos) fs where
  frame := (changesOnly_tick fs nanos).frame
  standing role := (changesOnly_tick fs nanos).standing_eq (store.endsIn_derive base role)
    fun _ _ hl => hl

lemma isPlain_tick (hfs : store.IsPlain fs) (nanos : Nat) : store.IsPlain (fs.tick nanos) :=
  fun base role => (changesOnly_tick fs nanos).isPlainAt (hfs base role)

lemma standing_put_derive (hl : fs.place? (store.derive base role) = some l)
    (hfill : fs.IsFillable l) (content : Octets) (mode : Nat) (time : Int) (role' : Role) :
    (fs.put l (.file content mode time)).standing (store.derive base role') =
      if role' = role then some (.file content mode 0)
      else fs.standing (store.derive base role') := by
  have hne := ne_nil_of_place? (store.endsIn_derive base role) hl
  rw [standing_put hne hfill (store.endsIn_derive base role')]
  refine if_congr ⟨fun hl' => (place?_derive_inj hl' hl).2, fun hrole => ?_⟩ rfl rfl
  rw [hrole, hl]

lemma Alike.isFillable_iff (h : store.Alike base fs fs')
    (hl : fs.place? (store.derive base role) = some l) : fs.IsFillable l ↔ fs'.IsFillable l := by
  have hl' := (h.place? base role).symm.trans hl
  rw [FileSystem.isFillable_iff hl, FileSystem.isFillable_iff hl', h.standing role]

lemma Alike.put (h : store.Alike base fs fs')
    (hl : fs.place? (store.derive base role) = some l) (hfill : fs.IsFillable l) (content : Octets)
    (mode : Nat) (time time' : Int) :
    store.Alike base (fs.put l (.file content mode time))
      (fs'.put l (.file content mode time')) := by
  have hl' := (h.place? base role).symm.trans hl
  have hfill' := (h.isFillable_iff hl).mp hfill
  have hne := ne_nil_of_place? (store.endsIn_derive base role) hl
  refine ⟨?_, fun role' => ?_⟩
  · rw [(changesOnly_put hne hfill ..).frame, (changesOnly_put hne hfill' ..).frame, h.frame]
  · rw [standing_put_derive hl hfill, standing_put_derive hl' hfill', h.standing role']

/-! Reserving -/

lemma attempt_eq_reserved_iff : store.attempt base fs = .reserved fs₁ ↔
    ∃ l, fs.place? (store.derive base .source) = some l ∧ fs.get? l = none ∧
      fs₁ = fs.put l (.file [] fs.newFileMode fs.stamp) := by
  rw [← createNew_eq_ok_iff_place? (store.endsIn_derive base .source)]
  unfold attempt
  cases fs.createNew (store.derive base .source) with
  | ok fs₂ => simp
  | error e =>
    dsimp only
    split <;> simp

lemma standing_eq_none_iff (hl : fs.place? (store.derive base role) = some l) :
    fs.standing (store.derive base role) = none ↔ fs.get? l = none := by
  simp [FileSystem.standing, hl]

lemma Alike.reserve (h : store.Alike base fs fs') (hfs : store.IsPlain fs)
    (hfs' : store.IsPlain fs') (hattempt : store.attempt base fs = .reserved fs₁) :
    fs.standing (store.derive base .source) = none ∧
      fs₁.HoldsFile (store.derive base .source) ∧ store.Affects base fs fs₁ ∧
      ∃ fs₁', store.attempt base fs' = .reserved fs₁' ∧ store.Affects base fs' fs₁' ∧
        store.Alike base fs₁ fs₁' := by
  obtain ⟨l, hl, hnone, rfl⟩ := attempt_eq_reserved_iff.mp hattempt
  have hl' := (h.place? base .source).symm.trans hl
  have hstanding := (standing_eq_none_iff hl).mpr hnone
  have hnone' : fs'.get? l = none :=
    (standing_eq_none_iff hl').mp ((h.standing .source).symm.trans hstanding)
  have hfill := isFillable_of_none hnone
  refine ⟨hstanding, ⟨[], fs.newFileMode, ?_⟩, affects_put hfs hl hfill _ _ _, _,
    attempt_eq_reserved_iff.mpr ⟨l, hl', hnone', rfl⟩,
    affects_put hfs' hl' (isFillable_of_none hnone') _ _ _, ?_⟩
  · rw [standing_put_derive hl hfill, if_pos rfl]
  · rw [← newFileMode_of_frame h.frame]
    exact h.put hl hfill _ _ _ _

/-! Writing -/

lemma Alike.write (h : store.Alike base fs fs') (hfs : store.IsPlain fs) (hfs' : store.IsPlain fs')
    (hsource : fs.HoldsFile (store.derive base .source)) (content : Octets) :
    ∃ fs₁ fs₁' mode, fs.writeFile (store.derive base .source) content = .ok fs₁ ∧
      fs'.writeFile (store.derive base .source) content = .ok fs₁' ∧ store.Affects base fs fs₁ ∧
      store.Affects base fs' fs₁' ∧ store.Alike base fs₁ fs₁' ∧
      fs₁.standing (store.derive base .source) = some (.file content mode 0) := by
  obtain ⟨l, hl⟩ := hsource.exists_place?
  have hl' := (h.place? base .source).symm.trans hl
  have hfill := hsource.isFillable hl
  have hfill' := (h.isFillable_iff hl).mp hfill
  have hmode := modeFor_congr h.frame (h.standing .source) hl hl'
  refine ⟨_, _, fs.modeFor l, (hfs base .source).writeFile_eq_ok hl hfill content,
    (hfs' base .source).writeFile_eq_ok hl' hfill' content, affects_put hfs hl hfill _ _ _,
    affects_put hfs' hl' hfill' _ _ _, ?_, ?_⟩
  · rw [← hmode]
    exact h.put hl hfill _ _ _ _
  · rw [standing_put_derive hl hfill, if_pos rfl]

end TreePipeline.Store
