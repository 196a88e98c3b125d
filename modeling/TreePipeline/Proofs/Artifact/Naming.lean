import TreePipeline.Proofs.Files.Names
import TreePipeline.Store.Basic

/-! Names of artifacts: each can stand in a directory, and identifier and role can be told from it,
so that different artifacts of a store have different paths. -/

namespace TreePipeline

namespace Utf8

lemma encode_injective : Function.Injective encode := by
  intro s t h
  have hbytes : s.toList.utf8Encode = t.toList.utf8Encode := by
    simp only [List.utf8Encode]
    exact congrArg List.toByteArray h
  rw [← String.toByteArray_ofList, ← String.toByteArray_ofList, String.toByteArray_inj] at hbytes
  simpa using hbytes

lemma mem_encode_of_ascii {s : String} (hs : ∀ c ∈ s.toList, c.toNat ≤ 127) {b : UInt8}
    (hb : b ∈ encode s) : ∃ c ∈ s.toList, b = UInt8.ofNat c.toNat := by
  obtain ⟨c, hc, hbc⟩ := List.mem_flatMap.mp hb
  refine ⟨c, hc, ?_⟩
  simpa [String.utf8EncodeChar, hs c hc] using hbc

lemma length_encode_of_ascii {s : String} (hs : ∀ c ∈ s.toList, c.toNat ≤ 127) :
    (encode s).length = s.toList.length := by
  have hone : ∀ c ∈ s.toList, (String.utf8EncodeChar c).length = 1 := by
    intro c hc
    simp [String.utf8EncodeChar, hs c hc]
  unfold encode
  rw [List.length_flatMap, List.map_congr_left hone, List.map_const', List.sum_replicate_nat,
    Nat.mul_one]

end Utf8

def IsNameChar (c : Char) : Prop := 32 < c.toNat ∧ c.toNat ≤ 127 ∧ c ≠ '/'

instance (c : Char) : Decidable (IsNameChar c) := inferInstanceAs (Decidable (_ ∧ _))

lemma isNameChar_of_isLowerHex {c : Char} (h : isLowerHex c = true) : IsNameChar c := by
  simp only [isLowerHex, Bool.or_eq_true, Bool.and_eq_true, decide_eq_true_eq, Char.le_def,
    UInt32.le_iff_toNat_le] at h
  have hslash : c.toNat ≠ '/'.toNat → c ≠ '/' := fun hne hc => hne (hc ▸ rfl)
  simp only [Char.reduceVal, UInt32.reduceToNat] at h
  have hc : c.toNat = c.val.toNat := rfl
  refine ⟨by omega, by omega, hslash ?_⟩
  simp only [Char.reduceToNat]
  omega

namespace BaseId

lemma toList_eq (id : BaseId) : ∃ ds, id.text.toList = 'L' :: '3' :: 'D' :: '_' :: ds ∧
    ds.length = 32 ∧ ∀ c ∈ ds, isLowerHex c = true := by
  have h := id.wellFormed
  unfold isIdentifier at h
  split at h
  · rename_i ds heq
    simp only [Bool.and_eq_true, decide_eq_true_eq, List.all_eq_true] at h
    exact ⟨ds, heq, h.1, h.2⟩
  · cases h

lemma length_toList (id : BaseId) : id.text.toList.length = 36 := by
  obtain ⟨ds, h, hlen, _⟩ := id.toList_eq
  simp [h, hlen]

lemma isNameChar (id : BaseId) : ∀ c ∈ id.text.toList, IsNameChar c := by
  obtain ⟨ds, h, _, hds⟩ := id.toList_eq
  intro c hc
  rw [h] at hc
  simp only [List.mem_cons] at hc
  rcases hc with rfl | rfl | rfl | rfl | hc
  all_goals first | decide | exact isNameChar_of_isLowerHex (hds c hc)

end BaseId

namespace ArtifactName

def text (base : BaseId) (role : Role) : String := base.text ++ "." ++ role.extension

lemma isNameChar_text (base : BaseId) (role : Role) : ∀ c ∈ (text base role).toList, IsNameChar c := by
  have hdot : ".".toList.all (fun c => IsNameChar c) = true := by decide
  have hext : role.extension.toList.all (fun c => IsNameChar c) = true := by cases role <;> decide
  intro c hc
  simp only [text, String.toList_append, List.mem_append] at hc
  rcases hc with (hc | hc) | hc
  · exact base.isNameChar c hc
  · exact of_decide_eq_true (List.all_eq_true.mp hdot c hc)
  · exact of_decide_eq_true (List.all_eq_true.mp hext c hc)

lemma ofRole_inj {base base' : BaseId} {role role' : Role}
    (h : ofRole base role = ofRole base' role') : base = base' ∧ role = role' := by
  have htext : text base role = text base' role' := Utf8.encode_injective h
  have hlist := congrArg String.toList htext
  simp only [text, String.append_assoc, String.toList_append] at hlist
  obtain ⟨hbase, hext⟩ := List.append_inj hlist (base.length_toList.trans base'.length_toList.symm)
  have hb : base.text = base'.text := String.toList_injective hbase
  have hr : role.extension = role'.extension := String.toList_injective (List.append_cancel_left hext)
  refine ⟨?_, Role.extension_inj hr⟩
  cases base
  cases base'
  simpa using hb

lemma mem_ofRole {base : BaseId} {role : Role} {b : UInt8} (hb : b ∈ ofRole base role) :
    b ≠ Path.slash ∧ b ≠ 0 := by
  obtain ⟨c, hc, rfl⟩ := Utf8.mem_encode_of_ascii
    (fun c hc => (isNameChar_text base role c hc).2.1) hb
  obtain ⟨hlow, hhigh, hslash⟩ := isNameChar_text base role c hc
  have hne : c.toNat ≠ 47 := fun h => hslash (Char.ext (UInt32.toNat_inj.mp h))
  constructor <;> intro h <;> have h' := congrArg UInt8.toNat h <;>
    simp only [UInt8.toNat_ofNat', Path.slash, UInt8.reduceToNat] at h' <;> omega

lemma length_ofRole_le (base : BaseId) (role : Role) : (ofRole base role).length ≤ 41 := by
  have hlength : (text base role).toList.length = 37 + role.extension.toList.length := by
    simp only [text, String.toList_append, List.length_append, base.length_toList]
    rfl
  have hext : role.extension.toList.length ≤ 4 := by cases role <;> decide
  have hencode := Utf8.length_encode_of_ascii fun c hc => (isNameChar_text base role c hc).2.1
  change (Utf8.encode (text base role)).length ≤ 41
  omega

lemma head?_ofRole (base : BaseId) (role : Role) : (ofRole base role).head? = some 0x4c := by
  obtain ⟨ds, h, _, _⟩ := base.toList_eq
  simp [ofRole, Utf8.encode, h, String.utf8EncodeChar]

lemma isEntryName_ofRole (base : BaseId) (role : Role) : Path.IsEntryName (ofRole base role) where
  ne_nil h := by simpa [h] using head?_ofRole base role
  ne_dot h := by simpa [h, Path.dot] using head?_ofRole base role
  ne_dotDot h := by simpa [h, Path.dotDot] using head?_ofRole base role
  noSlash h := (mem_ofRole h).1 rfl
  noNul h := (mem_ofRole h).2 rfl

end ArtifactName

namespace Path

lemma join_inj {dir m n : Octets} (hm : IsEntryName m) (hn : IsEntryName n)
    (h : join dir m = join dir n) : m = n := by
  have hnames := congrArg names h
  rw [names_join dir hm, names_join dir hn] at hnames
  exact List.singleton_inj.mp (List.append_cancel_left hnames)

end Path

namespace Store

lemma derive_inj (store : Store) {base base' : BaseId} {role role' : Role}
    (h : store.derive base role = store.derive base' role') : base = base' ∧ role = role' :=
  ArtifactName.ofRole_inj (Path.join_inj (ArtifactName.isEntryName_ofRole base role)
    (ArtifactName.isEntryName_ofRole base' role') h)

lemma derive_ne_nil (store : Store) (base : BaseId) (role : Role) : store.derive base role ≠ [] :=
  Path.join_ne_nil store.root (ArtifactName.isEntryName_ofRole base role)

lemma path_setOf (store : Store) (base : BaseId) (role : Role) :
    (store.setOf base).path role = store.derive base role := by
  cases role <;> rfl

end Store

end TreePipeline
