import TreePipeline.Proofs.Artifact.Naming
import TreePipeline.Proofs.Text.Utf8

/-! Artifacts told by their names. A file name is taken for an artifact's just if it is the name that
the identifier and the role give. In a store it is the one part of the artifact's path behind the root. -/

namespace TreePipeline

lemma Reference.cutAtDot_eq_some_iff {cs p q : List Char} :
    cutAtDot cs = some (p, q) ↔ cs = p ++ '.' :: q ∧ '.' ∉ p := by
  induction cs generalizing p with
  | nil => simp [cutAtDot]
  | cons c cs ih =>
    by_cases hc : c = '.'
    · subst hc
      cases p with
      | nil => simp [cutAtDot, eq_comm]
      | cons d p =>
        simp only [cutAtDot, if_true, Option.some.injEq, Prod.mk.injEq, List.cons_append,
          List.cons.injEq, List.mem_cons, not_or]
        grind
    · cases p with
      | nil => simp [cutAtDot, hc]
      | cons d p =>
        simp only [cutAtDot, hc, if_false, Option.map_eq_some_iff]
        grind

lemma Role.ofExtension?_eq_some_iff {s : String} {role : Role} :
    Role.ofExtension? s = some role ↔ s = role.extension := by
  constructor
  · intro h
    have hrole := List.find?_some h
    exact (of_decide_eq_true hrole).symm
  · rintro rfl
    exact role.ofExtension?_extension

namespace ArtifactName

lemma dot_notMem (base : BaseId) : '.' ∉ base.text.toList := by
  obtain ⟨ds, h, -, hds⟩ := base.toList_eq
  have hhex : isLowerHex '.' = false := by decide
  intro hmem
  simp only [h, List.mem_cons] at hmem
  rcases hmem with hc | hc | hc | hc | hc
  · cases hc
  · cases hc
  · cases hc
  · cases hc
  · exact Bool.false_ne_true (hhex.symm.trans (hds _ hc))

lemma parse?_eq_some_iff {name : Octets} {base : BaseId} {role : Role} :
    parse? name = some (base, role) ↔ name = ofRole base role := by
  have hparts : parse? name = some (base, role) ↔ ∃ text stem ext, name = Utf8.encode text ∧
      (text.toList = stem ++ '.' :: ext ∧ '.' ∉ stem) ∧ base.text = String.ofList stem ∧
        String.ofList ext = role.extension := by
    simp only [parse?, bind, pure, Option.bind_eq_some_iff, Prod.exists, Utf8.decode?_eq_some_iff,
      Reference.cutAtDot_eq_some_iff, BaseId.parse?_eq_some_iff, Role.ofExtension?_eq_some_iff,
      Option.some.injEq, Prod.mk.injEq]
    constructor
    · rintro ⟨text, htext, stem, ext, hcut, _, hbase, _, hrole, rfl, rfl⟩
      exact ⟨text, stem, ext, htext, hcut, hbase, hrole⟩
    · rintro ⟨text, stem, ext, htext, hcut, hbase, hrole⟩
      exact ⟨text, htext, stem, ext, hcut, base, hbase, role, hrole, rfl, rfl⟩
  rw [hparts]
  constructor
  · rintro ⟨text, stem, ext, rfl, ⟨htext, -⟩, hbase, hrole⟩
    refine congrArg Utf8.encode (String.toList_injective ?_)
    rw [htext, hbase, ← hrole]
    simp
  · rintro rfl
    exact ⟨_, base.text.toList, role.extension.toList, rfl, ⟨by simp, dot_notMem base⟩, by simp,
      by simp⟩

lemma isSome_parse?_iff {name : Octets} :
    (parse? name).isSome = true ↔ ∃ base role, name = ofRole base role := by
  simp only [Option.isSome_iff_exists, Prod.exists, parse?_eq_some_iff]

end ArtifactName

namespace Store

lemma components_derive (store : Store) (base : BaseId) (role : Role) :
    Path.components (store.derive base role) =
      Path.components store.root ++ [ArtifactName.ofRole base role] :=
  Path.components_join store.root (ArtifactName.isEntryName_ofRole base role)

lemma getLast?_components_derive (store : Store) (base : BaseId) (role : Role) :
    (Path.components (store.derive base role)).getLast? = some (ArtifactName.ofRole base role) := by
  rw [components_derive, List.getLast?_concat]

lemma parse?_eq_some_iff_derive (store : Store) (name : Octets) (base : BaseId) (role : Role) :
    ArtifactName.parse? name = some (base, role) ↔
      (Path.components (store.derive base role)).getLast? = some name := by
  rw [ArtifactName.parse?_eq_some_iff, getLast?_components_derive, Option.some.injEq, eq_comm]

/-- Whatever the root, different artifacts have different paths, each of them the root's and one name that
can only be that of an entry. The names that are recognized are the last parts of these paths, and each
tells its artifact. -/
theorem derive_exact (store : Store) :
    (∀ base base' role role', store.derive base role = store.derive base' role' ↔
      base = base' ∧ role = role') ∧
    (∀ base role, ∃ n, Path.IsEntryName n ∧ Path.isAbsolute n = false ∧
      Path.components (store.derive base role) = Path.components store.root ++ [n]) ∧
    (∀ name base role, ArtifactName.parse? name = some (base, role) ↔
      (Path.components (store.derive base role)).getLast? = some name) ∧
    ∀ name, (ArtifactName.parse? name).isSome = true ↔
      ∃ base role, (Path.components (store.derive base role)).getLast? = some name := by
  refine ⟨fun base base' role role' => ⟨store.derive_inj, ?_⟩, fun base role => ?_,
    store.parse?_eq_some_iff_derive, fun name => ?_⟩
  · rintro ⟨rfl, rfl⟩
    rfl
  · have hname := ArtifactName.isEntryName_ofRole base role
    exact ⟨_, hname, Path.isAbsolute_of_isEntryName hname, store.components_derive base role⟩
  · simp only [Option.isSome_iff_exists, Prod.exists, store.parse?_eq_some_iff_derive]

end Store

end TreePipeline
