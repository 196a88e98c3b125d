import TreePipeline.Artifact.Encoding
import TreePipeline.Proofs.Artifact.Recognition

/-! The texts of identifiers and references. Each value has one spelling, and no other text is read, be it
given as such or in JSON; so whatever is read, made or drawn is spelled in the grammar. -/

namespace TreePipeline

variable {s : String} {id : BaseId} {r : Reference}

def lowerHexDigits : List Char := "0123456789abcdef".toList

/-- The grammar of identifiers. -/
def BaseId.IsSpelled (s : String) : Prop :=
  ∃ ds : List Char, ds.length = 32 ∧ (∀ d ∈ ds, d ∈ lowerHexDigits) ∧ s = "L3D_" ++ String.ofList ds

/-- The grammar of references. -/
def Reference.IsSpelled (s : String) : Prop :=
  ∃ id, BaseId.IsSpelled id ∧ (s = id ++ ".mesh" ∨ s = id ++ ".image")

lemma isLowerHex_iff (c : Char) : isLowerHex c = true ↔ c ∈ lowerHexDigits := by
  have hdigits : ∀ d ∈ lowerHexDigits, isLowerHex d = true := List.all_eq_true.mp (by decide)
  refine ⟨fun h => ?_, hdigits c⟩
  have hascii : ∀ n < 128, isLowerHex (Char.ofNat n) = true → Char.ofNat n ∈ lowerHexDigits := by
    decide
  have hlow := (isNameChar_of_isLowerHex h).2.1
  simpa using hascii c.toNat (by omega) (by simpa using h)

namespace BaseId

lemma isIdentifier_iff (s : String) : isIdentifier s.toList = true ↔ IsSpelled s := by
  constructor
  · intro h
    obtain ⟨ds, hs, hlength, hds⟩ := toList_eq ⟨s, h⟩
    refine ⟨ds, hlength, fun d hd => (isLowerHex_iff d).mp (hds d hd), String.toList_injective ?_⟩
    simpa using hs
  · rintro ⟨ds, hlength, hds, rfl⟩
    have hall : ds.all isLowerHex = true :=
      List.all_eq_true.mpr fun d hd => (isLowerHex_iff d).mpr (hds d hd)
    simp [isIdentifier, hlength, hall]

lemma exists_text_iff (s : String) : (∃ id : BaseId, id.text = s) ↔ IsSpelled s := by
  rw [← isIdentifier_iff]
  exact ⟨fun ⟨id, h⟩ => h ▸ id.wellFormed, fun h => ⟨⟨s, h⟩, rfl⟩⟩

end BaseId

namespace Reference

lemma name_of_exposable (r : Reference) :
    r = mesh r.base ∧ r.role.name = "mesh" ∨ r = image r.base ∧ r.role.name = "image" := by
  obtain ⟨base, role, hrole⟩ := r
  cases role with
  | source => cases hrole
  | mesh => exact Or.inl ⟨rfl, rfl⟩
  | image => exact Or.inr ⟨rfl, rfl⟩

lemma text_mesh (id : BaseId) : (mesh id).text = id.text ++ ".mesh" := by
  simp [text, mesh, Role.name, String.append_assoc]

lemma text_image (id : BaseId) : (image id).text = id.text ++ ".image" := by
  simp [text, image, Role.name, String.append_assoc]

lemma exists_text_iff (s : String) : (∃ r : Reference, r.text = s) ↔ IsSpelled s := by
  constructor
  · rintro ⟨r, rfl⟩
    refine ⟨r.base.text, (BaseId.exists_text_iff _).mp ⟨r.base, rfl⟩, ?_⟩
    rcases r.name_of_exposable with ⟨hr, -⟩ | ⟨hr, -⟩
    · exact Or.inl ((congrArg text hr).trans (text_mesh _))
    · exact Or.inr ((congrArg text hr).trans (text_image _))
  · rintro ⟨t, ht, hs⟩
    obtain ⟨id, rfl⟩ := (BaseId.exists_text_iff t).mpr ht
    rcases hs with rfl | rfl
    · exact ⟨mesh id, text_mesh id⟩
    · exact ⟨image id, text_image id⟩

lemma toList_text (r : Reference) :
    r.text.toList = r.base.text.toList ++ '.' :: r.role.name.toList := by
  simp [text]

lemma parse?_of_cut {stem role : List Char} (h : cutAtDot s.toList = some (stem, role))
    (hstem : String.ofList stem = id.text) : parse? s =
      if role = "mesh".toList then some (mesh id)
      else if role = "image".toList then some (image id)
      else none := by
  simp [parse?, h, hstem, BaseId.parse?_text]

lemma parse?_text (r : Reference) : parse? r.text = some r := by
  have hcut := cutAtDot_eq_some_iff.mpr ⟨r.toList_text, ArtifactName.dot_notMem r.base⟩
  rw [parse?_of_cut hcut (String.ofList_toList ..)]
  rcases r.name_of_exposable with ⟨hr, hname⟩ | ⟨hr, hname⟩
  · rw [hname, if_pos rfl, ← hr]
  · rw [hname, if_neg (by decide), if_pos rfl, ← hr]

lemma exists_of_parse? (h : parse? s = some r) : ∃ id : BaseId,
    r = mesh id ∧ s = id.text ++ ".mesh" ∨ r = image id ∧ s = id.text ++ ".image" := by
  obtain ⟨⟨stem, role⟩, hcut, h'⟩ := Option.bind_eq_some_iff.mp h
  obtain ⟨id, hid, -⟩ := Option.bind_eq_some_iff.mp h'
  have hstem : String.ofList stem = id.text := (BaseId.parse?_eq_some_iff.mp hid).symm
  have hs := (cutAtDot_eq_some_iff.mp hcut).1
  rw [parse?_of_cut hcut hstem] at h
  refine ⟨id, ?_⟩
  split_ifs at h with hmesh himage
  · refine Or.inl ⟨(Option.some.inj h).symm, String.toList_injective ?_⟩
    simp [hs, hmesh, ← hstem]
  · refine Or.inr ⟨(Option.some.inj h).symm, String.toList_injective ?_⟩
    simp [hs, himage, ← hstem]

lemma text_of_parse? (h : parse? s = some r) : r.text = s := by
  obtain ⟨id, ⟨rfl, rfl⟩ | ⟨rfl, rfl⟩⟩ := exists_of_parse? h
  · exact text_mesh id
  · exact text_image id

lemma parse?_eq_some_iff : parse? s = some r ↔ r.text = s :=
  ⟨text_of_parse?, fun h => h ▸ parse?_text r⟩

end Reference

/-! Reading -/

/-- Each value is read from its own text and from no other, as such or in JSON, and the texts of values are
those of the grammar. A refusal holds all of the text. -/
structure ReadsExactly {α : Type} (parse : String → Except ArtifactError α) (decode : Json.Decoder α)
    (text : α → String) (IsSpelled : String → Prop) : Prop where
  accepts (s : String) : (∃ a, parse s = .ok a) ↔ IsSpelled s
  reads (s : String) (a : α) : parse s = .ok a ↔ text a = s
  refuses (s : String) (e : ArtifactError) :
    parse s = .error e ↔ ¬ IsSpelled s ∧ e = .invalidReference s
  acceptsJson (s : String) : (∃ a, decode (.string s) = .ok a) ↔ IsSpelled s
  readsJson (v : Json) (a : α) : decode v = .ok a ↔ v = .string (text a)
  refusesJson (s : String) (e : DecodeError) : decode (.string s) = .error e ↔
    ¬ IsSpelled s ∧ e = .refused ("invalid artifact reference: " ++ s)

section Reading

variable {α : Type} {parse? : String → Option α} {parse : String → Except ArtifactError α}
  {decode : Json.Decoder α} {text : α → String} {IsSpelled : String → Prop}

lemma readsExactly_of_parse? (hread : ∀ s a, parse? s = some a ↔ text a = s)
    (hspelled : ∀ s, (∃ a, text a = s) ↔ IsSpelled s)
    (hparse : ∀ s, parse s = (parse? s).elim (.error (.invalidReference s)) .ok)
    (hdecode : ∀ v, decode v = (Json.decodeString v).bind fun s =>
      (parse s).mapError fun e => .refused e.message) :
    ReadsExactly parse decode text IsSpelled := by
  have hreads : ∀ s a, parse s = .ok a ↔ text a = s := by
    intro s a
    rw [hparse, ← hread]
    cases parse? s <;> simp
  have haccepts : ∀ s, (∃ a, parse s = .ok a) ↔ IsSpelled s := by
    intro s
    simp only [hreads, hspelled]
  have hrefuses : ∀ s e, parse s = .error e ↔ ¬ IsSpelled s ∧ e = .invalidReference s := by
    intro s e
    rw [← haccepts, hparse]
    cases parse? s <;> simp [eq_comm]
  have hstring : ∀ s, decode (.string s) = (parse s).mapError fun e => .refused e.message :=
    fun s => hdecode _
  have hreadsJson : ∀ s a, decode (.string s) = .ok a ↔ parse s = .ok a := by
    intro s a
    rw [hstring]
    cases parse s <;> simp [Except.mapError]
  refine ⟨haccepts, hreads, hrefuses, fun s => by simp only [hreadsJson, haccepts], ?_, ?_⟩
  · intro v a
    cases v with
    | string s => rw [hreadsJson, hreads, Json.string.injEq, eq_comm]
    | _ => simp [hdecode, Json.decodeString, Json.decodeText, Except.bind]
  · intro s e
    rw [hstring, ← haccepts]
    cases h : parse s with
    | ok a => simp [Except.mapError]
    | error e' =>
      have hmessage : e'.message = "invalid artifact reference: " ++ s :=
        congrArg ArtifactError.message ((hrefuses s e').mp h).2
      simp [Except.mapError, hmessage, eq_comm]

end Reading

lemma BaseId.readsExactly : ReadsExactly BaseId.parse BaseId.ofJson BaseId.text BaseId.IsSpelled := by
  refine readsExactly_of_parse? (fun _ _ => parse?_eq_some_iff) exists_text_iff (fun s => ?_) fun v => ?_
  · unfold BaseId.parse
    cases parse? s <;> rfl
  · unfold BaseId.ofJson
    cases Json.decodeString v with
    | error e => rfl
    | ok s => cases h : BaseId.parse s <;> simp [Bind.bind, Except.bind, Except.mapError, h]

lemma Reference.readsExactly :
    ReadsExactly Reference.parse Reference.ofJson Reference.text Reference.IsSpelled := by
  refine readsExactly_of_parse? (fun _ _ => parse?_eq_some_iff) exists_text_iff (fun s => ?_) fun v => ?_
  · unfold Reference.parse
    cases parse? s <;> rfl
  · unfold Reference.ofJson
    cases Json.decodeString v with
    | error e => rfl
    | ok s => cases h : Reference.parse s <;> simp [Bind.bind, Except.bind, Except.mapError, h]

/-! Values as a program comes by them -/

inductive BaseId.IsObtained : BaseId → Prop
  | generated (drawn : Vector UInt8 16) : IsObtained (.generate drawn)
  | parsed {s : String} {id : BaseId} (h : BaseId.parse s = .ok id) : IsObtained id
  | decoded {v : Json} {id : BaseId} (h : BaseId.ofJson v = .ok id) : IsObtained id

inductive Reference.IsObtained : Reference → Prop
  | mesh {id : BaseId} (h : id.IsObtained) : IsObtained (.mesh id)
  | image {id : BaseId} (h : id.IsObtained) : IsObtained (.image id)
  | parsed {s : String} {r : Reference} (h : Reference.parse s = .ok r) : IsObtained r
  | decoded {v : Json} {r : Reference} (h : Reference.ofJson v = .ok r) : IsObtained r

/-- No character of the text separates the names of a path, on whatever system. -/
def HasNoSeparator (s : String) : Prop := ∀ c ∈ s.toList, c ≠ '/' ∧ c ≠ '\\'

lemma HasNoSeparator.append {s t : String} (hs : HasNoSeparator s) (ht : HasNoSeparator t) :
    HasNoSeparator (s ++ t) := by
  intro c hc
  rw [String.toList_append, List.mem_append] at hc
  exact hc.elim (hs c) (ht c)

lemma BaseId.IsSpelled.hasNoSeparator (h : BaseId.IsSpelled s) : HasNoSeparator s := by
  obtain ⟨ds, -, hds, rfl⟩ := h
  have hdigits : ∀ c ∈ lowerHexDigits, c ≠ '/' ∧ c ≠ '\\' := by
    intro c hc
    have hhex := (isLowerHex_iff c).mpr hc
    constructor
    · rintro rfl
      exact absurd hhex (by decide)
    · rintro rfl
      exact absurd hhex (by decide)
  have hfront : HasNoSeparator "L3D_" := by simp [HasNoSeparator]
  refine hfront.append fun c hc => hdigits c (hds c ?_)
  rwa [String.toList_ofList] at hc

lemma Reference.IsSpelled.hasNoSeparator (h : Reference.IsSpelled s) : HasNoSeparator s := by
  have hmesh : HasNoSeparator ".mesh" := by simp [HasNoSeparator]
  have himage : HasNoSeparator ".image" := by simp [HasNoSeparator]
  obtain ⟨t, ht, rfl | rfl⟩ := h
  · exact ht.hasNoSeparator.append hmesh
  · exact ht.hasNoSeparator.append himage

lemma BaseId.IsObtained.isSpelled (h : id.IsObtained) : BaseId.IsSpelled id.text := by
  cases h with
  | generated drawn => exact (isIdentifier_iff _).mp (isIdentifier_toHex (Vector.length_toList ..))
  | parsed h =>
    obtain rfl := (readsExactly.reads _ id).mp h
    exact (readsExactly.accepts _).mp ⟨id, h⟩
  | decoded h =>
    obtain rfl := (readsExactly.readsJson _ id).mp h
    exact (readsExactly.acceptsJson _).mp ⟨id, h⟩

namespace Reference

lemma role_ne_source_of_parse (h : Reference.parse s = .ok r) : r.role ≠ .source := by
  have hread := parse?_eq_some_iff.mpr ((readsExactly.reads s r).mp h)
  obtain ⟨id, ⟨rfl, -⟩ | ⟨rfl, -⟩⟩ := exists_of_parse? hread
  · exact Role.noConfusion
  · exact Role.noConfusion

lemma IsObtained.isSpelled (h : r.IsObtained) : Reference.IsSpelled r.text := by
  cases h with
  | mesh h => exact ⟨_, h.isSpelled, Or.inl (text_mesh _)⟩
  | image h => exact ⟨_, h.isSpelled, Or.inr (text_image _)⟩
  | parsed h =>
    obtain rfl := (readsExactly.reads _ r).mp h
    exact (readsExactly.accepts _).mp ⟨r, h⟩
  | decoded h =>
    obtain rfl := (readsExactly.readsJson _ r).mp h
    exact (readsExactly.acceptsJson _).mp ⟨r, h⟩

lemma IsObtained.role_ne_source (h : r.IsObtained) : r.role ≠ .source := by
  cases h with
  | mesh => exact Role.noConfusion
  | image => exact Role.noConfusion
  | parsed h => exact role_ne_source_of_parse h
  | decoded => exact role_ne_source_of_parse ((readsExactly.reads r.text r).mpr rfl)

/-- References and identifiers have one text each, and just these texts are read. What a program comes by
has such a text, in which nothing separates the names of a path, and no reference is one to a source. -/
theorem texts_read_exactly :
    ReadsExactly Reference.parse Reference.ofJson Reference.text Reference.IsSpelled ∧
    ReadsExactly BaseId.parse BaseId.ofJson BaseId.text BaseId.IsSpelled ∧
    (∀ id : BaseId, id.IsObtained → BaseId.IsSpelled id.text ∧ HasNoSeparator id.text) ∧
    ∀ r : Reference, r.IsObtained →
      Reference.IsSpelled r.text ∧ HasNoSeparator r.text ∧ r.role ≠ .source :=
  ⟨readsExactly, BaseId.readsExactly, fun _ h => ⟨h.isSpelled, h.isSpelled.hasNoSeparator⟩,
    fun _ h => ⟨h.isSpelled, h.isSpelled.hasNoSeparator, h.role_ne_source⟩⟩

theorem texts_read_exactly_image :
    let s := "L3D_0123456789abcdef0123456789abcdef.image"
    (∃ r : Reference, Reference.ofJson (.string s) = .ok r ∧ r.IsObtained ∧ r.text = s ∧
      HasNoSeparator r.text ∧ r.role ≠ .source) ∧
    Reference.parse (s ++ "\n") = .error (.invalidReference (s ++ "\n")) := by
  obtain ⟨hreads, -, -, hobtained⟩ := texts_read_exactly
  have hread : Reference.parse "L3D_0123456789abcdef0123456789abcdef.image" =
      .ok (image ⟨"L3D_0123456789abcdef0123456789abcdef", by decide⟩) := (hreads.reads _ _).mpr rfl
  have h : (image ⟨"L3D_0123456789abcdef0123456789abcdef", by decide⟩).IsObtained := .parsed hread
  obtain ⟨-, hseparator, hrole⟩ := hobtained _ h
  exact ⟨⟨_, (hreads.readsJson _ _).mpr rfl, h, rfl, hseparator, hrole⟩, by decide +kernel⟩

end Reference

end TreePipeline
