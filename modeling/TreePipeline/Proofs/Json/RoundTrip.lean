import Mathlib.Data.List.Forall2
import Mathlib.Data.List.Induction
import Mathlib.Data.List.Nodup
import TreePipeline.Config.Encoding
import TreePipeline.Json.Decode
import TreePipeline.Proofs.Artifact.Spelling
import TreePipeline.Report

/-! Settings and reports are read back as they were written, however their members come to be arranged. The
order of members counts for nothing, nor do members that are no fields; the values of an array are taken
in the order of the fields, and there is one for each. -/

namespace TreePipeline

namespace Json

variable {ms own : Members} {name type : String} {v : Json} {fields : List Field} {f : Field}
  {values items : List Json}

/-! Members -/

namespace Members

lemma get?_concat (ms : Members) (k : String) (v : Json) (name : String) :
    get? (ms ++ [(k, v)]) name = if k = name then some v else get? ms name := by
  simp [get?, List.foldl_append]

lemma mem_of_get? (h : get? ms name = some v) : (name, v) ∈ ms := by
  induction ms using List.reverseRecOn with
  | nil => cases h
  | append_singleton ms m ih =>
    rw [get?_concat] at h
    split_ifs at h with hname
    · obtain rfl := Option.some.inj h
      exact List.mem_append_right ms (by simp [← hname])
    · exact List.mem_append_left _ (ih h)

lemma get?_eq_none_iff : get? ms name = none ↔ ∀ v, (name, v) ∉ ms := by
  induction ms using List.reverseRecOn with
  | nil => simp [get?]
  | append_singleton ms m ih =>
    obtain ⟨k, w⟩ := m
    rw [get?_concat]
    by_cases hname : k = name
    · rw [if_pos hname]
      exact iff_of_false (by simp) fun h => h w (by simp [hname])
    · simp [hname, ih, Ne.symm hname]

lemma get?_congr (h : ∀ v, (name, v) ∈ ms ↔ (name, v) ∈ own) (hown : (own.map Prod.fst).Nodup) :
    get? ms name = get? own name := by
  cases hget : get? own name with
  | none => exact get?_eq_none_iff.mpr fun v hv => get?_eq_none_iff.mp hget v ((h v).mp hv)
  | some v =>
    have hmem := mem_of_get? hget
    cases hfound : get? ms name with
    | none => exact absurd ((h v).mpr hmem) (get?_eq_none_iff.mp hfound v)
    | some w =>
      have hw := (h w).mp (mem_of_get? hfound)
      have heq := List.inj_on_of_nodup_map hown hw hmem rfl
      rw [(Prod.mk.inj heq).2]

end Members

/-! Records -/

structure Fits (fields : List Field) (own : Members) : Prop where
  unique : (own.map Prod.fst).Nodup
  passes : ∀ f ∈ fields, ∀ v, (f.name, v) ∈ own → f.check v = .ok ()
  present : ∀ f ∈ fields, f.optional = false → ∃ v, (f.name, v) ∈ own

def Arranges (fields : List Field) (own ms : Members) : Prop :=
  ∃ extra : Members, ms.Perm (own ++ extra) ∧ ∀ m ∈ extra, ∀ f ∈ fields, f.name ≠ m.1

/-- Each field has the same value in both, if one that is missing is taken to be null. -/
def Agrees (fields : List Field) (ms own : Members) : Prop :=
  ∀ f ∈ fields, (Members.get? ms f.name).getD .null = (Members.get? own f.name).getD .null

lemma Agrees.trans {ms' : Members} (h : Agrees fields ms own) (h' : Agrees fields own ms') :
    Agrees fields ms ms' :=
  fun f hf => (h f hf).trans (h' f hf)

lemma Arranges.refl (fields : List Field) (own : Members) : Arranges fields own own :=
  ⟨[], by simp, by simp⟩

lemma Arranges.mem_iff (h : Arranges fields own ms) (hf : f ∈ fields) (v : Json) :
    (f.name, v) ∈ ms ↔ (f.name, v) ∈ own := by
  obtain ⟨extra, hperm, hextra⟩ := h
  rw [hperm.mem_iff, List.mem_append]
  exact or_iff_left fun hv => hextra _ hv f hf rfl

lemma Arranges.agrees (h : Arranges fields own ms) (hfits : Fits fields own) :
    Agrees fields ms own :=
  fun _ hf => congrArg (Option.getD · .null) (Members.get?_congr (h.mem_iff hf) hfits.unique)

lemma checkMembers_of_passes (h : ∀ f ∈ fields, ∀ v, (f.name, v) ∈ ms → f.check v = .ok ()) :
    checkMembers fields ms = .ok () := by
  induction ms with
  | nil => rfl
  | cons m ms ih =>
    obtain ⟨k, v⟩ := m
    have hrest := ih fun f hf v hv => h f hf v (List.mem_cons_of_mem _ hv)
    unfold checkMembers
    split
    · exact hrest
    · rename_i f hfind
      have hname : f.name = k := by simpa using List.find?_some hfind
      have hcheck := h f (List.mem_of_find?_eq_some hfind) v (hname ▸ List.mem_cons_self)
      simp only [hcheck, bind, Except.bind, hrest]

lemma checkPresent_of_present
    (h : ∀ f ∈ fields, f.optional = false → ∃ v, (f.name, v) ∈ ms) :
    checkPresent ms fields = .ok () := by
  induction fields with
  | nil => rfl
  | cons f fields ih =>
    have hfound : (f.optional || (Members.get? ms f.name).isSome) = true := by
      cases hoptional : f.optional with
      | true => rfl
      | false =>
        obtain ⟨v, hv⟩ := h f List.mem_cons_self hoptional
        cases hget : Members.get? ms f.name with
        | none => exact absurd hv (Members.get?_eq_none_iff.mp hget v)
        | some w => rfl
    rw [checkPresent, if_pos hfound]
    exact ih fun f hf => h f (List.mem_cons_of_mem _ hf)

lemma recordMembers_object (type : String) (hfits : Fits fields own)
    (h : Arranges fields own ms) : recordMembers type fields (.object ms) = .ok ms := by
  have hmembers : checkMembers fields (Members.sorted ms) = .ok () := by
    refine checkMembers_of_passes fun f hf v hv => hfits.passes f hf v ((h.mem_iff hf v).mp ?_)
    exact (List.mergeSort_perm _ _).mem_iff.mp hv
  have hpresent : checkPresent ms fields = .ok () := by
    refine checkPresent_of_present fun f hf hoptional => ?_
    obtain ⟨v, hv⟩ := hfits.present f hf hoptional
    exact ⟨v, (h.mem_iff hf v).mpr hv⟩
  simp only [recordMembers, hmembers, hpresent, bind, Except.bind]
  rfl

/-! Members that are left out -/

def isNull : Json → Bool
  | .null => true
  | _ => false

def given (own : Members) : Members := own.filter fun m => !m.2.isNull

lemma eq_null_of_isNull (h : v.isNull = true) : v = .null := by
  cases v with
  | null => rfl
  | bool | integer | float | string | array | object => cases h

lemma mem_given_of_ne_null {m : String × Json} (hm : m ∈ own) (hnull : m.2 ≠ .null) :
    m ∈ given own := by
  refine List.mem_filter.mpr ⟨hm, ?_⟩
  simpa using fun h => hnull (eq_null_of_isNull h)

lemma Fits.unique_given (h : Fits fields own) : ((given own).map Prod.fst).Nodup :=
  h.unique.sublist (List.filter_sublist.map Prod.fst)

lemma Fits.given (h : Fits fields own)
    (hrequired : ∀ f ∈ fields, f.optional = false → f.check .null ≠ .ok ()) :
    Fits fields (given own) where
  unique := h.unique_given
  passes f hf v hv := h.passes f hf v (List.mem_of_mem_filter hv)
  present f hf hoptional := by
    obtain ⟨v, hv⟩ := h.present f hf hoptional
    refine ⟨v, mem_given_of_ne_null hv ?_⟩
    rintro rfl
    exact hrequired f hf hoptional (h.passes f hf .null hv)

lemma Fits.agrees_given (h : Fits fields own) : Agrees fields (Json.given own) own := by
  intro f _
  cases hgiven : Members.get? (Json.given own) f.name with
  | some v =>
    have hv := List.mem_of_mem_filter (Members.mem_of_get? hgiven)
    cases hget : Members.get? own f.name with
    | none => exact absurd hv (Members.get?_eq_none_iff.mp hget v)
    | some w =>
      have heq := List.inj_on_of_nodup_map h.unique hv (Members.mem_of_get? hget) rfl
      rw [(Prod.mk.inj heq).2]
  | none =>
    cases hget : Members.get? own f.name with
    | none => rfl
    | some w =>
      by_cases hnull : w = .null
      · simp [hnull]
      · have hw := mem_given_of_ne_null (Members.mem_of_get? hget) hnull
        exact absurd hw (Members.get?_eq_none_iff.mp hgiven w)

/-! Arrays -/

def named (fields : List Field) (values : List Json) : Members :=
  List.zipWith (fun f v => (f.name, v)) fields values

/-- Each value passes the test of its field, and there is one for every field. -/
abbrev Passes (fields : List Field) (values : List Json) : Prop :=
  List.Forall₂ (fun f v => f.check v = .ok ()) fields values

lemma map_fst_named (h : Passes fields values) :
    (named fields values).map Prod.fst = fields.map Field.name := by
  induction h with
  | nil => rfl
  | cons _ _ ih => exact congrArg _ ih

lemma exists_mem_named (h : Passes fields values) (hf : f ∈ fields) :
    ∃ v, (f.name, v) ∈ named fields values := by
  have hname : f.name ∈ (named fields values).map Prod.fst := by
    rw [map_fst_named h]
    exact List.mem_map_of_mem hf
  obtain ⟨⟨_, v⟩, hv, rfl⟩ := List.mem_map.mp hname
  exact ⟨v, hv⟩

lemma exists_field_of_mem_named (h : Passes fields values) {m : String × Json}
    (hm : m ∈ named fields values) : ∃ f ∈ fields, f.name = m.1 ∧ f.check m.2 = .ok () := by
  induction h with
  | nil => cases hm
  | @cons f v fields values hcheck _ ih =>
    rcases List.mem_cons.mp hm with rfl | hm
    · exact ⟨f, List.mem_cons_self, rfl, hcheck⟩
    · obtain ⟨g, hg, hname, hpass⟩ := ih hm
      exact ⟨g, List.mem_cons_of_mem _ hg, hname, hpass⟩

lemma fits_named (hfields : (fields.map Field.name).Nodup) (h : Passes fields values) :
    Fits fields (named fields values) where
  unique := by rwa [map_fst_named h]
  passes f hf v hv := by
    obtain ⟨g, hg, hname, hcheck⟩ := exists_field_of_mem_named h hv
    obtain rfl := List.inj_on_of_nodup_map hfields hg hf hname
    exact hcheck
  present _ hf _ := exists_mem_named h hf

lemma pairItems_of_passes (type : String) (count done : Nat) (h : Passes fields values) :
    pairItems type count done fields values = .ok (named fields values) := by
  induction h generalizing done with
  | nil => rfl
  | cons hcheck _ ih =>
    simp only [pairItems, hcheck, ih, bind, Except.bind]
    rfl

lemma recordMembers_array (type : String) (h : Passes fields values) :
    recordMembers type fields (.array values) = .ok (named fields values) := by
  have hlength : ¬ fields.length < values.length := by
    rw [h.length_eq]
    exact Nat.lt_irrefl _
  simp only [recordMembers, pairItems_of_passes type _ 0 h, bind, Except.bind, if_neg hlength]
  rfl

lemma length_le_of_pairItems {count done : Nat} (h : pairItems type count done fields items = .ok ms) :
    fields.length ≤ items.length := by
  induction fields generalizing items done ms with
  | nil => exact Nat.zero_le _
  | cons f fields ih =>
    cases items with
    | nil => cases h
    | cons v items =>
      unfold pairItems at h
      cases hcheck : f.check v with
      | error e => simp [hcheck, bind, Except.bind] at h
      | ok =>
        cases hrest : pairItems type count (done + 1) fields items with
        | error e => simp [hcheck, hrest, bind, Except.bind] at h
        | ok rest => exact Nat.succ_le_succ (ih hrest)

lemma recordMembers_of_length_ne (type : String) (h : items.length ≠ fields.length) :
    ∃ e, recordMembers type fields (.array items) = .error e := by
  cases hpair : pairItems type fields.length 0 fields items with
  | error e => exact ⟨e, by simp only [recordMembers, hpair, bind, Except.bind]⟩
  | ok ms =>
    have hlong : fields.length < items.length :=
      Nat.lt_of_le_of_ne (length_le_of_pairItems hpair) h.symm
    refine ⟨.invalidLength items.length "fewer elements in array", ?_⟩
    simp only [recordMembers, hpair, bind, Except.bind, if_pos hlong]

end Json

namespace Json

variable {α : Type} {d : Decoder α} {f : α → Json} {a : α} {fields : List Field} {own ms : Members} {v : Json}
  {values : List Json} {type : String} {encode : α → Json} {decode : Decoder α}

/-! Reading values -/

lemma decodeUInt64_ofNat (type : String) (n : UInt64) :
    decodeUInt64 type (.ofNat n.toNat) = .ok n := by
  have hn : (n.toNat : Int) ≤ 0xffffffffffffffff := by
    have := n.toNat_lt
    omega
  simp [decodeUInt64, decodeNat, ofNat, hn, Except.map]

lemma decodeUInt32_ofNat (type : String) (n : UInt32) :
    decodeUInt32 type (.ofNat n.toNat) = .ok n := by
  have hn : (n.toNat : Int) ≤ 0xffffffff := by
    have := n.toNat_lt
    omega
  simp [decodeUInt32, decodeNat, ofNat, hn, Except.map]

lemma decodeString_string (s : String) : decodeString (.string s) = .ok s := rfl

lemma decodePath_string (s : String) : decodePath (.string s) = .ok s := rfl

lemma decodeTimestamp_string {t : Timestamp} (h : Timestamp.read t.toText = .ok t) :
    decodeTimestamp (.string t.toText) = .ok t := by
  simp only [decodeTimestamp, h]

lemma decodeOption_map (hread : ∀ a, d (f a) = .ok a) (hnull : ∀ a, f a ≠ .null) (x : Option α) :
    decodeOption d ((x.map f).getD .null) = .ok x := by
  cases x with
  | none => rfl
  | some a =>
    have hsome : decodeOption d (f a) = (d (f a)).map some := by
      unfold decodeOption
      split
      · rename_i h
        exact absurd h (hnull a)
      · rfl
    rw [Option.map_some, Option.getD_some, hsome, hread]
    rfl

lemma ofJson_stage (s : Stage) : Stage.ofJson s.toJson = .ok s := by
  cases s <;> rfl

lemma ofJson_reference (r : Reference) : Reference.ofJson r.toJson = .ok r := by
  simp [Reference.ofJson, Reference.toJson, Reference.parse, Reference.parse?_text, decodeString,
    decodeText, bind, Except.bind]

lemma check_required (name : String) (h : d v = .ok a) :
    (Field.required name d).check v = .ok () := by
  simp [Field.required, h, Except.map]

lemma check_maybe (name : String) {x : Option α} (h : decodeOption d v = .ok x) :
    (Field.maybe name d).check v = .ok () := by
  simp [Field.maybe, h, Except.map]

lemma Agrees.field (h : Agrees fields ms own) (name : String)
    (hname : name ∈ fields.map Field.name) (hget : (Members.get? own name).getD .null = v)
    (hread : d v = .ok a) : ms.field name d = .ok a := by
  obtain ⟨g, hg, rfl⟩ := List.mem_map.mp hname
  rw [Members.field, h g hg, hget, hread]

/-! Reading records -/

def Reads (type : String) (fields : List Field) (decode : Decoder α) (own : Members) (a : α) : Prop :=
  ∀ v ms, recordMembers type fields v = .ok ms → Agrees fields ms own → decode v = .ok a

/-- A value is read back from its own object, and from any other that has the members of that one, in
whatever order and whatever else there is. -/
structure ReadsBack (fields : List Field) (encode : α → Json) (decode : Decoder α) (a : α) : Prop where
  own : decode (encode a) = .ok a
  arranged : ∃ own, encode a = .object own ∧
    ∀ ms, Arranges fields own ms → decode (.object ms) = .ok a

/-- Values are read back from the array of the fields as well, and there is no array longer or
shorter than that. -/
structure ReadsArrays (fields : List Field) (encode : α → Json) (decode : Decoder α) : Prop where
  inOrder : ∀ a, ∃ values, values.length = fields.length ∧
    encode a = .object (named fields values) ∧ decode (.array values) = .ok a
  refuses : ∀ items : List Json, items.length ≠ fields.length → ∃ e, decode (.array items) = .error e

lemma Reads.readsBack (h : Reads type fields decode own a) (hfits : Fits fields own)
    (hencode : encode a = .object own) : ReadsBack fields encode decode a := by
  have harranged : ∀ ms, Arranges fields own ms → decode (.object ms) = .ok a := fun ms hms =>
    h _ ms (recordMembers_object type hfits hms) (hms.agrees hfits)
  exact ⟨hencode ▸ harranged own (.refl fields own), own, hencode, harranged⟩

lemma Reads.of_agrees {own' : Members} (h : Reads type fields decode own a)
    (hagrees : Agrees fields own' own) : Reads type fields decode own' a :=
  fun v ms hms hown => h v ms hms (hown.trans hagrees)

lemma Reads.array (h : Reads type fields decode (named fields values) a)
    (hvalues : Passes fields values) : decode (.array values) = .ok a :=
  h _ _ (recordMembers_array type hvalues) fun _ _ => rfl

end Json

/-! Settings -/

namespace Config

variable (c : Config)

def values : List Json :=
  [.ofNat c.cpuLimitSecs.toNat, .ofNat c.wallFactor.toNat, .string c.artifactDir,
    .string c.buildCommand, .string c.renderCommand,
    (c.buildIterations.map fun n => Json.ofNat n.toNat).getD .null, .string c.display,
    .ofNat c.captureLimit.toNat]

lemma decode_iterations : Json.decodeOption (Json.decodeUInt32 "u32")
    ((c.buildIterations.map fun n => Json.ofNat n.toNat).getD .null) = .ok c.buildIterations :=
  Json.decodeOption_map (Json.decodeUInt32_ofNat "u32") (fun _ h => by cases h) _

lemma passes_values : Json.Passes fields c.values := by
  refine .cons (Json.check_required _ (Json.decodeUInt64_ofNat ..)) <|
    .cons (Json.check_required _ (Json.decodeUInt32_ofNat ..)) <|
    .cons (Json.check_required _ rfl) <| .cons (Json.check_required _ rfl) <|
    .cons (Json.check_required _ rfl) <| .cons (Json.check_maybe _ c.decode_iterations) <|
    .cons (Json.check_required _ rfl) <|
    .cons (Json.check_required _ (Json.decodeUInt64_ofNat ..)) .nil

lemma reads : Json.Reads "struct PipelineConfig" fields ofJson (Json.named fields c.values) c := by
  intro v ms hms hagrees
  simp only [ofJson, hms, bind, Except.bind,
    hagrees.field "cpu_limit_secs" (by decide) rfl (Json.decodeUInt64_ofNat ..),
    hagrees.field "wall_factor" (by decide) rfl (Json.decodeUInt32_ofNat ..),
    hagrees.field "artifact_dir" (by decide) rfl (Json.decodePath_string _),
    hagrees.field "build_command" (by decide) rfl (Json.decodePath_string _),
    hagrees.field "render_command" (by decide) rfl (Json.decodePath_string _),
    hagrees.field "build_iterations" (by decide) rfl c.decode_iterations,
    hagrees.field "display" (by decide) rfl (Json.decodeString_string _),
    hagrees.field "capture_limit_bytes" (by decide) rfl (Json.decodeUInt64_ofNat ..)]
  rfl

end Config

namespace StageConfig

variable (s : StageConfig)

def values : List Json :=
  [s.stage.toJson, .string s.program, .ofNat s.cpuLimitSecs.toNat, .ofNat s.wallLimitSecs.toNat,
    .ofNat s.captureLimit.toNat, (s.iterations.map fun n => Json.ofNat n.toNat).getD .null,
    (s.display.map Json.string).getD .null]

lemma decode_iterations : Json.decodeOption (Json.decodeUInt32 "u32")
    ((s.iterations.map fun n => Json.ofNat n.toNat).getD .null) = .ok s.iterations :=
  Json.decodeOption_map (Json.decodeUInt32_ofNat "u32") (fun _ h => by cases h) _

lemma decode_display : Json.decodeOption Json.decodeString
    ((s.display.map Json.string).getD .null) = .ok s.display :=
  Json.decodeOption_map Json.decodeString_string (fun _ h => by cases h) _

lemma passes_values : Json.Passes fields s.values := by
  refine .cons (Json.check_required _ (Json.ofJson_stage _)) <|
    .cons (Json.check_required _ rfl) <|
    .cons (Json.check_required _ (Json.decodeUInt64_ofNat ..)) <|
    .cons (Json.check_required _ (Json.decodeUInt64_ofNat ..)) <|
    .cons (Json.check_required _ (Json.decodeUInt64_ofNat ..)) <|
    .cons (Json.check_maybe _ s.decode_iterations) <|
    .cons (Json.check_maybe _ s.decode_display) .nil

lemma reads : Json.Reads "struct StageConfig" fields ofJson (Json.named fields s.values) s := by
  intro v ms hms hagrees
  simp only [ofJson, hms, bind, Except.bind,
    hagrees.field "stage" (by decide) rfl (Json.ofJson_stage _),
    hagrees.field "program" (by decide) rfl (Json.decodePath_string _),
    hagrees.field "cpu_limit_secs" (by decide) rfl (Json.decodeUInt64_ofNat ..),
    hagrees.field "wall_limit_secs" (by decide) rfl (Json.decodeUInt64_ofNat ..),
    hagrees.field "capture_limit_bytes" (by decide) rfl (Json.decodeUInt64_ofNat ..),
    hagrees.field "iterations" (by decide) rfl s.decode_iterations,
    hagrees.field "display" (by decide) rfl s.decode_display]
  rfl

end StageConfig

namespace Report

variable (r : Report)

def values : List Json :=
  [.bool r.success, .float r.elapsedSeconds, (r.meshRef.map Reference.toJson).getD .null,
    (r.imageRef.map Reference.toJson).getD .null, .string r.message, .string r.generatedAt.toText]

lemma decode_reference (x : Option Reference) : Json.decodeOption Reference.ofJson
    ((x.map Reference.toJson).getD .null) = .ok x :=
  Json.decodeOption_map Json.ofJson_reference (fun _ h => by cases h) _

variable {r}

lemma reads (h : Timestamp.read r.generatedAt.toText = .ok r.generatedAt) :
    Json.Reads "struct Report" fields ofJson (Json.named fields r.values) r := by
  intro v ms hms hagrees
  simp only [ofJson, hms, bind, Except.bind,
    hagrees.field "success" (by decide) rfl (Eq.refl (Json.decodeBool (.bool r.success))),
    hagrees.field "elapsed_seconds" (by decide) rfl
      (Eq.refl (Json.decodeFloat (.float r.elapsedSeconds))),
    hagrees.field "mesh_ref" (by decide) rfl (decode_reference _),
    hagrees.field "image_ref" (by decide) rfl (decode_reference _),
    hagrees.field "message" (by decide) rfl (Json.decodeString_string _),
    hagrees.field "generated_at" (by decide) rfl (Json.decodeTimestamp_string h)]
  rfl

lemma passes_values (h : Timestamp.read r.generatedAt.toText = .ok r.generatedAt) :
    Json.Passes fields r.values := by
  refine .cons (Json.check_required _ rfl) <| .cons (Json.check_required _ rfl) <|
    .cons (Json.check_maybe _ (decode_reference _)) <|
    .cons (Json.check_maybe _ (decode_reference _)) <| .cons (Json.check_required _ rfl) <|
    .cons (Json.check_required _ (Json.decodeTimestamp_string h)) .nil

lemma toJson_eq (r : Report) : r.toJson = .object (Json.given (Json.named fields r.values)) := by
  obtain ⟨success, elapsed, _ | mesh, _ | image, message, time⟩ := r <;> rfl

lemma readsBack (h : Timestamp.read r.generatedAt.toText = .ok r.generatedAt) :
    Json.ReadsBack fields toJson ofJson r := by
  have hfits : Json.Fits fields (Json.named fields r.values) :=
    Json.fits_named (by decide) (passes_values h)
  have hreads := (reads h).of_agrees hfits.agrees_given
  exact hreads.readsBack (hfits.given (by decide)) r.toJson_eq

lemma member?_meshRef (h : r.meshRef = none) : Json.member? "mesh_ref" r.toJson = none := by
  obtain ⟨success, elapsed, _ | mesh, _ | image, message, time⟩ := r
  · rfl
  · rfl
  · cases h
  · cases h

lemma member?_imageRef (h : r.imageRef = none) : Json.member? "image_ref" r.toJson = none := by
  obtain ⟨success, elapsed, _ | mesh, _ | image, message, time⟩ := r
  · rfl
  · cases h
  · rfl
  · cases h

lemma generatedAt_ofOutcome (o : Outcome) (now : Timestamp) :
    (ofOutcome o now).generatedAt = now := by
  unfold ofOutcome
  split <;> rfl

end Report

/-- Settings and reports survive being written in JSON. Of each, the object that is written is read as the
value that was written, and so is every object that has its members and perhaps others; a reference that
is absent is not written and stays absent. Both kinds of settings can also be given as the
array of their fields in order, but as no longer and no shorter one. -/
theorem json_reads_back :
    (∀ c, Json.ReadsBack Config.fields Config.toJson Config.ofJson c) ∧
    Json.ReadsArrays Config.fields Config.toJson Config.ofJson ∧
    (∀ s, Json.ReadsBack StageConfig.fields StageConfig.toJson StageConfig.ofJson s) ∧
    Json.ReadsArrays StageConfig.fields StageConfig.toJson StageConfig.ofJson ∧
    ∀ o now, Timestamp.read now.toText = .ok now →
      let r := Report.ofOutcome o now
      Json.ReadsBack Report.fields Report.toJson Report.ofJson r ∧
      (r.meshRef = none → Json.member? "mesh_ref" r.toJson = none) ∧
      (r.imageRef = none → Json.member? "image_ref" r.toJson = none) := by
  refine ⟨fun c => ?_, ⟨fun c => ?_, fun items h => ?_⟩, fun s => ?_, ⟨fun s => ?_, fun items h => ?_⟩,
    fun o now h => ⟨?_, Report.member?_meshRef, Report.member?_imageRef⟩⟩
  · exact c.reads.readsBack (Json.fits_named (by decide) c.passes_values) rfl
  · exact ⟨c.values, rfl, rfl, c.reads.array c.passes_values⟩
  · obtain ⟨e, he⟩ := Json.recordMembers_of_length_ne "struct PipelineConfig" h
    refine ⟨e, ?_⟩
    simp only [Config.ofJson, he, bind, Except.bind]
  · exact s.reads.readsBack (Json.fits_named (by decide) s.passes_values) rfl
  · exact ⟨s.values, rfl, rfl, s.reads.array s.passes_values⟩
  · obtain ⟨e, he⟩ := Json.recordMembers_of_length_ne "struct StageConfig" h
    refine ⟨e, ?_⟩
    simp only [StageConfig.ofJson, he, bind, Except.bind]
  · exact Report.readsBack (by rwa [Report.generatedAt_ofOutcome])

theorem json_reads_back_example :
    let r := Report.ofOutcome (.failed none .allocation none .zero) ⟨0, 0⟩
    Report.ofJson r.toJson = .ok r ∧ Json.member? "mesh_ref" r.toJson = none := by
  have hread : Timestamp.read (⟨0, 0⟩ : Timestamp).toText = .ok ⟨0, 0⟩ := by decide +kernel
  obtain ⟨hback, hmesh, -⟩ := json_reads_back.2.2.2.2 (.failed none .allocation none .zero) ⟨0, 0⟩ hread
  exact ⟨hback.own, hmesh rfl⟩

end TreePipeline
