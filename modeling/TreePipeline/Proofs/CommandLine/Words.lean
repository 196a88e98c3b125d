import Mathlib.Data.List.Induction
import Mathlib.Data.List.Nodup
import TreePipeline.CommandLine.Given
import TreePipeline.CommandLine.Reader
import TreePipeline.Proofs.Text.Numeral

/-! What one side of a command line says, thing by thing, and the words in which it is said. It does not
matter in what order things are said, but none may be said twice. Whatever comes next in the words,
what has been said so far is the same; and before the command's name, no word of an option is taken for
that name. -/

namespace TreePipeline.CommandLine

/-! Values -/

namespace Setting

def Value : Setting → Type
  | .cpuLimit | .olderThan => UInt64
  | .wallFactor | .iterations => UInt32
  | .artifactDir | .buildCommand | .renderCommand | .display | .input => String

def Writes (text : String) : (s : Setting) → s.Value → Prop
  | .cpuLimit, (x : UInt64) | .olderThan, (x : UInt64) => Numeral.IsNumeral text.toList x.toNat
  | .wallFactor, (x : UInt32) | .iterations, (x : UInt32) => Numeral.IsNumeral text.toList x.toNat
  | .artifactDir, (x : String) | .buildCommand, (x : String) | .renderCommand, (x : String)
  | .input, (x : String) => x = text ∧ text ≠ ""
  | .display, (x : String) => x = text

/-- There is a text for the value. Only a path that is empty has none. -/
def IsSayable : (s : Setting) → s.Value → Prop
  | .artifactDir, (x : String) | .buildCommand, (x : String) | .renderCommand, (x : String)
  | .input, (x : String) => x ≠ ""
  | .cpuLimit, _ | .wallFactor, _ | .iterations, _ | .display, _ | .olderThan, _ => True

def read? (text : String) : (s : Setting) → Option s.Value
  | .cpuLimit | .olderThan => readWord64? text
  | .wallFactor | .iterations => readWord32? text
  | .artifactDir | .buildCommand | .renderCommand | .input => readPath? text
  | .display => some text

variable {s : Setting} {text : String}

lemma isNumeral_toString (n : Nat) : Numeral.IsNumeral (toString n).toList n := by
  refine ⟨[], Nat.toDigits 10 n, ?_, Or.inl rfl, Nat.toDigits_ne_nil, fun d hd => ?_, ?_⟩
  · rw [Nat.toString_eq_ofList_toDigits, String.toList_ofList, List.nil_append]
  · exact Nat.isDigit_of_mem_toDigits (by decide) (by decide) hd
  · exact Nat.ofDigitChars_ten_toDigits.symm

lemma exists_writes {x : s.Value} (hx : s.IsSayable x) : ∃ text, s.Writes text x := by
  cases s with
  | cpuLimit | wallFactor | iterations | olderThan => exact ⟨_, isNumeral_toString _⟩
  | artifactDir | buildCommand | renderCommand | input => exact ⟨x, rfl, hx⟩
  | display => exact ⟨x, rfl⟩

lemma head?_ne_dash_of_isNumeral {cs : List Char} {n : Nat} (h : Numeral.IsNumeral cs n) :
    cs.head? ≠ some '-' := by
  obtain ⟨sign, ds, rfl, rfl | rfl, -, hdigits, -⟩ := h
  · cases ds with
    | nil => simp
    | cons d ds =>
      intro hd
      obtain rfl : d = '-' := Option.some.inj hd
      exact absurd (hdigits '-' List.mem_cons_self) (by decide)
  · simp

lemma readWord64?_of_isNumeral {x : UInt64} (h : Numeral.IsNumeral text.toList x.toNat) :
    readWord64? text = some x := by
  have hmax : x.toNat ≤ 0xffffffffffffffff := by
    have := x.toNat_lt
    omega
  simp [readWord64?, Numeral.read_of_isNumeral h hmax]

lemma readWord32?_of_isNumeral {x : UInt32} (h : Numeral.IsNumeral text.toList x.toNat) :
    readWord32? text = some x := by
  have hmax : x.toNat ≤ 0xffffffff := by
    have := x.toNat_lt
    omega
  have hread := Numeral.read_of_isNumeral h hmax
  unfold readWord32?
  split
  · rename_i c r htext
    exact absurd (congrArg List.head? htext) (head?_ne_dash_of_isNumeral h)
  · simp [hread]

lemma read?_of_writes {x : s.Value} (h : s.Writes text x) : s.read? text = some x := by
  cases s with
  | cpuLimit | olderThan => exact readWord64?_of_isNumeral h
  | wallFactor | iterations => exact readWord32?_of_isNumeral h
  | artifactDir | buildCommand | renderCommand | input =>
    obtain ⟨rfl, hne⟩ := h
    exact if_neg hne
  | display => exact congrArg some (Eq.symm h)

end Setting

inductive Content where
  | flag (f : Flag)
  | setting (s : Setting) (x : s.Value)
  | reference (v : String)

/-- The option by which it is said; a reference is said by none. -/
def Content.switch? : Content → Option Switch
  | .flag f => some (.flag f)
  | .setting s _ => some (.setting s)
  | .reference _ => none

/-- Nothing is said twice. -/
def Distinct (cs : List Content) : Prop := (cs.map Content.switch?).Nodup

namespace Given

def get (g : Given) : (s : Setting) → Option s.Value
  | .cpuLimit => g.overrides.cpuLimit
  | .wallFactor => g.overrides.wallFactor
  | .artifactDir => g.overrides.artifactDir
  | .buildCommand => g.overrides.buildCommand
  | .renderCommand => g.overrides.renderCommand
  | .iterations => g.overrides.iterations
  | .display => g.overrides.display
  | .input => g.input
  | .olderThan => g.olderThan

def put (g : Given) : (s : Setting) → s.Value → Given
  | .cpuLimit, (x : UInt64) => { g with overrides := { g.overrides with cpuLimit := some x } }
  | .wallFactor, (x : UInt32) => { g with overrides := { g.overrides with wallFactor := some x } }
  | .artifactDir, (x : String) => { g with overrides := { g.overrides with artifactDir := some x } }
  | .buildCommand, (x : String) => { g with overrides := { g.overrides with buildCommand := some x } }
  | .renderCommand, (x : String) =>
    { g with overrides := { g.overrides with renderCommand := some x } }
  | .iterations, (x : UInt32) => { g with overrides := { g.overrides with iterations := some x } }
  | .display, (x : String) => { g with overrides := { g.overrides with display := some x } }
  | .input, (x : String) => { g with input := some x }
  | .olderThan, (x : UInt64) => { g with olderThan := some x }

def has (g : Given) : Content → Bool
  | .flag f => g.flags.contains f
  | .setting s _ => (g.get s).isSome
  | .reference _ => g.reference.isSome

def add (g : Given) : Content → Given
  | .flag f => { g with flags := f :: g.flags }
  | .setting s x => g.put s x
  | .reference v => { g with reference := some v }

def take (g : Given) (c : Content) : Except Notice Given :=
  if g.has c then .error .usage else .ok (g.add c)

variable {g : Given} {s t : Setting} {text v : String} {f : Flag} {cs : List Content} {c : Content}

@[simp] lemma get_put_self (g : Given) (s : Setting) (x : s.Value) : (g.put s x).get s = some x := by
  cases s <;> rfl

lemma get_put_of_ne (h : t ≠ s) (x : s.Value) : (g.put s x).get t = g.get t := by
  cases s <;> cases t <;> first | rfl | exact absurd rfl h

@[simp] lemma flags_put (g : Given) (s : Setting) (x : s.Value) : (g.put s x).flags = g.flags := by
  cases s <;> rfl

@[simp] lemma reference_put (g : Given) (s : Setting) (x : s.Value) :
    (g.put s x).reference = g.reference := by
  cases s <;> rfl

lemma ok_of_once {α : Type} (old : Option α) (x : α) (f : Option α → Given) :
    (match (once old (some x)).map f with
      | some g => Except.ok g
      | none => .error Notice.usage) = if old.isSome then .error .usage else .ok (f (some x)) := by
  cases old <;> rfl

lemma set_of_writes {x : s.Value} (h : s.Writes text x) :
    g.set s text = g.take (.setting s x) := by
  have hread := Setting.read?_of_writes h
  cases s with
  | display =>
    obtain rfl : x = text := h
    simp only [set, setOverride, Option.map_map]
    exact ok_of_once _ _ _
  | cpuLimit | wallFactor | artifactDir | buildCommand | renderCommand | iterations | input
  | olderThan =>
    simp only [Setting.read?] at hread
    simp only [set, setOverride, hread, Option.map_map]
    exact ok_of_once _ _ _

lemma raise_eq (hhelp : f ≠ .help) (hversion : f ≠ .version) : g.raise f = g.take (.flag f) := by
  cases f with
  | help => exact absurd rfl hhelp
  | version => exact absurd rfl hversion
  | verbose | json | skipDisplayCheck => rfl

lemma refer_eq (g : Given) (v : String) : g.refer v = g.take (.reference v) := rfl

/-- All that is given has been said, and the other way round. -/
structure Says (g : Given) (cs : List Content) : Prop where
  flag : ∀ f, f ∈ g.flags ↔ .flag f ∈ cs
  setting : ∀ s x, g.get s = some x ↔ .setting s x ∈ cs
  reference : ∀ v, g.reference = some v ↔ .reference v ∈ cs

lemma says_empty : empty.Says [] := by
  refine ⟨by simp [empty], fun s x => ?_, by simp [empty]⟩
  cases s <;> simp [empty, get]

lemma Says.has_iff (h : g.Says cs) : g.has c = true ↔ c.switch? ∈ cs.map Content.switch? := by
  rw [List.mem_map]
  cases c with
  | flag f =>
    rw [has, List.contains_iff_mem, h.flag]
    constructor
    · intro hf
      exact ⟨_, hf, rfl⟩
    · rintro ⟨c | _ | _, hc, hswitch⟩ <;> cases hswitch
      exact hc
  | setting s x =>
    rw [has, Option.isSome_iff_exists]
    constructor
    · rintro ⟨y, hy⟩
      exact ⟨_, (h.setting s y).mp hy, rfl⟩
    · rintro ⟨_ | ⟨t, y⟩ | _, hc, hswitch⟩ <;> cases hswitch
      exact ⟨y, (h.setting s y).mpr hc⟩
  | reference v =>
    rw [has, Option.isSome_iff_exists]
    constructor
    · rintro ⟨w, hw⟩
      exact ⟨_, (h.reference w).mp hw, rfl⟩
    · rintro ⟨_ | _ | w, hc, hswitch⟩ <;> cases hswitch
      exact ⟨w, (h.reference w).mpr hc⟩

lemma Says.add (h : g.Says cs) (hc : c.switch? ∉ cs.map Content.switch?) :
    (g.add c).Says (cs ++ [c]) := by
  have hnew : ∀ d ∈ cs, d.switch? ≠ c.switch? := fun d hd hswitch =>
    hc (List.mem_map.mpr ⟨d, hd, hswitch⟩)
  cases c with
  | flag f =>
    refine ⟨fun f' => ?_, fun s x => ?_, fun v => ?_⟩
    · simp [Given.add, h.flag, or_comm]
    · simpa [Given.add, get] using h.setting s x
    · simpa [Given.add] using h.reference v
  | setting s x =>
    refine ⟨fun f => ?_, fun t y => ?_, fun v => ?_⟩
    · simpa [Given.add] using h.flag f
    · by_cases hst : t = s
      · subst hst
        have hy : .setting t y ∉ cs := fun hy => hnew _ hy rfl
        simp [Given.add, hy, eq_comm]
      · simp [Given.add, get_put_of_ne hst, h.setting, hst]
    · simpa [Given.add] using h.reference v
  | reference v =>
    refine ⟨fun f => ?_, fun s x => ?_, fun w => ?_⟩
    · simpa [Given.add] using h.flag f
    · simpa [Given.add, get] using h.setting s x
    · have hw : .reference w ∉ cs := fun hw => hnew _ hw rfl
      simp [Given.add, hw, eq_comm]

lemma foldlM_take (cs : List Content) :
    (Distinct cs → ∃ g, cs.foldlM take empty = .ok g ∧ g.Says cs) ∧
      (¬ Distinct cs → cs.foldlM take empty = .error .usage) := by
  induction cs using List.reverseRecOn with
  | nil => exact ⟨fun _ => ⟨empty, rfl, says_empty⟩, fun h => absurd List.nodup_nil h⟩
  | append_singleton cs c ih =>
    have hsplit : Distinct (cs ++ [c]) ↔ Distinct cs ∧ c.switch? ∉ cs.map Content.switch? := by
      rw [Distinct, List.map_append, List.map_singleton, ← List.concat_eq_append, List.nodup_concat,
        and_comm]
      exact Iff.rfl
    rw [List.foldlM_append, hsplit]
    by_cases hdistinct : Distinct cs
    · obtain ⟨g, hg, hsays⟩ := ih.1 hdistinct
      rw [hg]
      simp only [bind, Except.bind, List.foldlM_cons, List.foldlM_nil, take, hsays.has_iff]
      by_cases hc : c.switch? ∈ cs.map Content.switch?
      · simp [hc]
      · rw [if_neg hc]
        exact ⟨fun _ => ⟨g.add c, rfl, hsays.add hc⟩, fun h => absurd ⟨hdistinct, hc⟩ h⟩
    · rw [ih.2 hdistinct]
      exact ⟨fun h => absurd h.1 hdistinct, fun _ => rfl⟩

end Given

/-! Words -/

def Spells (opening : String) (sw : Switch) : Prop :=
  (∃ e ∈ longNames, e.2 = sw ∧ opening = "--" ++ e.1) ∨
    ∃ e ∈ shortNames, e.2 = sw ∧ opening = "-" ++ String.singleton e.1

inductive Token where
  | flag (f : Flag) (opening : String)
  | setting (s : Setting) (x : s.Value) (opening text : String) (attached : Bool)
  | reference (v : String)

namespace Token

def content : Token → Content
  | .flag f _ => .flag f
  | .setting s x _ _ _ => .setting s x
  | .reference v => .reference v

def words : Token → List String
  | .flag _ opening => [opening]
  | .setting _ _ opening text attached =>
    if attached then [opening ++ "=" ++ text] else [opening, text]
  | .reference v => [v]

/-- It can be said on this side of the command's name. A word of its own does not start with a dash, unless
it is an option. -/
def IsWritten (scope : Scope) : Token → Prop
  | .flag f opening => f ≠ .help ∧ f ≠ .version ∧ Switch.allowed scope (.flag f) = true ∧
    Spells opening (.flag f)
  | .setting s x opening text attached => Switch.allowed scope (.setting s) = true ∧
    Spells opening (.setting s) ∧ s.Writes text x ∧ (attached = false → text.toList.head? ≠ some '-')
  | .reference v => scope = .resolve ∧ v.toList.head? ≠ some '-'

end Token

variable {scope : Scope} {opening text word : String} {f : Flag} {s : Setting} {sw : Switch}
  {p : Progress} {t : Token} {ts : List Token} {name : String} {letter : Char}

/-! Names of options -/

lemma ofLong?_of_mem {e : String × Switch} (he : e ∈ longNames)
    (hallowed : Switch.allowed scope e.2 = true) : ofLong? scope e.1 = some e.2 := by
  have hlookup : ∀ e ∈ longNames, longNames.lookup e.1 = some e.2 := by decide
  rw [ofLong?, hlookup e he, Option.filter_some, if_pos hallowed]

lemma ofShort?_of_mem {e : Char × Switch} (he : e ∈ shortNames)
    (hallowed : Switch.allowed scope e.2 = true) : ofShort? scope e.1 = some e.2 := by
  have hlookup : ∀ e ∈ shortNames, shortNames.lookup e.1 = some e.2 := by decide
  rw [ofShort?, hlookup e he, Option.filter_some, if_pos hallowed]

lemma longNames_spec : ∀ e ∈ longNames, e.1.toList ≠ [] ∧ '=' ∉ e.1.toList := by
  decide

lemma shortNames_spec : ∀ e ∈ shortNames, e.1 ≠ '-' := by
  decide

lemma Spells.head?_append (h : Spells opening sw) (text : String) :
    (opening ++ text).toList.head? = some '-' := by
  obtain ⟨e, -, -, rfl⟩ | ⟨e, -, -, rfl⟩ := h <;> simp [String.toList_append]

lemma lookup_commands_of_dash (h : word.toList.head? = some '-') :
    word ≠ helpCommand ∧ commands.lookup word = none := by
  have hnames : ∀ name ∈ helpCommand :: commands.map Prod.fst, name.toList.head? ≠ some '-' := by
    decide
  have hne : ∀ name ∈ helpCommand :: commands.map Prod.fst, word ≠ name := fun name hname heq =>
    hnames name hname (heq ▸ h)
  refine ⟨hne _ List.mem_cons_self, List.lookup_eq_none_iff.mpr fun e he => ?_⟩
  simpa using hne e.1 (List.mem_cons_of_mem _ (List.mem_map_of_mem he))

namespace Progress

lemma readWord_of_long {e : String × Switch} {rest : List Char} (he : e ∈ longNames)
    (hp : p.literal = false) (hword : word.toList = '-' :: '-' :: (e.1.toList ++ rest)) :
    p.readWord scope word = p.readLong scope (e.1.toList ++ rest) := by
  obtain ⟨c, cs, hcs⟩ := List.exists_cons_of_ne_nil (longNames_spec e he).1
  unfold readWord
  rw [if_neg (by simp [hp]), hword, hcs]
  rfl

lemma readWord_of_short {e : Char × Switch} {rest : List Char} (he : e ∈ shortNames)
    (hp : p.literal = false) (hword : word.toList = '-' :: e.1 :: rest) :
    p.readWord scope word = p.readLetters scope (e.1 :: rest) := by
  have hdash := shortNames_spec e he
  unfold readWord
  rw [if_neg (by simp [hp]), hword]
  split <;> simp_all

lemma readLong_eq {e : String × Switch} (he : e ∈ longNames)
    (hallowed : Switch.allowed scope e.2 = true) (p : Progress) (rest : List Char) :
    (∀ c ∈ rest.head?, c = '=') → p.readLong scope (e.1.toList ++ rest) =
      match e.2, rest with
      | .flag f, [] => p.raise f
      | .setting s, [] => p.want s
      | .setting s, _ :: v => p.attach s v
      | _, _ => .error .usage := by
  intro hrest
  have hequals := (longNames_spec e he).2
  have hname : (e.1.toList ++ rest).takeWhile (fun c => c ≠ '=') = e.1.toList := by
    rw [List.takeWhile_append_of_pos fun c hc => decide_eq_true (ne_of_mem_of_not_mem hc hequals)]
    cases rest with
    | nil => simp
    | cons c rest =>
      obtain rfl := hrest c rfl
      simp
  unfold readLong
  dsimp only
  rw [hname, String.ofList_toList, ofLong?_of_mem he hallowed, List.drop_left]
  cases e.2 <;> cases rest <;> rfl

lemma readWord_flag (hopening : Spells opening (.flag f))
    (hallowed : Switch.allowed scope (.flag f) = true) (hp : p.literal = false) :
    p.readWord scope opening = p.raise f := by
  obtain ⟨e, he, hsw, rfl⟩ | ⟨e, he, hsw, rfl⟩ := hopening
  · have hword : ("--" ++ e.1).toList = '-' :: '-' :: (e.1.toList ++ []) := by simp
    rw [readWord_of_long he hp hword, readLong_eq he (hsw ▸ hallowed) p _ (by simp), hsw]
  · have hword : ("-" ++ String.singleton e.1).toList = ['-', e.1] := by simp
    rw [readWord_of_short he hp hword, readLetters, ofShort?_of_mem he (hsw ▸ hallowed), hsw]
    dsimp only
    cases p.raise f <;> rfl

lemma readWord_want (hopening : Spells opening (.setting s))
    (hallowed : Switch.allowed scope (.setting s) = true) (hp : p.literal = false) :
    p.readWord scope opening = p.want s := by
  obtain ⟨e, he, hsw, rfl⟩ | ⟨e, he, hsw, rfl⟩ := hopening
  · have hword : ("--" ++ e.1).toList = '-' :: '-' :: (e.1.toList ++ []) := by simp
    rw [readWord_of_long he hp hword, readLong_eq he (hsw ▸ hallowed) p _ (by simp), hsw]
  · have hword : ("-" ++ String.singleton e.1).toList = ['-', e.1] := by simp
    rw [readWord_of_short he hp hword, readLetters, ofShort?_of_mem he (hsw ▸ hallowed), hsw]

lemma readWord_attach (hopening : Spells opening (.setting s))
    (hallowed : Switch.allowed scope (.setting s) = true) (hp : p.literal = false) (text : String) :
    p.readWord scope (opening ++ "=" ++ text) = p.attach s text.toList := by
  obtain ⟨e, he, hsw, rfl⟩ | ⟨e, he, hsw, rfl⟩ := hopening
  · have hword : ("--" ++ e.1 ++ "=" ++ text).toList =
        '-' :: '-' :: (e.1.toList ++ '=' :: text.toList) := by simp
    rw [readWord_of_long he hp hword, readLong_eq he (hsw ▸ hallowed) p _ (by simp), hsw]
  · have hword : ("-" ++ String.singleton e.1 ++ "=" ++ text).toList =
        '-' :: e.1 :: '=' :: text.toList := by simp
    rw [readWord_of_short he hp hword, readLetters, ofShort?_of_mem he (hsw ▸ hallowed), hsw]
    rfl

lemma readWord_plain (h : word.toList.head? ≠ some '-') :
    p.readWord scope word = p.readPlain scope word := by
  unfold readWord
  split
  · rfl
  · split <;> simp_all

/-! What has been said so far -/

structure IsOpen (p : Progress) : Prop where
  literal : p.literal = false
  isWanting : p.isWanting = false

structure ComesTo (y : Except Notice Progress) (x : Except Notice Given) : Prop where
  settled : y >>= settle = x
  isOpen : ∀ p, y = .ok p → p.IsOpen

lemma comesTo_error (n : Notice) : ComesTo (.error n) (.error n) := ⟨rfl, fun _ h => by cases h⟩

lemma ComesTo.bind {y : Except Notice Progress} {x : Except Notice Given}
    {next : Progress → Except Notice Progress} {add : Given → Except Notice Given}
    (h : ComesTo y x) (hnext : ∀ p, p.IsOpen → ComesTo (next p) (p.settle >>= add)) :
    ComesTo (y >>= next) (x >>= add) := by
  obtain ⟨rfl, hopen⟩ := h
  cases y with
  | error n => exact comesTo_error n
  | ok p => exact hnext p (hopen p rfl)

lemma comesTo_ok (hp : p.IsOpen) : ComesTo (.ok p) p.settle := by
  refine ⟨rfl, ?_⟩
  rintro _ ⟨⟩
  exact hp

lemma comesTo_raise (hp : p.IsOpen) (hhelp : f ≠ .help) (hversion : f ≠ .version) :
    ComesTo (p.raise f) (p.settle >>= fun g => g.take (.flag f)) := by
  unfold Progress.raise
  cases p.settle with
  | error n => exact comesTo_error n
  | ok g =>
    simp only [bind, Except.bind]
    rw [← Given.raise_eq hhelp hversion]
    cases g.raise f with
    | error n => exact comesTo_error n
    | ok g' => exact comesTo_ok (p := { p with given := g', pending := .nothing }) ⟨hp.literal, rfl⟩

lemma comesTo_attach {x : s.Value} (hp : p.IsOpen) (hx : s.Writes text x) :
    ComesTo (p.attach s text.toList) (p.settle >>= fun g => g.take (.setting s x)) := by
  unfold attach
  cases p.settle with
  | error n => exact comesTo_error n
  | ok g =>
    simp only [bind, Except.bind]
    rw [String.ofList_toList, ← Given.set_of_writes hx]
    cases g.set s text with
    | error n => exact comesTo_error n
    | ok g' => exact comesTo_ok (p := { p with given := g', pending := .nothing }) ⟨hp.literal, rfl⟩

lemma comesTo_want {x : s.Value} (hp : p.IsOpen) (hx : s.Writes text x)
    (hdash : text.toList.head? ≠ some '-') :
    ComesTo (p.want s >>= fun p => p.readWord scope text)
      (p.settle >>= fun g => g.take (.setting s x)) := by
  unfold want
  cases p.settle with
  | error n => exact comesTo_error n
  | ok g =>
    simp only [bind, Except.bind, pure, Except.pure]
    rw [readWord_plain hdash, readPlain, hp.literal, ← Given.set_of_writes hx]
    exact comesTo_ok (p := ⟨g, .value s text, false⟩) ⟨rfl, rfl⟩

lemma comesTo_readPlain (hp : p.IsOpen) (hscope : scope = .resolve) (v : String) :
    ComesTo (p.readPlain scope v) (p.settle >>= fun g => g.take (.reference v)) := by
  have hread : p.readPlain scope v = p.settle >>= fun g =>
      if scope = .resolve ∧ g.reference = none then .ok ⟨g, .reference v, false⟩
      else .error .usage := by
    obtain ⟨given, pending, literal⟩ := p
    obtain ⟨rfl, hwanting⟩ := hp
    cases pending with
    | wanted s => cases hwanting
    | nothing | value | reference => rfl
  rw [hread]
  cases p.settle with
  | error n => exact comesTo_error n
  | ok g =>
    simp only [bind, Except.bind, hscope, true_and]
    cases hreference : g.reference with
    | none =>
      rw [if_pos rfl, ← Given.refer_eq]
      exact comesTo_ok (p := ⟨g, .reference v, false⟩) ⟨rfl, rfl⟩
    | some w =>
      simp only [Given.take, Given.has, hreference]
      exact comesTo_error .usage

end Progress

open Progress

lemma Token.comesTo (ht : t.IsWritten scope) (hp : p.IsOpen) :
    ComesTo (t.words.foldlM (readWord scope) p) (p.settle >>= fun g => g.take t.content) := by
  cases t with
  | flag f opening =>
    obtain ⟨hhelp, hversion, hallowed, hopening⟩ := ht
    simp only [words, List.foldlM_cons, List.foldlM_nil, bind_pure,
      readWord_flag hopening hallowed hp.literal]
    exact comesTo_raise hp hhelp hversion
  | setting s x opening text attached =>
    obtain ⟨hallowed, hopening, hx, hdash⟩ := ht
    cases attached with
    | true =>
      simp only [words, if_true, List.foldlM_cons, List.foldlM_nil, bind_pure,
        readWord_attach hopening hallowed hp.literal]
      exact comesTo_attach hp hx
    | false =>
      simp only [words, Bool.false_eq_true, if_false, List.foldlM_cons, List.foldlM_nil, bind_pure,
        readWord_want hopening hallowed hp.literal]
      exact comesTo_want hp hx (hdash rfl)
  | reference v =>
    obtain ⟨hscope, hdash⟩ := ht
    simp only [words, List.foldlM_cons, List.foldlM_nil, bind_pure, readWord_plain hdash]
    exact comesTo_readPlain hp hscope v

lemma comesTo_tokens (hts : ∀ t ∈ ts, t.IsWritten scope) (hp : p.IsOpen) :
    ComesTo ((ts.flatMap Token.words).foldlM (readWord scope) p)
      (p.settle >>= fun g => (ts.map Token.content).foldlM Given.take g) := by
  induction ts generalizing p with
  | nil =>
    simp only [List.flatMap_nil, List.map_nil, List.foldlM_nil, bind_pure]
    exact comesTo_ok hp
  | cons t ts ih =>
    obtain ⟨ht, hts⟩ := List.forall_mem_cons.mp hts
    simp only [List.flatMap_cons, List.map_cons, List.foldlM_append, List.foldlM_cons, ← bind_assoc]
    exact (t.comesTo ht hp).bind fun p hp => ih hts hp

/-! Before the command's name -/

lemma readTop_of_dash (hp : p.IsOpen) (hword : word.toList.head? = some '-') (rest : List String) :
    readTop p (word :: rest) = p.readWord .top word >>= fun p => readTop p rest := by
  obtain ⟨hhelp, hlookup⟩ := lookup_commands_of_dash hword
  rw [readTop, if_neg (by simp [hp.literal, hp.isWanting]), if_neg hhelp, hlookup]

lemma readTop_of_wanting (hp : p.isWanting = true) (word : String) (rest : List String) :
    readTop p (word :: rest) = p.readWord .top word >>= fun p => readTop p rest := by
  rw [readTop, if_pos (by simp [hp])]

lemma readTop_command (hp : p.IsOpen) (hname : (name, scope) ∈ commands) (rest : List String) :
    readTop p (name :: rest) = .ok (p, scope, rest) := by
  have hlookup : ∀ e ∈ commands, e.1 ≠ helpCommand ∧ commands.lookup e.1 = some e.2 := by decide
  obtain ⟨hhelp, hfound⟩ := hlookup _ hname
  rw [readTop, if_neg (by simp [hp.literal, hp.isWanting]), if_neg hhelp, hfound]

lemma readTop_words (ht : t.IsWritten .top) (hp : p.IsOpen) (rest : List String) :
    readTop p (t.words ++ rest) = t.words.foldlM (readWord .top) p >>= fun p => readTop p rest := by
  cases t with
  | flag f opening =>
    obtain ⟨-, -, -, hopening⟩ := ht
    have hdash : opening.toList.head? = some '-' := by simpa using hopening.head?_append ""
    simp only [Token.words, List.singleton_append, readTop_of_dash hp hdash, List.foldlM_cons,
      List.foldlM_nil, bind_pure]
  | setting s x opening text attached =>
    obtain ⟨hallowed, hopening, -, -⟩ := ht
    cases attached with
    | true =>
      have hdash : (opening ++ "=" ++ text).toList.head? = some '-' := by
        simpa [String.append_assoc] using hopening.head?_append ("=" ++ text)
      simp only [Token.words, if_true, List.singleton_append, readTop_of_dash hp hdash,
        List.foldlM_cons, List.foldlM_nil, bind_pure]
    | false =>
      have hdash : opening.toList.head? = some '-' := by simpa using hopening.head?_append ""
      simp only [Token.words, Bool.false_eq_true, if_false, List.cons_append, List.nil_append,
        readTop_of_dash hp hdash, List.foldlM_cons, List.foldlM_nil, bind_pure, bind_assoc,
        readWord_want hopening hallowed hp.literal]
      unfold want
      cases p.settle with
      | error n => rfl
      | ok g => exact readTop_of_wanting (p := { p with given := g, pending := .wanted s }) rfl ..
  | reference v => cases ht.1

lemma readTop_tokens (hts : ∀ t ∈ ts, t.IsWritten .top) (hp : p.IsOpen)
    (hname : (name, scope) ∈ commands) (rest : List String) :
    readTop p (ts.flatMap Token.words ++ name :: rest) =
      (ts.flatMap Token.words).foldlM (readWord .top) p >>= fun p => .ok (p, scope, rest) := by
  induction ts generalizing p with
  | nil => exact readTop_command hp hname rest
  | cons t ts ih =>
    obtain ⟨ht, hts⟩ := List.forall_mem_cons.mp hts
    rw [List.flatMap_cons, List.append_assoc, readTop_words ht hp, List.foldlM_append, bind_assoc]
    have hopen := (t.comesTo ht hp).isOpen
    cases hfold : t.words.foldlM (readWord .top) p with
    | error n => rfl
    | ok p => exact ih hts (hopen p hfold)

end TreePipeline.CommandLine
