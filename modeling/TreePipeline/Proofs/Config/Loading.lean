import TreePipeline.Commands.Run
import TreePipeline.Proofs.Text.Numeral

/-! Loading the settings: the variables are read, checked, overlaid with what the command line says, and
checked again. Each step has faults in an order of its own, and the first one found is the one named. -/

namespace TreePipeline

namespace Config

variable {α β : Type} {lookup : Lookup} {key k : String} {max : Nat} {x : Option Nat} {dir : String}
  {o : Overrides} {c e : Config}

/-! Faults in their order -/

abbrev Faults := List (String × Prop)

/-- The condition holds for this key, and none does that comes before. -/
def Faults.IsFirst (fs : Faults) (key : String) : Prop :=
  ∃ front rest P, fs = front ++ (key, P) :: rest ∧ P ∧ ∀ f ∈ front, ¬ f.2

def Faults.IsClear (fs : Faults) : Prop := ∀ f ∈ fs, ¬ f.2

/-- It fails, and names the key. -/
def Names (r : Except ConfigError α) (key : String) : Prop := ∃ reason, r = .error ⟨key, reason⟩

lemma Faults.isFirst_nil : ¬ Faults.IsFirst [] key := by
  rintro ⟨front, rest, P, h, -⟩
  cases front <;> cases h

lemma Faults.isFirst_cons {P : Prop} {fs : Faults} :
    Faults.IsFirst ((k, P) :: fs) key ↔ P ∧ key = k ∨ ¬ P ∧ fs.IsFirst key := by
  constructor
  · rintro ⟨front, rest, Q, h, hQ, hfront⟩
    cases front with
    | nil =>
      cases h
      exact Or.inl ⟨hQ, rfl⟩
    | cons f front =>
      cases h
      exact Or.inr ⟨hfront _ List.mem_cons_self,
        front, rest, Q, rfl, hQ, fun f hf => hfront f (List.mem_cons_of_mem _ hf)⟩
  · rintro (⟨hP, rfl⟩ | ⟨hP, front, rest, Q, rfl, hQ, hfront⟩)
    · exact ⟨[], fs, P, rfl, hP, fun f hf => by cases hf⟩
    · exact ⟨(k, P) :: front, rest, Q, rfl, hQ, List.forall_mem_cons.mpr ⟨hP, hfront⟩⟩

lemma Faults.isClear_iff {fs : Faults} : fs.IsClear ↔ ∀ key, ¬ fs.IsFirst key := by
  induction fs with
  | nil =>
    constructor
    · intro _ key
      exact isFirst_nil
    · intro _ f hf
      cases hf
  | cons f fs ih =>
    obtain ⟨k, P⟩ := f
    have hcons : Faults.IsClear ((k, P) :: fs) ↔ ¬ P ∧ Faults.IsClear fs := List.forall_mem_cons
    rw [hcons, ih]
    simp only [isFirst_cons]
    by_cases hP : P <;> simp [hP]

lemma not_names_ok {a : α} : ¬ Names (.ok a) key := by
  rintro ⟨_, h⟩
  cases h

lemma exists_ok_iff {r : Except ConfigError α} : (∃ a, r = .ok a) ↔ ∀ key, ¬ Names r key := by
  cases r with
  | error e =>
    refine iff_of_false ?_ fun h => h e.key ⟨e.reason, rfl⟩
    rintro ⟨_, h⟩
    cases h
  | ok a => exact iff_of_true ⟨a, rfl⟩ fun _ => not_names_ok

lemma bind_eq_ok_iff {r : Except ConfigError α} {f : α → Except ConfigError β} {b : β} :
    (r >>= f) = .ok b ↔ ∃ a, r = .ok a ∧ f a = .ok b := by
  cases r <;> simp [Bind.bind, Except.bind]

lemma names_bind_iff {r : Except ConfigError α} {f : α → Except ConfigError β} :
    Names (r >>= f) key ↔ Names r key ∨ ∃ a, r = .ok a ∧ Names (f a) key := by
  cases r <;> simp [Names, Bind.bind, Except.bind]

lemma names_bind_cons {r : Except ConfigError α} {f : α → Except ConfigError β} {P : Prop} {fs : Faults}
    (hr : ∀ key, Names r key ↔ P ∧ key = k) (hf : ∀ a, Names (f a) key ↔ fs.IsFirst key) :
    Names (r >>= f) key ↔ Faults.IsFirst ((k, P) :: fs) key := by
  rw [names_bind_iff, Faults.isFirst_cons, hr]
  cases r with
  | error e =>
    have hP : P := ((hr e.key).mp ⟨e.reason, rfl⟩).1
    simp [hP]
  | ok a =>
    have hP : ¬ P := fun hP => not_names_ok ((hr k).mpr ⟨hP, rfl⟩)
    simp [hP, hf]

/-! Variables that hold numbers -/

/-- What the variable says: nothing if it is not set, else the number that its value stands for. -/
def Says (lookup : Lookup) (key : String) (x : Option Nat) : Prop :=
  match lookup key with
  | none => x = none
  | some raw => ∃ n, x = some n ∧ Numeral.Denotes raw n

def SaysOr (lookup : Lookup) (key : String) (default n : Nat) : Prop :=
  ∃ x, Says lookup key x ∧ n = x.getD default

def Readable (lookup : Lookup) (key : String) (max : Nat) : Prop :=
  ∀ raw, lookup key = some raw → ∃ n, Numeral.Denotes raw n ∧ n ≤ max

lemma Says.unique {y : Option Nat} (hx : Says lookup key x) (hy : Says lookup key y) : x = y := by
  unfold Says at hx hy
  cases h : lookup key with
  | none =>
    rw [h] at hx hy
    exact hx.trans hy.symm
  | some raw =>
    rw [h] at hx hy
    obtain ⟨n, rfl, hn⟩ := hx
    obtain ⟨m, rfl, hm⟩ := hy
    rw [hn.unique hm]

lemma SaysOr.unique {default n m : Nat} (hn : SaysOr lookup key default n)
    (hm : SaysOr lookup key default m) : n = m := by
  obtain ⟨x, hx, rfl⟩ := hn
  obtain ⟨y, hy, rfl⟩ := hm
  rw [hx.unique hy]

lemma readNumber_eq_ok_iff :
    readNumber lookup key max = .ok x ↔ Says lookup key x ∧ ∀ n ∈ x, n ≤ max := by
  unfold readNumber Says
  cases lookup key with
  | none =>
    constructor
    · intro h
      obtain rfl := Except.ok.inj h
      exact ⟨rfl, fun _ hn => by cases hn⟩
    · rintro ⟨rfl, -⟩
      rfl
  | some raw =>
    dsimp only
    constructor
    · intro h
      cases hread : Numeral.read max (Text.trim raw) with
      | error e =>
        rw [hread] at h
        cases h
      | ok n =>
        rw [hread] at h
        obtain rfl := Except.ok.inj h
        obtain ⟨hn, hmax⟩ := Numeral.read_trim_eq_ok_iff.mp hread
        exact ⟨⟨n, rfl, hn⟩, fun _ hm => Option.some.inj hm ▸ hmax⟩
    · rintro ⟨⟨n, rfl, hn⟩, hmax⟩
      rw [Numeral.read_trim_eq_ok_iff.mpr ⟨hn, hmax n rfl⟩]

lemma names_readNumber_iff (lookup : Lookup) (k : String) (max : Nat) (key : String) :
    Names (readNumber lookup k max) key ↔ ¬ Readable lookup k max ∧ key = k := by
  unfold readNumber Readable
  cases lookup k with
  | none => simp [Names]
  | some raw =>
    simp only [Option.some.injEq, forall_eq', ← Numeral.read_trim_eq_ok_iff]
    cases Numeral.read max (Text.trim raw) with
    | error e => simp [Names, eq_comm]
    | ok n => simp [Names]

structure IsWord (max : Nat) (ofNat : Nat → β) (toNat : β → Nat) : Prop where
  toNat_ofNat : ∀ n ≤ max, toNat (ofNat n) = n
  ofNat_toNat : ∀ v, ofNat (toNat v) = v
  toNat_le : ∀ v, toNat v ≤ max

lemma isWord64 : IsWord maxWord64 Nat.toUInt64 UInt64.toNat where
  toNat_ofNat _ hn := UInt64.toNat_ofNat_of_lt' (Nat.lt_succ_of_le hn)
  ofNat_toNat _ := UInt64.ofNat_toNat
  toNat_le v := Nat.le_of_lt_succ v.toNat_lt

lemma isWord32 : IsWord maxWord32 Nat.toUInt32 UInt32.toNat where
  toNat_ofNat _ hn := UInt32.toNat_ofNat_of_lt' (Nat.lt_succ_of_le hn)
  ofNat_toNat _ := UInt32.ofNat_toNat
  toNat_le v := Nat.le_of_lt_succ v.toNat_lt

section Words

variable {ofNat : Nat → β} {toNat : β → Nat} {v : β} {m : Nat}

lemma IsWord.readNumber_getD_iff (hw : IsWord max ofNat toNat) (d : β) (hd : toNat d = m) :
    (∃ x, readNumber lookup key max = .ok x ∧ (x.map ofNat).getD d = v) ↔
      SaysOr lookup key m (toNat v) := by
  constructor
  · rintro ⟨x, hread, rfl⟩
    obtain ⟨hvalue, hmax⟩ := readNumber_eq_ok_iff.mp hread
    refine ⟨x, hvalue, ?_⟩
    cases x with
    | none => exact hd
    | some n => exact hw.toNat_ofNat n (hmax n rfl)
  · rintro ⟨x, hvalue, hv⟩
    -- the number is not too large, since it is that of a word
    refine ⟨x, readNumber_eq_ok_iff.mpr ⟨hvalue, ?_⟩, ?_⟩
    · rintro n rfl
      exact hv.symm.trans_le (hw.toNat_le v)
    · rw [← hw.ofNat_toNat v, hv]
      cases x with
      | none => rw [← hd]; exact (hw.ofNat_toNat d).symm
      | some n => rfl

lemma IsWord.readNumber_map_iff (hw : IsWord max ofNat toNat) {y : Option β} :
    (∃ x, readNumber lookup key max = .ok x ∧ x.map ofNat = y) ↔ Says lookup key (y.map toNat) := by
  constructor
  · rintro ⟨x, hread, rfl⟩
    obtain ⟨hvalue, hmax⟩ := readNumber_eq_ok_iff.mp hread
    cases x with
    | none => exact hvalue
    | some n => simpa [hw.toNat_ofNat n (hmax n rfl)] using hvalue
  · intro hvalue
    refine ⟨y.map toNat, readNumber_eq_ok_iff.mpr ⟨hvalue, ?_⟩, ?_⟩
    · intro n hn
      obtain ⟨v, -, rfl⟩ := Option.map_eq_some_iff.mp hn
      exact hw.toNat_le v
    · cases y with
      | none => rfl
      | some v => exact congrArg some (hw.ofNat_toNat v)

end Words

/-! Where the settings come from -/

def Given (given : Option α) (otherwise : α → Prop) (a : α) : Prop :=
  match given with
  | some b => a = b
  | none => otherwise a

/-- Each setting is what the command line says, else what its variable says, else the default. -/
structure IsSettled (dir : String) (lookup : Lookup) (o : Overrides) (c : Config) : Prop where
  cpuLimitSecs : Given o.cpuLimit (fun v => SaysOr lookup cpuLimitKey 15 v.toNat) c.cpuLimitSecs
  wallFactor : Given o.wallFactor (fun v => SaysOr lookup wallFactorKey 3 v.toNat) c.wallFactor
  artifactDir : Given o.artifactDir (· = (lookup artifactDirKey).getD dir) c.artifactDir
  buildCommand : Given o.buildCommand (· = (lookup buildCommandKey).getD "meshpro") c.buildCommand
  renderCommand : Given o.renderCommand
    (· = (lookup renderCommandKey).getD "meshview") c.renderCommand
  buildIterations : Given (o.iterations.map some)
    (fun v => Says lookup buildIterationsKey (v.map UInt32.toNat)) c.buildIterations
  display : Given o.display
    (· = ((lookup displayKey).or (lookup "DISPLAY")).getD ":1") c.display
  -- the command line has no word for this one
  captureLimit : SaysOr lookup captureLimitKey 65536 c.captureLimit.toNat

lemma readEnvironment_eq_ok_iff :
    readEnvironment (standard dir) lookup = .ok e ↔ IsSettled dir lookup {} e := by
  unfold readEnvironment
  simp only [bind_eq_ok_iff]
  constructor
  · rintro ⟨cpu, hcpu, wall, hwall, iterations, hiterations, capture, hcapture, h⟩
    obtain rfl := Except.ok.inj h
    exact
      { cpuLimitSecs := (isWord64.readNumber_getD_iff 15 rfl).mp ⟨cpu, hcpu, rfl⟩
        wallFactor := (isWord32.readNumber_getD_iff 3 rfl).mp ⟨wall, hwall, rfl⟩
        artifactDir := rfl
        buildCommand := rfl
        renderCommand := rfl
        buildIterations := isWord32.readNumber_map_iff.mp ⟨iterations, hiterations, rfl⟩
        display := rfl
        captureLimit := (isWord64.readNumber_getD_iff 65536 rfl).mp ⟨capture, hcapture, rfl⟩ }
  · rintro ⟨hcpu, hwall, hdir, hbuild, hrender, hiterations, hdisplay, hcapture⟩
    obtain ⟨cpu, hcpu, ecpu⟩ := (isWord64.readNumber_getD_iff 15 rfl).mpr hcpu
    obtain ⟨wall, hwall, ewall⟩ := (isWord32.readNumber_getD_iff 3 rfl).mpr hwall
    obtain ⟨iterations, hiterations, eiterations⟩ := isWord32.readNumber_map_iff.mpr hiterations
    obtain ⟨capture, hcapture, ecapture⟩ := (isWord64.readNumber_getD_iff 65536 rfl).mpr hcapture
    refine ⟨cpu, hcpu, wall, hwall, iterations, hiterations, capture, hcapture, ?_⟩
    cases e
    cases hdir
    cases hbuild
    cases hrender
    cases hdisplay
    cases ecpu
    cases ewall
    cases eiterations
    cases ecapture
    rfl

lemma given_iff {given : Option α} {otherwise : α → Prop} {a b : α}
    (hunique : ∀ a, otherwise a → otherwise b → a = b) (hb : otherwise b) :
    Given given otherwise a ↔ a = given.getD b := by
  cases given with
  | none =>
    constructor
    · intro ha
      exact hunique a ha hb
    · rintro rfl
      exact hb
  | some g => exact Iff.rfl

lemma isSettled_iff (he : IsSettled dir lookup {} e) :
    IsSettled dir lookup o c ↔ c = o.onto e := by
  have hcpu : Given o.cpuLimit _ c.cpuLimitSecs ↔ _ :=
    given_iff (fun _ h h' => UInt64.toNat_inj.mp (h.unique h')) he.cpuLimitSecs
  have hwall : Given o.wallFactor _ c.wallFactor ↔ _ :=
    given_iff (fun _ h h' => UInt32.toNat_inj.mp (h.unique h')) he.wallFactor
  have hdir : Given o.artifactDir _ c.artifactDir ↔ _ :=
    given_iff (fun _ h h' => h.trans h'.symm) he.artifactDir
  have hbuild : Given o.buildCommand _ c.buildCommand ↔ _ :=
    given_iff (fun _ h h' => h.trans h'.symm) he.buildCommand
  have hrender : Given o.renderCommand _ c.renderCommand ↔ _ :=
    given_iff (fun _ h h' => h.trans h'.symm) he.renderCommand
  have hinj : Function.Injective UInt32.toNat := fun _ _ => UInt32.toNat_inj.mp
  have hiterations : Given (o.iterations.map some) _ c.buildIterations ↔ _ :=
    given_iff (fun _ h h' => Option.map_injective hinj (h.unique h')) he.buildIterations
  have hdisplay : Given o.display _ c.display ↔ _ :=
    given_iff (fun _ h h' => h.trans h'.symm) he.display
  have hor : (o.iterations.map some).getD e.buildIterations = o.iterations.or e.buildIterations := by
    cases o.iterations <;> rfl
  rw [hor] at hiterations
  constructor
  · intro h
    cases c
    obtain rfl := hcpu.mp h.cpuLimitSecs
    obtain rfl := hwall.mp h.wallFactor
    obtain rfl := hdir.mp h.artifactDir
    obtain rfl := hbuild.mp h.buildCommand
    obtain rfl := hrender.mp h.renderCommand
    obtain rfl := hiterations.mp h.buildIterations
    obtain rfl := hdisplay.mp h.display
    obtain rfl := UInt64.toNat_inj.mp (h.captureLimit.unique he.captureLimit)
    rfl
  · rintro rfl
    exact ⟨hcpu.mpr rfl, hwall.mpr rfl, hdir.mpr rfl, hbuild.mpr rfl, hrender.mpr rfl,
      hiterations.mpr rfl, hdisplay.mpr rfl, he.captureLimit⟩

/-! What can be at fault -/

/-- The variables that have to hold numbers, in the order in which they are read. -/
def unreadable (lookup : Lookup) : Faults :=
  [(cpuLimitKey, ¬ Readable lookup cpuLimitKey 0xffffffffffffffff),
    (wallFactorKey, ¬ Readable lookup wallFactorKey 0xffffffff),
    (buildIterationsKey, ¬ Readable lookup buildIterationsKey 0xffffffff),
    (captureLimitKey, ¬ Readable lookup captureLimitKey 0xffffffffffffffff)]

/-- What settings must not be, in the order in which it is checked. -/
def faults (c : Config) : Faults :=
  [(cpuLimitKey, c.cpuLimitSecs = 0), (wallFactorKey, c.wallFactor = 0),
    (captureLimitKey, c.captureLimit = 0),
    (displayKey, ∀ ch ∈ c.display.toList, Text.isBlank ch = true)]

lemma names_readEnvironment_iff :
    Names (readEnvironment c lookup) key ↔ (unreadable lookup).IsFirst key := by
  apply names_bind_cons (names_readNumber_iff lookup _ _) fun _ => ?_
  apply names_bind_cons (names_readNumber_iff lookup _ _) fun _ => ?_
  apply names_bind_cons (names_readNumber_iff lookup _ _) fun _ => ?_
  apply names_bind_cons (names_readNumber_iff lookup _ _) fun _ => ?_
  exact iff_of_false not_names_ok Faults.isFirst_nil

lemma exists_isSettled_iff :
    (∃ e, IsSettled dir lookup {} e) ↔ (unreadable lookup).IsClear := by
  simp only [← readEnvironment_eq_ok_iff, exists_ok_iff, names_readEnvironment_iff,
    Faults.isClear_iff]

lemma names_ite_cons {P Q : Prop} [Decidable Q] {reason : String} {r : Except ConfigError α}
    {fs : Faults} (hQ : Q ↔ P) (hr : Names r key ↔ fs.IsFirst key) :
    Names (if Q then .error ⟨k, reason⟩ else r) key ↔ Faults.IsFirst ((k, P) :: fs) key := by
  rw [Faults.isFirst_cons, ← hQ, ← hr]
  by_cases h : Q <;> simp [Names, h, eq_comm]

lemma names_validate_iff : Names c.validate key ↔ c.faults.IsFirst key := by
  have hblank : (Text.trimChars c.display.toList).isEmpty = true ↔
      ∀ ch ∈ c.display.toList, Text.isBlank ch = true := by
    rw [List.isEmpty_iff, Text.trimChars_eq_nil_iff]
  unfold validate faults
  apply names_ite_cons Iff.rfl
  apply names_ite_cons Iff.rfl
  apply names_ite_cons Iff.rfl
  apply names_ite_cons hblank
  exact iff_of_false not_names_ok Faults.isFirst_nil

lemma validate_eq_ok_iff_isClear : c.validate = .ok () ↔ c.faults.IsClear := by
  have hunit : c.validate = .ok () ↔ ∃ u, c.validate = .ok u := ⟨fun h => ⟨(), h⟩, fun ⟨_, h⟩ => h⟩
  rw [hunit, exists_ok_iff, Faults.isClear_iff]
  simp only [names_validate_iff]

/-! Loading -/

/-- The settings of the environment, with those of the command line over them. -/
def load (dir : String) (lookup : Lookup) (o : Overrides) : Except ConfigError Config := do
  let c ← ofEnvironment (standard dir) lookup
  o.apply c

lemma validated_eq_ok_iff {d : Config} :
    (do c.validate; return c : Except ConfigError Config) = .ok d ↔ c.validate = .ok () ∧ c = d := by
  cases c.validate <;> simp [Bind.bind, Except.bind, Pure.pure, Except.pure]

lemma names_validated_iff :
    Names (do c.validate; return c : Except ConfigError Config) key ↔ Names c.validate key := by
  rw [names_bind_iff]
  exact or_iff_left fun ⟨_, _, h⟩ => not_names_ok h

lemma ofEnvironment_eq_ok_iff : ofEnvironment (standard dir) lookup = .ok e ↔
    IsSettled dir lookup {} e ∧ e.faults.IsClear := by
  unfold ofEnvironment
  rw [bind_eq_ok_iff]
  simp only [readEnvironment_eq_ok_iff, validated_eq_ok_iff, validate_eq_ok_iff_isClear]
  constructor
  · rintro ⟨_, he, hclear, rfl⟩
    exact ⟨he, hclear⟩
  · rintro ⟨he, hclear⟩
    exact ⟨e, he, hclear, rfl⟩

lemma names_ofEnvironment_iff : Names (ofEnvironment (standard dir) lookup) key ↔
    (unreadable lookup).IsFirst key ∨ ∃ e, IsSettled dir lookup {} e ∧ e.faults.IsFirst key := by
  unfold ofEnvironment
  rw [names_bind_iff]
  simp only [names_readEnvironment_iff, readEnvironment_eq_ok_iff, names_validated_iff,
    names_validate_iff]

lemma apply_eq_ok_iff (he : IsSettled dir lookup {} e) :
    o.apply e = .ok c ↔ IsSettled dir lookup o c ∧ c.faults.IsClear := by
  unfold Overrides.apply
  rw [validated_eq_ok_iff, validate_eq_ok_iff_isClear, isSettled_iff he]
  constructor
  · rintro ⟨hclear, rfl⟩
    exact ⟨rfl, hclear⟩
  · rintro ⟨rfl, hclear⟩
    exact ⟨hclear, rfl⟩

lemma names_apply_iff (he : IsSettled dir lookup {} e) : Names (o.apply e) key ↔
    ∃ c, IsSettled dir lookup o c ∧ c.faults.IsFirst key := by
  unfold Overrides.apply
  simp only [names_validated_iff, names_validate_iff, isSettled_iff he, exists_eq_left]

lemma load_eq_ok_iff : load dir lookup o = .ok c ↔ ∃ e, IsSettled dir lookup {} e ∧
    e.faults.IsClear ∧ IsSettled dir lookup o c ∧ c.faults.IsClear := by
  unfold load
  rw [bind_eq_ok_iff]
  constructor
  · rintro ⟨e, he, hc⟩
    obtain ⟨he, hclear⟩ := ofEnvironment_eq_ok_iff.mp he
    exact ⟨e, he, hclear, (apply_eq_ok_iff he).mp hc⟩
  · rintro ⟨e, he, hclear, hc⟩
    exact ⟨e, ofEnvironment_eq_ok_iff.mpr ⟨he, hclear⟩, (apply_eq_ok_iff he).mpr hc⟩

lemma names_load_iff : Names (load dir lookup o) key ↔ (unreadable lookup).IsFirst key ∨
    (∃ e, IsSettled dir lookup {} e ∧ e.faults.IsFirst key) ∨
    ∃ e c, IsSettled dir lookup {} e ∧ e.faults.IsClear ∧ IsSettled dir lookup o c ∧
      c.faults.IsFirst key := by
  unfold load
  rw [names_bind_iff, names_ofEnvironment_iff, or_assoc]
  refine or_congr_right (or_congr_right ⟨?_, ?_⟩)
  · rintro ⟨e, he, hnames⟩
    obtain ⟨he, hclear⟩ := ofEnvironment_eq_ok_iff.mp he
    obtain ⟨c, hc, hfirst⟩ := (names_apply_iff he).mp hnames
    exact ⟨e, c, he, hclear, hc, hfirst⟩
  · rintro ⟨e, c, he, hclear, hc, hfirst⟩
    exact ⟨e, ofEnvironment_eq_ok_iff.mpr ⟨he, hclear⟩, (names_apply_iff he).mpr ⟨c, hc, hfirst⟩⟩

lemma exists_load_eq_ok_iff : (∃ c, load dir lookup o = .ok c) ↔ (unreadable lookup).IsClear ∧
    (∀ e, IsSettled dir lookup {} e → e.faults.IsClear) ∧
    ∀ c, IsSettled dir lookup o c → c.faults.IsClear := by
  simp only [load_eq_ok_iff]
  constructor
  · rintro ⟨c, e, he, heclear, hc, hcclear⟩
    refine ⟨exists_isSettled_iff.mp ⟨e, he⟩, fun d hd => ?_, fun d hd => ?_⟩
    · obtain rfl := (isSettled_iff he).mp hd
      exact heclear
    · obtain rfl := (isSettled_iff he).mp hc
      obtain rfl := (isSettled_iff he).mp hd
      exact hcclear
  · rintro ⟨hreadable, heclear, hcclear⟩
    obtain ⟨e, he⟩ := exists_isSettled_iff.mpr hreadable
    have hc : IsSettled dir lookup o (o.onto e) := (isSettled_iff he).mpr rfl
    exact ⟨o.onto e, e, he, heclear e he, hc, hcclear _ hc⟩

lemma serve_cases {σ : Type} (s : Session σ) (r : Request) (w : World σ) :
    (∃ c, load (Commands.defaultDirectory s.environment?) s.environment? r.overrides = .ok c ∧
      Commands.serve s r w = Commands.carryOut s c r.command w) ∨
    ∃ e f, load (Commands.defaultDirectory s.environment?) s.environment? r.overrides = .error e ∧
      Commands.serve s r w = (.failed f, w) ∧ (f.message = e.message ∨ f.cause = some e.message) := by
  unfold load Commands.serve Commands.loadSettings
  cases ofEnvironment (standard (Commands.defaultDirectory s.environment?)) s.environment? with
  | error e => exact Or.inr ⟨e, _, rfl, rfl, Or.inr rfl⟩
  | ok c =>
    dsimp only [Bind.bind, Except.bind]
    cases r.overrides.apply c with
    | error e => exact Or.inr ⟨e, _, rfl, rfl, Or.inl rfl⟩
    | ok c => exact Or.inl ⟨c, rfl, rfl⟩

/-- Settings are loaded just if every number can be read and both rounds of checks are passed, by what the
environment settles alone and by what holds in the end. Else the first fault is named, and no command is
carried out. -/
theorem load_exact {σ : Type} (dir : String) (lookup : Lookup) (o : Overrides) :
    (∀ c, load dir lookup o = .ok c ↔ (unreadable lookup).IsClear ∧ ∃ e, IsSettled dir lookup {} e ∧
      e.validate = .ok () ∧ IsSettled dir lookup o c ∧ c.validate = .ok ()) ∧
    ((∃ c, load dir lookup o = .ok c) ↔ (unreadable lookup).IsClear ∧
      (∀ e, IsSettled dir lookup {} e → e.validate = .ok ()) ∧
      ∀ c, IsSettled dir lookup o c → c.validate = .ok ()) ∧
    (∀ c : Config, c.validate = .ok () ↔ c.faults.IsClear) ∧
    (∀ key, Names (load dir lookup o) key ↔ (unreadable lookup).IsFirst key ∨
      (∃ e, IsSettled dir lookup {} e ∧ e.faults.IsFirst key) ∨
      ∃ e c, IsSettled dir lookup {} e ∧ e.faults.IsClear ∧ IsSettled dir lookup o c ∧
        c.faults.IsFirst key) ∧
    ∀ (s : Session σ) (r : Request) (w : World σ),
      (∃ c, load (Commands.defaultDirectory s.environment?) s.environment? r.overrides = .ok c ∧
        c.faults.IsClear ∧ Commands.serve s r w = Commands.carryOut s c r.command w) ∨
      ∃ e f, load (Commands.defaultDirectory s.environment?) s.environment? r.overrides = .error e ∧
        Commands.serve s r w = (.failed f, w) ∧
        (f.message = e.message ∨ f.cause = some e.message) := by
  refine ⟨fun c => ?_, ?_, fun c => validate_eq_ok_iff_isClear, fun key => names_load_iff,
    fun s r w => ?_⟩
  · simp only [validate_eq_ok_iff_isClear]
    rw [load_eq_ok_iff]
    refine ⟨fun h => ⟨?_, h⟩, And.right⟩
    obtain ⟨e, he, -⟩ := h
    exact exists_isSettled_iff.mp ⟨e, he⟩
  · simp only [validate_eq_ok_iff_isClear]
    exact exists_load_eq_ok_iff
  · refine (serve_cases s r w).imp_left ?_
    rintro ⟨c, hload, hserve⟩
    obtain ⟨e, -, -, -, hclear⟩ := load_eq_ok_iff.mp hload
    exact ⟨c, hload, hclear, hserve⟩

-- what the command line replaces is checked all the same
example : load "/tmp/treegen" (fun key => if key = cpuLimitKey then some " +0 " else none)
    { cpuLimit := some 20 } = .error ⟨cpuLimitKey, "must be at least 1 second"⟩ := rfl

end Config

end TreePipeline
