import Mathlib.Algebra.Group.Nat.Defs
import TreePipeline.Proofs.Config.Loading
import TreePipeline.Proofs.Pipeline.Progress

/-! The limits that follow from settings that are accepted. Both are exact numbers of seconds; there
is no deadline, and no stage is set up, if the CPU limit times the factor is too many of them. -/

namespace TreePipeline

namespace Config

variable {c : Config} {stage : Stage} {s : StageConfig}

lemma validate_eq_ok_iff : c.validate = .ok () ↔ c.cpuLimitSecs ≠ 0 ∧ c.wallFactor ≠ 0 ∧
    c.captureLimit ≠ 0 ∧ Text.trimChars c.display.toList ≠ [] := by
  unfold validate
  split_ifs <;> simp_all

/-- Settings that were validated, by themselves or as the environment or the command line gives them. -/
inductive IsAccepted (c : Config) : Prop where
  | validated (h : c.validate = .ok ())
  | environment (defaults : Config) (lookup : Lookup) (h : ofEnvironment defaults lookup = .ok c)
  | overrides (o : Overrides) (given : Config) (h : o.apply given = .ok c)

lemma IsAccepted.validate_eq_ok (h : c.IsAccepted) : c.validate = .ok () := by
  cases h with
  | validated h => exact h
  | environment defaults lookup h =>
    obtain ⟨d, -, hd⟩ := bind_eq_ok_iff.mp h
    obtain ⟨hvalid, rfl⟩ := validated_eq_ok_iff.mp hd
    exact hvalid
  | overrides o given h =>
    obtain ⟨hvalid, rfl⟩ := validated_eq_ok_iff.mp h
    exact hvalid

def deadlineSecs (c : Config) : Nat := c.cpuLimitSecs.toNat * c.wallFactor.toNat

def HasDeadline (c : Config) : Prop := c.deadlineSecs < 0x10000000000000000

lemma wallLimit?_eq_some_iff {wall : Duration} :
    c.wallLimit? = some wall ↔ c.HasDeadline ∧ wall = .ofSecs c.deadlineSecs.toUInt64 := by
  unfold wallLimit? cpuLimit HasDeadline deadlineSecs
  rw [Duration.times?_ofSecs]
  split <;> rename_i hlt
  · simp [hlt, eq_comm]
  · simp only [hlt, false_and, reduceCtorEq]

lemma HasDeadline.toNat_toUInt64 (h : c.HasDeadline) : c.deadlineSecs.toUInt64.toNat = c.deadlineSecs := by
  rw [Nat.toUInt64_eq, UInt64.toNat_ofNat']
  exact Nat.mod_eq_of_lt h

lemma exists_ofConfig?_iff : (∃ s, StageConfig.ofConfig? c stage = some s) ↔ c.HasDeadline := by
  have hwall : (∃ wall, c.wallLimit? = some wall) ↔ c.HasDeadline := by
    simp [wallLimit?_eq_some_iff]
  rw [← hwall]
  cases stage <;> cases h : c.wallLimit? <;>
    simp [StageConfig.ofConfig?, StageConfig.build?, StageConfig.render?, h]

lemma limits_of_ofConfig? (h : StageConfig.ofConfig? c stage = some s) :
    s.stage = stage ∧ s.cpuLimitSecs = c.cpuLimitSecs ∧
      s.wallLimitSecs = c.deadlineSecs.toUInt64 := by
  cases stage <;> obtain ⟨wall, hwall, hs⟩ := Option.bind_eq_some_iff.mp h <;>
    obtain ⟨-, rfl⟩ := wallLimit?_eq_some_iff.mp hwall <;> cases hs <;> exact ⟨rfl, rfl, rfl⟩

lemma cpuLimitSecs_pos (h : c.validate = .ok ()) : 1 ≤ c.cpuLimitSecs.toNat := by
  have hne := (validate_eq_ok_iff.mp h).1
  rw [ne_eq, ← UInt64.toNat_inj] at hne
  exact Nat.one_le_iff_ne_zero.mpr hne

lemma cpuLimitSecs_le_deadlineSecs (h : c.validate = .ok ()) :
    c.cpuLimitSecs.toNat ≤ c.deadlineSecs := by
  have hne := (validate_eq_ok_iff.mp h).2.1
  rw [ne_eq, ← UInt32.toNat_inj] at hne
  exact Nat.le_mul_of_pos_right _ (Nat.pos_of_ne_zero hne)

lemma limits_of_invocation (hvalid : c.validate = .ok ()) (h : StageConfig.ofConfig? c stage = some s)
    (set : ArtifactSet) : (s.invocation set).cpuLimit.total = c.cpuLimitSecs.toNat * 1000000000 ∧
      (s.invocation set).wallLimit.total = c.deadlineSecs * 1000000000 := by
  obtain ⟨-, hcpu, hwall⟩ := limits_of_ofConfig? h
  have hdeadline : c.deadlineSecs.toUInt64.toNat = c.deadlineSecs :=
    (exists_ofConfig?_iff.mp ⟨s, h⟩).toNat_toUInt64
  -- the deadline is no shorter than the limit already
  have hmax : (max s.wallLimitSecs s.cpuLimitSecs).toNat = c.deadlineSecs := by
    rw [Duration.toNat_max, hcpu, hwall, hdeadline]
    exact Nat.max_eq_left (cpuLimitSecs_le_deadlineSecs hvalid)
  refine ⟨?_, ?_⟩
  · rw [← hcpu]
    exact Duration.total_ofSecs _
  · rw [← hmax]
    exact Duration.total_ofSecs _

/-- What accepted settings come to. There is a deadline, and either stage can be set up, just if the CPU
limit times the factor is below `2 ^ 64` seconds. The launches of both stages then have just these
limits, the first at least one second and the second no shorter. -/
theorem limits_of_accepted (c : Config) (h : c.IsAccepted) :
    c.validate = .ok () ∧
    ((∃ wall, c.wallLimit? = some wall) ↔
      c.cpuLimitSecs.toNat * c.wallFactor.toNat < 2 ^ 64) ∧
    (∀ stage, (∃ s, StageConfig.ofConfig? c stage = some s) ↔
      c.cpuLimitSecs.toNat * c.wallFactor.toNat < 2 ^ 64) ∧
    (∀ wall, c.wallLimit? = some wall →
      wall.total = c.cpuLimitSecs.toNat * c.wallFactor.toNat * 10 ^ 9) ∧
    ∀ stage s, StageConfig.ofConfig? c stage = some s → ∀ set,
      let i := s.invocation set
      i.stageName = stage.name ∧ i.cpuLimit.total = c.cpuLimitSecs.toNat * 10 ^ 9 ∧
        i.wallLimit.total = c.cpuLimitSecs.toNat * c.wallFactor.toNat * 10 ^ 9 ∧
        1 * 10 ^ 9 ≤ i.cpuLimit.total ∧ i.cpuLimit.total ≤ i.wallLimit.total := by
  have hvalid := h.validate_eq_ok
  refine ⟨hvalid, ?_, fun stage => exists_ofConfig?_iff, fun wall hwall => ?_,
    fun stage s hs set => ?_⟩
  · simp only [wallLimit?_eq_some_iff, exists_and_left, exists_eq, and_true]
    rfl
  · obtain ⟨hdeadline, rfl⟩ := wallLimit?_eq_some_iff.mp hwall
    rw [Duration.total_ofSecs, hdeadline.toNat_toUInt64]
    rfl
  · obtain ⟨hcpu, hwall⟩ := limits_of_invocation hvalid hs set
    have hpos := cpuLimitSecs_pos hvalid
    have hle := cpuLimitSecs_le_deadlineSecs hvalid
    refine ⟨congrArg Stage.name (limits_of_ofConfig? hs).1, hcpu, hwall, ?_, ?_⟩
    · rw [hcpu]
      exact Nat.mul_le_mul_right _ hpos
    · rw [hcpu, hwall]
      exact Nat.mul_le_mul_right _ hle

def exampleDefaults : Config := standard "/tmp/treegen"

/-- The environment in which the limit and the factor are set so. -/
def limitsLookup (cpuLimit wallFactor : String) : Lookup := fun key =>
  if key = cpuLimitKey then some cpuLimit else if key = wallFactorKey then some wallFactor else none

theorem limits_of_accepted_longest :
    ∃ c, ofEnvironment exampleDefaults (limitsLookup "6148914691236517205" "3") = .ok c ∧
      ∃ s, StageConfig.ofConfig? c .render = some s ∧ ∀ set,
        (s.invocation set).cpuLimit.total = 6148914691236517205 * 10 ^ 9 ∧
          (s.invocation set).wallLimit.total = (2 ^ 64 - 1) * 10 ^ 9 := by
  have hread : ofEnvironment exampleDefaults (limitsLookup "6148914691236517205" "3") =
      .ok { exampleDefaults with cpuLimitSecs := 6148914691236517205, wallFactor := 3 } := by
    decide +kernel
  have hlimits := limits_of_accepted _ (.environment _ _ hread)
  obtain ⟨s, hs⟩ := (hlimits.2.2.1 .render).mpr (by decide)
  refine ⟨_, hread, s, hs, fun set => ?_⟩
  obtain ⟨-, hcpu, hwall, -⟩ := hlimits.2.2.2.2 _ s hs set
  exact ⟨hcpu, hwall⟩

/-- A limit of `2 ^ 63` seconds and a factor of two are accepted, from the environment and from the
command line, but there is no deadline, and no stage to run. -/
theorem accepted_without_deadline :
    ∃ c, ofEnvironment exampleDefaults (limitsLookup "9223372036854775808" "2") = .ok c ∧
      Overrides.apply { cpuLimit := some 9223372036854775808, wallFactor := some 2 }
        exampleDefaults = .ok c ∧
      c.validate = .ok () ∧ c.wallLimit? = none ∧ ∀ stage, StageConfig.ofConfig? c stage = none := by
  refine ⟨{ exampleDefaults with cpuLimitSecs := 9223372036854775808, wallFactor := 2 },
    by decide +kernel, by decide +kernel, by decide, by decide, fun stage => ?_⟩
  cases stage <;> decide

end Config

end TreePipeline
