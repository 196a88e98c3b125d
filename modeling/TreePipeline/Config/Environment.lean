import TreePipeline.Config.Basic
import TreePipeline.Text.Numeral

/-!
Settings from environment variables. Numbers are read in the order of their fields and the first
that cannot be read decides the error; what was read is then validated.
-/

namespace TreePipeline.Config

abbrev Lookup := String → Option String

def readNumber (lookup : Lookup) (key : String) (max : Nat) : Except ConfigError (Option Nat) :=
  match lookup key with
  | none => .ok none
  | some raw =>
    match Numeral.read max (Text.trim raw) with
    | .ok n => .ok (some n)
    | .error e => .error ⟨key, e.message⟩

def maxWord32 : Nat := 0xffffffff

def maxWord64 : Nat := 0xffffffffffffffff

def readEnvironment (defaults : Config) (lookup : Lookup) : Except ConfigError Config := do
  let cpuLimit ← readNumber lookup cpuLimitKey maxWord64
  let wallFactor ← readNumber lookup wallFactorKey maxWord32
  let iterations ← readNumber lookup buildIterationsKey maxWord32
  let captureLimit ← readNumber lookup captureLimitKey maxWord64
  return {
    cpuLimitSecs := (cpuLimit.map Nat.toUInt64).getD defaults.cpuLimitSecs
    wallFactor := (wallFactor.map Nat.toUInt32).getD defaults.wallFactor
    artifactDir := (lookup artifactDirKey).getD defaults.artifactDir
    buildCommand := (lookup buildCommandKey).getD defaults.buildCommand
    renderCommand := (lookup renderCommandKey).getD defaults.renderCommand
    buildIterations := iterations.map Nat.toUInt32
    display := ((lookup displayKey).or (lookup "DISPLAY")).getD defaults.display
    captureLimit := (captureLimit.map Nat.toUInt64).getD defaults.captureLimit }

def ofEnvironment (defaults : Config) (lookup : Lookup) : Except ConfigError Config := do
  let c ← readEnvironment defaults lookup
  c.validate
  return c

end TreePipeline.Config
