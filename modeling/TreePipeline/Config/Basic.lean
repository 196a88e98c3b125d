import TreePipeline.Text.Numeral
import TreePipeline.Time.Duration

/-!
Settings of the pipeline and the limits that follow from them. Settings given on the command line go
before those of the environment.
-/

namespace TreePipeline

structure Config where
  cpuLimitSecs : UInt64
  wallFactor : UInt32
  artifactDir : String
  buildCommand : String
  renderCommand : String
  buildIterations : Option UInt32
  display : String
  captureLimit : UInt64
  deriving DecidableEq

structure ConfigError where
  key : String
  reason : String
  deriving DecidableEq

def ConfigError.message (e : ConfigError) : String :=
  "invalid value for " ++ e.key ++ ": " ++ e.reason

namespace Config

def standard (artifactDir : String) : Config where
  cpuLimitSecs := 15
  wallFactor := 3
  artifactDir := artifactDir
  buildCommand := "meshpro"
  renderCommand := "meshview"
  buildIterations := none
  display := ":1"
  captureLimit := 65536

def cpuLimitKey : String := "TREEGEN_CPU_LIMIT_SECS"
def wallFactorKey : String := "TREEGEN_WALL_FACTOR"
def artifactDirKey : String := "TREEGEN_ARTIFACT_DIR"
def buildCommandKey : String := "TREEGEN_BUILD_CMD"
def renderCommandKey : String := "TREEGEN_RENDER_CMD"
def buildIterationsKey : String := "TREEGEN_BUILD_ITERATIONS"
def displayKey : String := "TREEGEN_DISPLAY"
def captureLimitKey : String := "TREEGEN_CAPTURE_LIMIT"

/-- No limit is zero and the display is not blank. -/
def validate (c : Config) : Except ConfigError Unit :=
  if c.cpuLimitSecs = 0 then .error ⟨cpuLimitKey, "must be at least 1 second"⟩
  else if c.wallFactor = 0 then .error ⟨wallFactorKey, "must be at least 1"⟩
  else if c.captureLimit = 0 then .error ⟨captureLimitKey, "must be at least 1 byte"⟩
  else if (Text.trimChars c.display.toList).isEmpty then .error ⟨displayKey, "must not be empty"⟩
  else .ok ()

def cpuLimit (c : Config) : Duration := .ofSecs c.cpuLimitSecs

/-- The deadline of a stage, unless it is beyond the longest duration. -/
def wallLimit? (c : Config) : Option Duration := c.cpuLimit.times? c.wallFactor.toNat

end Config

/-- Settings given on the command line. -/
structure Overrides where
  cpuLimit : Option UInt64 := none
  wallFactor : Option UInt32 := none
  artifactDir : Option String := none
  buildCommand : Option String := none
  renderCommand : Option String := none
  iterations : Option UInt32 := none
  display : Option String := none
  deriving DecidableEq

namespace Overrides

def orElse (o later : Overrides) : Overrides where
  cpuLimit := o.cpuLimit.or later.cpuLimit
  wallFactor := o.wallFactor.or later.wallFactor
  artifactDir := o.artifactDir.or later.artifactDir
  buildCommand := o.buildCommand.or later.buildCommand
  renderCommand := o.renderCommand.or later.renderCommand
  iterations := o.iterations.or later.iterations
  display := o.display.or later.display

def onto (o : Overrides) (c : Config) : Config :=
  { c with
    cpuLimitSecs := o.cpuLimit.getD c.cpuLimitSecs
    wallFactor := o.wallFactor.getD c.wallFactor
    artifactDir := o.artifactDir.getD c.artifactDir
    buildCommand := o.buildCommand.getD c.buildCommand
    renderCommand := o.renderCommand.getD c.renderCommand
    buildIterations := o.iterations.or c.buildIterations
    display := o.display.getD c.display }

def apply (o : Overrides) (c : Config) : Except ConfigError Config := do
  let c := o.onto c
  c.validate
  return c

end Overrides

end TreePipeline
