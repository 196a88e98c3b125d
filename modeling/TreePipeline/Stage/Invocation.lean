import TreePipeline.Artifact.Names
import TreePipeline.Config.Basic

/-! The two stages, which build a mesh from the source and render an image from the mesh: the settings of
a stage and the launch of its tool for one submission. -/

namespace TreePipeline

inductive Stage where
  | build
  | render
  deriving DecidableEq

namespace Stage

def name : Stage → String
  | .build => "build"
  | .render => "render"

def inputRole : Stage → Role
  | .build => .source
  | .render => .mesh

/-- The artifact whose presence shows that the stage did its work. -/
def outputRole : Stage → Role
  | .build => .mesh
  | .render => .image

def variants : List (String × Stage) := [("build", .build), ("render", .render)]

end Stage

structure StageConfig where
  stage : Stage
  program : String
  cpuLimitSecs : UInt64
  wallLimitSecs : UInt64
  captureLimit : UInt64
  iterations : Option UInt32
  display : Option String
  deriving DecidableEq

/-- All that a launch needs. -/
structure Invocation where
  stageName : String
  program : Octets
  args : List Octets
  env : List (String × String)
  display : Option String
  cpuLimit : Duration
  wallLimit : Duration
  captureLimit : Nat
  expectedOutput : Octets
  deriving DecidableEq

namespace StageConfig

def build? (c : Config) : Option StageConfig := do
  let wall ← c.wallLimit?
  return {
    stage := .build, program := c.buildCommand, cpuLimitSecs := c.cpuLimitSecs,
    wallLimitSecs := wall.secs, captureLimit := c.captureLimit, iterations := c.buildIterations,
    display := none }

def render? (c : Config) : Option StageConfig := do
  let wall ← c.wallLimit?
  return {
    stage := .render, program := c.renderCommand, cpuLimitSecs := c.cpuLimitSecs,
    wallLimitSecs := wall.secs, captureLimit := c.captureLimit, iterations := none,
    display := some c.display }

def ofConfig? (c : Config) : Stage → Option StageConfig
  | .build => build? c
  | .render => render? c

/-- The arguments: the build tool takes its iterations between input and output. -/
def args (s : StageConfig) (set : ArtifactSet) : List Octets :=
  let input := set.path s.stage.inputRole
  let output := set.path s.stage.outputRole
  match s.stage with
  | .build => input :: (s.iterations.map fun n => Octets.ofAscii (toString n)).toList ++ [output]
  | .render =>
    [input, Octets.ofAscii "-exit_immediately", Octets.ofAscii "-output_image", output]

/-- The launch for a submission's files; the deadline is never shorter than the CPU limit. -/
def invocation (s : StageConfig) (set : ArtifactSet) : Invocation where
  stageName := s.stage.name
  program := Utf8.encode s.program
  args := s.args set
  env := (s.display.map fun d => ("DISPLAY", d)).toList
  display := s.display
  cpuLimit := .ofSecs s.cpuLimitSecs
  wallLimit := .ofSecs (max s.wallLimitSecs s.cpuLimitSecs)
  captureLimit := s.captureLimit.toNat
  expectedOutput := set.path s.stage.outputRole

end StageConfig

end TreePipeline
