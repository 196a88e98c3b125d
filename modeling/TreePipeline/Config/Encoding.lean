import TreePipeline.Config.Basic
import TreePipeline.Json.Decode
import TreePipeline.Stage.Invocation

/-! Settings in JSON, those of the whole and those of a stage. -/

namespace TreePipeline.Config

def toJson (c : Config) : Json :=
  .object [("cpu_limit_secs", .ofNat c.cpuLimitSecs.toNat), ("wall_factor", .ofNat c.wallFactor.toNat),
    ("artifact_dir", .string c.artifactDir), ("build_command", .string c.buildCommand),
    ("render_command", .string c.renderCommand),
    ("build_iterations", (c.buildIterations.map fun n => Json.ofNat n.toNat).getD .null),
    ("display", .string c.display), ("capture_limit_bytes", .ofNat c.captureLimit.toNat)]

def fields : List Json.Field :=
  [.required "cpu_limit_secs" (Json.decodeUInt64 "u64"),
    .required "wall_factor" (Json.decodeUInt32 "u32"),
    .required "artifact_dir" Json.decodePath, .required "build_command" Json.decodePath,
    .required "render_command" Json.decodePath,
    .maybe "build_iterations" (Json.decodeUInt32 "u32"), .required "display" Json.decodeString,
    .required "capture_limit_bytes" (Json.decodeUInt64 "usize")]

def ofJson : Json.Decoder Config := fun v => do
  let ms ← Json.recordMembers "struct PipelineConfig" fields v
  return {
    cpuLimitSecs := ← ms.field "cpu_limit_secs" (Json.decodeUInt64 "u64")
    wallFactor := ← ms.field "wall_factor" (Json.decodeUInt32 "u32")
    artifactDir := ← ms.field "artifact_dir" Json.decodePath
    buildCommand := ← ms.field "build_command" Json.decodePath
    renderCommand := ← ms.field "render_command" Json.decodePath
    buildIterations := ← ms.field "build_iterations" (Json.decodeOption (Json.decodeUInt32 "u32"))
    display := ← ms.field "display" Json.decodeString
    captureLimit := ← ms.field "capture_limit_bytes" (Json.decodeUInt64 "usize") }

end TreePipeline.Config

namespace TreePipeline

def Stage.toJson (s : Stage) : Json := .string s.name

def Stage.ofJson : Json.Decoder Stage := Json.decodeVariant Stage.variants

namespace StageConfig

def toJson (s : StageConfig) : Json :=
  .object [("stage", s.stage.toJson), ("program", .string s.program),
    ("cpu_limit_secs", .ofNat s.cpuLimitSecs.toNat),
    ("wall_limit_secs", .ofNat s.wallLimitSecs.toNat),
    ("capture_limit_bytes", .ofNat s.captureLimit.toNat),
    ("iterations", (s.iterations.map fun n => Json.ofNat n.toNat).getD .null),
    ("display", (s.display.map Json.string).getD .null)]

def fields : List Json.Field :=
  [.required "stage" Stage.ofJson, .required "program" Json.decodePath,
    .required "cpu_limit_secs" (Json.decodeUInt64 "u64"),
    .required "wall_limit_secs" (Json.decodeUInt64 "u64"),
    .required "capture_limit_bytes" (Json.decodeUInt64 "usize"),
    .maybe "iterations" (Json.decodeUInt32 "u32"), .maybe "display" Json.decodeString]

def ofJson : Json.Decoder StageConfig := fun v => do
  let ms ← Json.recordMembers "struct StageConfig" fields v
  return {
    stage := ← ms.field "stage" Stage.ofJson
    program := ← ms.field "program" Json.decodePath
    cpuLimitSecs := ← ms.field "cpu_limit_secs" (Json.decodeUInt64 "u64")
    wallLimitSecs := ← ms.field "wall_limit_secs" (Json.decodeUInt64 "u64")
    captureLimit := ← ms.field "capture_limit_bytes" (Json.decodeUInt64 "usize")
    iterations := ← ms.field "iterations" (Json.decodeOption (Json.decodeUInt32 "u32"))
    display := ← ms.field "display" (Json.decodeOption Json.decodeString) }

end StageConfig

end TreePipeline
