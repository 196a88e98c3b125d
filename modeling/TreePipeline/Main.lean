import TreePipeline.Artifact.Identifier
import TreePipeline.Commands.Run
import TreePipeline.Host.Simulation

/-! The program. It works on a tree of files in memory, on which small tools stand ready. -/

namespace TreePipeline.Main

open Host

def variableNames : List String :=
  ["PATH", "HOME", "TMPDIR", "DISPLAY", "RUST_LOG", Config.cpuLimitKey, Config.wallFactorKey,
    Config.artifactDirKey, Config.buildCommandKey, Config.renderCommandKey,
    Config.buildIterationsKey, Config.displayKey, Config.captureLimitKey]

def readVariables : IO (List (String × String)) := do
  let found ← variableNames.mapM fun name => do
    let value ← IO.getEnv name
    return value.map fun v => (name, v)
  return found.filterMap id

partial def readInput (stream : IO.FS.Stream) (acc : ByteArray) : IO ByteArray := do
  let chunk ← stream.read 65536
  if chunk.isEmpty then return acc else readInput stream (acc ++ chunk)

def causeOf : IO.Error → SystemError
  | .inappropriateType _ code _ | .permissionDenied _ code _ | .otherError code _
  | .invalidArgument _ code _ | .resourceBusy code _ => .os ⟨code.toNat⟩
  | _ => .os .faulty

def needsInput (words : List String) : Bool :=
  match CommandLine.read words with
  | .ok ⟨_, _, _, .generate none _⟩ => true
  | _ => false

end TreePipeline.Main

open TreePipeline TreePipeline.Main

def main (words : List String) : IO UInt32 := do
  let vars ← readVariables
  let now ← IO.monoNanosNow
  let input ← if needsInput words then
      (readInput (← IO.getStdin) .empty).toBaseIO
    else pure (.ok .empty)
  let files := Host.Simulation.standardFiles now (Host.Simulation.location "/root")
  let world : World Host.Computer := ⟨files, Host.Computer.idle files⟩
  let s := Host.session vars ((input.map ByteArray.toList).mapError causeOf) (BaseId.candidate now)
  let ((code, output, complaint), _) := Commands.run s words world
  (← IO.getStdout).putStr output
  (← IO.getStderr).putStr complaint
  return code.toUInt32
