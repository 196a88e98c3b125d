import TreePipeline.CommandLine.Reader
import TreePipeline.Commands.Generate
import TreePipeline.Config.Environment
import TreePipeline.Files.Walk
import TreePipeline.Store.Purge

/-!
The whole program: reading the command line, loading the settings and carrying out the command.
Settings come from the environment, are validated, and are validated again with the overrides.
-/

/-! A program name of several parts names the file itself; a single name is looked for in the directories
of the search path, of which an empty one is the current directory. -/

namespace TreePipeline.ProgramSearch

def colon : UInt8 := 0x3a

def entries (searchPath : Octets) : List Octets := Octets.splitOn colon searchPath

def find (fs : FileSystem) (searchPath : Option Octets) (program : Octets) : Option Octets :=
  if 1 < (Path.components program).length then
    if fs.isFile program then some program else none
  else
    match searchPath with
    | none => none
    | some p => ((entries p).map fun dir => Path.join dir program).find? fs.isFile

end TreePipeline.ProgramSearch

namespace TreePipeline.Commands

variable {σ : Type}

def versionText : String := "treegen 0.1.0\n"

def helpText : String :=
  "Bounded-time L-system tree generation\n\nUsage: treegen [OPTIONS] <COMMAND>\n\nCommands:\n" ++
  "  generate  Generate a mesh and preview image from an L-system grammar\n" ++
  "  resolve   Print the file path behind an artifact reference\n" ++
  "  doctor    Check that the display and stage binaries are available\n" ++
  "  purge     Delete artifacts older than the given age\n" ++
  "  help      Print this message or the help of the given subcommand(s)\n\nOptions:\n" ++
  "  -v, --verbose                        Enable verbose output\n" ++
  "      --json                           Emit JSON-formatted log lines\n" ++
  "      --cpu-limit <CPU_LIMIT>          CPU-time ceiling per stage, in seconds\n" ++
  "      --wall-factor <WALL_FACTOR>      " ++
    "Supervisory wall-clock multiplier of the CPU ceiling\n" ++
  "      --artifact-dir <ARTIFACT_DIR>    Artifact directory\n" ++
  "      --build-cmd <BUILD_CMD>          Build stage executable\n" ++
  "      --render-cmd <RENDER_CMD>        Render stage executable\n" ++
  "      --iterations <ITERATIONS>        Iteration override passed to the build stage\n" ++
  "      --display <DISPLAY>              X display used by the render stage\n" ++
  "  -h, --help                           Print help\n" ++
  "  -V, --version                        Print version\n"

def usageText : String := "Usage: treegen [OPTIONS] <COMMAND>\n"

def noticeEnding : Notice → Ending
  | .help => .plain 0 helpText
  | .version => .plain 0 versionText
  | .usage => ⟨2, "", [], usageText⟩

def resolve (c : Config) (reference : String) (w : World σ) : Ending × World σ :=
  match Reference.parse reference with
  | .error e => (.failed (.ofArtifact e), w)
  | .ok r =>
    match Store.openAt w.files (Utf8.encode c.artifactDir) with
    | .error e => (.failed (.ofArtifact e), w)
    | .ok (store, fs) =>
      let w := { w with files := fs }
      match store.resolve fs r with
      | .error e => (.failed (.ofArtifact e), w)
      | .ok l => (.plain 0 (Utf8.decodeLossy (FileSystem.pathOf l) ++ "\n"), w)

structure Finding where
  text : String
  good : Bool

def examineDisplay (c : Config) (fs : FileSystem) : Finding :=
  match DisplayProbe.standard.check fs c.display with
  | .ok () => ⟨"display " ++ c.display ++ ": ok", true⟩
  | .error e => ⟨"display " ++ c.display ++ ": " ++ e.message, false⟩

def examineTool (s : Session σ) (stage : Stage) (program : String) (fs : FileSystem) : Finding :=
  match ProgramSearch.find fs ((s.environment? "PATH").map Utf8.encode) (Utf8.encode program) with
  | some path => ⟨stage.name ++ " tool: " ++ Utf8.decodeLossy path, true⟩
  | none => ⟨stage.name ++ " tool: " ++ program ++ " not found", false⟩

def examineStore (c : Config) (fs : FileSystem) : Finding × FileSystem :=
  match Store.openAt fs (Utf8.encode c.artifactDir) with
  | .ok (store, fs) => (⟨"artifact dir: " ++ Utf8.decodeLossy store.root, true⟩, fs)
  | .error e => (⟨"artifact dir: " ++ e.message, false⟩, fs)

def doctor (s : Session σ) (c : Config) (w : World σ) : Ending × World σ :=
  let (last, fs) := examineStore c w.files
  let findings :=
    [examineDisplay c w.files, examineTool s .build c.buildCommand w.files,
      examineTool s .render c.renderCommand w.files, last]
  let lines := findings.map fun f => f.text ++ "\n"
  (.plain (if findings.all Finding.good then 0 else 1) (String.join lines), { w with files := fs })

def purged (store : Store) (result : Except ArtifactError Nat) : Ending :=
  match result with
  | .error e => .failed (.ofArtifact e)
  | .ok removed =>
    let entry : LogEntry := ⟨none, .artifactsPurged (Utf8.decodeLossy store.root) removed⟩
    ⟨0, "Removed " ++ toString removed ++ " artifact file(s)\n", [entry], ""⟩

def purge (c : Config) (olderThan : UInt64) (w : World σ) : Ending × World σ :=
  match Store.openAt w.files (Utf8.encode c.artifactDir) with
  | .error e => (.failed (.ofArtifact e), w)
  | .ok (store, fs) =>
    let (result, fs) := store.purge (.ofSecs olderThan) fs
    (purged store result, { w with files := fs })

def carryOut (s : Session σ) (c : Config) (command : Command) (w : World σ) : Ending × World σ :=
  match command with
  | .generate input skip => generate s c input skip w
  | .resolve reference => resolve c reference w
  | .doctor => doctor s c w
  | .purge olderThan => purge c olderThan w

/-- The directory of artifacts that is used unless another is asked for. -/
def defaultDirectory (environment? : String → Option String) : String :=
  let temporary := (environment? "TMPDIR").getD "/tmp"
  Utf8.decodeLossy (Path.join (Utf8.encode temporary) (Octets.ofAscii "treegen"))

/-- The settings that hold for a command, or why there are none. -/
def loadSettings (s : Session σ) (o : Overrides) : Except Failure Config :=
  match Config.ofEnvironment (.standard (defaultDirectory s.environment?)) s.environment? with
  | .error e => .error ⟨"Invalid TREEGEN_* configuration", some e.message⟩
  | .ok c =>
    match o.apply c with
    | .error e => .error ⟨e.message, none⟩
    | .ok c => .ok c

/-- Carries out a request. -/
def serve (s : Session σ) (r : Request) (w : World σ) : Ending × World σ :=
  match loadSettings s r.overrides with
  | .error f => (.failed f, w)
  | .ok c => carryOut s c r.command w

def logFilter (s : Session σ) (r : Request) : LogFilter :=
  .choose (s.environment? "RUST_LOG") (if r.verbose then .debug else .info)

def present (s : Session σ) (r : Request) (e : Ending) (clock : Int) : Nat × String × String :=
  let lines := if r.json then e.logLines (logFilter s r) (.ofClock clock) else []
  (e.code, e.output, String.join (lines.map (· ++ "\n")) ++ e.complaint)

/-- Exit code, standard output and standard error of a run with the given words. -/
def run (s : Session σ) (words : List String) (w : World σ) : (Nat × String × String) × World σ :=
  match CommandLine.read words with
  | .error n =>
    let e := noticeEnding n
    ((e.code, e.output, e.complaint), w)
  | .ok r =>
    let (e, w) := serve s r w
    (present s r e w.files.clock, w)

end TreePipeline.Commands
