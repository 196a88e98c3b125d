import TreePipeline.Config.Basic

/-! What the program can be asked to do, and the words by which it is asked. -/

namespace TreePipeline

inductive Command where
  | generate (input : Option String) (skipDisplayCheck : Bool)
  | resolve (reference : String)
  | doctor
  | purge (olderThan : UInt64)
  deriving DecidableEq

structure Request where
  verbose : Bool
  json : Bool
  overrides : Overrides
  command : Command
  deriving DecidableEq

inductive Notice where
  | help
  | version
  | usage
  deriving DecidableEq

namespace CommandLine

inductive Scope where
  | top
  | generate
  | resolve
  | doctor
  | purge
  deriving DecidableEq

inductive Flag where
  | verbose
  | json
  | skipDisplayCheck
  | help
  | version
  deriving DecidableEq

inductive Setting where
  | cpuLimit
  | wallFactor
  | artifactDir
  | buildCommand
  | renderCommand
  | iterations
  | display
  | input
  | olderThan
  deriving DecidableEq

inductive Switch where
  | flag (f : Flag)
  | setting (s : Setting)
  deriving DecidableEq

def Switch.allowed (scope : Scope) : Switch → Bool
  | .flag .skipDisplayCheck => scope = .generate
  | .flag .version => scope = .top
  | .setting .input => scope = .generate
  | .setting .olderThan => scope = .purge
  | _ => true

def commands : List (String × Scope) :=
  [("generate", .generate), ("resolve", .resolve), ("doctor", .doctor), ("purge", .purge)]

def helpCommand : String := "help"

def longNames : List (String × Switch) :=
  [("verbose", .flag .verbose), ("json", .flag .json),
    ("skip-display-check", .flag .skipDisplayCheck), ("help", .flag .help),
    ("version", .flag .version), ("cpu-limit", .setting .cpuLimit),
    ("wall-factor", .setting .wallFactor), ("artifact-dir", .setting .artifactDir),
    ("build-cmd", .setting .buildCommand), ("render-cmd", .setting .renderCommand),
    ("iterations", .setting .iterations), ("display", .setting .display),
    ("input", .setting .input), ("older-than", .setting .olderThan)]

def shortNames : List (Char × Switch) :=
  [('v', .flag .verbose), ('h', .flag .help), ('V', .flag .version), ('i', .setting .input)]

def ofLong? (scope : Scope) (name : String) : Option Switch :=
  (longNames.lookup name).filter (Switch.allowed scope)

def ofShort? (scope : Scope) (name : Char) : Option Switch :=
  (shortNames.lookup name).filter (Switch.allowed scope)

end CommandLine

end TreePipeline
