import TreePipeline.Event.Basic
import TreePipeline.Files.Operations
import TreePipeline.Stage.Invocation
import TreePipeline.Stage.Result

/-!
What runs a stage: any function of the invocation, the tree of files and a state of its own. The
scripted executor acts without tools, by a table of what each stage is to do.
-/

namespace TreePipeline

structure Execution (σ : Type) where
  answer : Except StageError StageResult
  files : FileSystem
  state : σ
  events : List Event

structure Executor (σ : Type) where
  execute : Invocation → FileSystem → σ → Execution σ

inductive Behavior where
  | produce
  | omit
  | timeout
  | launchFailure
  deriving DecidableEq

namespace Behavior

def variants : List (String × Behavior) :=
  [("produce", .produce), ("omit", .omit), ("timeout", .timeout),
    ("launch_failure", .launchFailure)]

def resultOf (invocation : Invocation) (exit : ExitOutcome) (fs : FileSystem) : StageResult where
  stageName := invocation.stageName
  exit := exit
  output := ""
  truncated := false
  durationMillis := 0
  artifactExists := fs.pathExists invocation.expectedOutput

def body (stageName : String) : Octets := Utf8.encode ("fake " ++ stageName ++ " output\n")

def act (b : Behavior) (invocation : Invocation) (fs : FileSystem) :
    Except StageError StageResult × FileSystem :=
  match b with
  | .produce =>
    match fs.writeFile invocation.expectedOutput (body invocation.stageName) with
    | .ok fs => (.ok (resultOf invocation (.exited 0) fs), fs)
    | .error e => (.error (.system e), fs)
  | .omit => (.ok (resultOf invocation (.exited 0) fs), fs)
  | .timeout => (.ok (resultOf invocation .timeoutKilled fs), fs)
  | .launchFailure => (.error (.launch invocation.program .notFound), fs)

end Behavior

namespace Executor

/-- An executor that remembers its invocations and acts by a function of them alone. -/
def recording (act : Invocation → FileSystem → Except StageError StageResult × FileSystem) :
    Executor (List Invocation) where
  execute invocation fs seen :=
    let (answer, fs) := act invocation fs
    ⟨answer, fs, seen ++ [invocation], []⟩

/-- The executor that acts by a table; a stage that is not in it produces its output. -/
def scripted (table : List (String × Behavior)) : Executor (List Invocation) :=
  recording fun invocation fs =>
    ((table.lookup invocation.stageName).getD .produce).act invocation fs

/-- Whether a stage of that name was ever invoked. -/
def launched (seen : List Invocation) (stageName : String) : Bool :=
  seen.any fun i => i.stageName = stageName

end Executor

end TreePipeline
