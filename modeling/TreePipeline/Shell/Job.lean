import TreePipeline.Shell.Command
import TreePipeline.Stage.Result

/-!
What a shell keeps of the processes that it started. Each job has a place with a number; the place is
free for another job once somebody waited for all its processes.
-/

namespace TreePipeline.Shell

structure Job where
  place : Nat
  pids : List Nat
  ended : List (Nat × UInt32)
  waited : Bool

namespace Job

def isDone (j : Job) : Bool := j.pids.all fun p => (j.ended.lookup p).isSome

def running (j : Job) : List Nat := j.pids.filter fun p => (j.ended.lookup p).isNone

def lastPid (j : Job) : Nat := j.pids.getLastD 0

def outcome (j : Job) : UInt32 := (j.ended.lookup j.lastPid).getD 0

def isFree (j : Job) : Bool := j.isDone && j.waited

def note (pid : Nat) (raw : UInt32) (j : Job) : Job :=
  if j.pids.contains pid && !j.isDone then { j with ended := (pid, raw) :: j.ended } else j

def freePlace (jobs : List Job) : (fuel n : Nat) → Nat
  | 0, n => n
  | fuel + 1, n =>
    if jobs.any fun j => j.place = n && !j.isFree then freePlace jobs fuel (n + 1) else n

def claim (jobs : List Job) : Nat × List Job :=
  let place := freePlace jobs (jobs.length + 1) 1
  (place, jobs.filter fun j => j.place ≠ place)

def find (jobs : List Job) (name : Chars) : Except Chars Job :=
  let lost := .error ("No such job: ".toList ++ name)
  let current := (jobs.head?.map Except.ok).getD (.error "No current job".toList)
  match name with
  | ['%'] => current
  | ['%', '+'] => current
  | ['%', '%'] => current
  | ['%', '-'] =>
    match jobs with
    | _ :: j :: _ => .ok j
    | _ => .error "No previous job".toList
  | '%' :: ds =>
    if ds.all Char.isDigit then
      match jobs.find? fun j => (toString j.place).toList = ds with
      | some j => .ok j
      | none => lost
    else lost
  | _ => lost

end Job

def signalTexts : List String :=
  ["Hangup", "Interrupt", "Quit", "Illegal instruction", "Trace/breakpoint trap", "Aborted",
    "Bus error", "Floating point exception", "Killed", "User defined signal 1",
    "Segmentation fault", "User defined signal 2", "Broken pipe", "Alarm clock", "Terminated",
    "Stack fault", "Child exited", "Continued", "Stopped (signal)", "Stopped",
    "Stopped (tty input)", "Stopped (tty output)", "Urgent I/O condition",
    "CPU time limit exceeded", "File size limit exceeded", "Virtual timer expired",
    "Profiling timer expired", "Window changed", "I/O possible", "Power failure",
    "Bad system call"]

def signalText (n : Nat) : String :=
  signalTexts.getD (n - 1)
    (if n < 34 then "Unknown signal " ++ toString n else "Real-time signal " ++ toString (n - 34))

def outcomeText (raw : UInt32) : String :=
  match WaitStatus.signal? raw, WaitStatus.exitCode? raw with
  | some n, _ => signalText n
  | none, some 0 => "Done"
  | none, some n => "Done(" ++ toString n ++ ")"
  | none, none => "Done"

def jobColumn : Nat := 33

def Job.show (pids : Bool) (mark : Char) (j : Job) : Chars :=
  let pad (cs : Chars) : Chars := cs ++ List.replicate (jobColumn - cs.length) ' '
  let number := "[".toList ++ (toString j.place).toList ++ "]".toList
  let front := number ++ [' ', mark, ' ']
  let first := if pids then (toString (j.pids.headD 0)).toList ++ [' '] else []
  let state := (if j.isDone then outcomeText j.outcome else "Running").toList
  let head := pad (front ++ first ++ state)
  if pids then
    let others := (j.pids.drop 1).flatMap fun p =>
      let line := List.replicate front.length ' ' ++ (toString p).toList ++ [' ']
      " |\n".toList ++ pad line
    head ++ others ++ ['\n']
  else head ++ ((j.pids.drop 1).flatMap fun _ => " | ".toList) ++ ['\n']

end TreePipeline.Shell
