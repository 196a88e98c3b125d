import TreePipeline.Commands.Basic
import TreePipeline.Host.Loader
import TreePipeline.Supervision.Runner

/-! The computer as a machine for the runner, and the tree of files that it has from the start. -/

namespace TreePipeline.Host

namespace Simulation

def setOver (env : Env) (vars : List (String × String)) : Env :=
  vars.foldl (fun env (k, v) =>
    let k := Utf8.encode k
    env.filter (fun e => e.1 ≠ k) ++ [(k, Utf8.encode v)]) env

def unlimitable : Program :=
  let body : Act Nat := do
    let _ ← Act.write 2 (Octets.ofAscii "limit out of range\n")
    let _ ← Act.call (.kill 0 Signal.abort)
    return 1
  body.run

/-- What is seen of a tool that would be observed a million times: its deadline expires, and it is lost. -/
def lastObservation : (patience : Nat) → Observation
  | 2 => .deadlineExpired
  | 1 => .reaped (.error (.os .noChild))
  | _ => .graceExpired

def machinery (inherited : Env) : Machinery Computer where
  launch i ceiling fs c :=
    let env := setOver inherited i.env
    let c := { Computer.idle fs with nextPid := c.nextPid }
    match ceiling with
    | none =>
      let c := c.begin ⟨i.program, [], [], unlimitable⟩ env ⟨0xffffffffffffffff, 0xffffffffffffffff⟩ i.wallLimit
      .ok (c.files, c)
    | some ceiling =>
    match Loader.search fs i.program i.args env with
    | .error e => .error (.os e)
    | .ok loaded =>
      let c := c.begin loaded env ceiling i.wallLimit
      .ok (c.files, c)
  observe fs c :=
    let patience := c.patience - 1
    if patience < 3 then (lastObservation patience, fs, { c with patience := patience })
    else
      let (o, c) := { c with files := fs }.observe Loader.load Computer.maxSteps
      (o, c.files, { c with patience := patience })
  act a fs c :=
    let patience := c.patience
    let c := { c with files := fs }.act a
    (c.files, { c with patience := patience })

variable {inherited : Env}

theorem patience_superviseStep (i : Invocation) (x : Supervised Computer) :
    ((machinery inherited).superviseStep i x).state.patience = x.state.patience - 1 := by
  have hobserve : ((machinery inherited).observe x.files x.state).2.2.patience =
      x.state.patience - 1 := by
    simp only [machinery]
    split <;> rfl
  have hacts : ∀ (actions : List Action) (y : FileSystem × Computer),
      ((machinery inherited).actAll actions y).2.patience = y.2.patience := by
    intro actions
    induction actions with
    | nil => exact fun _ => rfl
    | cons a actions ih => exact fun y => ih _
  exact (hacts _ _).trans hobserve

theorem step_superviseStep (i : Invocation) {x : Supervised Computer}
    (h : x.state.patience - 1 < 3) : ((machinery inherited).superviseStep i x).supervisor =
      (x.supervisor.step (lastObservation (x.state.patience - 1))).1 := by
  have hobserve : ((machinery inherited).observe x.files x.state).1 =
      lastObservation (x.state.patience - 1) := by
    simp only [machinery]
    rw [if_pos h]
  rw [← hobserve]
  rfl

theorem isFinished_supervise (i : Invocation) {n : Nat} {x : Supervised Computer}
    (h : x.state.patience = n + 3) :
    ((machinery inherited).supervise i (n + 3) x).supervisor.isFinished = true := by
  induction n generalizing x with
  | zero =>
    refine Machinery.isFinished_supervise_succ (Machinery.isFinished_supervise_succ
      (Machinery.isFinished_supervise_succ ?_))
    have hlast := x.supervisor.isFinished_of_closing (.error (.os .noChild))
    simp only [Machinery.supervise]
    rw [step_superviseStep, step_superviseStep, step_superviseStep] <;>
      simp only [patience_superviseStep, h, lastObservation] <;> first | exact hlast | decide
  | succ n ih =>
    refine Machinery.isFinished_supervise_succ (ih ?_)
    rw [patience_superviseStep, h]
    rfl

def machine (inherited : Env) : Machine Computer where
  toMachinery := machinery inherited
  turns _ c := c.patience
  ends i ceiling fs c launched h := by
    have hpatience : launched.2.patience = 999997 + 3 := by
      cases ceiling with
      | none =>
        cases h
        rfl
      | some ceiling =>
        simp only [machinery] at h
        split at h
        · cases h
        · cases h
          rfl
    rw [hpatience]
    exact isFinished_supervise i hpatience

def location (path : String) : Location := Path.names (Octets.ofAscii path)

def directories : List String :=
  ["/dev", "/etc", "/home", "/proc", "/root", "/tmp", "/usr", "/usr/bin", "/usr/lib",
    "/usr/local", "/usr/local/bin", "/usr/local/sbin", "/usr/sbin", "/var", "/var/lib", "/var/tmp"]

def links : List (String × String) :=
  [("/bin", "usr/bin"), ("/sbin", "usr/sbin"), ("/lib", "usr/lib"), ("/usr/bin/sh", "dash"),
    ("/dev/fd", "/proc/self/fd"), ("/dev/stdin", "/proc/self/fd/0"),
    ("/dev/stdout", "/proc/self/fd/1"), ("/dev/stderr", "/proc/self/fd/2")]

def devices : List (String × Device) :=
  [("/dev/null", .null), ("/dev/zero", .zero), ("/dev/full", .full), ("/dev/random", .random),
    ("/dev/urandom", .random), ("/dev/tty", .terminal)]

def accounts : String := "root:x:0:0:root:/root:/bin/sh\n"

def standardFiles (clock : Int) (directory : Location) : FileSystem :=
  let programs := (Loader.shells ++ Loader.tools.map Prod.fst).map fun n =>
    (location "/usr/bin" ++ [Octets.ofAscii n], Node.file (Loader.binary n) 0o755 0)
  let above := (List.range directory.length).map fun n => (directory.take (n + 1), Node.directory)
  let entries := directories.map (fun d => (location d, Node.directory)) ++
    links.map (fun (n, goal) => (location n, Node.link (Octets.ofAscii goal))) ++
    devices.map (fun (n, kind) => (location n, Node.device kind)) ++ programs ++
    [(location "/etc/passwd", Node.file (Octets.ofAscii accounts) 0o644 0)] ++ above
  let fs := entries.foldl (fun fs e => fs.put e.1 e.2)
    { nodes := [], clock := clock, directory := directory }
  [location "/tmp", location "/var/tmp"].foldl (fun fs l => fs.setModeAt l 0o1777) fs

def searchPath : String := "/usr/local/sbin:/usr/local/bin:/usr/sbin:/usr/bin:/sbin:/bin"

def standardVariables : List (String × String) := [("PATH", searchPath), ("HOME", "/root")]

end Simulation

def session (vars : List (String × String)) (input : Except SystemError Octets) (draw : Nat → BaseId) :
    Session Computer where
  environment? name := vars.lookup name
  input := input
  draw := draw
  executor := (Simulation.machine (vars.map fun (k, v) => (Utf8.encode k, Utf8.encode v))).runner

end TreePipeline.Host
