import TreePipeline.Pipeline.Executor
import TreePipeline.Stage.Display
import TreePipeline.Supervision.Basic

/-!
The executor that runs real tools. It works on any machine that can launch a tool, say what is to be
observed next, and carry out the supervisor's actions, as long as every tool that it launches comes
to its end.
-/

namespace TreePipeline

structure Machinery (σ : Type) where
  launch : Invocation → Option CpuCeiling → FileSystem → σ → Except SystemError (FileSystem × σ)
  observe : FileSystem → σ → Observation × FileSystem × σ
  act : Action → FileSystem → σ → FileSystem × σ

structure Supervised (σ : Type) where
  supervisor : Supervisor
  files : FileSystem
  state : σ
  events : List Event

namespace Supervised

variable {σ : Type}

def start (invocation : Invocation) (launched : FileSystem × σ) : Supervised σ :=
  ⟨.start invocation.captureLimit, launched.1, launched.2, []⟩

/-- What comes of the stage, which began at that time, once the supervisor has finished. -/
def conclude (x : Supervised σ) (finished : x.supervisor.isFinished = true) (i : Invocation)
    (began : Int) : Execution σ :=
  let elapsed := Duration.ofNanos (x.files.clock - began).toNat
  let answer := x.supervisor.conclude i elapsed (x.files.isFile i.expectedOutput)
  let grace := if x.supervisor.abandonsPipes then [Event.pipesAbandoned i.stageName] else []
  ⟨answer.get (Supervisor.isSome_conclude finished ..), x.files, x.state, x.events ++ grace⟩

end Supervised

namespace Machinery

variable {σ : Type} (m : Machinery σ) (invocation : Invocation)

def actionEvents : Action → List Event
  | .warnDeadline =>
    [.deadlineExceeded invocation.stageName (invocation.wallLimit.millis % 0x10000000000000000)]
  | _ => []

def actAll (actions : List Action) (x : FileSystem × σ) : FileSystem × σ :=
  actions.foldl (fun x a => m.act a x.1 x.2) x

def superviseStep (x : Supervised σ) : Supervised σ :=
  let (o, seen) := m.observe x.files x.state
  let (s, actions) := x.supervisor.step o
  let (fs, state) := m.actAll actions seen
  ⟨s, fs, state, x.events ++ actions.flatMap (actionEvents invocation)⟩

def supervise : (turns : Nat) → Supervised σ → Supervised σ
  | 0, x => x
  | turns + 1, x =>
    if x.supervisor.isFinished then x else supervise turns (m.superviseStep invocation x)

variable {m invocation} in
theorem isFinished_supervise_succ {turns : Nat} {x : Supervised σ}
    (h : (m.supervise invocation turns (m.superviseStep invocation x)).supervisor.isFinished) :
    (m.supervise invocation (turns + 1) x).supervisor.isFinished := by
  unfold supervise
  split
  · assumption
  · exact h

end Machinery

/-- After a launch the supervisor has finished within some number of turns, which may depend on what
was launched; none that a tool needs is ever left out. -/
structure Machine (σ : Type) extends Machinery σ where
  turns : FileSystem → σ → Nat
  ends : ∀ i ceiling fs state launched, launch i ceiling fs state = .ok launched →
    (toMachinery.supervise i (turns launched.1 launched.2) (.start i launched)).supervisor.isFinished

namespace Machine

variable {σ : Type} (m : Machine σ)

def hasNul (i : Invocation) : Bool :=
  i.program.contains 0 || i.args.any (fun a => a.contains 0) ||
    i.env.any fun (k, v) => (k ++ v).toList.contains '\x00'

/-- Launches the tool, unless something already forbids it. -/
def launchChecked (i : Invocation) (fs : FileSystem) (state : σ) :
    Except SystemError (FileSystem × σ) :=
  if hasNul i then .error .nulInArgument
  else m.launch i (CpuCeiling.ofLimit? i.cpuLimit) fs state

def displayCheck (probe : DisplayProbe) (i : Invocation) (fs : FileSystem) : Except StageError Unit :=
  match i.display with
  | none => .ok ()
  | some d => probe.check fs d

def supervised (i : Invocation) (launched : FileSystem × σ) : Supervised σ :=
  m.supervise i (m.turns launched.1 launched.2) (.start i launched)

theorem isFinished_supervised {i : Invocation} {fs : FileSystem} {state : σ}
    {launched : FileSystem × σ} (h : m.launchChecked i fs state = .ok launched) :
    (m.supervised i launched).supervisor.isFinished = true := by
  unfold launchChecked at h
  split at h
  · cases h
  · exact m.ends i _ fs state launched h

def executeStage (probe : DisplayProbe) (i : Invocation) (fs : FileSystem) (state : σ) :
    Execution σ :=
  match displayCheck probe i fs with
  | .error e => ⟨.error e, fs, state, []⟩
  | .ok () =>
    match h : m.launchChecked i fs state with
    | .error e => ⟨.error (.launch i.program e), fs, state, []⟩
    | .ok launched => (m.supervised i launched).conclude (m.isFinished_supervised h) i fs.clock

/-- Stages as real tools on the machine, with the display checked as the probe says. -/
def runner (probe : DisplayProbe) : Executor σ := ⟨m.executeStage probe⟩

variable {m} {probe : DisplayProbe} {i : Invocation} {fs : FileSystem} {state : σ}

theorem executeStage_of_display {e : StageError} (h : displayCheck probe i fs = .error e) :
    m.executeStage probe i fs state = ⟨.error e, fs, state, []⟩ := by
  unfold executeStage
  rw [h]

theorem executeStage_of_error {e : SystemError} (hdisplay : displayCheck probe i fs = .ok ())
    (h : m.launchChecked i fs state = .error e) :
    m.executeStage probe i fs state = ⟨.error (.launch i.program e), fs, state, []⟩ := by
  unfold executeStage
  rw [hdisplay]
  dsimp only
  split
  · rw [Except.error.inj (h.symm.trans ‹_›)]
  · cases h.symm.trans ‹_›

theorem executeStage_of_launched {launched : FileSystem × σ}
    (hdisplay : displayCheck probe i fs = .ok ())
    (h : m.launchChecked i fs state = .ok launched) : m.executeStage probe i fs state =
      (m.supervised i launched).conclude (m.isFinished_supervised h) i fs.clock := by
  unfold executeStage
  rw [hdisplay]
  dsimp only
  split
  · cases h.symm.trans ‹_›
  · cases h.symm.trans ‹_›
    rfl

end Machine

end TreePipeline
