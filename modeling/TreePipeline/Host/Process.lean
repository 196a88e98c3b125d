import TreePipeline.Host.Program
import TreePipeline.Supervision.Basic

/-!
Processes, their open files and the pipes between them. A descriptor of a process names a
description, which processes may share; what is written to a stream goes to the supervisor.
-/

namespace TreePipeline.Host

inductive Handle where
  | file (number : Nat) (append : Bool)
  | text (content : Octets)
  | directory (location : Location)
  | device (kind : Device)
  | pipe (number : Nat)
  | stream (stream : Stream)
  deriving DecidableEq

structure Description where
  handle : Handle
  mode : OpenMode
  offset : Nat
  deriving DecidableEq

inductive Activity where
  | running (p : Program)
  | blocked (c : Call) (next : Reply → Program)
  | dead (status : UInt32)

structure Limit where
  soft : Option Nat
  hard : Option Nat

structure Image where
  program : Location
  args : List Octets
  env : Env

structure Process where
  pid : Nat
  parent : Nat
  group : Nat
  session : Nat
  activity : Activity
  readyAt : Int
  descriptors : List (Nat × Nat)
  directory : Location
  dispositions : List (Nat × Disposition)
  pending : List Nat
  suspended : Bool
  name : Octets
  image : Image
  mask : Nat
  niceness : Int
  limits : List (Resource × Limit)
  cpuUsed : Nat

namespace Process

def isDead (p : Process) : Bool :=
  match p.activity with
  | .dead _ => true
  | _ => false

def usualLimit (r : Resource) : Limit :=
  match r with
  | .core => ⟨some 0, some 0⟩
  | .stack => ⟨some 8388608, none⟩
  | .files => ⟨some 1048576, some 1048576⟩
  | .locked => ⟨some 8388608, some 8388608⟩
  | .priority => ⟨some 0, some 0⟩
  | _ => ⟨none, none⟩

def limit (p : Process) (r : Resource) : Limit := (p.limits.lookup r).getD (usualLimit r)

def setLimit (p : Process) (r : Resource) (l : Limit) : Process :=
  { p with limits := (r, l) :: p.limits.filter fun e => e.1 ≠ r }

def disposition (p : Process) (signal : Nat) : Disposition :=
  (p.dispositions.lookup signal).getD .default

def freeFrom (p : Process) : (fuel n : Nat) → Nat
  | 0, n => n
  | fuel + 1, n => if (p.descriptors.lookup n).isNone then n else freeFrom p fuel (n + 1)

def freeDescriptor (p : Process) (above : Nat) : Nat := p.freeFrom (p.descriptors.length + 1) above

def bindDescriptor (p : Process) (fd description : Nat) : Process :=
  { p with descriptors := (fd, description) :: p.descriptors.filter fun e => e.1 ≠ fd }

def closeDescriptor (p : Process) (fd : Nat) : Process :=
  { p with descriptors := p.descriptors.filter fun e => e.1 ≠ fd }

end Process

/-- A computer on which tools run. -/
structure Computer where
  files : FileSystem
  processes : List Process
  descriptions : List (Nat × Description)
  orphans : List (Nat × Location × Node)
  pipes : List (Nat × Octets)
  openings : List (Nat × Nat × Nat)
  nextId : Nat
  nextPid : Nat
  leader : Option Nat
  deadline : Option Int
  grace : Option Int
  notice : Option Int
  outbox : List Observation
  held : List (Stream × Octets)
  heldSize : Nat
  exitReported : Bool
  closedReported : List Stream
  patience : Nat

namespace Computer

def supervisorPid : Nat := 4216

def idle (files : FileSystem) : Computer where
  files := files
  processes := []
  descriptions := []
  orphans := []
  pipes := []
  openings := []
  nextId := 0
  nextPid := supervisorPid + 1
  leader := none
  deadline := none
  grace := none
  notice := none
  outbox := []
  held := []
  heldSize := 0
  exitReported := false
  closedReported := []
  patience := 1000000

def clock (c : Computer) : Int := c.files.clock

def advanceTo (c : Computer) (time : Int) : Computer :=
  { c with files := { c.files with clock := max c.files.clock time } }

def process? (c : Computer) (pid : Nat) : Option Process := c.processes.find? fun p => p.pid = pid

def setProcess (c : Computer) (p : Process) : Computer :=
  { c with processes := c.processes.map fun q => if q.pid = p.pid then p else q }

def dropProcess (c : Computer) (pid : Nat) : Computer :=
  { c with processes := c.processes.filter fun q => q.pid ≠ pid }

def description? (c : Computer) (p : Process) (fd : Nat) : Option (Nat × Description) := do
  let id ← p.descriptors.lookup fd
  let d ← c.descriptions.lookup id
  return (id, d)

def setDescription (c : Computer) (id : Nat) (d : Description) : Computer :=
  { c with descriptions := c.descriptions.map fun e => if e.1 = id then (id, d) else e }

def addDescription (c : Computer) (d : Description) : Computer × Nat :=
  ({ c with descriptions := (c.nextId, d) :: c.descriptions, nextId := c.nextId + 1 }, c.nextId)

def hasOpen (c : Computer) (matches_ : Description → Bool) : Bool :=
  c.processes.any fun p => p.descriptors.any fun e =>
    ((c.descriptions.lookup e.2).map matches_).getD false

def isOpen (c : Computer) (h : Handle) : Bool := c.hasOpen fun d => d.handle = h

def hasEnd (c : Computer) (pipe : Nat) (writing : Bool) : Bool :=
  c.hasOpen fun d => d.handle = .pipe pipe && if writing then d.mode.writes else d.mode.reads

def pipeContent (c : Computer) (pipe : Nat) : Octets := (c.pipes.lookup pipe).getD []

def setPipe (c : Computer) (pipe : Nat) (content : Octets) : Computer :=
  { c with pipes := (pipe, content) :: c.pipes.filter fun e => e.1 ≠ pipe }

def openNode? (c : Computer) (number : Nat) : Option Node :=
  match c.files.locationOf? number with
  | some l => c.files.get? l
  | none => (c.orphans.lookup number).map Prod.snd

def setOpenNode (c : Computer) (number : Nat) (n : Node) : Computer :=
  match c.files.locationOf? number with
  | some l => { c with files := c.files.putAll l n }
  | none =>
    { c with orphans := c.orphans.map fun e => if e.1 = number then (number, e.2.1, n) else e }

def orphansBetween (c : Computer) (fs : FileSystem) : List (Nat × Location × Node) :=
  c.files.numbers.filterMap fun (l, number) =>
    if fs.numbers.any fun e => e.2 = number then none
    else if c.descriptions.any fun e => match e.2.handle with
        | .file other _ => other = number
        | _ => false
      then (c.files.get? l).map fun n => (number, l, n)
    else none

def takeFiles (c : Computer) (fs : FileSystem) : Computer :=
  let found := c.orphansBetween fs
  let orphans := found.foldl (fun os o => if os.any fun e => e.1 = o.1 then os else o :: os) c.orphans
  { c with
    files := { fs with directory := c.files.directory, mask := c.files.mask }
    orphans := orphans }

def release (c : Computer) (s : Stream) : Computer :=
  let (mine, others) := c.held.partition fun e => e.1 = s
  if mine.isEmpty then c
  else
    let data := (mine.reverse.map Prod.snd).flatten
    { c with
      outbox := c.outbox ++ [.received s data], held := others,
      heldSize := c.heldSize - data.length }

def releaseSize : Nat := 8192

def gather (c : Computer) (s : Stream) (data : Octets) : Computer :=
  let c := { c with held := (s, data) :: c.held, heldSize := c.heldSize + data.length }
  if releaseSize ≤ c.heldSize then (c.release .out).release .err else c

def noticeDelay : Nat := 100000

def report (c : Computer) : Computer :=
  let c :=
    match c.leader.bind c.process? with
    | some p =>
      if p.isDead && !c.exitReported then
        { c with notice := some (c.clock + noticeDelay), exitReported := true }
      else c
    | none => c
  [Stream.out, Stream.err].foldl (fun c s =>
    if c.closedReported.contains s || c.isOpen (.stream s) then c
    else
      let c := c.release s
      { c with outbox := c.outbox ++ [.closed s], closedReported := s :: c.closedReported }) c

def sweep (c : Computer) : Computer :=
  let held := c.descriptions.filter fun e =>
    c.processes.any fun p => p.descriptors.any fun f => f.2 = e.1
  let leadsTo (pipe : Nat) (e : Nat × Description) : Bool := e.2.handle = .pipe pipe
  let isFile (number : Nat) (e : Nat × Description) : Bool :=
    match e.2.handle with
    | .file other _ => other = number
    | _ => false
  let numbers := c.files.numbers
  let needed (e : Location × Nat) : Bool :=
    held.any (isFile e.2) || numbers.any fun f => f.2 = e.2 && f.1 ≠ e.1
  { c with
    descriptions := held
    pipes := c.pipes.filter fun e => held.any (leadsTo e.1)
    orphans := c.orphans.filter fun e => held.any (isFile e.1)
    files := { c.files with numbers := numbers.filter needed } }

def addPending (p : Process) (signal : Nat) : Process :=
  { p with pending := if p.pending.contains signal then p.pending else p.pending ++ [signal] }

def noteChild (p : Process) : Process :=
  if p.disposition Signal.child = .caught ∧ !p.isDead then addPending p Signal.child else p

def die (c : Computer) (p : Process) (status : UInt32) : Computer :=
  if p.isDead then c
  else
    let q := { p with activity := .dead status, descriptors := [], pending := [] }
    let adopted (r : Process) : Option Process :=
      if r.pid = p.pid then (if p.parent = 1 then none else some q)
      else if r.pid = p.parent then some (noteChild r)
      else if r.parent = p.pid then (if r.isDead then none else some { r with parent := 1 })
      else some r
    { c with processes := c.processes.filterMap adopted }.sweep

def deliver (c : Computer) (p : Process) (signal : Nat) : Computer :=
  if p.isDead || signal = 0 then c
  else if signal = Signal.kill then c.die p (WaitStatus.ofSignal signal)
  else if signal = Signal.stop then c.setProcess { p with suspended := true }
  else if signal = Signal.continue_ then c.setProcess { p with suspended := false }
  else
    match p.disposition signal with
    | .ignored => c
    | .caught => c.setProcess (addPending p signal)
    | .default =>
      match Signal.effect signal with
      | .terminate => c.die p (WaitStatus.ofSignal signal)
      | .ignore => c
      | .suspend => c.setProcess { p with suspended := true }
      | .resume => c

def deliverAll (c : Computer) (pids : List Nat) (signal : Nat) : Computer :=
  pids.foldl (fun c pid =>
    match c.process? pid with
    | some p => c.deliver p signal
    | none => c) c

def membersOf (c : Computer) (group : Nat) : List Nat :=
  (c.processes.filter fun p => p.group = group).map Process.pid

end Computer

end TreePipeline.Host
