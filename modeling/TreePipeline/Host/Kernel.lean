import TreePipeline.Host.Report
import TreePipeline.Supervision.Basic

/-!
Carrying out calls. Each call of a process is one step that takes a little time; of all processes
that can go on the one that has been ready longest takes the next step. `observe` lets steps be
taken until there is something for the supervisor to see.
-/

namespace TreePipeline.Host

structure Loaded where
  name : Octets
  location : Location
  args : List Octets
  program : Program

abbrev Loader := FileSystem → Octets → List Octets → Env → Except Errno Loaded

namespace Computer

def callCost : Nat := 5000

def computeCost : Nat := 2500

def lookCost : Nat := 500

def wakeCost : Nat := 50000

def octetCost : Nat := 40

def processCost : Nat := 600000

def forkCost : Nat := 100000

def exitCost : Nat := 300000

def pipeCapacity : Nat := 65536

abbrev Response := Computer × Option Reply

def reply (c : Computer) (r : Reply) : Response := (c, some r)

def refuse (c : Computer) (e : Errno) : Response := (c, some (.failed (.os e)))

def bindNew (c : Computer) (p : Process) (d : Description) : Response :=
  let (c, id) := c.addDescription d
  let fd := p.freeDescriptor 0
  (c.setProcess (p.bindDescriptor fd id)).reply (.number fd)

def namedPipe (number : Nat) : Nat := 2 * number + 1

def openPipe (c : Computer) (p : Process) (number : Nat) (mode : OpenMode) : Response :=
  let pipe := namedPipe number
  let (readers, writers) := (c.openings.lookup pipe).getD (0, 0)
  let counts := (readers + (if mode.reads then 1 else 0), writers + (if mode.writes then 1 else 0))
  let c := { c with openings := (pipe, counts) :: c.openings.filter fun e => e.1 ≠ pipe }
  let awaited := if mode.reads then writers else readers
  let met := (mode.reads && mode.writes) || c.hasEnd pipe mode.reads
  match c.bindNew p ⟨.pipe pipe, mode, 0⟩ with
  | (c, some (.number fd)) => if met then c.reply (.number fd) else c.reply (.pair fd.toNat awaited)
  | r => r

def awaitPeerCall (c : Computer) (p : Process) (fd openings : Nat) : Response :=
  match c.description? p fd with
  | some (_, ⟨.pipe pipe, mode, _⟩) =>
    let (readers, writers) := (c.openings.lookup pipe).getD (0, 0)
    let now := if mode.reads then writers else readers
    if openings < now || c.hasEnd pipe mode.reads then c.reply .done else (c, none)
  | _ => c.refuse .badDescriptor

def openDevice (c : Computer) (p : Process) (kind : Device) (mode : OpenMode) : Response :=
  match kind with
  | .terminal => c.refuse .noDevice
  | .pipe number => c.openPipe p number mode
  | kind => c.bindNew p ⟨.device kind, mode, 0⟩

def reopen (c : Computer) (p : Process) (d : Description) (mode : OpenMode) : Response :=
  match d.handle with
  | .file number _ =>
    match c.openNode? number with
    | some (.file content access _) =>
      let content := if mode = .write then [] else content
      let c := if mode = .write then c.setOpenNode number (.file content access c.clock) else c
      c.bindNew p ⟨.file number (mode = .append), mode, 0⟩
    | _ => c.refuse .noEntry
  | .text _ => c.refuse .accessDenied
  | .directory l =>
    if mode = .read then c.bindNew p ⟨.directory l, mode, 0⟩ else c.refuse .isDirectory
  | .device kind => c.openDevice p kind mode
  | handle => c.bindNew p ⟨handle, mode, 0⟩

def openPath (c : Computer) (p : Process) (path : Octets) (mode : OpenMode) : Response :=
  let fs := c.filesOf p
  match c.linkedDescription? fs FileSystem.linkLimit path with
  | some d => c.reopen p d mode
  | none =>
    let found : Except SystemError (FileSystem × Location) :=
      if mode = .read then (fs.locate false path).map fun l => (fs, l)
      else do
        let l ← fs.writable path
        if (fs.get? l).isNone ∨ mode = .write then return (fs.store l [], l) else return (fs, l)
    match found with
    | .error e => c.reply (.failed e)
    | .ok (fs, l) =>
      match c.shownText? p l with
      | some text => if mode = .read then c.bindNew p ⟨.text text, mode, 0⟩ else c.refuse .accessDenied
      | none =>
        match fs.get? l with
        | some .directory => (c.setFiles fs).bindNew p ⟨.directory l, mode, 0⟩
        | some (.device kind) => (c.setFiles fs).openDevice p kind mode
        | _ =>
          let (fs, number) := fs.numbered l
          (c.setFiles fs).bindNew p ⟨.file number (mode = .append), mode, 0⟩

def randomOctets : (count seed : Nat) → Octets
  | 0, _ => []
  | n + 1, seed =>
    let next := (seed * 6364136223846793005 + 1442695040888963407) % 0x10000000000000000
    UInt8.ofNat (next / 0x100000000) :: randomOctets n next

def readHandle (c : Computer) (id : Nat) (d : Description) (max : Nat) : Response :=
  let slice (content : Octets) : Response :=
    let bs := (content.drop d.offset).take max
    (c.setDescription id { d with offset := d.offset + bs.length }).reply (.data bs)
  match d.handle with
  | .file number _ =>
    match c.openNode? number with
    | some (.file content _ _) => slice content
    | _ => c.reply (.data [])
  | .text content => slice content
  | .directory _ => c.refuse .isDirectory
  | .device .null => c.reply (.data [])
  | .device .random =>
    (c.setDescription id { d with offset := d.offset + max }).reply
      (.data (randomOctets max (c.clock.toNat + d.offset)))
  | .device _ => c.reply (.data (List.replicate max 0))
  | .stream _ => c.refuse .badDescriptor
  | .pipe pipe =>
    match c.pipeContent pipe with
    | [] => if c.hasEnd pipe true then (c, none) else c.reply (.data [])
    | content => (c.setPipe pipe (content.drop max)).reply (.data (content.take max))

def patch (content : Octets) (offset : Nat) (data : Octets) : Octets :=
  if content.length ≤ offset then
    content ++ (List.replicate (offset - content.length) 0 ++ data)
  else content.take offset ++ (data ++ content.drop (offset + data.length))

def fitting (limit : Option Nat) (offset size : Nat) : Nat :=
  match limit with
  | none => size
  | some most => min size (most - offset)

def writeFile (c : Computer) (p : Process) (id : Nat) (d : Description) (number : Nat)
    (append : Bool) (data : Octets) : Response :=
  match c.openNode? number with
  | some (.file content mode _) =>
    let offset := if append then content.length else d.offset
    let kept := data.take (fitting (p.limit .fileSize).soft offset data.length)
    let c := c.setDescription id { d with offset := offset + kept.length }
    let c := if kept.isEmpty && !data.isEmpty then c
      else c.setOpenNode number (.file (patch content offset kept) mode c.clock)
    if kept.length < data.length then (c.deliver p Signal.sizeLimit).refuse .fileTooLarge
    else c.reply .done
  | _ => c.reply .done

def writeHandle (c : Computer) (p : Process) (id : Nat) (d : Description) (data : Octets) : Response :=
  match d.handle with
  | .file number append => c.writeFile p id d number append data
  | .text _ => c.refuse .badDescriptor
  | .directory _ => c.refuse .badDescriptor
  | .device .full => c.refuse .noSpace
  | .device _ => c.reply .done
  | .stream s => (c.gather s data).reply .done
  | .pipe pipe =>
    if !c.hasEnd pipe false then (c.deliver p Signal.pipe).refuse .brokenPipe
    else
      let content := c.pipeContent pipe
      if pipeCapacity ≤ content.length then (c, none)
      else (c.setPipe pipe (content ++ data)).reply .done

def readCall (c : Computer) (p : Process) (fd max : Nat) : Response :=
  match c.description? p fd with
  | none => c.refuse .badDescriptor
  | some (id, d) =>
    if d.mode.reads then c.readHandle id d max else c.refuse .badDescriptor

def writeCall (c : Computer) (p : Process) (fd : Nat) (data : Octets) : Response :=
  match c.description? p fd with
  | none => c.refuse .badDescriptor
  | some (id, d) => if d.mode.writes then c.writeHandle p id d data else c.refuse .badDescriptor

def feeds (c : Computer) (p : Process) (output input : Nat) : Bool :=
  match c.description? p output, c.description? p input with
  | some (_, o), some (_, i) =>
    match o.handle, i.handle with
    | .file l _, .file m _ =>
      l = m && match c.openNode? m with
        | some (.file content _ _) => decide (i.offset < content.length)
        | _ => false
    | _, _ => false
  | _, _ => false

def makePipeCall (c : Computer) (p : Process) : Response :=
  let pipe := 2 * c.nextId
  let c := { c with nextId := c.nextId + 1 }.setPipe pipe []
  let (c, r) := c.addDescription ⟨.pipe pipe, .read, 0⟩
  let (c, w) := c.addDescription ⟨.pipe pipe, .write, 0⟩
  let a := p.freeDescriptor 0
  let p := p.bindDescriptor a r
  let b := p.freeDescriptor 0
  (c.setProcess (p.bindDescriptor b w)).reply (.pair a b)

def waitCall (c : Computer) (p : Process) (pid : Nat) (interruptible : Bool) : Response :=
  match c.processes.find? fun q => q.pid = pid && q.parent = p.pid with
  | none => c.refuse .noChild
  | some q =>
    match q.activity with
    | .dead status => (c.dropProcess pid).reply (.number status.toNat)
    | _ => if interruptible && !p.pending.isEmpty then c.reply .interrupted else (c, none)

def waitUntilCall (c : Computer) (p : Process) (pid : Nat) (time : Int) : Response :=
  match c.waitCall p pid true with
  | (c, none) => if time ≤ c.clock then c.reply .done else (c, none)
  | r => r

def nicest : Int := 19

def rudest : Int := -20

def collectCall (c : Computer) (p : Process) : Response :=
  match c.processes.find? fun q => q.parent = p.pid && q.isDead with
  | some q =>
    match q.activity with
    | .dead status => (c.dropProcess q.pid).reply (.pair q.pid status.toNat)
    | _ => c.reply .done
  | none => c.reply .done

def killCall (c : Computer) (p : Process) (goal : Int) (signal : Nat) : Response :=
  let pids :=
    if 0 < goal then (c.process? goal.toNat).toList.map Process.pid
    else if goal = 0 then c.membersOf p.group
    else if goal = -1 then c.processes.map Process.pid
    else c.membersOf goal.natAbs
  if goal = 1 ∨ goal = supervisorPid then c.reply .done
  else if pids.isEmpty then c.refuse .noProcess else (c.deliverAll pids signal).reply .done

def limitCovers (high low : Option Nat) : Bool :=
  match high, low with
  | none, _ => true
  | some _, none => false
  | some h, some l => l ≤ h

def setLimitCall (c : Computer) (p : Process) (resource : Resource) (soft hard : Bool)
    (value : Option Nat) : Response :=
  let old := p.limit resource
  let new : Limit := ⟨if soft then value else old.soft, if hard then value else old.hard⟩
  if !limitCovers new.hard new.soft then c.refuse .invalidArgument
  else if !limitCovers old.hard new.hard then c.refuse .notPermitted
  else (c.setProcess (p.setLimit resource new)).reply .done

def seekCall (c : Computer) (p : Process) (fd : Nat) (distance : Int) (base : SeekBase) : Response :=
  match c.description? p fd with
  | none => c.refuse .badDescriptor
  | some (id, d) =>
    let go (size : Nat) : Response :=
      let from_ : Int := match base with
        | .start => 0
        | .current => d.offset
        | .finish => size
      let place := from_ + distance
      if place < 0 then c.refuse .invalidArgument
      else (c.setDescription id { d with offset := place.toNat }).reply (.number place)
    match d.handle with
    | .file number _ =>
      match c.openNode? number with
      | some (.file content _ _) => go content.length
      | _ => go 0
    | .text content => go content.length
    | .device (.pipe _) => c.refuse .illegalSeek
    | .device _ => c.reply (.number 0)
    | _ => c.refuse .illegalSeek

def perform (c : Computer) (p : Process) : Call → Response
  | .compute => c.reply .done
  | .read fd max => c.readCall p fd max
  | .write fd data => c.writeCall p fd data
  | .close fd =>
    if (p.descriptors.lookup fd).isNone then c.refuse .badDescriptor
    else (c.setProcess (p.closeDescriptor fd)).sweep.reply .done
  | .duplicate fd goal =>
    match p.descriptors.lookup fd with
    | none => c.refuse .badDescriptor
    | some id => (c.setProcess (p.bindDescriptor goal id)).sweep.reply .done
  | .save fd above =>
    match p.descriptors.lookup fd with
    | none => c.refuse .badDescriptor
    | some id =>
      let n := p.freeDescriptor above
      (c.setProcess (p.bindDescriptor n id)).reply (.number n)
  | .feeds output input => c.reply (.number (if c.feeds p output input then 1 else 0))
  | .openFile path mode => c.openPath p path mode
  | .awaitPeer fd openings => c.awaitPeerCall p fd openings
  | .seek fd distance base => c.seekCall p fd distance base
  | .makePipe => c.makePipeCall p
  | .waitFor pid interruptible => c.waitCall p pid interruptible
  | .waitUntil pid time => c.waitUntilCall p pid time
  | .collect => c.collectCall p
  | .kill goal signal => c.killCall p goal signal
  | .sleep _ => c.reply .done
  | .newSession =>
    if p.group = p.pid then c.refuse .notPermitted
    else (c.setProcess { p with group := p.pid, session := p.pid }).reply (.number p.pid)
  | .newGroup => (c.setProcess { p with group := p.pid }).reply .done
  | .mask value => (c.setProcess { p with mask := value.getD p.mask }).reply (.number p.mask)
  | .renice change =>
    let n := max rudest (min nicest (p.niceness + change))
    (c.setProcess { p with niceness := n }).reply (.number n)
  | .dispose signal how =>
    if Signal.isForced signal then c.refuse .invalidArgument
    else
      (c.setProcess { p with dispositions := (signal, how) :: p.dispositions.filter fun e =>
        e.1 ≠ signal }).reply .done
  | .takeSignals => (c.setProcess { p with pending := [] }).reply (.signals p.pending)
  | .changeDirectory path =>
    match (c.filesOf p).locate false path with
    | .error e => c.reply (.failed e)
    | .ok l =>
      if c.files.get? l = some .directory then (c.setProcess { p with directory := l }).reply .done
      else c.refuse .notDirectory
  | .currentDirectory => c.reply (.data (FileSystem.pathOf p.directory))
  | .files operation =>
    let (r, fs) := operation (c.filesOf p)
    (c.setFiles fs).reply r
  | .getLimit resource hard =>
    c.reply (.limit (if hard then (p.limit resource).hard else (p.limit resource).soft))
  | .setLimit resource soft hard value => c.setLimitCall p resource soft hard value
  | .processId => c.reply (.number p.pid)
  | .parentId => c.reply (.number p.parent)
  | .now => c.reply (.number c.clock)

def reachesLimit (used : Nat) (limit : Option Nat) : Bool :=
  match limit with
  | some seconds => seconds * 1000000000 ≤ used
  | none => false

def consume (c : Computer) (p : Process) (nanos : Nat) : Computer :=
  let p := { p with cpuUsed := p.cpuUsed + nanos }
  let limit := p.limit .cpu
  if reachesLimit p.cpuUsed limit.hard then (c.setProcess p).deliver p Signal.kill
  else if reachesLimit p.cpuUsed limit.soft then
    let p := p.setLimit .cpu { limit with soft := limit.soft.map (· + 1) }
    (c.setProcess p).deliver p Signal.cpuLimit
  else c.setProcess p

def goOn (c : Computer) (pid : Nat) (program : Program) (cost work : Nat) : Computer :=
  match c.process? pid with
  | none => c
  | some p =>
    if p.isDead then c
    else
      let ending := match program with
        | .exit _ => exitCost
        | _ => 0
      c.consume { p with activity := .running program, readyAt := c.clock + cost + ending } work

def costOf (call : Call) (r : Reply) : Nat × Nat :=
  let work := match call, r with
    | .compute, _ => computeCost
    | .takeSignals, _ => lookCost
    | .collect, _ => lookCost
    | .write _ data, _ => callCost + data.length * octetCost
    | .read .., .data bs => callCost + bs.length * octetCost
    | _, _ => callCost
  match call, r with
  | .sleep nanos, _ => (nanos, 0)
  | _, .interrupted => (wakeCost, work)
  | _, _ => (work, work)

def performFor (c : Computer) (p : Process) (call : Call) (next : Reply → Program) : Computer :=
  match c.perform p call with
  | (c, none) =>
    match c.process? p.pid with
    | none => c
    | some q => if q.isDead then c else c.setProcess { q with activity := .blocked call next }
  | (c, some r) =>
    let (cost, work) := costOf call r
    c.goOn p.pid (next r) cost work

def forkFor (c : Computer) (p : Process) (child : Program) (next : Nat → Program) : Computer :=
  let pid := c.nextPid
  let keep (e : Nat × Disposition) : Bool := e.2 = .ignored
  let q := { p with pid := pid, parent := p.pid, activity := .running child, pending := [],
                    readyAt := c.clock + forkCost, dispositions := p.dispositions.filter keep, cpuUsed := 0 }
  { c with processes := c.processes ++ [q], nextPid := pid + 1 }.goOn p.pid (next pid) callCost
    callCost

def firstPrivateDescriptor : Nat := 10

def executeFor (load : Loader) (c : Computer) (p : Process) (path : Octets) (args : List Octets)
    (env : Env) (next : Errno → Program) : Computer :=
  match load (c.filesOf p) path args env with
  | .error e => c.goOn p.pid (next e) callCost callCost
  | .ok loaded =>
    let keep (e : Nat × Disposition) : Bool := e.2 = .ignored
    (c.setProcess { p with
      name := loaded.name.take 15
      image := ⟨loaded.location, loaded.args, env⟩
      descriptors := p.descriptors.filter fun e => e.1 < firstPrivateDescriptor
      dispositions := p.dispositions.filter keep }).goOn p.pid loaded.program processCost callCost

def stepProcess (load : Loader) (c : Computer) (p : Process) : Computer :=
  match p.activity with
  | .running (.exit status) => c.die p (WaitStatus.ofExit status)
  | .running (.call call next) => c.performFor p call next
  | .running (.fork child next) => c.forkFor p child next
  | .running (.execute path args env next) => executeFor load c p path args env next
  | .blocked call next => c.performFor p call next
  | .dead _ => c

def readyTime (c : Computer) (p : Process) : Option Int :=
  if p.suspended then none
  else
    match p.activity with
    | .running _ => some p.readyAt
    | .dead _ => none
    | .blocked call _ =>
      if (c.perform p call).2.isSome then some c.clock
      else
        match call with
        | .waitUntil _ time => some time
        | _ => none

def nextProcess (c : Computer) : Option (Int × Process) :=
  c.processes.foldl (fun best p =>
    match c.readyTime p, best with
    | none, best => best
    | some t, none => some (t, p)
    | some t, some (u, q) => if t < u then some (t, p) else some (u, q)) none

def nextAlarm (c : Computer) : Option (Int × Observation) :=
  let alarms := (c.notice.map fun t => (t, Observation.leaderExited)).toList ++
    (c.deadline.map fun t => (t, Observation.deadlineExpired)).toList ++
    (c.grace.map fun t => (t, Observation.graceExpired)).toList
  alarms.foldl (fun best a =>
    match best with
    | none => some a
    | some b => if a.1 < b.1 then some a else some b) none

def ring (c : Computer) (time : Int) (o : Observation) : Observation × Computer :=
  let c := c.advanceTo time
  match o with
  | .leaderExited => (o, { c with notice := none })
  | .deadlineExpired => (o, { c with deadline := none })
  | _ => (o, { c with grace := none })

def observe (load : Loader) : (fuel : Nat) → Computer → Observation × Computer
  | 0, c =>
    match c.nextAlarm with
    | some (time, o) => c.ring time o
    | none => (.graceExpired, c)
  | fuel + 1, c =>
    match c.outbox with
    | o :: rest => (o, { c with outbox := rest })
    | [] =>
      match c.nextProcess, c.nextAlarm with
      | none, none => (.graceExpired, c)
      | none, some (time, o) => c.ring time o
      | some (t, p), none => observe load fuel ((c.advanceTo t).stepProcess load p |>.report)
      | some (t, p), some (time, o) =>
        if time ≤ t then c.ring time o
        else observe load fuel ((c.advanceTo t).stepProcess load p |>.report)

def maxSteps : Nat := 20000000

def graceNanos : Nat := 2000000000

def reapLeader (c : Computer) : Computer :=
  match c.leader.bind c.process? with
  | some p =>
    match p.activity with
    | .dead status =>
      { (c.dropProcess p.pid) with
        outbox := c.outbox ++ [.reaped (.ok status)], leader := none, deadline := none }
    | _ => { c with outbox := c.outbox ++ [.reaped (.error (.os .noChild))] }
  | none => { c with outbox := c.outbox ++ [.reaped (.error (.os .noChild))] }

def act (c : Computer) : Action → Computer
  | .warnDeadline => c
  | .killGroup =>
    match c.leader.bind c.process? with
    | some p => (c.deliverAll (c.membersOf p.group) Signal.kill).report
    | none => c
  | .reap => c.reapLeader
  | .startGrace => { c with grace := some (c.clock + graceNanos) }

def boundOf (w : UInt64) : Option Nat := if w = 0xffffffffffffffff then none else some w.toNat

def begin (c : Computer) (loaded : Loaded) (env : Env) (ceiling : CpuCeiling)
    (wallLimit : Duration) : Computer :=
  let (c, nothing) := c.addDescription ⟨.device .null, .read, 0⟩
  let (c, out) := c.addDescription ⟨.stream .out, .write, 0⟩
  let (c, err) := c.addDescription ⟨.stream .err, .write, 0⟩
  let pid := c.nextPid
  let p : Process := {
    pid := pid, parent := supervisorPid, group := pid, session := 1, activity := .running loaded.program,
    readyAt := c.clock + processCost, descriptors := [(0, nothing), (1, out), (2, err)],
    directory := c.files.directory, dispositions := [], pending := [], suspended := false,
    name := loaded.name.take 15, image := ⟨loaded.location, loaded.args, env⟩, mask := c.files.mask,
    niceness := 0,
    limits := [(.cpu, ⟨boundOf ceiling.soft, boundOf ceiling.hard⟩)], cpuUsed := 0 }
  { c with
    processes := [p], nextPid := pid + 1, leader := some pid,
    deadline := some (c.clock + wallLimit.total) }

end Computer

end TreePipeline.Host
