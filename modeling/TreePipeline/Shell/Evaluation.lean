import TreePipeline.Shell.Builtin
import TreePipeline.Stage.Result

/-!
Carrying out commands. Every function takes the evaluator `run` for the commands inside its own,
and `last` says that nothing follows in this process, so a program may take the shell's place.
-/

namespace TreePipeline.Shell.Evaluation

open Host

abbrev Runner := (last : Bool) → Command → Sh Flow

def statusOf (raw : UInt32) : Nat :=
  match WaitStatus.exitCode? raw with
  | some code => code
  | none => 128 + WaitStatus.lowBits raw

def reportDeath (raw : UInt32) : Sh Unit := do
  match WaitStatus.signal? raw with
  | some k =>
    if k ≠ 2 ∧ k ≠ Signal.pipe then
      let _ ← Sh.write 2 ((signalText k).toList ++ ['\n'])
  | none => pure ()

def noteEnd (pid : Nat) (raw : UInt32) : Sh Unit :=
  modify fun s => { s with jobs := s.jobs.map (Job.note pid raw) }

def collectJobs : (fuel : Nat) → Sh Unit
  | 0 => pure ()
  | fuel + 1 => do
    if (← get).jobs.all Job.isDone then return ()
    match ← Sh.act (Act.call .collect) with
    | .pair pid raw =>
      noteEnd pid raw.toUInt32
      collectJobs fuel
    | _ => pure ()

def waitForeground (pid : Nat) : Sh Nat := do
  match ← Sh.act (Act.call (.waitFor pid false)) with
  | .number n =>
    reportDeath n.toNat.toUInt32
    let jobs := (← get).jobs
    collectJobs (jobs.flatMap Job.pids).length
    return statusOf n.toNat.toUInt32
  | _ => return 127

def scriptEnds (cs : Chars) : Bool := cs.all fun c => c = '\n' || c = ' ' || c = '\t' || c = ';'

def script (run : Runner) (last : Bool) : Nat → (begun : Bool) → Input → Sh Flow
  | 0, _, _ => Sh.exit 2
  | fuel + 1, begun, input => do
    match Reader.complete.run { input with aliases := (← get).aliases } with
    | .error e => do
      modify fun s => { s with line := e.line }
      Sh.fatal e.cause.message.toList 2
    | .ok (none, _) => if begun then return .normal else Builtin.done 0
    | .ok (some c, input) =>
      if (← get).dry then return ← script run last fuel true input
      match ← run (last && scriptEnds input.rest) c with
      | .normal => script run last fuel true input
      | flow => return flow

def scriptOf (run : Runner) (last : Bool) (source : Source) : Sh Flow :=
  script run last (source.text.length + 2) false (.ofSource source)

def scriptText (run : Runner) (last : Bool) (text : Chars) : Sh Flow := scriptOf run last ⟨text, 1⟩

def conclude (run : Runner) : Sh Unit := do
  modify fun s => { s with context := [] }
  let s ← get
  match s.traps.lookup 0 with
  | none => pure ()
  | some action => do
    set { s with traps := s.traps.filter fun e => e.1 ≠ 0, leaving := some s.status }
    match ← Sh.attempt (scriptText run false action) with
    | .ok _ => Sh.setStatus s.status
    | .error _ => pure ()

def process (run : Runner) (body : Sh Unit) (s : State) : Program :=
  let all : Sh Unit := do
    let _ ← Sh.attempt body
    conclude run
  all s fun (_, s) => .exit (s.status % 256)

def splitState (s : State) : State :=
  { s with traps := s.traps.filter fun e => e.2.isEmpty, jobs := [] }

def fork (run : Runner) (body : Sh Unit) : Sh Nat := do
  let s ← get
  set { s with jobs := (Job.claim s.jobs).2 }
  Sh.act (Act.fork (process run body (splitState s)))

def dropNewlines (cs : Chars) : Chars := (cs.reverse.dropWhile (· = '\n')).reverse

def moveDescriptor (fd goal : Nat) : Sh Unit := do
  if fd ≠ goal then
    let _ ← Sh.act (Act.call (.duplicate fd goal))
    Sh.act (Act.close fd)

def maxReads : Nat := 100000

def outputOf (run : Runner) (source : Source) : Sh Chars := do
  match ← Sh.act (Act.call .makePipe) with
  | .pair r w =>
    let pid ← fork run do
      Sh.act (Act.close r)
      moveDescriptor w 1
      let _ ← scriptOf run true source
    Sh.act (Act.close w)
    let out ← Sh.act (Act.readAll r maxReads [])
    Sh.act (Act.close r)
    let status ← waitForeground pid
    modify fun s => { s with substituted := status }
    return match out with
      | .ok bs => dropNewlines ((ofOctets bs).filter (· ≠ '\x00'))
      | .error _ => []
  | _ => return []

def openFault (e : SystemError) (input : Bool) : Chars :=
  match e with
  | .os n =>
    if n = Errno.noEntry ∨ n = Errno.notDirectory then
      (if input then "No such file" else "Directory nonexistent").toList
    else n.description.toList
  | e => e.message.toList

def redirectFile (fd : Nat) (path : Chars) (mode : OpenMode) : Sh (Except Chars Unit) := do
  match ← Sh.act (Act.openFile (toOctets path) mode) with
  | .ok n => do
    moveDescriptor n fd
    return .ok ()
  | .error e =>
    let verb := if mode = .read then "cannot open " else "cannot create "
    return .error (verb.toList ++ path ++ ": ".toList ++ openFault e (mode = .read))

def redirectText (fd : Nat) (content : Chars) : Sh (Except Chars Unit) := do
  match ← Sh.act (Act.call .makePipe) with
  | .pair r w => do
    let _ ← Sh.write w content
    Sh.act (Act.close w)
    moveDescriptor r fd
    return .ok ()
  | _ => return .error "Pipe call failed".toList

def redirect (run : Runner) (r : Redirection) (goal : Chars) : Sh (Except Chars Unit) := do
  match r.direction with
  | .input => redirectFile r.fd goal .read
  | .replace => redirectFile r.fd goal .write
  | .output => do
    let taken ← if (← get).keepFiles then
        Sh.act (Act.ask fun fs => fs.isFile (toOctets goal))
      else pure false
    if taken then return .error ("cannot create ".toList ++ goal ++ ": File exists".toList)
    else redirectFile r.fd goal .write
  | .append => redirectFile r.fd goal .append
  | .both => redirectFile r.fd goal .readWrite
  | .here => do redirectText r.fd (← Expansion.text (outputOf run) r.goal)
  | .duplicate =>
    if goal = ['-'] then
      Sh.act (Act.close r.fd)
      return .ok ()
    else
      match ← Sh.act (Act.call (.duplicate ((Builtin.digits? goal).getD 0) r.fd)) with
      | .failed (.os e) => return .error (goal ++ ": ".toList ++ e.description.toList)
      | _ => return .ok ()

def goals (run : Runner) : List Redirection → Sh (List (Redirection × Chars))
  | [] => return []
  | r :: rs => do
    let goal ← if r.direction = .here then pure [] else Expansion.text (outputOf run) r.goal
    if r.direction = .duplicate ∧ goal ≠ ['-'] ∧ ¬ (goal.length = 1 ∧ goal.all Char.isDigit) then
      Sh.fatal "Syntax error: Bad fd number".toList 2
    let rest ← goals run rs
    return (r, goal) :: rest

def redirectAll (run : Runner) (kept : Bool) : List (Redirection × Chars) → Sh Bool
  | [] => return true
  | (r, goal) :: rs => do
    match ← Sh.attempt (redirect run r goal) with
    | .error .ended => throw .ended
    | .error .fault => return false
    | .ok (.ok ()) => redirectAll run kept rs
    | .ok (.error e) => do
      if kept ∧ r.direction = .duplicate then Sh.act (Act.close r.fd)
      Sh.complain e
      return false

def redirectForGood (run : Runner) (kept : Bool) (rs : List Redirection) : Sh Unit := do
  let opened ← redirectAll run kept (← goals run rs)
  if !opened then
    Sh.setStatus 2
    throw .fault

def copiesFrom : Nat := 10

def saveDescriptors : List Nat → Sh (List (Nat × Option Nat))
  | [] => return []
  | fd :: r => do
    let copy ← match ← Sh.act (Act.call (.save fd copiesFrom)) with
      | .number n => pure (some n.toNat)
      | _ => pure none
    let rest ← saveDescriptors r
    return (fd, copy) :: rest

def restoreDescriptors : List (Nat × Option Nat) → Sh Unit
  | [] => pure ()
  | (fd, some copy) :: r => do
    moveDescriptor copy fd
    restoreDescriptors r
  | (fd, none) :: r => do
    Sh.act (Act.close fd)
    restoreDescriptors r

def redirected (run : Runner) (rs : List Redirection) (body : (complaints : Nat) → Sh Flow) :
    Sh (Option Flow) := do
  if rs.isEmpty then return some (← body 2)
  let goals ← goals run rs
  let saved ← saveDescriptors (rs.map Redirection.fd).eraseDups
  Sh.afterwards (restoreDescriptors saved) do
    if ← redirectAll run true goals then
      return some (← body (((saved.lookup 2).getD none).getD 2))
    else return none

def isForeign (b : UInt8) : Bool :=
  b = 127 || (b < 32 && !(9 ≤ b && b ≤ 15) && b ≠ 27)

def looksBinary (path : Chars) : Sh Bool :=
  Sh.act (Act.ask fun fs =>
    match fs.stat (toOctets path) with
    | .ok (.file content _ _) => ((content.take 128).takeWhile (· ≠ 10)).any isForeign
    | _ => false)

def tryExecute (path : Chars) (args : List Chars) (env : Env) : Sh Errno := do
  let e ← Sh.act (Act.execute (toOctets path) (args.map toOctets) env)
  if e = Errno.execFormat then
    if ← looksBinary path then return e
    let words := "/bin/sh".toList :: path :: args.drop 1
    Sh.act (Act.execute (Octets.ofAscii "/bin/sh") (words.map toOctets) env)
  else return e

def tryEach (args : List Chars) (env : Env) : List Chars → Errno → Sh Errno
  | [], e => return e
  | path :: r, e => do
    let f ← tryExecute path args env
    tryEach args env r (if f = Errno.noEntry ∨ f = Errno.notDirectory then e else f)

def becomeProgram {α : Type} (called : Bool) (args : List Chars) : Sh α := do
  let s ← get
  let env := Sh.environment s
  let name := args.headD []
  let path := (s.vars.lookup "PATH").getD []
  let candidates :=
    if name.contains '/' then [name]
    else (Octets.splitOn 0x3a (toOctets path)).map fun d => ofOctets (Path.join d (toOctets name))
  let lost {β : Type} (text : Chars) (status : Nat) : Sh β := do
    Sh.complain (name ++ ": ".toList ++ text)
    modify fun s => { s with status := status, leaving := none }
    throw .ended
  let e ← tryEach args env candidates .noEntry
  if e = Errno.noEntry ∨ e = Errno.notDirectory then lost "not found".toList 127
  else
    let known ←
      if name.contains '/' ∨ called then pure true
      else Sh.act (Act.ask fun fs => candidates.any fun c =>
        fs.isFile (toOctets c) && Tools.Condition.fileHas "-x" fs (toOctets c))
    let astray := e = Errno.linkLoop ∨ e = Errno.nameTooLong
    lost e.description.toList (if known ∧ ¬ astray then 126 else 127)

def setTrap (action : Chars) : List Chars → (status : Nat) → Sh Flow
  | [], status => Builtin.done status
  | a :: r, status => do
    let n := if a = "EXIT".toList then some 0 else Builtin.signal? a
    match n with
    | none => do
      let _ ← Sh.write 2 ("trap: ".toList ++ a ++ ": bad trap\n".toList)
      setTrap action r 1
    | some n => do
      let reset := action = ['-']
      modify fun s => { s with
        traps := (if reset then [] else [(n, action)]) ++ s.traps.filter fun e => e.1 ≠ n }
      if n ≠ 0 then
        let how := if reset then Disposition.default else if action.isEmpty then .ignored else .caught
        let _ ← Sh.act (Act.call (.dispose n how))
      setTrap action r status

def listTraps : Sh Flow := do
  let lines := (← get).traps.mergeSort (fun a b => a.1 ≤ b.1) |>.flatMap fun (n, action) =>
    let name := if n = 0 then "EXIT" else Signal.names.getD (n - 1) (toString n)
    "trap -- '".toList ++ action ++ "' ".toList ++ name.toList ++ ['\n']
  Builtin.print "trap" lines 0

def trap (args : List Chars) : Sh Flow := do
  match args with
  | [] => listTraps
  | ['-', '-'] :: action :: r => setTrap action r 0
  | [a] => setTrap ['-'] [a] 0
  | action :: r =>
    if (Builtin.digits? action).isSome then setTrap ['-'] (action :: r) 0 else setTrap action r 0

def runActions (run : Runner) : List Nat → Sh Flow
  | [] => return .normal
  | n :: r => do
    let s ← get
    match s.traps.lookup n with
    | none => runActions run r
    | some action => do
      set { s with leaving := some (s.leaving.getD s.status) }
      let flow ← scriptText run false action
      modify fun t => { t with leaving := s.leaving }
      if flow = .normal then
        Sh.setStatus s.status
        runActions run r
      else return flow

def takeSignals : Sh (List Nat) := do
  match ← Sh.act (Act.call .takeSignals) with
  | .signals ns => return ns
  | _ => return []

def runTraps (run : Runner) : Sh Flow := do
  if (← get).traps.isEmpty then return .normal else runActions run (← takeSignals)

def markWaited (place : Nat) : Sh Unit :=
  modify fun s => { s with
    jobs := s.jobs.map fun j => if j.place = place then { j with waited := true } else j }

def waitProcesses (run : Runner) (named : Bool) : List Nat → Sh (Option Nat)
  | [] => return none
  | pid :: r => do
    match ← Sh.act (Act.call (.waitFor pid true)) with
    | .number n => do
      noteEnd pid n.toNat.toUInt32
      if named then reportDeath n.toNat.toUInt32
      waitProcesses run named r
    | .interrupted => do
      let signals ← takeSignals
      let _ ← runActions run signals
      return some (128 + signals.getLast?.getD 0)
    | _ => return none

def waitJobs (run : Runner) (named : Bool) : List (Option Job) → (status : Nat) → Sh Flow
  | [], status => Builtin.done status
  | none :: r, _ => waitJobs run named r 127
  | some j :: r, _ => do
    match ← waitProcesses run named j.running with
    | some status => Builtin.done status
    | none => do
      markWaited j.place
      let now := ((← get).jobs.find? fun k => k.place = j.place).getD j
      waitJobs run named r (statusOf now.outcome)

def waitGoal (jobs : List Job) (cs : Chars) : Except Chars (Option Job) :=
  if cs.head? = some '%' then (Job.find jobs cs).map some
  else
    match Builtin.number? cs with
    | some n => .ok (jobs.find? fun j => j.lastPid = n)
    | none => .error (Builtin.illegalNumber cs)

def waitEach (run : Runner) : List Chars → (status : Nat) → Sh Flow
  | [], status => Builtin.done status
  | a :: r, _ => do
    match waitGoal (← get).jobs a with
    | .error e => Builtin.refuse e 2
    | .ok goal => do
      match ← waitJobs run true [goal] 0 with
      | .normal => waitEach run r (← get).status
      | flow => return flow

def wait (run : Runner) (args : List Chars) : Sh Flow :=
  Builtin.withLetters "" args fun _ args => do
    if args.isEmpty then
      let _ ← waitJobs run false ((← get).jobs.map some) 0
      let status := (← get).status
      Builtin.done (if 128 < status ∧ (← get).jobs.any fun j => !j.isDone then status else 0)
    else waitEach run args 127

def showJob (pids leaders : Bool) (j : Job) : Sh Unit := do
  let places := (← get).jobs.map Job.place
  let mark :=
    if places.head? = some j.place then '+'
    else if (places.drop 1).head? = some j.place then '-' else ' '
  let text := if leaders then (toString (j.pids.headD 0)).toList ++ ['\n'] else j.show pids mark
  if j.isDone ∧ !leaders then
    modify fun s => { s with jobs := s.jobs.filter fun k => k.place ≠ j.place }
  let _ ← Sh.write 1 text

def showEach (pids leaders : Bool) : List Chars → Sh Flow
  | [] => Builtin.done 0
  | a :: r => do
    match Job.find (← get).jobs a with
    | .error e => Builtin.refuse e 2
    | .ok j => do
      showJob pids leaders j
      showEach pids leaders r

def jobs (args : List Chars) : Sh Flow :=
  Builtin.withLetters "lp" args fun os args => do
    let pids := os.getLast? = some 'l'
    let leaders := os.getLast? = some 'p'
    collectJobs ((← get).jobs.flatMap Job.pids).length
    if args.isEmpty then
      for j in (← get).jobs do
        showJob pids leaders j
      Builtin.done 0
    else showEach pids leaders args

def sourceFile (run : Runner) (name : Chars) : Sh Flow := do
  let path ← if name.contains '/' then pure (some name) else Builtin.findProgram name
  match path with
  | none => Sh.fatal (name ++ ": not found".toList) 2
  | some p =>
    match ← Sh.act (Act.openFile (toOctets p) .read) with
    | .error e => Sh.fatal ("cannot open ".toList ++ p ++ ": ".toList ++ openFault e true) 2
    | .ok fd => do
      let out ← Sh.act (Act.readAll fd maxReads [])
      Sh.act (Act.close fd)
      match out with
      | .ok bs => do
        let line := (← get).line
        let text := (ofOctets bs).filter (· ≠ '\x00')
        let flow ← Sh.within (p ++ ": ".toList) (scriptText run false text)
        modify fun s => { s with line := line }
        return if flow = .returned then .normal else flow
      | .error _ => Builtin.done 1

def statusArgument (args : List Chars) : Sh Nat := do
  match args with
  | [] => return (← get).status
  | a :: _ =>
    match Builtin.number? a with
    | some n => return n
    | none => Sh.fatal (Builtin.illegalNumber a) 2

def builtin (run : Runner) (simple : List Chars → Sh Flow) (name : String) (args : List Chars) :
    Sh Flow := do
  let inside (body : Sh Flow) : Sh Flow := Sh.within (name.toList ++ ": ".toList) body
  match name with
  | "exit" => inside do
    if !args.isEmpty then
      let n ← statusArgument args
      modify fun s => { s with status := n, leaving := some n }
    Sh.finish
  | "return" => inside do
    let n ← statusArgument args
    Sh.setStatus n
    return .returned
  | "eval" => inside do scriptText run false ([' '].intercalate args)
  | "." => if args.isEmpty then Builtin.done 0 else inside (sourceFile run (args.headD []))
  | "trap" => inside (trap args)
  | "wait" => inside (wait run args)
  | "jobs" => inside (jobs args)
  | "command" =>
    match args with
    | [] => Builtin.done 0
    | ['-', 'v'] :: r => inside (Builtin.describeAll r 0)
    | ['-', 'V'] :: r => inside (Builtin.typeAll r 0)
    | ['-', 'p'] :: r => simple r
    | ['-', '-'] :: r => simple r
    | ('-' :: c :: _) :: _ => inside (Builtin.refuse (Builtin.illegalOption c) 2)
    | r => simple r
  | name => inside (Builtin.run name args)

def maxCalls : Nat := 1000

def callFunction (run : Runner) (body : Command) (args : List Chars) : Sh Flow := do
  let old ← get
  if maxCalls ≤ old.locals.length then
    Sh.fatal ("Maximum function recursion depth (" ++ toString maxCalls ++ ") reached").toList 2
  modify fun s => { s with
    args := args, nextOption := (1, none), locals := [] :: s.locals, loops := 0 }
  let after : Sh Unit := do
    for v in (← get).locals.headD [] do
      Sh.restore v
    modify fun s => { s with
      args := old.args, nextOption := old.nextOption, locals := s.locals.drop 1, loops := old.loops }
  let flow ← Sh.afterwards after (run false body)
  return if flow = .returned then .normal else flow

def assignEach (run : Runner) (exported : Bool) : List (String × Word) → Sh (List (String × Chars))
  | [] => return []
  | (name, w) :: r => do
    let v ← Expansion.setting (outputOf run) w
    Sh.setVar name v
    if exported then Sh.markExported name
    let rest ← assignEach run exported r
    return (name, v) :: rest

def withVars (run : Runner) (assignments : List (String × Word))
    (body : List (String × Chars) → Sh Flow) : Sh Flow := do
  if assignments.isEmpty then return ← body []
  let old ← assignments.mapM fun (name, _) => Sh.variable_ name
  Sh.afterwards (for v in old do Sh.restore v) do
    body (← assignEach run true assignments)

def external (run : Runner) (last : Bool) (args : List Chars) : Sh Flow := do
  if last && (← get).traps.isEmpty then becomeProgram false args
  else
    let pid ← fork run (becomeProgram false args)
    Builtin.done (← waitForeground pid)

def contained (body : Sh Flow) : Sh Flow := do
  match ← Sh.attempt body with
  | .ok flow => return flow
  | .error .fault => return .normal
  | .error .ended => throw .ended

def exec (args : List Chars) : Sh Flow :=
  if args.isEmpty then Builtin.done 0 else Sh.within "exec: ".toList (becomeProgram true args)

def words (run : Runner) (args : List Chars) : Sh Flow := do
  let name := String.ofList (args.headD [])
  if name = "exec" then exec (args.drop 1)
  else if Builtin.isBuiltin name then
    builtin run (fun _ => Builtin.done 127) name (args.drop 1)
  else external run false args

def showTrace (run : Runner) (fd : Nat) (vars : List (String × Chars)) (args : List Chars) :
    Sh Unit := do
  if (← get).trace then
    let settings := vars.map fun (n, v) => n.toList ++ '=' :: v
    modify fun s => { s with trace := false }
    let front ← Sh.afterwards (modify fun s => { s with trace := true }) do
      let w ← Expansion.ofReading (Reader.quotedText ⟨(← Sh.getVar "PS4").getD [], 1⟩)
      Expansion.text (outputOf run) w
    let _ ← Sh.write fd (front ++ [' '].intercalate (settings ++ args) ++ ['\n'])

def redirectsForGood : List Chars → Bool
  | [] => false
  | [a] => a = "exec".toList
  | a :: r => a = "command".toList && redirectsForGood r

def simple (run : Runner) (last : Bool) (assignments : List (String × Word)) (ws : List Word)
    (rs : List Redirection) : Sh Flow := do
  let _ ← Sh.act (Act.call .compute)
  modify fun s => { s with substituted := 0 }
  let args ← Expansion.commandFields (outputOf run) .name ws
  let name := String.ofList (args.headD [])
  let functions := (← get).functions
  let function? := if args.isEmpty then none else functions.lookup name
  let special := function?.isNone && !args.isEmpty && Builtin.special.contains name
  let here : Sh Flow := do
    match function? with
    | some body => callFunction run body (args.drop 1)
    | none =>
      if args.isEmpty then
        let s ← get
        Builtin.done s.substituted
      else if name = "exec" then exec (args.drop 1)
      else if special then builtin run (words run) name (args.drop 1)
      else if Builtin.regular.contains name then
        contained (builtin run (words run) name (args.drop 1))
      else external run last args
  let body (complaints : Nat) : Sh Flow := do
    if special || args.isEmpty then
      let vars ← assignEach run (name = "exec" && 1 < args.length) assignments
      showTrace run complaints vars args
      here
    else
      withVars run assignments fun vars => do
        showTrace run complaints vars args
        here
  if redirectsForGood args then
    redirectForGood run true rs
    return ← body 2
  match ← redirected run rs body with
  | some flow => return flow
  | none => do
    Sh.setStatus 2
    if special then throw .fault else return .normal

def afterCommand (run : Runner) (flow : Flow) : Sh Flow := do
  match ← runTraps run with
  | .normal => do
    let s ← get
    if s.stopOnError ∧ s.status ≠ 0 ∧ s.guarded = 0 ∧ flow = .normal then
      set { s with leaving := none }
      Sh.finish
    else return flow
  | left => return left

def guarded (body : Sh Flow) : Sh Flow := do
  modify fun s => { s with guarded := s.guarded + 1 }
  Sh.afterwards (modify fun s => { s with guarded := s.guarded - 1 }) body

def pipelineFrom (run : Runner) (begin : (first : Bool) → Sh Unit) :
    (input : Option Nat) → List Command → Sh (List Nat)
  | _, [] => return []
  | input, c :: rest => do
    if rest.isEmpty then
      let pid ← fork run do
        begin input.isNone
        match input with
        | some r => moveDescriptor r 0
        | none => pure ()
        let _ ← run true c
      match input with
      | some r => Sh.act (Act.close r)
      | none => pure ()
      return [pid]
    else
      match ← Sh.act (Act.call .makePipe) with
      | .pair r w => do
        let pid ← fork run do
          begin input.isNone
          Sh.act (Act.close r)
          match input with
          | some i => moveDescriptor i 0
          | none => pure ()
          moveDescriptor w 1
          let _ ← run true c
        match input with
        | some i => Sh.act (Act.close i)
        | none => pure ()
        Sh.act (Act.close w)
        let pids ← pipelineFrom run begin (some r) rest
        return pid :: pids
      | _ => return []

def waitAll : List Nat → (status : Nat) → Sh Nat
  | [], status => return status
  | pid :: r, _ => do
    let status ← waitForeground pid
    waitAll r status

def maxRounds : Nat := 10000000

def inLoop (body : Sh Flow) : Sh Flow := do
  modify fun s => { s with loops := s.loops + 1 }
  Sh.afterwards (modify fun s => { s with loops := s.loops - 1 }) body

def rounds (stopWhen : Bool) (condition body : Sh Flow) : Nat → (status : Nat) → Sh Flow
  | 0, _ => Sh.exit 2
  | fuel + 1, status => do
    let _ ← Sh.act (Act.call .compute)
    let flow ← match ← condition with
      | .normal =>
        if ((← get).status = 0) = stopWhen then return ← Builtin.done status else body
      | flow => pure flow
    match flow with
    | .normal => rounds stopWhen condition body fuel (← get).status
    | .leave n => if n ≤ 1 then return .normal else return .leave (n - 1)
    | .again n =>
      if n ≤ 1 then rounds stopWhen condition body fuel (← get).status else return .again (n - 1)
    | .returned => return .returned

def eachOf (name : String) (body : Sh Flow) : List Chars → Sh Flow
  | [] => return .normal
  | v :: r => do
    Sh.setVar name v
    match ← body with
    | .normal => eachOf name body r
    | .leave n => if n ≤ 1 then return .normal else return .leave (n - 1)
    | .again n => if n ≤ 1 then eachOf name body r else return .again (n - 1)
    | .returned => return .returned

def anyPattern (run : Runner) (value : Chars) : List Word → Sh Bool
  | [] => return false
  | w :: ws => do
    let m ← Expansion.pattern (outputOf run) w
    if Pattern.accepts m value then return true else anyPattern run value ws

def chosen (run : Runner) (value : Chars) : List (List Word × Command) → Sh (Option Command)
  | [] => return none
  | (ws, c) :: r => do
    if ← anyPattern run value ws then return some c else chosen run value r

def isNothing : Command → Bool
  | .nothing => true
  | _ => false

def becomeSubshell (run : Runner) (c : Command) (rs : List Redirection) : Sh Flow := do
  modify splitState
  redirectForGood run false rs
  let _ ← run true c
  Sh.finish

def goBackground (first : Bool) : Sh Unit := do
  let _ ← Sh.act (Act.call (.dispose 2 .ignored))
  let _ ← Sh.act (Act.call (.dispose 3 .ignored))
  if first then
    let _ ← redirectFile 0 "/dev/null".toList .read

def addJob (place : Nat) (pids : List Nat) : Sh Unit :=
  modify fun s => { s with
    lastBackground := pids.getLast?, jobs := ⟨place, pids, [], false⟩ :: s.jobs, status := 0 }

def command (run : Runner) (last : Bool) : Command → Sh Flow
  | .nothing => return .normal
  | .onLine line c => do
    modify fun s => { s with line := line }
    run last c
  | .simple assignments ws rs line => do
    modify fun s => { s with line := line }
    let flow ← simple run last assignments ws rs
    afterCommand run flow
  | .sequence a b => do
    match ← run false a with
    | .normal => run last b
    | flow => return flow
  | .both a b => do
    match ← guarded (run false a) with
    | .normal => if (← get).status = 0 then run last b else return .normal
    | flow => return flow
  | .either a b => do
    match ← guarded (run false a) with
    | .normal => if (← get).status = 0 then return .normal else run last b
    | flow => return flow
  | .negated c => do
    match ← guarded (run false c) with
    | .normal => Builtin.done (if (← get).status = 0 then 1 else 0)
    | flow => return flow
  | .pipeline cs => do
    let pids ← pipelineFrom run (fun _ => pure ()) none cs
    let status ← waitAll pids 0
    Sh.setStatus status
    afterCommand run .normal
  | .background (.pipeline cs) => do
    let (place, _) := Job.claim (← get).jobs
    let pids ← pipelineFrom run goBackground none cs
    addJob place pids
    return .normal
  | .background c => do
    let (place, _) := Job.claim (← get).jobs
    let pid ← fork run do
      goBackground true
      let _ ← run true c
    addJob place [pid]
    return .normal
  | .group c rs => do
    if rs.isEmpty then run last c
    else
      match ← redirected run rs (fun _ => run false c) with
      | some flow => return flow
      | none => do
        Sh.setStatus 2
        afterCommand run .normal
  | .subshell c rs => do
    if last ∧ (← get).traps.isEmpty then return ← becomeSubshell run c rs
    let pid ← fork run do
      redirectForGood run false rs
      let _ ← run true c
    Sh.setStatus (← waitForeground pid)
    afterCommand run .normal
  | .branch condition yes no => do
    match ← guarded (run false condition) with
    | .normal =>
      if (← get).status = 0 then run last yes
      else if isNothing no then Builtin.done 0
      else run last no
    | flow => return flow
  | .loop stopWhen condition body => do
    inLoop (rounds stopWhen (guarded (run false condition)) (run false body) maxRounds 0)
  | .each name ws body => do
    let values ← match ws with
      | some ws => Expansion.allFields (outputOf run) ws
      | none => do pure (← get).args
    if values.isEmpty then Builtin.done 0 else inLoop (eachOf name (run false body) values)
  | .choice w cases => do
    let value ← Expansion.text (outputOf run) w
    match ← chosen run value cases with
    | some c => if isNothing c then Builtin.done 0 else run last c
    | none => Builtin.done 0
  | .function name body => do
    modify fun s => { s with functions := (name, body) :: s.functions.filter fun e => e.1 ≠ name }
    Builtin.done 0

def evaluate : (fuel : Nat) → Runner
  | 0, _, _ => Sh.exit 2
  | fuel + 1, last, c => do
    if (← get).dry then return .normal
    command (evaluate fuel) last c

def maxNesting : Nat := 100000

def program (s : State) (text : Chars) : Program :=
  let run := evaluate maxNesting
  let body : Sh Unit := do
    let pid ← Sh.act (Act.call .processId)
    match pid with
    | .number n => modify fun s => { s with pid := n.toNat }
    | _ => pure ()
    Builtin.findDirectory
    match ← Sh.act (Act.call .parentId) with
    | .number n => Sh.putVar "PPID" (toString n).toList
    | _ => pure ()
    let _ ← scriptText run false text
  process run body s

end TreePipeline.Shell.Evaluation
