import TreePipeline.Files.Operations
import TreePipeline.Host.Signal

/-!
Programs as the machine sees them: trees of calls, each continued by the reply to it. `Act` builds
such trees in sequence.
-/

namespace TreePipeline.Host

abbrev Env := List (Octets × Octets)

inductive OpenMode where
  | read
  | write
  | append
  | update
  | readWrite
  deriving DecidableEq

namespace OpenMode

def reads (m : OpenMode) : Bool := m = read || m = readWrite

def writes (m : OpenMode) : Bool := m ≠ read

end OpenMode

inductive Resource where
  | cpu
  | fileSize
  | data
  | stack
  | core
  | resident
  | processes
  | files
  | locked
  | memory
  | locks
  | priority
  deriving DecidableEq

inductive SeekBase where
  | start
  | current
  | finish
  deriving DecidableEq

inductive Reply where
  | done
  | number (n : Int)
  | pair (a b : Nat)
  | data (octets : Octets)
  | names (names : List Octets)
  | signals (signals : List Nat)
  | limit (value : Option Nat)
  | tree (files : FileSystem)
  | interrupted
  | failed (cause : SystemError)

inductive Call where
  | compute
  | read (fd max : Nat)
  | write (fd : Nat) (data : Octets)
  | close (fd : Nat)
  | duplicate (fd goal : Nat)
  | save (fd above : Nat)
  | feeds (output input : Nat)
  | openFile (path : Octets) (mode : OpenMode)
  | awaitPeer (fd openings : Nat)
  | seek (fd : Nat) (distance : Int) (base : SeekBase)
  | makePipe
  | waitFor (pid : Nat) (interruptible : Bool)
  | waitUntil (pid : Nat) (time : Int)
  | collect
  | kill (goal : Int) (signal : Nat)
  | sleep (nanos : Nat)
  | newSession
  | newGroup
  | mask (value : Option Nat)
  | renice (change : Int)
  | dispose (signal : Nat) (how : Disposition)
  | takeSignals
  | changeDirectory (path : Octets)
  | currentDirectory
  | files (operation : FileSystem → Reply × FileSystem)
  | getLimit (resource : Resource) (hard : Bool)
  | setLimit (resource : Resource) (soft hard : Bool) (value : Option Nat)
  | processId
  | parentId
  | now

inductive Program where
  | exit (status : Nat)
  | call (c : Call) (next : Reply → Program)
  | fork (child : Program) (next : Nat → Program)
  | execute (path : Octets) (args : List Octets) (env : Env) (next : Errno → Program)

instance : Inhabited Program := ⟨.exit 0⟩

def Act (α : Type) : Type := (α → Program) → Program

namespace Act

def run (act : Act Nat) : Program := act .exit

instance : Monad Act where
  pure a := fun k => k a
  bind act f := fun k => act fun a => f a k

def exit {α : Type} (status : Nat) : Act α := fun _ => .exit status

def call (c : Call) : Act Reply := fun k => .call c k

def fork (child : Program) : Act Nat := fun k => .fork child k

def execute (path : Octets) (args : List Octets) (env : Env) : Act Errno :=
  fun k => .execute path args env k

def write (fd : Nat) (data : Octets) : Act (Except SystemError Unit) := do
  if data.isEmpty then return .ok ()
  match ← call (.write fd data) with
  | .failed e => return .error e
  | _ => return .ok ()

def openFile (path : Octets) (mode : OpenMode) : Act (Except SystemError Nat) := do
  match ← call (.openFile path mode) with
  | .number n => return .ok n.toNat
  | .pair fd openings =>
    let _ ← call (.awaitPeer fd openings)
    return .ok fd
  | .failed e => return .error e
  | _ => return .error (.os .badDescriptor)

def close (fd : Nat) : Act Unit := do
  let _ ← call (.close fd)

def read (fd max : Nat) : Act (Except SystemError Octets) := do
  match ← call (.read fd max) with
  | .data bs => return .ok bs
  | .failed e => return .error e
  | _ => return .ok []

def readSize : Nat := 65536

def readAll (fd : Nat) : (fuel : Nat) → List Octets → Act (Except SystemError Octets)
  | 0, acc => return .ok acc.reverse.flatten
  | fuel + 1, acc => do
    match ← read fd readSize with
    | .ok [] => return .ok acc.reverse.flatten
    | .ok bs => readAll fd fuel (bs :: acc)
    | .error e => return .error e

def files (operation : FileSystem → Except SystemError FileSystem) : Act (Except SystemError Unit) := do
  let reply ← call (.files fun fs =>
    match operation fs with
    | .ok fs => (.done, fs)
    | .error e => (.failed e, fs))
  match reply with
  | .failed e => return .error e
  | _ => return .ok ()

def tree : Act FileSystem := do
  match ← call (.files fun fs => (.tree fs, fs)) with
  | .tree fs => return fs
  | _ => return ⟨[], 0, [], 0o022, [], 0, [], []⟩

def ask (question : FileSystem → Bool) : Act Bool := do
  match ← call (.files fun fs => (.number (if question fs then 1 else 0), fs)) with
  | .number n => return n = 1
  | _ => return false

def askNames (question : FileSystem → List Octets) : Act (List Octets) := do
  match ← call (.files fun fs => (.names (question fs), fs)) with
  | .names ns => return ns
  | _ => return []

end Act

end TreePipeline.Host
