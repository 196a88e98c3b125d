import TreePipeline.Store.Basic
import TreePipeline.Time.Duration

/-!
Removing old artifacts. A sweep lists the store's directory, then takes the names one by one: it
looks at the age of each that is the name of an artifact and removes the file if it is too old. The
sweep is a machine of small steps, since several may run on one store at a time.
-/

namespace TreePipeline

namespace Store

structure PurgeOrder where
  now : Int
  maxAge : Duration

def PurgeOrder.age (order : PurgeOrder) (modified : Int) : Nat := (order.now - modified).toNat

inductive Sweep where
  | listing
  | looking (directory : Location) (names : List Octets) (removed : Nat)
  | removing (directory : Location) (name : Octets) (names : List Octets) (removed : Nat)
  | finished (removed : Nat)
  | failed (cause : SystemError)
  deriving DecidableEq

def PurgeOrder.dooms (order : PurgeOrder) : Node → Bool
  | .file _ _ modified => order.maxAge.total < order.age modified
  | _ => false

def sweepStep (store : Store) (order : PurgeOrder) (fs : FileSystem) : Sweep → Sweep × FileSystem
  | .listing =>
    match fs.listDirectory store.root with
    | .ok (dir, names) => (.looking dir names 0, fs)
    | .error e => (.failed e, fs)
  | .looking _ [] removed => (.finished removed, fs)
  | .looking dir (name :: names) removed =>
    if (ArtifactName.parse? name).isNone then (.looking dir names removed, fs)
    else
      match fs.get? (dir ++ [name]) with
      | none => (.failed (.os .noEntry), fs)
      | some node =>
        if order.dooms node then (.removing dir name names removed, fs)
        else (.looking dir names removed, fs)
  | .removing dir name names removed =>
    match fs.removeFile (Path.join store.root name) with
    | .ok fs => (.looking dir names (removed + 1), fs)
    | .error e => if e.isNotFound then (.looking dir names removed, fs) else (.failed e, fs)
  | .finished removed => (.finished removed, fs)
  | .failed e => (.failed e, fs)

def Sweep.stepsLeft (fs : FileSystem) : Sweep → Nat
  | .listing => 2 * fs.nodes.length + 2
  | .looking _ names _ => 2 * names.length + 1
  | .removing _ _ names _ => 2 * names.length + 2
  | .finished _ => 0
  | .failed _ => 0

def runSweep (store : Store) (order : PurgeOrder) : Nat → Sweep → FileSystem → Sweep × FileSystem
  | 0, s, fs => (s, fs)
  | n + 1, s, fs =>
    let (s, fs) := store.sweepStep order fs s
    runSweep store order n s fs

def Sweep.result? : Sweep → Option (Except ArtifactError Nat)
  | .finished removed => some (.ok removed)
  | .failed e => some (.error (.system e))
  | _ => none

/-- Removes the artifacts older than `maxAge` and counts them. -/
def purge (store : Store) (maxAge : Duration) (fs : FileSystem) :
    Except ArtifactError Nat × FileSystem :=
  let (s, fs) := store.runSweep ⟨fs.clock, maxAge⟩ (Sweep.stepsLeft fs .listing) .listing fs
  (s.result?.getD (.ok 0), fs)

end Store

end TreePipeline
