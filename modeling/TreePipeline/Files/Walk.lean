import TreePipeline.Files.Errno
import TreePipeline.Files.Tree

/-!
Where a path leads. Names are followed one by one from the root or the current directory; a link
on the way continues at its target, and at most forty links are followed. A path whose last name
stands for nothing in an existing directory leads to the place where it could be created.
-/

namespace TreePipeline.FileSystem

inductive Target where
  | found (l : Location)
  | absent (dir : Location) (name : Octets)
  deriving DecidableEq

structure Ending where
  keepLink : Bool
  directory : Bool
  shortWay : Bool

def linkLimit : Nat := 40

def nameLimit : Nat := 255

def pathLimit : Nat := 4096

/-- The absolute path of a location. -/
def pathOf : Location → Octets
  | [] => [Path.slash]
  | l => l.flatMap fun n => Path.slash :: n

def walkNames (fs : FileSystem) (e : Ending)
    (jump : Location → Octets → List Octets → Except Errno Target) :
    Location → List Octets → Except Errno Target
  | here, [] => .ok (.found here)
  | here, n :: rest =>
    if n = Path.dot then walkNames fs e jump here rest
    else if n = Path.dotDot then walkNames fs e jump here.dropLast rest
    else if nameLimit < n.length then .error .nameTooLong
    else if e.shortWay ∧ pathLimit ≤ (pathOf (here ++ [n])).length then .error .nameTooLong
    else
      match fs.get? (here ++ [n]) with
      | none => if rest = [] then .ok (.absent here n) else .error .noEntry
      | some .directory => walkNames fs e jump (here ++ [n]) rest
      | some (.link target) =>
        if rest = [] ∧ e.keepLink ∧ ¬ e.directory then .ok (.found (here ++ [n]))
        else jump here target rest
      | some _ =>
        if rest = [] ∧ ¬ e.directory then .ok (.found (here ++ [n])) else .error .notDirectory

def walk (fs : FileSystem) : Nat → Ending → Location → List Octets → Except Errno Target
  | 0, e => walkNames fs e fun _ _ _ => .error .linkLoop
  | links + 1, e => walkNames fs e fun here target rest =>
    walk fs links { e with directory := e.directory || (rest.isEmpty && Path.endsInSlash target) }
      (if Path.isAbsolute target then [] else here) (Path.names target ++ rest)

def follow (fs : FileSystem) (keepLink shortWay : Bool) (path : Octets) :
    Except SystemError Target :=
  if 0 ∈ path then .error .nulInName
  else if path = [] then .error (.os .noEntry)
  else
    let start := if Path.isAbsolute path then [] else fs.directory
    match walk fs linkLimit ⟨keepLink, Path.endsInSlash path, shortWay⟩ start (Path.names path) with
    | .ok t => .ok t
    | .error e => .error (.os e)

def target (fs : FileSystem) (keepLink : Bool) (path : Octets) : Except SystemError Target :=
  if 0 ∉ path ∧ pathLimit ≤ path.length then .error (.os .nameTooLong)
  else fs.follow keepLink false path

/-- The location of what exists at a path. -/
def locate (fs : FileSystem) (keepLink : Bool) (path : Octets) : Except SystemError Location :=
  match fs.target keepLink path with
  | .ok (.found l) => .ok l
  | .ok (.absent _ _) => .error (.os .noEntry)
  | .error e => .error e

def stat (fs : FileSystem) (path : Octets) : Except SystemError Node := do
  let l ← fs.locate false path
  match fs.get? l with
  | some n => .ok n
  | none => .error (.os .noEntry)

def lstat (fs : FileSystem) (path : Octets) : Except SystemError Node := do
  let l ← fs.locate true path
  match fs.get? l with
  | some n => .ok n
  | none => .error (.os .noEntry)

def pathExists (fs : FileSystem) (path : Octets) : Bool :=
  match fs.stat path with
  | .ok _ => true
  | .error _ => false

def isFile (fs : FileSystem) (path : Octets) : Bool :=
  match fs.stat path with
  | .ok n => n.isFile
  | .error _ => false

def isDirectory (fs : FileSystem) (path : Octets) : Bool :=
  match fs.stat path with
  | .ok n => n.isDirectory
  | .error _ => false

/-- The location that remains when every link is followed. The path is taken name by name and may
be of any length, but the path of each entry on the way is bounded. -/
def canonicalize (fs : FileSystem) (path : Octets) : Except SystemError Location :=
  match fs.follow false true path with
  | .ok (.found l) => .ok l
  | .ok (.absent _ _) => .error (.os .noEntry)
  | .error e => .error e

end TreePipeline.FileSystem
