import TreePipeline.Files.Walk

/-!
Operations that read or change the tree. Each yields the changed tree or the cause of its failure,
and a failed one changes nothing.
-/

namespace TreePipeline.FileSystem

def newFileMode (fs : FileSystem) : Nat := 0o666 - (0o666 &&& fs.mask)

def newDirectoryMode (fs : FileSystem) : Nat := 0o777 - (0o777 &&& fs.mask)

def readDevice : Device → Except SystemError Octets
  | .null | .pipe _ => .ok []
  | .zero | .full | .random => .error .outOfMemory
  | .terminal => .error (.os .noDevice)

def readFile (fs : FileSystem) (path : Octets) : Except SystemError Octets := do
  match ← fs.stat path with
  | .file content _ _ => .ok content
  | .directory => .error (.os .isDirectory)
  | .device kind => readDevice kind
  | .link _ => .ok []

def asText (octets : Octets) : Except SystemError String :=
  match Utf8.decode? octets with
  | some s => .ok s
  | none => .error .invalidText

def readText (fs : FileSystem) (path : Octets) : Except SystemError String := do
  asText (← fs.readFile path)

/-- Puts content at a location that holds a file, a device or nothing. -/
def store (fs : FileSystem) (l : Location) (content : Octets) : FileSystem :=
  match fs.get? l with
  | some (.file _ mode _) => fs.putAll l (.file content mode fs.stamp)
  | some _ => fs
  | none => fs.put l (.file content fs.newFileMode fs.stamp)

def writable (fs : FileSystem) (path : Octets) : Except SystemError Location := do
  match ← fs.target false path with
  | .found l => if fs.get? l = some .directory then .error (.os .isDirectory) else .ok l
  | .absent dir name =>
    if Path.endsInSlash path then .error (.os .isDirectory) else .ok (dir ++ [name])

def refusal? (content : Octets) : Node → Option Errno
  | .device .full => if content.isEmpty then none else some .noSpace
  | .device .terminal => some .noDevice
  | _ => none

def writeAt (fs : FileSystem) (l : Location) (content : Octets) : Except SystemError FileSystem :=
  match (fs.get? l).bind (refusal? content) with
  | some e => .error (.os e)
  | none => .ok (fs.store l content)

/-- Creates a file or replaces the content of the one that the path leads to. -/
def writeFile (fs : FileSystem) (path content : Octets) : Except SystemError FileSystem := do
  fs.writeAt (← fs.writable path) content

def createNew (fs : FileSystem) (path : Octets) : Except SystemError FileSystem := do
  match ← fs.target true path with
  | .found _ => .error (.os .fileExists)
  | .absent dir name =>
    if Path.endsInSlash path then .error (.os .isDirectory)
    else .ok (fs.put (dir ++ [name]) (.file [] fs.newFileMode fs.stamp))

def setModeAt (fs : FileSystem) (l : Location) (mode : Nat) : FileSystem :=
  match fs.get? l with
  | some (.file content _ time) => fs.putAll l (.file content mode time)
  | _ =>
    let time := (fs.traits.lookup l).bind Traits.modified
    { fs with traits := putBeside fs.traits l ⟨mode, time⟩ }

def setModifiedAt (fs : FileSystem) (l : Location) (time : Int) : FileSystem :=
  match fs.get? l with
  | some (.file content mode _) => fs.putAll l (.file content mode time)
  | _ => { fs with traits := putBeside fs.traits l ⟨fs.modeAt l, some time⟩ }

def putDirectory (fs : FileSystem) (l : Location) : FileSystem :=
  let fs' := fs.put l .directory
  if fs.newDirectoryMode = 0o755 then fs' else fs'.setModeAt l fs.newDirectoryMode

def makeDirectory (fs : FileSystem) (path : Octets) : Except SystemError FileSystem := do
  match ← fs.target true (Path.withoutEndSlashes path) with
  | .found _ => .error (.os .fileExists)
  | .absent dir name => .ok (fs.putDirectory (dir ++ [name]))

def makeDeepest (fs : FileSystem) (missing : List Octets) :
    List Octets → Except SystemError (FileSystem × List Octets)
  | [] => .ok (fs, missing)
  | path :: rest =>
    if path = [] ∨ Path.parent? path = none then .ok (fs, missing)
    else
      match fs.makeDirectory path with
      | .ok fs => .ok (fs, missing)
      | .error e =>
        if e.isNotFound then makeDeepest fs (path :: missing) rest
        else if e.isAlreadyExists && fs.isDirectory path then .ok (fs, missing)
        else .error e

def makeEach (fs : FileSystem) : List Octets → Except SystemError FileSystem
  | [] => .ok fs
  | path :: rest =>
    match fs.makeDirectory path with
    | .ok fs => makeEach fs rest
    | .error e =>
      if e.isAlreadyExists && fs.isDirectory path then makeEach fs rest else .error e

def makeDirectories (fs : FileSystem) (path : Octets) : Except SystemError FileSystem := do
  if path = [] ∨ Path.parent? path = none then return fs
  let (fs, missing) ← fs.makeDeepest [] (Path.ancestors path)
  fs.makeEach missing

def makeLink (fs : FileSystem) (goal path : Octets) : Except SystemError FileSystem := do
  if 0 ∈ goal then throw .nulInName
  if goal = [] then throw (.os .noEntry)
  match ← fs.target true path with
  | .found _ => .error (.os .fileExists)
  | .absent dir name =>
    if Path.endsInSlash path then .error (.os .noEntry)
    else .ok (fs.put (dir ++ [name]) (.link goal))

def removeFile (fs : FileSystem) (path : Octets) : Except SystemError FileSystem := do
  let l ← fs.locate true path
  if fs.get? l = some .directory then .error (.os .isDirectory) else .ok (fs.erase l)

def removeEmptyDirectory (fs : FileSystem) (path : Octets) : Except SystemError FileSystem := do
  let l ← fs.locate true path
  if fs.get? l ≠ some .directory then .error (.os .notDirectory)
  else if fs.childNames l ≠ [] then .error (.os .notEmpty)
  else .ok (fs.erase l)

def removeTree (fs : FileSystem) (path : Octets) : Except SystemError FileSystem := do
  let l ← fs.locate true path
  return fs.eraseBelow l

def rename (fs : FileSystem) (path goal : Octets) : Except SystemError FileSystem := do
  let a ← fs.locate true path
  let isDir := fs.get? a = some .directory
  match ← fs.target true goal with
  | .absent dir name =>
    if !isDir && Path.endsInSlash goal then .error (.os .notDirectory)
    else if isDir && a.isPrefixOf dir then .error (.os .invalidArgument)
    else .ok (fs.relocate a (dir ++ [name]))
  | .found b =>
    if b ∈ fs.namesOf a then .ok fs
    else if isDir && a.isPrefixOf b then .error (.os .invalidArgument)
    else if isDir && fs.get? b ≠ some .directory then .error (.os .notDirectory)
    else if !isDir && fs.get? b = some .directory then .error (.os .isDirectory)
    else if isDir && fs.childNames b ≠ [] then .error (.os .notEmpty)
    else .ok ((fs.erase b).relocate a b)

/-- The names in a directory, and the directory's location. -/
def listDirectory (fs : FileSystem) (path : Octets) : Except SystemError (Location × List Octets) := do
  let l ← fs.locate false path
  if fs.get? l = some .directory then .ok (l, fs.childNames l) else .error (.os .notDirectory)

def setModified (fs : FileSystem) (path : Octets) (time : Int) : Except SystemError FileSystem := do
  return fs.setModifiedAt (← fs.locate false path) time

def setMode (fs : FileSystem) (path : Octets) (mode : Nat) : Except SystemError FileSystem := do
  return fs.setModeAt (← fs.locate false path) mode

def makeName (fs : FileSystem) (path goal : Octets) : Except SystemError FileSystem := do
  let l ← fs.locate true path
  match ← fs.target true goal with
  | .found _ => .error (.os .fileExists)
  | .absent dir name =>
    match fs.get? l with
    | some .directory => .error (.os .notPermitted)
    | some n =>
      if Path.endsInSlash goal then .error (.os .noEntry)
      else
        let k := dir ++ [name]
        let (fs, number) := fs.numbered l
        .ok { fs.put k n with numbers := (k, number) :: fs.numbers }
    | none => .error (.os .noEntry)

def makePipe (fs : FileSystem) (path : Octets) : Except SystemError FileSystem := do
  match ← fs.target true path with
  | .found _ => .error (.os .fileExists)
  | .absent dir name =>
    let number := fs.lastNumber + 1
    let l := dir ++ [name]
    let fs := { fs with lastNumber := number }
    .ok ((fs.put l (.device (.pipe number))).setModeAt l fs.newFileMode)

end TreePipeline.FileSystem
