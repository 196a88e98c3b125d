import TreePipeline.Text.Utf8

/-! Path names: octets in which a slash separates names. -/

namespace TreePipeline

namespace Path

def slash : UInt8 := 0x2f

def dot : Octets := [0x2e]

def dotDot : Octets := [0x2e, 0x2e]

def isAbsolute (path : Octets) : Bool := path.head? = some slash

/-- The non-empty names in order, with every `.` and `..`. -/
def names (path : Octets) : List Octets := (Octets.splitOn slash path).filter fun n => n ≠ []

def endsInSlash (path : Octets) : Bool := path.getLast? = some slash

def withoutEndSlashes (path : Octets) : Octets :=
  let front := (path.reverse.dropWhile (· = slash)).reverse
  if front = [] then path else front

/-- The path of `name` seen from the directory `dir`. -/
def join (dir name : Octets) : Octets :=
  if isAbsolute name ∨ dir = [] then name
  else if endsInSlash dir then dir ++ name
  else dir ++ slash :: name

/-- The parts of a path: the root, if it starts there, and the names but for `.` after the first. -/
def components (path : Octets) : List Octets :=
  let ns := names path
  if isAbsolute path then [slash] :: ns.filter fun n => n ≠ dot
  else match ns with
    | [] => []
    | n :: r => n :: r.filter fun n => n ≠ dot

def ofComponents : List Octets → Octets
  | [] => []
  | c :: r => r.foldl join c

def parent? (path : Octets) : Option Octets :=
  match components path with
  | [] => none
  | c :: r => if r = [] ∧ c = [slash] then none else some (ofComponents (c :: r).dropLast)

def ancestorsUpTo : Nat → Octets → List Octets
  | 0, path => [path]
  | n + 1, path =>
    match parent? path with
    | none => [path]
    | some up => path :: ancestorsUpTo n up

def ancestors (path : Octets) : List Octets := ancestorsUpTo (components path).length path

end Path

end TreePipeline
