import TreePipeline.Files.Walk
import TreePipeline.Stage.Result

/-!
Whether a display can be reached. A local display has a socket named for its number; a display of
another host cannot be looked for and is taken to be there.
-/

namespace TreePipeline

inductive DisplayProbe where
  | socketDirectory (directory : Octets)
  | skip
  deriving DecidableEq

namespace DisplayProbe

def standardDirectory : Octets := Octets.ofAscii "/tmp/.X11-unix"

def standard : DisplayProbe := .socketDirectory standardDirectory

def cutAtLastColon (cs : List Char) : Option (List Char × List Char) :=
  match cs with
  | [] => none
  | c :: r =>
    match cutAtLastColon r with
    | some (p, q) => some (c :: p, q)
    | none => if c = ':' then some ([], r) else none

def isDigit (c : Char) : Bool := '0' ≤ c && c ≤ '9'

/-- The host and the number of a display name; the screen after a dot is passed over. -/
def parse? (display : String) : Option (List Char × List Char) := do
  let (host, rest) ← cutAtLastColon display.toList
  let number := rest.takeWhile fun c => c ≠ '.'
  if number.isEmpty || !number.all isDigit then none else some (host, number)

def isLocal (host : List Char) : Bool := host = [] || host = "unix".toList

def socketPath (directory : Octets) (number : List Char) : Octets :=
  Path.join directory (Octets.ofAscii (String.ofList ('X' :: number)))

def isAvailableIn (fs : FileSystem) (directory : Octets) (display : String) : Bool :=
  match parse? display with
  | none => false
  | some (host, number) => !isLocal host || fs.pathExists (socketPath directory number)

def probeIn (fs : FileSystem) (directory : Octets) (display : String) : Except StageError Unit :=
  if isAvailableIn fs directory display then .ok () else .error (.displayUnavailable display)

def check (probe : DisplayProbe) (fs : FileSystem) (display : String) : Except StageError Unit :=
  match probe with
  | .socketDirectory directory => probeIn fs directory display
  | .skip => .ok ()

end DisplayProbe

end TreePipeline
