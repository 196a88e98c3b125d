import TreePipeline.Files.Walk

/-!
How entries of the tree relate: which paths name one entry, where a path would lead if what is missing
on its way were there, and the path from one location to another.
-/

namespace TreePipeline

namespace Location

def relative : (start goal : Location) → Octets
  | [], [] => Path.dot
  | [], goal => [Path.slash].intercalate goal
  | start, [] => [Path.slash].intercalate (start.map fun _ => Path.dotDot)
  | a :: start, b :: goal =>
    if a = b then relative start goal
    else [Path.slash].intercalate ((a :: start).map (fun _ => Path.dotDot) ++ b :: goal)

end Location

namespace FileSystem

def isSame (fs : FileSystem) (a b : Location) : Bool := (fs.namesOf a).contains b

def nameCount (fs : FileSystem) (l : Location) : Nat :=
  match fs.get? l with
  | some .directory =>
    2 + ((fs.childNames l).filter fun n => fs.get? (l ++ [n]) = some .directory).length
  | _ => (fs.namesOf l).length

def looseWalk (fs : FileSystem) : Nat → (followed : List (Location × List Octets)) → Location →
    List Octets → Location
  | 0, _, here, _ => here
  | _ + 1, _, here, [] => here
  | fuel + 1, followed, here, n :: rest =>
    if n = Path.dot then looseWalk fs fuel followed here rest
    else if n = Path.dotDot then looseWalk fs fuel followed here.dropLast rest
    else
      let place := here ++ [n]
      match fs.get? place, followed.contains (place, rest) with
      | some (.link goal), false =>
        looseWalk fs fuel ((place, rest) :: followed) (if Path.isAbsolute goal then [] else here)
          (Path.names goal ++ rest)
      | _, _ => looseWalk fs fuel followed place rest

def looseSteps : Nat := 4096

def loosely (fs : FileSystem) (path : Octets) : Location :=
  fs.looseWalk looseSteps [] (if Path.isAbsolute path then [] else fs.directory) (Path.names path)

def literally (fs : FileSystem) (path : Octets) : Location :=
  (Path.names path).foldl (fun here n =>
    if n = Path.dot then here else if n = Path.dotDot then here.dropLast else here ++ [n])
    (if Path.isAbsolute path then [] else fs.directory)

end FileSystem

end TreePipeline
