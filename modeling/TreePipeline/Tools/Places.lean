import TreePipeline.Files.Relation
import TreePipeline.Tools.Basic

/-! Small programs that take paths apart and tell where they lead. -/

namespace TreePipeline.Tools

open Shell Host

namespace Place

inductive Presence where
  | all
  | allButLast
  | nothing
  deriving DecidableEq

def resolve (fs : FileSystem) (p : Presence) (path : Octets) : Except SystemError Location :=
  match p with
  | .nothing => if path = [] then .error (.os .noEntry) else .ok (fs.loosely path)
  | p =>
    match fs.follow false true path with
    | .ok (.found l) => .ok l
    | .ok (.absent dir name) => if p = .all then .error (.os .noEntry) else .ok (dir ++ [name])
    | .error e => .error e

def resolvePlainly (fs : FileSystem) (path : Octets) : Except SystemError Location := do
  if path = [] then throw (.os .noEntry)
  let rec walk (here : Location) : List Octets → Except SystemError Location
    | [] => .ok here
    | n :: rest =>
      if n = Path.dot then walk here rest
      else if n = Path.dotDot then
        if here ≠ [] ∧ !fs.isDirectory (FileSystem.pathOf here) then
          .error (.os (if fs.pathExists (FileSystem.pathOf here) then .notDirectory else .noEntry))
        else walk here.dropLast rest
      else walk (here ++ [n]) rest
  walk (if Path.isAbsolute path then [] else fs.directory) (Path.names path)

end Place

def readlink : Tool := fun tool args _ => do
  let table := "f,canonicalize e,canonicalize-existing m,canonicalize-missing n,no-newline q,quiet,s,silent " ++
    "v,verbose z,zero"
  withTable tool table args fun os paths => do
    if paths.isEmpty then return ← misuse tool "missing operand".toList
    let plain := os.has "n" && paths.length = 1
    if os.has "n" ∧ !plain then
      complain tool "ignoring --no-newline with multiple arguments".toList
    let ending : Octets := if plain then [] else if os.has "z" then [0] else [newline]
    let presence : Option Place.Presence := match os.last? ["f", "e", "m"] with
      | some "f" => some .allButLast
      | some "e" => some .all
      | some _ => some .nothing
      | none => none
    let rec each : List Chars → (status : Nat) → Act Nat
      | [], status => return status
      | p :: r, status => do
        let fs ← Act.tree
        let path := toOctets p
        let found : Except SystemError Octets := match presence with
          | some q => (Place.resolve fs q path).map FileSystem.pathOf
          | none => do
            match ← fs.lstat path with
            | .link goal => return goal
            | _ => throw (.os .invalidArgument)
        match found with
        | .ok goal =>
          put tool (goal ++ ending)
          each r status
        | .error e =>
          if os.last? ["v", "q"] = some "v" then complain tool (asWord p ++ ": ".toList ++ faultText e)
          each r 1
    each paths 0

def realpath : Tool := fun tool args _ => do
  let table := "e,canonicalize-existing m,canonicalize-missing L,logical P,physical q,quiet " ++
    "s,strip,no-symlinks relative-to= relative-base= z,zero"
  withTable tool table args fun os paths => do
    if paths.isEmpty then return ← misuse tool "missing operand".toList
    let presence : Place.Presence := match os.last? ["e", "m"] with
      | some "e" => .all
      | some _ => .nothing
      | none => .allButLast
    let plainly := os.last? ["s", "L", "P"] = some "s"
    let resolve (fs : FileSystem) (path : Octets) : Except SystemError Location :=
      if plainly then do
        let l ← Place.resolvePlainly fs path
        if presence = .all ∧ !(fs.lstat (FileSystem.pathOf l)).toBool then throw (.os .noEntry)
        return l
      else if os.last? ["s", "L", "P"] = some "L" then
        Place.resolve fs presence (FileSystem.pathOf (fs.literally path))
      else Place.resolve fs presence path
    let fs ← Act.tree
    let fixed (key : String) : Except (Chars × SystemError) (Option Location) :=
      match os.value? key with
      | none => .ok none
      | some p => match resolve fs (toOctets p) with
        | .ok l => .ok (some l)
        | .error e => .error (p, e)
    let fail (p : Chars) (e : SystemError) : Act Nat := do
      complain tool (asWord p ++ ": ".toList ++ faultText e)
      return 1
    match fixed "relative-to", fixed "relative-base" with
    | .error (p, e), _ => fail p e
    | _, .error (p, e) => fail p e
    | .ok near, .ok base =>
      let near := near.or base
      -- Outside of the base paths are shown in full.
      let near := match near, base with
        | some t, some b => if b.isPrefixOf t then some t else none
        | t, _ => t
      let rec each : List Chars → (status : Nat) → Act Nat
        | [], status => return status
        | p :: r, status => do
          let fs ← Act.tree
          match resolve fs (toOctets p) with
          | .ok l =>
            let within := base.all fun b => b.isPrefixOf l
            let text := match near with
              | some t => if within then Location.relative t l else FileSystem.pathOf l
              | none => FileSystem.pathOf l
            put tool (text ++ [if os.has "z" then 0 else newline])
            each r status
          | .error e =>
            if !os.has "q" then complain tool (asWord p ++ ": ".toList ++ faultText e)
            each r 1
      each paths 0

def withoutSuffix (suffix name : Chars) : Chars :=
  if suffix ≠ name ∧ suffix.isSuffixOf name then name.take (name.length - suffix.length) else name

def basename : Tool := fun tool args _ =>
  withTableElse 1 false tool "a,multiple s,suffix= z,zero" args fun os paths => do
    let ending : Chars := if os.has "z" then ['\x00'] else ['\n']
    if os.has "a" ∨ os.has "s" then
      if paths.isEmpty then return ← misuse tool "missing operand".toList
      say tool (paths.flatMap fun p => withoutSuffix ((os.value? "s").getD []) (baseName p) ++ ending)
      return 0
    else
      match paths with
      | [] => misuse tool "missing operand".toList
      | _ :: _ :: extra :: _ => misuse tool ("extra operand ".toList ++ inQuotes extra)
      | path :: more =>
        say tool (withoutSuffix (more.headD []) (baseName path) ++ ending)
        return 0

def dirname : Tool := fun tool args _ =>
  withTable tool "z,zero" args fun os paths => do
    if paths.isEmpty then return ← misuse tool "missing operand".toList
    say tool (paths.flatMap fun p => directoryName p ++ if os.has "z" then ['\x00'] else ['\n'])
    return 0

def pwd : Tool := fun tool args env =>
  withTable tool "L,logical P,physical" args fun os operands => do
    if !operands.isEmpty then complain tool "ignoring non-option arguments".toList
    match ← Act.call .currentDirectory with
    | .data here =>
      let fs ← Act.tree
      let named := (env.lookup (Octets.ofAscii "PWD")).filter fun p =>
        Path.isAbsolute p && (Path.names p).all (fun n => n ≠ Path.dot && n ≠ Path.dotDot) &&
          (fs.locate false p).toOption = (fs.locate false here).toOption
      let shown := if os.last? ["L", "P"] = some "L" then named.getD here else here
      put tool (shown ++ [newline])
      return 0
    | _ => return 1

namespace PortableName

def isPortable (c : Char) : Bool := c.isAlphanum || "._-/".toList.contains c

def longestName : Nat := 14

def longestPath : Nat := 256

def names (path : Chars) : List Chars :=
  ((Octets.splitOn Path.slash (toOctets path)).map ofOctets).filter (!·.isEmpty)

def fault (portable noDash : Bool) (path : Chars) : Option Chars :=
  let number (n : Nat) : Chars := (toString n).toList
  let exceeded (limit : Nat) (cs : Chars) (what : String) : Chars :=
    "limit ".toList ++ number limit ++ " exceeded by length ".toList ++ number cs.length ++ what.toList ++ inQuotes cs
  if noDash ∧ (names path).any fun n => n.head? = some '-' then
    some ("leading '-' in a component of file name ".toList ++ inQuotes path)
  else if path.isEmpty ∧ (portable ∨ noDash) then some "empty file name".toList
  else if !portable then none
  else
    match path.find? fun c => !isPortable c with
    | some c => some ("non-portable character ".toList ++ inQuotes [c] ++ " in file name ".toList ++ inQuotes path)
    | none =>
      if longestPath ≤ path.length then some (exceeded (longestPath - 1) path " of file name ")
      else
        ((names path).find? fun n => longestName < n.length).map fun n =>
          exceeded longestName n " of file name component "

end PortableName

def pathchk : Tool := fun tool args _ =>
  withTableElse 1 false tool "p P portability" args fun os paths => do
    if paths.isEmpty then return ← misuse tool "missing operand".toList
    let all := os.has "portability"
    let fs ← Act.tree
    let mut status := 0
    for p in paths do
      match PortableName.fault (all || os.has "p") (all || os.has "P") p with
      | some text =>
        complain tool text
        status := 1
      | none =>
        match fs.lstat (toOctets p) with
        | .ok _ => pure ()
        | .error e =>
          if !(all || os.has "p") ∧ (!e.isNotFound ∨ p.isEmpty) then
            complain tool (asWord p ++ ": ".toList ++ faultText e)
            status := 1
    return status

end TreePipeline.Tools
