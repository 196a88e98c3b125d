import TreePipeline.Files.Relation
import TreePipeline.Tools.Entries

/-!
Copying and moving entries of the tree: what stands in the way of it, what happens to an entry that is
already there, and how directories are gone through.
-/

namespace TreePipeline.Tools

open Shell Host

inductive Following where
  | never
  | always
  | named
  deriving DecidableEq

inductive Linking where
  | none
  | hard
  | symbolic
  deriving DecidableEq

structure Backup where
  ending : Chars := ['~']
  numbered : Bool := false
  asBefore : Bool := false

structure Transfer where
  move : Bool := false
  recursive : Bool := false
  follow : Following := .always
  linking : Linking := .none
  force : Bool := false
  keep : Bool := false
  ask : Bool := false
  update : Bool := false
  verbose : Bool := false
  times : Bool := false
  modes : Bool := false
  removeFirst : Bool := false
  backup : Option Backup := none
  mode : Option Nat := none

structure Transferred where
  created : List Location := []
  seen : List Location := []
  made : List Location := []
  intoSelf : Bool := false

namespace Transfer

def backupPath (fs : FileSystem) (b : Backup) (goal : Octets) : Octets :=
  let numbered (n : Nat) : Octets := goal ++ Octets.ofAscii (".~" ++ toString n ++ "~")
  let used := (List.range 1000).filter fun n => (fs.lstat (numbered (n + 1))).toBool
  let next := (used.getLast?.map (· + 2)).getD 1
  if b.numbered ∨ (b.asBefore ∧ !used.isEmpty) then numbered next else goal ++ toOctets b.ending

def backupOf? (control : Chars) (ending : Chars) : Option (Option Backup) :=
  match String.ofList control with
  | "none" | "off" => some none
  | "numbered" | "t" => some (some ⟨ending, true, false⟩)
  | "existing" | "nil" => some (some ⟨ending, false, true⟩)
  | "simple" | "never" => some (some ⟨ending, false, false⟩)
  | _ => none

def mayMeet (t : Transfer) (fs : FileSystem) (source goal : Octets) : Bool × Bool :=
  let place (keepLink : Bool) (p : Octets) : Location := (fs.locate keepLink p).toOption.getD []
  let never := t.follow = .never || t.move
  let isLink (p : Octets) : Bool := match fs.lstat p with
    | .ok (.link _) => true
    | _ => false
  let sameEnd := fs.isSame (place false source) (place false goal)
  let sameEntry := fs.isSame (place true source) (place true goal)
  let sameName := place true source = place true goal
  let hard := t.linking = .hard
  let same := if never then sameEntry else sameEnd
  let rest : Bool × Bool :=
    if t.backup.isSome then
      if !sameEntry then
        (t.move || never || !isLink source || isLink goal, false)
      else (!sameName, false)
    else if (t.move || t.removeFirst) && isLink goal then (true, false)
    else if (t.move || t.removeFirst) && sameEntry && 1 < fs.nameCount (place true goal) && !sameName then
      (!t.move, false)
    else if !isLink source && !isLink goal && !sameEntry then (true, false)
    else if !isLink source && !isLink goal && hard then (true, true)
    else if t.linking = .symbolic && isLink goal then (true, false)
    else if never && !sameEnd then (true, false)
    else if never && hard then (true, !isLink goal)
    else (false, false)
  if same && hard then (true, true)
  else if never && isLink source && isLink goal then
    if sameName then (false, false)
    else if t.backup.isSome then (true, false)
    else if sameEntry then (!t.move, true)
    else (true, false)
  else if !never && !same then (true, false)
  else if !never && isLink source && isLink goal && t.removeFirst then (true, false)
  else rest

def tell (t : Transfer) (tool : String) (verb : String) (source goal : Chars) (kept : Option Octets) :
    Act Unit :=
  if t.verbose then
    say tool (verb.toList ++ inQuotes source ++ " -> ".toList ++ inQuotes goal ++
      (match kept with
        | some b => " (backup: ".toList ++ inQuotes (ofOctets b) ++ [')']
        | none => []) ++ ['\n'])
  else return ()

def pour (fd : Nat) : (pieces : Nat) → Octets → Act (Except SystemError Unit)
  | 0, _ => return .ok ()
  | n + 1, data => do
    if data.isEmpty then return .ok ()
    match ← Act.write fd (data.take Act.readSize) with
    | .ok () => pour fd n (data.drop Act.readSize)
    | .error e => return .error e

def copyContent (t : Transfer) (tool : String) (source goal : Chars) : Act Bool := do
  let before ← Act.tree
  match ← Act.openFile (toOctets source) .read with
  | .error e =>
    complain tool ("cannot open ".toList ++ inQuotes source ++ " for reading: ".toList ++ faultText e)
    return false
  | .ok fd =>
    let content ← Act.readAll fd maxReads []
    Act.close fd
    match content with
    | .error e =>
      complainOf tool "error reading " source e
      return false
    | .ok content =>
      let g := toOctets goal
      let dangling := (before.lstat g).toBool && !(before.stat g).toBool
      if dangling then
        complain tool ("not writing through dangling symlink ".toList ++ inQuotes goal)
        return false
      let isNew := !(before.stat g).toBool
      match ← Act.openFile g .write with
      | .error e =>
        let e := if Path.endsInSlash g ∧ e = .os .isDirectory then .os .notDirectory else e
        complainOf tool "cannot create regular file " goal e
        return false
      | .ok out =>
        if isNew then
          let mask ← ownMask
          let mode := match t.mode, (before.locate false (toOctets source)).toOption with
            | some m, _ => m
            | none, some l => Mode.without (before.modeAt l &&& 0o777) mask
            | none, none => 0o644
          let _ ← Act.files fun fs => fs.setMode g mode
        let written ← pour out maxReads content
        Act.close out
        match written with
        | .ok () => return true
        | .error e =>
          complainOf tool "error writing " goal e
          return false

def keepTraits (t : Transfer) (before : FileSystem) (source : Location) (goal : Octets) : Act Unit := do
  let _ ← Act.files fun fs => do
    let g ← fs.locate true goal
    let fs := if t.modes then fs.setModeAt g (before.modeAt source) else fs
    return if t.times then fs.setModifiedAt g (before.modifiedAt source) else fs

def place (t : Transfer) (tool : String) (source goal : Chars) (l : Location) (node : Node) :
    Act Bool := do
  let before ← Act.tree
  let s := toOctets source
  let g := toOctets goal
  let finish (r : Except SystemError Unit) (complaint : SystemError → Act Unit) : Act Bool := do
    match r with
    | .ok () => return true
    | .error e =>
      complaint e
      return false
  let notCreated (what : String) (e : SystemError) : Act Unit :=
    complainOf tool ("cannot create " ++ what ++ " ") goal e
  match t.linking with
  | .symbolic =>
    let here := (before.locate false Path.dot).toOption
    let dir := (before.locate false (toOctets (directoryName goal))).toOption
    if !Path.isAbsolute s ∧ here ≠ dir then
      complain tool (asWord goal ++
        ": can make relative symbolic links only in current directory".toList)
      return false
    else
      let r ← Act.files fun fs => fs.makeLink s g
      finish r fun e => complain tool ("cannot create symbolic link ".toList ++ inQuotes goal ++
        " to ".toList ++ inQuotes source ++ ": ".toList ++ faultText e)
  | .hard =>
    let r ← Act.files fun fs => do
      let fs ← if t.force ∧ (fs.lstat g).toBool then fs.removeFile g else pure fs
      fs.makeName (FileSystem.pathOf l) g
    finish r fun e => complain tool ("cannot create hard link ".toList ++ inQuotes goal ++
      " to ".toList ++ inQuotes source ++ ": ".toList ++ faultText e)
  | .none =>
    let asFile : Act Bool := do
      let fine ← t.copyContent tool source goal
      if fine then keepTraits t before l g
      return fine
    match node with
    | .link target =>
      let r ← Act.files fun fs => fs.makeLink target g
      let fine ← finish r (notCreated "symbolic link")
      if fine ∧ t.times then keepTraits { t with modes := false } before l g
      return fine
    | .device (.pipe _) =>
      if !t.recursive then asFile
      else
        let r ← Act.files fun fs => fs.makePipe g
        finish r (notCreated "fifo")
    | .device kind =>
      if !t.recursive then asFile
      else
        let r ← Act.files fun fs => do
          let fs ← fs.createNew g
          let k ← fs.locate true g
          return fs.put k (.device kind)
        finish r (notCreated "special file")
    | _ => asFile

def shift (t : Transfer) (tool : String) (source goal : Chars) (kept : Option Octets) : Act Bool := do
  match ← Act.files fun fs => fs.rename (toOctets source) (toOctets goal) with
  | .ok () =>
    t.tell tool "renamed " source goal kept
    return true
  | .error (.os .invalidArgument) =>
    complain tool ("cannot move ".toList ++ inQuotes source ++ " to a subdirectory of itself, ".toList ++
      inQuotes goal)
    return false
  | .error e =>
    if e = .os .notEmpty ∨ e = .os .fileExists ∨ e = .os .isDirectory then
      complainOf tool "cannot overwrite " goal e
    else
      complain tool ("cannot move ".toList ++ inQuotes source ++ " to ".toList ++ inQuotes goal ++
        ": ".toList ++ faultText e)
    return false

def makeWay (t : Transfer) (tool : String) (fs : FileSystem) (node : Node) (goal : Chars) :
    Act (Option Octets) := do
  let g := toOctets goal
  let present := (fs.lstat g).toOption
  match t.backup with
  | some b =>
    if present = some .directory ∧ !t.move then return none
    let path := backupPath fs b g
    let _ ← Act.files fun fs => fs.rename g path
    return some path
  | none =>
    let replaced := t.follow = .never && !node.isFile
    let linked := t.linking = .symbolic && (t.force || t.removeFirst)
    if !t.move ∧ present ≠ some .directory ∧ (t.removeFirst ∨ replaced ∨ linked) then
      let _ ← Act.files fun fs => fs.removeFile g
      if t.verbose ∧ t.removeFirst then say tool ("removed ".toList ++ inQuotes goal ++ ['\n'])
    return none

def run (t : Transfer) (tool : String) (root : Chars × Chars) :
    Nat → (top : Bool) → (source goal : Chars) → Transferred → Act (Bool × Transferred)
  | 0, _, _, _, done => return (false, done)
  | fuel + 1, top, source, goal, done => do
    let fs ← Act.tree
    let s := toOctets source
    let g := toOctets goal
    let follows := !t.move && (t.follow = .always || (t.follow = .named && top))
    match fs.locate (!follows) s with
    | .error e =>
      complainOf tool "cannot stat " source e
      return (false, done)
    | .ok l =>
      let node := (fs.get? l).getD .directory
      let isTree := node = .directory
      if isTree ∧ !t.recursive ∧ !t.move then
        let why := if tool = "install" then "omitting directory " else "-r not specified; omitting directory "
        complain tool (why.toList ++ inQuotes source)
        return (false, done)
      if top ∧ !t.move ∧ t.backup.isNone ∧ done.seen.contains l then
        complain tool ("warning: source ".toList ++ (if isTree then "directory " else "file ").toList ++
          inQuotes source ++ " specified more than once".toList)
        return (true, done)
      let done := if top then { done with seen := l :: done.seen } else done
      if done.made.contains l then
        complain tool ("cannot copy a directory, ".toList ++ inQuotes root.1 ++ ", into itself, ".toList ++
          inQuotes root.2)
        return (false, { done with intoSelf := true })
      let viaLink := t.move || t.linking ≠ .none || t.backup.isSome || t.removeFirst || !node.isFile
      let there := (fs.locate viaLink g).toOption
      let present := there.bind fs.get?
      -- What is already there may forbid the transfer, or make it needless.
      let (allowed, finished) := if there.isSome then t.mayMeet fs s g else (true, false)
      let newer : Bool := match there with
        | some k => t.update && !isTree && decide (fs.modifiedAt l ≤ fs.modifiedAt k)
        | none => false
      if !allowed then
        complain tool (inQuotes source ++ " and ".toList ++ inQuotes goal ++ " are the same file".toList)
        return (false, done)
      if finished ∨ newer then return (true, done)
      if there.isSome ∧ !isTree ∧ t.keep then return (true, done)
      if there.isSome ∧ t.move ∧ t.keep then return (true, done)
      if there.isSome ∧ (!isTree ∨ t.move) ∧ t.ask then
        if !(← confirm tool ("overwrite ".toList ++ inQuotes goal)) then return (true, done)
      if there.isSome ∧ isTree ∧ present ≠ some .directory ∧ t.backup.isNone then
        complain tool ("cannot overwrite non-directory ".toList ++ inQuotes goal ++ " with directory ".toList ++
          inQuotes source)
        return (false, done)
      if present = some .directory ∧ !isTree ∧ (t.backup.isNone ∨ !t.move) then
        complain tool ("cannot overwrite directory ".toList ++ inQuotes goal ++ " with non-directory".toList)
        return (false, done)
      if there.any done.created.contains ∧ top ∧ !isTree ∧ t.backup.isNone then
        complain tool ("will not overwrite just-created ".toList ++ inQuotes goal ++ " with ".toList ++
          inQuotes source)
        return (false, done)
      let kept ← if there.isSome then t.makeWay tool fs node goal else pure none
      if t.move then
        let fine ← t.shift tool source goal kept
        let after ← Act.tree
        return (fine, { done with created := (after.locate true g).toOption.toList ++ done.created })
      if !isTree then
        t.tell tool "" source goal kept
        let fine ← t.place tool source goal l node
        let after ← Act.tree
        return (fine, { done with created := (after.locate true g).toOption.toList ++ done.created })
      -- A directory: create it if need be, then go through it.
      let made? : Except SystemError (List Location) ←
        if present = some .directory then pure (.ok [])
        else do
          let mask ← ownMask
          let mode := Mode.without (fs.modeAt l) mask
          match ← Act.files fun fs => do
            let fs ← fs.makeDirectory g
            fs.setMode g mode with
          | .error e => pure (.error e)
          | .ok () =>
            let after ← Act.tree
            pure (.ok (after.locate true g).toOption.toList)
      match made? with
      | .error e =>
        complainOf tool "cannot create directory " goal e
        return (false, done)
      | .ok made =>
        if !made.isEmpty then t.tell tool "" source goal kept
        let after ← Act.tree
        let done := if done.made.isEmpty then { done with made := made } else done
        let below (dir name : Octets) : Chars := ofOctets (Path.join dir name)
        let (fine, done) ← (after.childNames l).foldl (fun before n => do
          let (fine, done) ← before
          if done.intoSelf then return (fine, done)
          let (here, done) ← run t tool root fuel false (below s n) (below g n) done
          return (fine && here, done)) (pure (true, done))
        t.keepTraits after l g
        return (fine, done)

end Transfer

end TreePipeline.Tools
