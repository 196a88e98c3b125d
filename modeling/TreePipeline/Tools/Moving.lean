import TreePipeline.Tools.Transfer

/-! Small programs that give entries of the tree new places and new names. -/

namespace TreePipeline.Tools

open Shell Host

inductive Destination where
  | into (dir : Chars) (sources : List Chars)
  | exactly (source goal : Chars)

namespace Destination

def dirFault? (fs : FileSystem) (keepLink : Bool) (path : Chars) : Option SystemError :=
  match fs.locate keepLink (toOctets path) with
  | .error e => some e
  | .ok l => if fs.get? l = some .directory then none else some (.os .notDirectory)

def placeIn (dir source : Chars) : Chars :=
  let name := baseName source
  if name = ['.', '.'] then dir else ofOctets (Path.join (toOctets dir) (toOctets name))

def choose (tool : String) (given : Option Chars) (exact keepLink alone : Bool)
    (paths : List Chars) : Act (Except Nat Destination) := do
  let fail (text : Chars) : Act (Except Nat Destination) := do
    complain tool text
    return .error 1
  let misused (text : Chars) : Act (Except Nat Destination) := do
    return .error (← misuse tool text)
  match given, paths with
  | _, [] => misused "missing file operand".toList
  | none, [p] =>
    if alone ∧ !exact then return .ok (.into ['.'] [p])
    else misused ("missing destination file operand after ".toList ++ inQuotes p)
  | some dir, sources =>
    if exact then
      fail ("cannot combine --target-directory ".toList ++
        "(-t) and --no-target-directory (-T)".toList)
    else
      match dirFault? (← Act.tree) false dir with
      | some e =>
        fail ((if tool = "install" ∨ tool = "ln" then "failed to access " else "target directory ").toList ++ inQuotes dir ++
          ": ".toList ++ faultText e)
      | none => return .ok (.into dir sources)
  | none, source :: goal :: more =>
    if exact then
      match more with
      | [] => return .ok (.exactly source goal)
      | extra :: _ => misused ("extra operand ".toList ++ inQuotes extra)
    else
      let last := (goal :: more).getLast?.getD []
      match dirFault? (← Act.tree) keepLink last, more with
      | none, _ => return .ok (.into last (source :: (goal :: more).dropLast))
      | some _, [] => return .ok (.exactly source goal)
      | some e, _ => fail ("target ".toList ++ inQuotes last ++ ": ".toList ++ faultText e)

def pairs : Destination → List (Chars × Chars)
  | into dir sources => sources.map fun s => (s, placeIn dir s)
  | exactly source goal => [(source, goal)]

end Destination

namespace Transfer

def each (t : Transfer) (tool : String) : List (Chars × Chars) → (status : Nat) → Transferred → Act Nat
  | [], status, _ => return status
  | (source, goal) :: r, status, done => do
    let (fine, done) ← t.run tool (source, goal) maxDepth true source goal { done with made := [], intoSelf := false }
    each t tool r (if fine then status else 1) done

def backupOfOptions (os : Options) : Except Chars (Option Backup) :=
  let ending := (os.value? "S").getD ['~']
  match os.value? "backup" with
  | some control =>
    match backupOf? control ending with
    | some b => .ok b
    | none => .error control
  | none =>
    if os.has "b" ∨ os.has "S" ∨ os.has "backup" then .ok (some ⟨ending, false, true⟩) else .ok none

def withBackup (tool : String) (os : Options) (body : Option Backup → Act Nat) : Act Nat := do
  match backupOfOptions os with
  | .ok b => body b
  | .error control =>
    complain tool ("invalid argument ".toList ++ inPlainQuotes control ++
      " for 'backup type'\nValid arguments are:\n".toList ++
      "  - 'none', 'off'\n  - 'simple', 'never'\n  - 'existing', 'nil'\n".toList ++
      "  - 'numbered', 't'".toList)
    let _ ← Act.write 2
      (toOctets ("Try '".toList ++ tool.toList ++ " --help' for more information.\n".toList))
    return 1

end Transfer

def makeWayTo (path : Chars) : Act Unit := do
  let _ ← Act.files fun fs => fs.makeDirectories (toOctets (directoryName path))

open Transfer in
def cp : Tool := fun tool args _ => do
  let table := "a,archive attributes-only b backup=? copy-contents d f,force i,interactive H l,link " ++
    "L,dereference n,no-clobber P,no-dereference p preserve=? no-preserve= parents R,r,recursive reflink=? " ++
    "remove-destination sparse= strip-trailing-slashes s,symbolic-link S,suffix= t,target-directory= " ++
    "T,no-target-directory u,update=? v,verbose x,one-file-system Z context=? debug"
  withTable tool table args fun os paths => withBackup tool os fun backup => do
    let recursive := os.has "R" || os.has "a"
    let linking : Linking := match os.last? ["l", "s"] with
      | some "l" => .hard
      | some _ => .symbolic
      | none => .none
    let follow : Following := match os.last? ["L", "P", "H", "d", "a"] with
      | some "L" => .always
      | some "H" => .named
      | some _ => .never
      | none => if recursive && linking ≠ .hard then .never else .always
    let kept := (os.values "preserve").flatMap fun v => (Octets.splitOn 0x2c (toOctets v)).map ofOctets
    let all := os.has "p" || os.has "a" || kept.contains "all".toList ||
      os.any fun o => o.1 = "preserve" && o.2.isNone
    let t : Transfer := {
      recursive := recursive, follow := follow, linking := linking, force := os.has "f"
      keep := os.last? ["n", "i"] = some "n", ask := os.last? ["n", "i"] = some "i"
      update := os.has "u", verbose := os.has "v" || os.has "debug"
      times := all || kept.contains "timestamps".toList
      modes := all || kept.contains "mode".toList
      removeFirst := os.has "remove-destination", backup := backup }
    let paths := if os.has "strip-trailing-slashes" then
        paths.map fun p => ofOctets (Path.withoutEndSlashes (toOctets p))
      else paths
    match ← Destination.choose tool (os.value? "t") (os.has "T") false false paths with
    | .error status => return status
    | .ok d =>
      let pairs := match d with
        | .into dir sources =>
          if os.has "parents" then sources.map fun s => (s, ofOctets (toOctets dir ++ Path.slash :: toOctets s))
          else d.pairs
        | _ => d.pairs
      if os.has "parents" then
        for (_, goal) in pairs do
          makeWayTo goal
      t.each tool pairs 0 {}

open Transfer in
def mv : Tool := fun tool args _ => do
  let table := "b backup=? f,force i,interactive n,no-clobber strip-trailing-slashes S,suffix= " ++
    "t,target-directory= T,no-target-directory u,update=? v,verbose Z,context debug no-copy"
  withTable tool table args fun os paths => withBackup tool os fun backup => do
    let last := os.last? ["f", "i", "n"]
    let t : Transfer := {
      move := true, recursive := true, follow := .never, keep := last = some "n"
      ask := last = some "i", update := os.has "u", verbose := os.has "v", backup := backup }
    let paths := if os.has "strip-trailing-slashes" then
        paths.map fun p => ofOctets (Path.withoutEndSlashes (toOctets p))
      else paths
    match ← Destination.choose tool (os.value? "t") (os.has "T") false false paths with
    | .error status => return status
    | .ok d => t.each tool d.pairs 0 {}

def makeAll (tool : String) (verbose : Bool) (mode : Nat) : List Chars → (status : Nat) → Act Nat
  | [], status => return status
  | p :: r, status => do
    let before ← Act.tree
    match ← Act.files fun fs => do
      let fs ← fs.makeDirectories (toOctets p)
      fs.setMode (toOctets p) mode with
    | .error e =>
      complainOf tool "cannot create directory " p e
      makeAll tool verbose mode r 1
    | .ok () =>
      if verbose then
        let new := (Path.ancestors (toOctets p)).reverse.filter fun a =>
          a ≠ [] ∧ !(before.lstat a).toBool
        say tool (new.flatMap fun a =>
          tool.toList ++ ": creating directory ".toList ++ inQuotes (ofOctets a) ++ ['\n'])
      makeAll tool verbose mode r status

open Transfer in
def install : Tool := fun tool args _ => do
  let table := "b backup=? c C,compare d,directory D g,group= m,mode= o,owner= p,preserve-timestamps s,strip " ++
    "strip-program= S,suffix= t,target-directory= T,no-target-directory v,verbose Z context=? debug"
  withTable tool table args fun os paths => withBackup tool os fun backup => do
    let spec := (os.value? "m").getD "755".toList
    match Mode.read? spec with
    | none =>
      complain tool ("invalid mode ".toList ++ inQuotes spec)
      return 1
    | some changes =>
      let mode := Mode.adjust false 0 changes 0
      if os.has "d" then
        if paths.isEmpty then return ← misuse tool "missing file operand".toList
        makeAll tool (os.has "v") (Mode.adjust true 0 changes 0) paths 0
      else
        let t : Transfer := {
          verbose := os.has "v", times := os.has "p", removeFirst := backup.isNone, backup := backup
          mode := some mode }
        match os.value? "t", os.has "D" with
        | some dir, true =>
          let _ ← makeAll tool (os.has "v") 0o755 [dir] 0
        | none, true =>
          if paths.length = 2 then
            let dir := directoryName (paths.getLast?.getD [])
            if !(← Act.ask fun fs => fs.isDirectory (toOctets dir)) then
              let _ ← makeAll tool (os.has "v") 0o755 [dir] 0
        | _, false => pure ()
        match ← Destination.choose tool (os.value? "t") (os.has "T") false false paths with
        | .error status => return status
        | .ok d =>
          let pairs ← d.pairs.filterM fun (source, goal) => do
            if !os.has "C" then return true
            let fs ← Act.tree
            match fs.readFile (toOctets source), fs.lstat (toOctets goal) with
            | .ok a, .ok (.file b m _) => return !(a = b ∧ m = mode)
            | _, _ => return true
          t.each tool pairs 0 {}

structure Naming where
  symbolic : Bool
  logical : Bool
  relative : Bool
  force : Bool
  ask : Bool
  verbose : Bool
  backup : Option Backup

namespace Naming

def relativeText (fs : FileSystem) (source goal : Octets) : Octets :=
  Location.relative (fs.loosely (toOctets (directoryName (ofOctets goal)))) (fs.loosely source)

def fault (n : Naming) (source goal : Chars) (e : SystemError) : Chars :=
  let kind := if n.symbolic then "symbolic link " else "hard link "
  let both := if n.symbolic then source.isEmpty || e = .os .nameTooLong
    else !(e.isAlreadyExists || e = .os .noSpace)
  "failed to create ".toList ++ kind.toList ++ inQuotes goal ++
    (if both then (if n.symbolic then " -> " else " => ").toList ++ inQuotes source else []) ++
    ": ".toList ++ faultText e

def create (n : Naming) (source goal : Octets) (fs : FileSystem) : Except SystemError FileSystem :=
  if n.symbolic then fs.makeLink source goal
  else if n.logical then do
    let l ← fs.locate false source
    fs.makeName (FileSystem.pathOf l) goal
  else fs.makeName source goal

def one (n : Naming) (tool : String) (source goal : Chars) : Act Bool := do
  let fs ← Act.tree
  let s := toOctets source
  let g := toOctets goal
  let fail (text : Chars) : Act Bool := do
    complain tool text
    return false
  let node := if n.logical then fs.stat s else fs.lstat s
  match n.symbolic, node with
  | false, .error e => fail ("failed to access ".toList ++ inQuotes source ++ ": ".toList ++ faultText e)
  | false, .ok .directory => fail (asWord source ++ ": hard link not allowed for directory".toList)
  | _, _ =>
    let text := if n.relative then relativeText fs s g else s
    let done (kept : Option Octets) : Act Bool := do
      if n.verbose then
        say tool ((match kept with
          | some b => inQuotes (ofOctets b) ++ " ~ ".toList
          | none => []) ++ inQuotes goal ++ (if n.symbolic then " -> " else " => ").toList ++
            inQuotes (ofOctets text) ++ ['\n'])
      return true
    match ← Act.files (n.create text g), (n.force || n.ask || n.backup.isSome) with
    | .ok (), _ => done none
    | .error e, replaces =>
      if !replaces ∨ !e.isAlreadyExists then fail (n.fault (ofOctets text) goal e)
      else if (fs.lstat g).toOption = some .directory then fail (asWord goal ++ ": cannot overwrite directory".toList)
      else
        let place (keep : Bool) (p : Octets) : Option Location := (fs.locate keep p).toOption
        let same : Bool := match place (!n.symbolic && !n.logical) s, place true g with
          | some a, some b => fs.isSame a b && (fs.nameCount b = 1 || place true s = place true g)
          | _, _ => false
        if same ∧ (n.backup.isNone ∨ !n.symbolic) then
          return ← fail (inQuotes source ++ " and ".toList ++ inQuotes goal ++ " are the same file".toList)
        if n.ask then
          if !(← confirm tool ("replace ".toList ++ inQuotes goal)) then return true
        let kept := n.backup.map fun b => Transfer.backupPath fs b g
        let again ← Act.files fun fs => do
          let fs ← match kept with
            | some b => fs.rename g b
            | none => fs.removeFile g
          n.create text g fs
        match again with
        | .ok () => done kept
        | .error e => fail (n.fault (ofOctets text) goal e)

def each (n : Naming) (tool : String) : List (Chars × Chars) → (status : Nat) → Act Nat
  | [], status => return status
  | (source, goal) :: r, status => do
    let fine ← n.one tool source goal
    each n tool r (if fine then status else 1)

end Naming

open Transfer in
def ln : Tool := fun tool args _ => do
  let table := "b backup=? d,F,directory f,force i,interactive L,logical n,no-dereference P,physical r,relative " ++
    "s,symbolic S,suffix= t,target-directory= T,no-target-directory v,verbose"
  withTable tool table args fun os paths => withBackup tool os fun backup => do
    let symbolic := os.has "s"
    if os.has "r" ∧ !symbolic then
      complain tool "cannot do --relative without --symbolic".toList
      return 1
    let last := os.last? ["f", "i"]
    let n : Naming := {
      symbolic := symbolic, logical := os.last? ["L", "P"] = some "L", relative := os.has "r"
      force := last = some "f", ask := last = some "i", verbose := os.has "v", backup := backup }
    match ← Destination.choose tool (os.value? "t") (os.has "T") (os.has "n") true paths with
    | .error status => return status
    | .ok d => n.each tool d.pairs 0

def link : Tool := fun tool args _ => withTable tool "" args fun _ paths => do
  match paths with
  | [] => misuse tool "missing operand".toList
  | [p] => misuse tool ("missing operand after ".toList ++ inQuotes p)
  | [source, goal] =>
    match ← Act.files fun fs => fs.makeName (toOctets source) (toOctets goal) with
    | .ok () => return 0
    | .error e =>
      complain tool ("cannot create link ".toList ++ inQuotes goal ++ " to ".toList ++ inQuotes source ++
        ": ".toList ++ faultText e)
      return 1
  | _ :: _ :: extra :: _ => misuse tool ("extra operand ".toList ++ inQuotes extra)

end TreePipeline.Tools
