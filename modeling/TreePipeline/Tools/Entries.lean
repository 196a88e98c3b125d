import TreePipeline.Tools.Extent
import TreePipeline.Tools.Modes

/-! Small programs that create and remove entries of the tree of files. -/

namespace TreePipeline.Tools

open Shell Host

def missingOperand (tool : String) : Act Nat := misuse tool "missing operand".toList

def answer : Nat → (first : Option UInt8) → Act Bool
  | 0, first => return first = some 0x79 || first = some 0x59
  | fuel + 1, first => do
    match ← Act.read 0 1 with
    | .ok [b] => if b = newline then answer 0 first else answer fuel (first.or (some b))
    | _ => answer 0 first

def confirm (tool : String) (question : Chars) : Act Bool := do
  let _ ← Act.write 2 (toOctets (tool.toList ++ ": ".toList ++ question ++ "? ".toList))
  answer maxReads none

def kindName (n : Node) : Chars :=
  (match n with
    | .directory => "directory"
    | .file [] _ _ => "regular empty file"
    | .file .. => "regular file"
    | .link _ => "symbolic link"
    | .device (.pipe _) => "fifo"
    | .device _ => "character special file").toList

/-! Removing. -/

structure Removal where
  recursive : Bool
  force : Bool
  ask : Bool
  verbose : Bool
  emptyToo : Bool

namespace Removal

def one (m : Removal) (tool : String) : Nat → (path : Chars) → Act Bool
  | 0, _ => return false
  | fuel + 1, path => do
    let fs ← Act.tree
    let p := toOctets path
    let fail (e : SystemError) : Act Bool := do
      complainOf tool "cannot remove " path e
      return false
    let agreed (verb : String) (kind : Chars) : Act Bool :=
      if m.ask then confirm tool (verb.toList ++ kind ++ [' '] ++ inQuotes path) else return true
    let remove (operation : FileSystem → Except SystemError FileSystem) (told : String) : Act Bool := do
      match ← Act.files operation with
      | .ok () =>
        if m.verbose then say tool (told.toList ++ inQuotes path ++ ['\n'])
        return true
      | .error e => fail e
    match fs.lstat p with
    | .error e =>
      if m.force ∧ (e.isNotFound ∨ e = .os .notDirectory) then return true else fail e
    | .ok .directory =>
      if !m.recursive ∧ !m.emptyToo then fail (.os .isDirectory)
      else
        let names := match fs.listDirectory p with
          | .ok (_, ns) => ns
          | .error _ => []
        if m.recursive ∧ !names.isEmpty then
          if !(← agreed "descend into " "directory".toList) then return true
          let fine ← names.foldl (fun before n => do
            let fine ← before
            let here ← one m tool fuel (ofOctets (Path.join p n))
            return fine && here) (pure true)
          let left ← Act.tree
          let stays : Bool := match left.listDirectory p with
            | .ok (_, ns) => !ns.isEmpty
            | .error _ => false
          if stays then return fine
          if !(← agreed "remove " "directory".toList) then return fine
          let here ← remove (fun fs => fs.removeEmptyDirectory p) "removed directory "
          return fine && here
        else
          if !(← agreed "remove " "directory".toList) then return true
          remove (fun fs => fs.removeEmptyDirectory p) "removed directory "
    | .ok n =>
      if !(← agreed "remove " (kindName n)) then return true
      remove (fun fs => fs.removeFile p) "removed "

def each (m : Removal) (tool : String) : List Chars → (status : Nat) → Act Nat
  | [], status => return status
  | p :: r, status => do
    let name := baseName p
    if m.recursive ∧ (name = ['.'] ∨ name = ['.', '.']) then
      complain tool ("refusing to remove '.' or '..' directory: skipping ".toList ++ inQuotes p)
      each m tool r 1
    else if m.recursive ∧ name = ['/'] then
      complain tool ("it is dangerous to operate recursively on ".toList ++ inQuotes p)
      complain tool "use --no-preserve-root to override this failsafe".toList
      each m tool r 1
    else
      let fine ← m.one tool maxDepth p
      each m tool r (if fine then status else 1)

end Removal

def rm : Tool := fun tool args _ => do
  let table := "d,dir f,force i I interactive=? one-file-system no-preserve-root preserve-root=? " ++
    "R,r,recursive v,verbose"
  match Options.ofArgs table true args with
  | .error e => do
    complain tool e
    match args.find? fun a => 1 < a.length ∧ a.head? = some '-' ∧ a.drop 1 ≠ ['-'] with
    | some a =>
      let fs ← Act.tree
      if (fs.lstat (toOctets a)).toBool then
        let _ ← Act.write 2 (toOctets ("Try '".toList ++ tool.toList ++ " ./".toList ++ a ++
          "' to remove the file ".toList ++ inQuotes a ++ ".\n".toList))
    | none => pure ()
    let _ ← Act.write 2
      (toOctets ("Try '".toList ++ tool.toList ++ " --help' for more information.\n".toList))
    return 1
  | .ok (os, paths) =>
    let lines := [["never", "no", "none"], ["once"], ["always", "yes"]]
    let whenOf (v : Option Chars) : Option String := match v with
      | none => some "always"
      | some v => (lines.flatten.find? fun w => v.isPrefixOf w.toList ∧ !v.isEmpty)
    match (os.filter fun o => o.1 = "interactive").find? fun o => (whenOf o.2).isNone with
    | some (_, v) =>
      complain tool ("invalid argument ".toList ++ inPlainQuotes (v.getD []) ++ (" for '--interactive'\n" ++
        "Valid arguments are:\n  - 'never', 'no', 'none'\n  - 'once'\n  - 'always', 'yes'\n" ++
        "Try 'rm --help' for more information.").toList)
      return 1
    | none =>
    -- The last word on asking and forcing counts.
    let (force, ask, once) := os.foldl (fun (force, ask, once) o =>
      match o.1 with
      | "f" => (true, false, false)
      | "i" => (false, true, false)
      | "I" => (false, false, true)
      | "interactive" => match (whenOf o.2).getD "" with
        | "never" | "no" | "none" => (force, false, false)
        | "once" => (false, false, true)
        | _ => (false, true, false)
      | _ => (force, ask, once)) (false, false, false)
    let m : Removal := {
      recursive := os.has "R", force := force, ask := ask, verbose := os.has "v", emptyToo := os.has "d" }
    if paths.isEmpty then
      if force then return 0 else missingOperand tool
    else
      let number := (toString paths.length).toList
      if once ∧ (m.recursive ∨ 3 < paths.length) then
        let question := "remove ".toList ++ number ++
          (if paths.length = 1 then " argument" else " arguments").toList ++
          (if m.recursive then " recursively" else "").toList
        if !(← confirm tool question) then return 0
      m.each tool paths 0

def unlink : Tool := fun tool args _ => withTable tool "" args fun _ paths => do
  match paths with
  | [] => missingOperand tool
  | [p] =>
    match ← Act.files fun fs => fs.removeFile (toOctets p) with
    | .ok () => return 0
    | .error e =>
      complainOf tool "cannot unlink " p e
      return 1
  | _ :: extra :: _ => misuse tool ("extra operand ".toList ++ inQuotes extra)

def selfAndAbove (path : Chars) : List Chars :=
  let path := ofOctets (Path.withoutEndSlashes (toOctets path))
  let names := (Octets.splitOn Path.slash (toOctets path)).map ofOctets
  let paths := (List.range names.length).map fun n => ['/'].intercalate (names.take (n + 1))
  (paths.filter fun p => !p.isEmpty).reverse

def removeDirectories (tool : String) (upwards verbose lenient : Bool) :
    List Chars → (status : Nat) → Act Nat
  | [], status => return status
  | p :: r, status => do
    let rec climb (first : Bool) : List Chars → Act Bool
      | [] => return true
      | d :: above => do
        if verbose then say tool (tool.toList ++ ": removing directory, ".toList ++ inQuotes d ++ ['\n'])
        let isDot := baseName d = ['.']
        match ← if isDot then pure (.error (.os .invalidArgument))
          else Act.files fun fs => fs.removeEmptyDirectory (toOctets d) with
        | .ok () => climb false above
        | .error e =>
          if lenient ∧ e = .os .notEmpty then return true
          complainOf tool (if first then "failed to remove " else "failed to remove directory ") d e
          return false
    let fine ← climb true (if upwards then p :: (selfAndAbove p).drop 1 else [p])
    removeDirectories tool upwards verbose lenient r (if fine then status else 1)

def rmdir : Tool := fun tool args _ =>
  withTable tool "ignore-fail-on-non-empty p,parents v,verbose" args fun os paths => do
    if paths.isEmpty then missingOperand tool
    else removeDirectories tool (os.has "p") (os.has "v") (os.has "ignore-fail-on-non-empty") paths 0

/-! Creating. -/

def makeOne (tool : String) (verbose : Bool) (mode : Option Nat) (path : Chars) :
    Act (Except SystemError Unit) := do
  let p := toOctets path
  let r ← Act.files fun fs => do
    let fs ← fs.makeDirectory p
    match mode with
    | some m => fs.setMode p m
    | none => return fs
  if r.toBool ∧ verbose then
    say tool (tool.toList ++ ": created directory ".toList ++ inQuotes path ++ ['\n'])
  return r

def makeUpTo (tool : String) (verbose : Bool) (mode : Option Nat) (path : Chars) :
    List Chars → Act Bool
  | [] => do
    match ← makeOne tool verbose mode path with
    | .ok () => return true
    | .error e =>
      if e.isAlreadyExists ∧ (← Act.ask fun fs => fs.isDirectory (toOctets path)) then return true
      complainOf tool "cannot create directory " path e
      return false
  | d :: r => do
    match ← makeOne tool verbose none d with
    | .ok () => makeUpTo tool verbose mode path r
    | .error e =>
      if e.isAlreadyExists then
        if ← Act.ask fun fs => fs.isDirectory (toOctets d) then makeUpTo tool verbose mode path r
        else
          complainOf tool "cannot create directory " d (.os .notDirectory)
          return false
      else
        complainOf tool "cannot create directory " d e
        return false

def mkdir : Tool := fun tool args _ => do
  withTable tool "m,mode= p,parents v,verbose Z context=?" args fun os paths => do
    if paths.isEmpty then return ← missingOperand tool
    let mask ← ownMask
    let mode? : Except Chars (Option Nat) := match os.value? "m" with
      | none => .ok none
      | some spec => match Mode.read? spec with
        | some changes => .ok (some (Mode.adjust true mask changes 0o777))
        | none => .error spec
    match mode? with
    | .error spec =>
      complain tool ("invalid mode ".toList ++ inQuotes spec)
      return 1
    | .ok mode =>
      let rec each : List Chars → (status : Nat) → Act Nat
        | [], status => return status
        | p :: r, status => do
          if os.has "p" then
            let fine ← makeUpTo tool (os.has "v") mode p ((selfAndAbove p).drop 1).reverse
            each r (if fine then status else 1)
          else
            match ← makeOne tool (os.has "v") mode p with
            | .ok () => each r status
            | .error e =>
              complainOf tool "cannot create directory " p e
              each r 1
      each paths 0

def makePipes (tool : String) (complaint : Chars → Chars) (mode : Option Nat) :
    List Chars → (status : Nat) → Act Nat
  | [], status => return status
  | p :: r, status => do
    let made ← Act.files fun fs => do
      let fs ← fs.makePipe (toOctets p)
      match mode with
      | some m => fs.setMode (toOctets p) m
      | none => return fs
    match made with
    | .ok () => makePipes tool complaint mode r status
    | .error e =>
      complain tool (complaint p ++ ": ".toList ++ faultText e)
      makePipes tool complaint mode r 1

def withNewMode (tool : String) (os : Options) (body : Option Nat → Act Nat) : Act Nat := do
  match os.value? "m" with
  | none => body none
  | some spec =>
    match Mode.read? spec with
    | some changes => body (some (Mode.adjust false 0 changes 0o666))
    | none =>
      complain tool "invalid mode".toList
      return 1

def mkfifo : Tool := fun tool args _ =>
  withTable tool "m,mode= Z context=?" args fun os paths => withNewMode tool os fun mode => do
    if paths.isEmpty then missingOperand tool
    else makePipes tool (fun p => "cannot create fifo ".toList ++ inQuotes p) mode paths 0

def mknod : Tool := fun tool args _ =>
  withTable tool "m,mode= Z context=?" args fun os operands => withNewMode tool os fun mode => do
    match operands with
    | [] => missingOperand tool
    | [a] => misuse tool ("missing operand after ".toList ++ inQuotes a)
    | [p, ['p']] => makePipes tool asWord mode [p] 0
    | _ :: ['p'] :: extra :: _ => misuse tool ("extra operand ".toList ++ inQuotes extra)
    | [_, kind] =>
      complain tool ("missing operand after ".toList ++ inQuotes kind)
      let _ ← Act.write 2 (toOctets ("Special files require major and minor device numbers.\nTry '".toList ++
        tool.toList ++ " --help' for more information.\n".toList))
      return 1
    | [_, _, number] => misuse tool ("missing operand after ".toList ++ inQuotes number)
    | _ :: _ :: _ :: _ :: extra :: _ => misuse tool ("extra operand ".toList ++ inQuotes extra)
    | p :: _ =>
      complain tool (asWord p ++ ": Operation not permitted".toList)
      return 1

/-! Names that nobody else has. -/

def unforeseen : (count seed : Nat) → Chars
  | 0, _ => []
  | n + 1, seed =>
    let letters := "abcdefghijklmnopqrstuvwxyzABCDEFGHIJKLMNOPQRSTUVWXYZ0123456789".toList
    let next := (seed * 6364136223846793005 + 1442695040888963407) % 0x10000000000000000
    letters.getD (next / 0x100000000 % 62) 'x' :: unforeseen n next

def createFree (operation : Octets → FileSystem → Except SystemError FileSystem)
    (name : Nat → Chars) : Nat → (seed : Nat) → Act (Except SystemError Chars)
  | 0, _ => return .error (.os .fileExists)
  | tries + 1, seed => do
    let p := name seed
    match ← Act.files (operation (toOctets p)) with
    | .ok () => return .ok p
    | .error e =>
      if e.isAlreadyExists then createFree operation name tries (seed + 1) else return .error e

def mktemp : Tool := fun tool args env => do
  withTable tool "d,directory p= tmpdir=? q,quiet suffix= t u,dry-run" args fun os operands => do
    match operands with
    | _ :: _ :: _ => misuse tool "too many templates".toList
    | _ =>
    let fail (text : Chars) : Act Nat := do
      complain tool text
      return 1
    let template := operands.headD "tmp.XXXXXXXXXX".toList
    let placed := operands.isEmpty || os.has "t" || os.has "p" || os.has "tmpdir"
    match os.value? "suffix" with
    | some s =>
      if template.getLast? ≠ some 'X' then
        return ← fail ("with --suffix, template ".toList ++ inQuotes template ++ " must end in X".toList)
      if s.contains '/' then
        return ← fail ("invalid suffix ".toList ++ inQuotes s ++ ", contains directory separator".toList)
    | none => pure ()
    let after := (template.reverse.takeWhile (· ≠ 'X')).reverse
    let front := template.take (template.length - after.length)
    let ending := (os.value? "suffix").getD after
    let count := (front.reverse.takeWhile (· = 'X')).length
    if os.value? "suffix" = none ∧ after.contains '/' then
      return ← fail ("invalid suffix ".toList ++ inQuotes after ++ ", contains directory separator".toList)
    if count < 3 then return ← fail ("too few X's in template ".toList ++ inQuotes template)
    if os.has "t" ∧ template.contains '/' then
      return ← fail ("invalid template, ".toList ++ inQuotes template ++ ", contains directory separator".toList)
    if placed ∧ template.head? = some '/' then
      return ← fail ("invalid template, ".toList ++ inQuotes template ++
        "; with --tmpdir, it may not be absolute".toList)
    let usual := match env.lookup (Octets.ofAscii "TMPDIR") with
      | some v => if v = [] then Octets.ofAscii "/tmp" else v
      | none => Octets.ofAscii "/tmp"
    let given := (((os.value? "p").or (os.value? "tmpdir")).filter fun v => !v.isEmpty).map toOctets
    let dir : Octets := if !placed then [] else if os.has "t" then
        (match env.lookup (Octets.ofAscii "TMPDIR") with
          | some v => if v = [] then given.getD usual else v
          | none => given.getD usual)
      else given.getD usual
    let path (body : Chars) : Chars := if placed then ofOctets (Path.join dir (toOctets body)) else body
    let name (seed : Nat) : Chars :=
      path (front.take (front.length - count) ++ unforeseen count seed ++ ending)
    let seed ← do
      match ← Act.call .now with
      | .number n => pure n.toNat
      | _ => pure 0
    let operation (p : Octets) (fs : FileSystem) : Except SystemError FileSystem := do
      if os.has "u" then
        match ← fs.target true p with
        | .found _ => throw (.os .fileExists)
        | .absent .. => return fs
      else if os.has "d" then
        let fs ← fs.makeDirectory p
        fs.setMode p 0o700
      else
        let fs ← fs.createNew p
        fs.setMode p 0o600
    match ← createFree operation name 100 seed with
    | .ok p =>
      say tool (p ++ ['\n'])
      return 0
    | .error e =>
      if os.has "q" then return 1
      fail ("failed to create ".toList ++ (if os.has "d" then "directory" else "file").toList ++
        " via template ".toList ++ inQuotes (path (front ++ ending)) ++ ": ".toList ++ faultText e)

/-! Sizes. -/

inductive SizeChange where
  | exactly
  | more
  | less
  | atMost
  | atLeast
  | multipleBelow
  | multipleAbove
  deriving DecidableEq

namespace SizeChange

def ofChar? (c : Char) : Option SizeChange :=
  match c with
  | '+' => some .more
  | '-' => some .less
  | '<' => some .atMost
  | '>' => some .atLeast
  | '/' => some .multipleBelow
  | '%' => some .multipleAbove
  | _ => none

def apply (h : SizeChange) (old n : Nat) : Nat :=
  match h with
  | exactly => n
  | more => old + n
  | less => old - n
  | atMost => min old n
  | atLeast => max old n
  | multipleBelow => old / n * n
  | multipleAbove => (old + n - 1) / n * n

end SizeChange

def resizeEach (tool : String) (create : Bool) (size : Nat → Nat) : List Chars → (status : Nat) → Act Nat
  | [], status => return status
  | p :: r, status => do
    let path := toOctets p
    let cut (fs : FileSystem) : Except SystemError FileSystem := do
      if !create ∧ !fs.pathExists path then
        let _ ← fs.target false path
        return fs
      else
        let l ← fs.writable path
        let old := (fs.readFile path).toOption.getD []
        let n := size old.length
        return fs.store l (old.take n ++ List.replicate (n - old.length) 0)
    match ← Act.files cut with
    | .ok () => resizeEach tool create size r status
    | .error e =>
      if !create ∧ e.isNotFound then resizeEach tool create size r status
      else
        complain tool ("cannot open ".toList ++ inQuotes p ++ " for writing: ".toList ++ faultText e)
        resizeEach tool create size r 1

def truncate : Tool := fun tool args _ =>
  withTable tool "c,no-create o,io-blocks r,reference= s,size=" args fun os paths => do
    let fail (text : Chars) : Act Nat := do
      complain tool text
      return 1
    let spec : Option (SizeChange × Chars) := (os.value? "s").map fun v =>
      let v := v.dropWhile Arithmetic.isSpace
      match v with
      | c :: r => match SizeChange.ofChar? c with
        | some h => (h, if h = .more ∨ h = .less then v else r.dropWhile Arithmetic.isSpace)
        | none => (.exactly, v)
      | [] => (.exactly, v)
    let read? (h : SizeChange) (v : Chars) : Except Extent.Fault Nat :=
      if h = .more ∨ h = .less then
        (if (v.drop 1).head?.any Char.isDigit then Extent.read (v.drop 1) else .error .invalid)
      else Extent.read v
    let n? : Option (Except Extent.Fault Nat) := spec.map fun (h, v) => read? h v
    match spec, n? with
    | some (_, v), some (.error e) => fail ("Invalid number: ".toList ++ inQuotes v ++ e.ending)
    | _, _ =>
    let number : Nat := match n? with
      | some (.ok n) => n
      | _ => 0
    match spec, os.value? "r" with
    | none, none => misuse tool "you must specify either '--size' or '--reference'".toList
    | some (.exactly, _), some _ =>
      misuse tool "you must specify a relative '--size' with '--reference'".toList
    | spec, reference =>
      let change := (spec.map Prod.fst).getD .exactly
      if (change = .multipleBelow ∨ change = .multipleAbove) ∧ number = 0 then
        return ← fail "division by zero".toList
      if 0x7fffffffffffffff < number then
        return ← fail ("Invalid number: ".toList ++ inQuotes ((spec.map Prod.snd).getD []) ++
          Extent.Fault.tooLarge.ending)
      if paths.isEmpty then return ← misuse tool "missing file operand".toList
      let number := if os.has "o" then number * 4096 else number
      match reference with
      | none => resizeEach tool (!os.has "c") (fun old => change.apply old number) paths 0
      | some p =>
        let fs ← Act.tree
        match fs.stat (toOctets p) with
        | .error e =>
          complainOf tool "cannot stat " p e
          return 1
        | .ok n =>
          let size := match n with
            | .file content _ _ => content.length
            | _ => 4096
          let goal := if spec.isSome then change.apply size number else size
          resizeEach tool (!os.has "c") (fun _ => goal) paths 0

/-! Owners. All files belong to one user, so that nothing changes. -/

def knownUsers : List String := ["root", "daemon", "bin", "sys", "nobody", "mail", "www-data"]

def knownGroups : List String := ["root", "daemon", "bin", "sys", "nogroup", "mail", "www-data", "adm", "tty", "users"]

def isKnown (names : List String) (name : Chars) : Bool :=
  name.isEmpty || name.all Char.isDigit || names.contains (String.ofList name)

def assignOwner (group : Bool) : Tool := fun tool args _ => do
  let table := "c,changes f,silent,quiet v,verbose R,recursive H L P h,no-dereference dereference " ++
    "from= reference= preserve-root no-preserve-root"
  withTable tool table args fun os operands => do
    match if os.has "reference" then [] :: operands else operands with
    | [] => missingOperand tool
    | [owner] => misuse tool (if os.has "reference" then "missing operand".toList
        else "missing operand after ".toList ++ inQuotes owner)
    | owner :: paths =>
      let user := if group then [] else owner.takeWhile (· ≠ ':')
      let rest := if group then owner else owner.drop (user.length + 1)
      if !isKnown knownUsers user then
        complain tool ("invalid user: ".toList ++ inQuotes owner)
        return 1
      else if !isKnown knownGroups rest then
        complain tool ("invalid group: ".toList ++ inQuotes owner)
        return 1
      else
        let rec each : List Chars → (status : Nat) → Act Nat
          | [], status => return status
          | p :: r, status => do
            match (← Act.tree).locate (os.has "h") (toOctets p) with
            | .ok _ => each r status
            | .error e =>
              if !os.has "f" then complainOf tool "cannot access " p e
              each r 1
        each paths 0

def chown : Tool := assignOwner false

def chgrp : Tool := assignOwner true

end TreePipeline.Tools
