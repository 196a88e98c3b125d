import TreePipeline.Stage.Result
import TreePipeline.Tools.Finding.Reader
import TreePipeline.Tools.Launching

/-! The small program that walks through trees, tests the entries and does things to them. -/

namespace TreePipeline.Tools

open Shell Host

namespace Finding

structure Progress where
  status : Nat := 0
  pruned : Bool := false
  isOver : Bool := false
  batches : List (Nat × Command × Chars × List Chars) := []
  held : List Chars := []
  heldSize : Nat := 0
  files : List (Chars × Nat) := []

structure Plan where
  tool : String
  env : Env
  query : Query
  settings : Settings
  zone : Zone
  now : Int

abbrev Walk := StateT Progress Act

def act {α : Type} (a : Act α) : Walk α := liftM a

def release (p : Plan) : Walk Unit := do
  let held := (← get).held
  modify fun s => { s with held := [], heldSize := 0 }
  if !held.isEmpty then act (say p.tool held.reverse.flatten)

def complainLate (p : Plan) (text : Chars) : Walk Unit := do
  release p
  act (complain p.tool text)
  modify fun s => { s with status := 1 }

def fault (p : Plan) (path : Chars) (e : SystemError) : Walk Unit :=
  complainLate p (inQuotes path ++ ": ".toList ++ faultText e)

def write (p : Plan) (file : Option Chars) (cs : Chars) : Walk Unit := do
  match file with
  | none =>
    modify fun s => { s with held := cs :: s.held, heldSize := s.heldSize + cs.length }
    if blockSize ≤ (← get).heldSize then release p
  | some f =>
    match (← get).files.lookup f with
    | some fd =>
      let _ ← act (Act.write fd (toOctets cs))
    | none => return

/-! Commands. -/

def fillHoles (path : Chars) : (fuel : Nat) → Chars → Chars
  | 0, cs => cs
  | _, [] => []
  | fuel + 1, c :: r =>
    if "\x7b\x7d".toList.isPrefixOf (c :: r) then path ++ fillHoles path fuel (r.drop 1)
    else c :: fillHoles path fuel r

def runIn (p : Plan) (directory : Option Chars) (closed : Bool) (words : List Chars) : Walk Bool := do
  release p
  let child : Act Nat := do
    if let some d := directory then
      let _ ← Act.call (.changeDirectory (toOctets d))
    if closed then
      match ← Act.openFile (Octets.ofAscii "/dev/null") .read with
      | .ok fd =>
        let _ ← Act.call (.duplicate fd 0)
        Act.close fd
      | .error _ => pure ()
    let e ← executeNamed words p.env
    complain p.tool (inQuotes (words.headD []) ++ ": ".toList ++ e.description.toList)
    return 1
  let word ← act (runApart child)
  return WaitStatus.exitCode? word = some 0

def insidePath (path : Chars) : Chars × Chars := ("./".toList ++ baseName path, directoryName path)

def roomForArguments : Nat := 131072

def runBatch (p : Plan) (c : Command) (directory : Chars) (paths : List Chars) : Walk Unit := do
  let fine ← runIn p (if c.inside then some directory else none) false (c.words ++ paths.reverse)
  if !fine then modify fun s => { s with status := 1 }

def flush (p : Plan) (which : Command → Chars → Bool) : Walk Unit := do
  let (due, kept) := (← get).batches.partition fun (_, c, d, _) => which c d
  modify fun s => { s with batches := kept }
  for (_, c, d, paths) in due do
    runBatch p c d paths

def collect (p : Plan) (c : Command) (key : Nat) (directory path : Chars) : Walk Unit := do
  let batches := (← get).batches
  let size (ws : List Chars) : Nat := (ws.map fun w => w.length + 1).foldl Nat.add 0
  match batches.find? fun b => b.1 = key with
  | none => modify fun s => { s with batches := s.batches ++ [(key, c, directory, [path])] }
  | some (_, _, d, paths) =>
    let others := batches.filter fun b => b.1 ≠ key
    if (c.inside ∧ d ≠ directory) ∨ roomForArguments < size c.words + size paths + path.length + 1 then
      modify fun s => { s with batches := others ++ [(key, c, directory, [path])] }
      runBatch p c d paths
    else modify fun s => { s with batches := batches.map fun b => if b.1 = key then (key, c, d, path :: paths) else b }

def runCommand (p : Plan) (e : Entry) (c : Command) : Walk Bool := do
  let (path, directory) := if c.inside then insidePath e.path else (e.path, [])
  match c.many with
  | some key =>
    collect p c key directory path
    return true
  | none =>
    let words := c.words.map fun w => fillHoles path (w.length + 1) w
    let agreed ← if c.ask then do
        release p
        let _ ← act (Act.write 2 (toOctets ("< ".toList ++ words.headD [] ++ " ... ".toList ++ e.path ++ " > ? ".toList)))
        act (answer maxReads none)
      else pure true
    if agreed then runIn p (if c.inside then some directory else none) c.ask words else return false

/-! Deeds and queries. -/

def delete (p : Plan) (e : Entry) : Walk Bool := do
  if e.path = ['.'] then return true
  let path := toOctets e.path
  let result ← act (Act.files fun fs =>
    if e.facts.node.isDirectory then fs.removeEmptyDirectory path else fs.removeFile path)
  match result with
  | .ok () => return true
  | .error err =>
    complainLate p ("cannot delete ".toList ++ inQuotes e.path ++ ": ".toList ++ faultText err)
    return false

def carryOut (p : Plan) (fs : FileSystem) (e : Entry) : Deed → Walk Bool
  | .print file ending => do
    write p file (e.path ++ [ending])
    return true
  | .show_ file pieces => do
    write p file (shown fs p.zone e pieces)
    return true
  | .list file => do
    write p file (longLine fs p.zone p.now e)
    return true
  | .run c => runCommand p e c
  | .delete => delete p e
  | .prune => do
    modify fun s => { s with pruned := true }
    return true
  | .quit => do
    modify fun s => { s with isOver := true }
    return true

def judge (p : Plan) (e : Entry) : Query → Walk Bool
  | .test t => do
    let fs ← act Act.tree
    match t, e.facts.node, fs.stat (toOctets e.path) with
    | .kind _ true, .link _, .error err =>
      if err.isNotFound then return t.holds fs e
      fault p e.path err
      return false
    | _, _, _ => return t.holds fs e
  | .deed d => do
    if (← get).isOver then return false
    let fs ← act Act.tree
    carryOut p fs e d
  | .not q => do return !(← judge p e q)
  | .and q r => do
    if ← judge p e q then
      if (← get).isOver then return false
      judge p e r
    else return false
  | .or q r => do
    if ← judge p e q then return true
    if (← get).isOver then return false
    judge p e r
  | .then_ q r => do
    let _ ← judge p e q
    if (← get).isOver then return false
    judge p e r

/-! The walk. -/

def entryAt (fs : FileSystem) (following : Following) (start path : Chars) (depth : Nat) :
    Except SystemError Entry :=
  let follow := following = .always || (following = .named && depth = 0)
  let entry (f : Facts) : Entry := ⟨path, start, depth, f, following = .always⟩
  match Facts.ofPath fs (!follow) path with
  | .ok f => .ok (entry f)
  | .error e =>
    match follow && e.isNotFound, Facts.ofPath fs true path with
    | true, .ok f => .ok (entry f)
    | _, _ => .error e

def visit (p : Plan) (e : Entry) : Walk Unit := do
  modify fun s => { s with pruned := false }
  if p.settings.shallowest ≤ e.depth ∧ !(← get).isOver then
    let _ ← judge p e p.query

def walkFrom (p : Plan) (start : Chars) : (fuel : Nat) → (above : List Location) → (path : Chars) →
    (depth : Nat) → Walk Unit
  | 0, _, _, _ => return
  | fuel + 1, above, path, depth => do
    if (← get).isOver then return
    let fs ← act Act.tree
    match entryAt fs p.settings.following start path depth with
    | .error e => fault p path e
    | .ok e =>
      let place := e.facts.location
      let enters := e.facts.node.isDirectory && p.settings.deepest.all fun n => depth < n
      if above.contains place then
        complainLate p ("File system loop detected; ".toList ++ inQuotes path ++
          " is part of the same file system loop as ".toList ++ inQuotes (loopStart path (above.idxOf place + 1)) ++
          ['.'])
      else if p.settings.inwards then
        if enters then below fuel (place :: above) path depth place
        visit p e
      else
        visit p e
        if enters ∧ !(← get).pruned then below fuel (place :: above) path depth place
      if e.facts.node.isDirectory then flush p fun c d => c.inside ∧ d = path
where
  loopStart (path : Chars) : Nat → Chars
    | 0 => path
    | n + 1 => loopStart (leading path) n
  below (fuel : Nat) (above : List Location) (path : Chars) (depth : Nat) (place : Location) : Walk Unit := do
    let fs ← act Act.tree
    for n in fs.childNames place do
      walkFrom p start fuel above (ofOctets (Path.join (toOctets path) n)) (depth + 1)

def readFront : List Chars → Settings → Except (List Chars) (Settings × List Chars)
  | ['-', 'P'] :: r, s => readFront r { s with following := .never }
  | ['-', 'H'] :: r, s => readFront r { s with following := .named }
  | ['-', 'L'] :: r, s => readFront r { s with following := .always }
  | ['-', '-'] :: r, s => .ok (s, r)
  | ['-', 'D'] :: _ :: r, s => readFront r s
  | ('-' :: 'O' :: level) :: r, s =>
    if (number? level).isSome then readFront r s
    else .error ["Please specify a decimal number immediately after -O".toList]
  | r, s => .ok (s, r)

def openFiles (p : Plan) : List Deed → Walk Bool
  | [] => return true
  | d :: ds => do
    let file := match d with
      | .print f _ => f
      | .show_ f _ => f
      | .list f => f
      | _ => none
    match file with
    | none => openFiles p ds
    | some f =>
      if ((← get).files.lookup f).isSome then openFiles p ds
      else
        match ← act (Act.openFile (toOctets f) .write) with
        | .ok fd =>
          modify fun s => { s with files := (f, fd) :: s.files }
          openFiles p ds
        | .error e =>
          fault p f e
          return false

def walkAll (p : Plan) (starts : List Chars) : Walk Unit := do
  if ← openFiles p p.query.deeds then
    for s in starts do
      if !(← get).isOver then walkFrom p s (maxDepth + 1) [] s 0
    flush p fun _ _ => true
  release p

end Finding

open Finding in
def find : Tool := fun tool args env => do
  let refuse (lines : List Chars) : Act Nat := do
    for l in lines do
      complain tool l
    return 1
  let fs ← Act.tree
  let now ← presentNanos
  let zone := zoneOf env
  match readFront args {} with
  | .error lines => refuse lines
  | .ok (settings, words) =>
    let starts := words.takeWhile fun w => !looksLikePart true w
    let words := words.drop starts.length
    match readParts ⟨fs, now, zone⟩ (words.length + 1) none { settings := settings } words with
    | .error lines => refuse lines
    | .ok r =>
      for line in r.warnings do
        complain tool line
      match queryOf r.parts.reverse with
      | .error lines => refuse lines
      | .ok query =>
        let deletes := query.deeds.any fun d => match d with
          | .delete => true
          | _ => false
        let prunes := query.deeds.any fun d => match d with
          | .prune => true
          | _ => false
        let asked := words.contains "-depth".toList || words.contains "-d".toList
        if deletes ∧ prunes ∧ !asked then
          refuse [("The -delete action automatically turns on -depth, but -prune does nothing when -depth is in " ++
            "effect.  If you want to carry on anyway, just explicitly use the -depth option.").toList]
        else
          let p : Plan := ⟨tool, env, query, r.settings, zone, now⟩
          let ((), s) ← (walkAll p (if starts.isEmpty then [['.']] else starts)).run {}
          return s.status

end TreePipeline.Tools
