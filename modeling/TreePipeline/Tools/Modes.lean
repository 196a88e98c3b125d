import TreePipeline.Tools.Basic

/-!
Permissions in words: octal numbers, clauses such as `u+x`, and the letters in which they are shown;
and the small programs that change them.
-/

namespace TreePipeline.Tools

open Shell Host

namespace Mode

def all : Nat := 0o7777

def identity : Nat := 0o6000

def without (a b : Nat) : Nat := a - (a &&& b)

inductive Effect where
  | give
  | take
  | fix
  deriving DecidableEq

inductive Origin where
  | named
  | namedOrRunning
  | copied
  deriving DecidableEq

structure Change where
  effect : Effect
  origin : Origin
  affected : Nat
  value : Nat
  mentioned : Nat
  deriving DecidableEq

def Effect.ofChar? (c : Char) : Option Effect :=
  match c with
  | '+' => some .give
  | '-' => some .take
  | '=' => some .fix
  | _ => none

def isOctal (c : Char) : Bool := '0' ≤ c && c ≤ '7'

def ofOctal (ds : Chars) : Nat := ds.foldl (fun v c => 8 * v + (c.toNat - 48)) 0

def classBits (c : Char) : Nat :=
  match c with
  | 'u' => 0o4700
  | 'g' => 0o2070
  | 'o' => 0o1007
  | _ => all

def letterBits (c : Char) : Nat :=
  match c with
  | 'r' => 0o444
  | 'w' => 0o222
  | 'x' => 0o111
  | 's' => identity
  | 't' => 0o1000
  | _ => 0

def readOperations (affected : Nat) : Nat → Chars → Option (List Change × Chars)
  | 0, _ => none
  | fuel + 1, cs =>
    match cs with
    | [] => some ([], [])
    | c :: r =>
      match Effect.ofChar? c with
      | none => some ([], c :: r)
      | some effect =>
        let ds := r.takeWhile isOctal
        let change? : Option (Change × Chars) :=
          if !ds.isEmpty then
            let rest := r.drop ds.length
            let ended := rest.isEmpty || rest.head? = some ','
            if all < ofOctal ds ∨ affected ≠ 0 ∨ !ended then none
            else some (⟨effect, .named, all, ofOctal ds, all⟩, rest)
          else
            let named : Change × Chars :=
              let letters := r.takeWhile "rwxXst".toList.contains
              let value := letters.foldl (fun v c => v ||| letterBits c) 0
              let origin := if letters.contains 'X' then Origin.namedOrRunning else .named
              let mentioned := if affected = 0 then value else affected &&& value
              (⟨effect, origin, affected, value, mentioned⟩, r.drop letters.length)
            match r with
            | k :: rest =>
              if k = 'u' ∨ k = 'g' ∨ k = 'o' then
                let value := classBits k &&& 0o777
                let mentioned := if affected = 0 then value else affected &&& value
                some (⟨effect, .copied, affected, value, mentioned⟩, rest)
              else some named
            | [] => some named
        match change? with
        | none => none
        | some (change, rest) =>
          (readOperations affected fuel rest).map fun (cs, rest) => (change :: cs, rest)

def readClauses : Nat → Chars → Option (List Change)
  | 0, _ => none
  | fuel + 1, cs =>
    let who := cs.takeWhile "ugoa".toList.contains
    let affected := who.foldl (fun v c => v ||| classBits c) 0
    match readOperations affected (cs.length + 1) (cs.drop who.length) with
    | none => none
    | some ([], _) => none
    | some (changes, []) => some changes
    | some (changes, ',' :: rest) => (readClauses fuel rest).map (changes ++ ·)
    | some _ => none

def read? (cs : Chars) : Option (List Change) :=
  if cs.head?.any isOctal then
    if !cs.all isOctal ∨ all < ofOctal cs then none
    else
      let value := ofOctal cs
      let mentioned := if cs.length < 5 then (value &&& 0o7000) ||| 0o777 else all
      some [⟨.fix, .named, all, value, mentioned⟩]
  else readClauses (cs.length + 1) cs

def Change.apply (directory : Bool) (mask : Nat) (old : Nat) (h : Change) : Nat :=
  let kept := if directory then without identity h.mentioned else 0
  let value := match h.origin with
    | .named => h.value
    | .namedOrRunning => if directory ∨ old &&& 0o111 ≠ 0 then h.value ||| 0o111 else h.value
    | .copied =>
      let v := h.value &&& old
      v ||| (if v &&& 0o444 ≠ 0 then 0o444 else 0) ||| (if v &&& 0o222 ≠ 0 then 0o222 else 0) |||
        (if v &&& 0o111 ≠ 0 then 0o111 else 0)
  let value := without (if h.affected = 0 then without value mask else value &&& h.affected) kept
  match h.effect with
  | .give => old ||| value
  | .take => without old value
  | .fix =>
    let preserved := (if h.affected = 0 then 0 else without all h.affected) ||| kept
    (old &&& preserved) ||| value

def adjust (directory : Bool) (mask : Nat) (changes : List Change) (old : Nat) : Nat :=
  changes.foldl (Change.apply directory mask) old

def text (mode : Nat) : Chars :=
  let class_ (bits : Nat) (special : Bool) (mark : Char) : Chars :=
    [if bits &&& 4 = 0 then '-' else 'r', if bits &&& 2 = 0 then '-' else 'w',
      if special then (if bits &&& 1 = 0 then mark.toUpper else mark)
      else if bits &&& 1 = 0 then '-' else 'x']
  class_ (mode / 64 % 8) (mode &&& 0o4000 ≠ 0) 's' ++ class_ (mode / 8 % 8) (mode &&& 0o2000 ≠ 0) 's' ++
    class_ (mode % 8) (mode &&& 0o1000 ≠ 0) 't'

def octalText (mode : Nat) : Chars :=
  let ds := Nat.toDigits 8 mode
  List.replicate (4 - ds.length) '0' ++ ds

def shown (mode : Nat) : Chars := octalText mode ++ " (".toList ++ text mode ++ [')']

end Mode

def ownMask : Act Nat := do
  match ← Act.call (.mask none) with
  | .number n => return n.toNat
  | _ => return 0

inductive Loudness where
  | quiet
  | changes
  | everything
  deriving DecidableEq

def entriesFrom (fs : FileSystem) (l : Location) (path : Octets) :
    Nat → List (Location × Octets)
  | 0 => []
  | fuel + 1 =>
    match fs.get? l with
    | some (.link _) => []
    | some .directory =>
      (l, path) :: (fs.childNames l).flatMap fun n =>
        entriesFrom fs (l ++ [n]) (Path.join path n) fuel
    | some _ => [(l, path)]
    | none => []

def maxDepth : Nat := 2048

namespace Mode

def changeEach (tool : String) (loud : Loudness) (surprising : Bool) (changes : List Change) :
    List (Location × Octets) → (status : Nat) → Act Nat
  | [], status => return status
  | (l, path) :: r, status => do
    let mask ← ownMask
    let fs ← Act.tree
    let directory := fs.get? l = some .directory
    let old := fs.modeAt l
    let new := adjust directory mask changes old
    let _ ← Act.files fun fs => .ok (fs.setModeAt l new)
    let name := inQuotes (ofOctets path)
    if loud = .everything ∨ (loud = .changes ∧ old ≠ new) then
      say tool ("mode of ".toList ++ name ++
        (if old = new then " retained as ".toList ++ shown old
          else " changed from ".toList ++ shown old ++ " to ".toList ++ shown new) ++ ['\n'])
    let naive := adjust directory 0 changes old
    if surprising ∧ without new naive ≠ 0 then
      complain tool (asWord (ofOctets path) ++ ": new permissions are ".toList ++ text new ++
        ", not ".toList ++ text naive)
      changeEach tool loud surprising changes r 1
    else changeEach tool loud surprising changes r status

def changePaths (tool : String) (loud : Loudness) (silent recursive surprising : Bool)
    (changes : List Change) : List Chars → (status : Nat) → Act Nat
  | [], status => return status
  | p :: r, status => do
    let fs ← Act.tree
    match fs.locate false (toOctets p) with
    | .error e =>
      if !silent then
        if (fs.lstat (toOctets p)).toBool ∧ e.isNotFound then
          complain tool ("cannot operate on dangling symlink ".toList ++ inQuotes p)
        else complainOf tool "cannot access " p e
      if loud = .everything then
        say tool ("failed to change mode of ".toList ++ inQuotes p ++ " from 0000 (---------) to 0000 (---------)\n".toList)
      changePaths tool loud silent recursive surprising changes r 1
    | .ok l =>
      let goals := if recursive then entriesFrom fs l (toOctets p) maxDepth
        else [(l, toOctets p)]
      let status ← changeEach tool loud surprising changes goals status
      changePaths tool loud silent recursive surprising changes r status

def splitModes : (open_ : Bool) → List Chars → List Chars × List Chars
  | _, [] => ([], [])
  | true, ['-', '-'] :: r => ([], ['-', '-'] :: r)
  | true, ('-' :: c :: cs) :: r =>
    let (modes, others) := splitModes true r
    if "rwxXstugoa,+=01234567".toList.contains c then (('-' :: c :: cs) :: modes, others)
    else (modes, ('-' :: c :: cs) :: others)
  | open_, a :: r =>
    let (modes, others) := splitModes open_ r
    (modes, a :: others)

end Mode

open Mode in
def chmod : Tool := fun tool args _ => do
  let (modes, others) := splitModes true args
  let table := "c,changes f,silent,quiet v,verbose R,recursive reference= preserve-root no-preserve-root"
  withTable tool table others fun os operands => do
    let loud : Loudness := match os.last? ["c", "v"] with
      | some "c" => .changes
      | some _ => .everything
      | none => .quiet
    let go (surprising : Bool) (changes : List Change) (paths : List Chars) : Act Nat :=
      changePaths tool loud (os.has "f") (os.has "R") surprising changes paths 0
    match os.value? "reference" with
    | some p =>
      let fs ← Act.tree
      match fs.locate false (toOctets p) with
      | .error e =>
        complainOf tool "failed to get attributes of " p e
        return 1
      | .ok l =>
        if operands.isEmpty then misuse tool "missing operand".toList
        else go false [⟨.fix, .named, all, fs.modeAt l, all⟩] operands
    | none =>
      let spec := [','].intercalate modes
      let (spec, paths) := if modes.isEmpty then (operands.headD [], operands.drop 1) else (spec, operands)
      if modes.isEmpty ∧ operands.isEmpty then misuse tool "missing operand".toList
      else if paths.isEmpty then
        misuse tool (if modes.isEmpty then "missing operand after ".toList ++ inQuotes spec
          else "missing operand".toList)
      else
        match read? spec with
        | none => misuse tool ("invalid mode: ".toList ++ inQuotes spec)
        | some changes => go (!modes.isEmpty) changes paths

end TreePipeline.Tools
