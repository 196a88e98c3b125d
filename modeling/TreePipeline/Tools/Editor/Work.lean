import TreePipeline.Tools.Editor.Substitution
import TreePipeline.Tools.Launching

/-!
The stream editor at work: the line that it holds, the lines that come after it, and where it writes.
A last line without an end gets one as soon as something is written after it.
-/

namespace TreePipeline.Tools.Editor

open Shell Host

structure Line where
  text : Chars
  ended : Bool

inductive Later where
  | text (cs : Chars)
  | file (path : Chars)

inductive RangeState where
  | outside
  | inside (stop : Nat)
  | over
  deriving DecidableEq

structure Sink where
  waiting : List Octets := []
  size : Nat := 0
  open_ : Bool := false

structure Setting where
  tool : String
  quiet : Bool
  separate : Bool
  inPlace : Option Chars
  follow : Bool
  ending : Char
  width : Nat
  env : Env

structure Work where
  pattern : Line := ⟨[], true⟩
  hold : Line := ⟨[], true⟩
  number : Nat := 0
  replaced : Bool := false
  later : List Later := []
  ranges : Array RangeState := #[]
  latest : Option Matcher := none
  files : List Chars := []
  name : Chars := ['-']
  input : Option Nat := none
  lines : List Line := []
  held : Octets := []
  status : Nat := 0
  out : Sink := {}
  target : Option (Chars × Sink) := none
  others : List (Chars × Nat × Bool) := []
  sources : List (Chars × List Chars) := []

abbrev Edit := StateT Work Act

namespace Edit

def act {α : Type} (a : Act α) : Edit α := fun w => do
  let r ← a
  return (r, w)

def flush (s : Setting) : Edit Unit := do
  let w ← get
  act (put s.tool w.out.waiting.reverse.flatten)
  modify fun w => { w with out := { w.out with waiting := [], size := 0 } }

def giveUp {α : Type} (s : Setting) (text : Chars) (status : Nat) : Edit α := do
  act (complain s.tool text)
  flush s
  act (Act.exit status)

def Sink.add (k : Sink) (text : Chars) (ended : Bool) (ending : Char) : Sink :=
  let front := if k.open_ then [ending] else []
  let data := toOctets (front ++ text ++ if ended then [ending] else [])
  { waiting := data :: k.waiting, size := k.size + data.length, open_ := !ended }

def writeOut (s : Setting) (text : Chars) (ended : Bool) (ending : Char) : Edit Unit := do
  modify fun w => { w with out := Sink.add w.out text ended ending }
  if blockSize ≤ (← get).out.size then flush s

def emitWith (s : Setting) (text : Chars) (ended : Bool) (ending : Char) : Edit Unit := do
  match (← get).target with
  | some (path, k) => modify fun w => { w with target := some (path, Sink.add k text ended ending) }
  | none => writeOut s text ended ending

def emit (s : Setting) (l : Line) : Edit Unit := emitWith s l.text l.ended s.ending

def emitText (s : Setting) (text : Chars) : Edit Unit :=
  if text.isEmpty then pure ()
  else if text.getLast? = some '\n' then emitWith s text.dropLast true '\n'
  else emitWith s text true '\n'

def emitRaw (s : Setting) (data : Octets) : Edit Unit := do
  if data.isEmpty then return ()
  let add (k : Sink) : Sink :=
    let front := if k.open_ then toOctets [s.ending] else []
    { waiting := data :: front :: k.waiting, size := k.size + data.length + front.length,
      open_ := false }
  match (← get).target with
  | some (path, k) => modify fun w => { w with target := some (path, add k) }
  | none =>
    modify fun w => { w with out := add w.out }
    if blockSize ≤ (← get).out.size then flush s

def emitTo (s : Setting) (path : Chars) (l : Line) : Edit Unit := do
  if path = "/dev/stdout".toList then writeOut s l.text l.ended s.ending
  else
    match (← get).others.lookup path with
    | none => return ()
    | some (fd, missing) =>
      let data := (if missing then [s.ending] else []) ++ l.text ++ if l.ended then [s.ending] else []
      let _ ← act (Act.write fd (toOctets data))
      modify fun w => { w with others := (path, fd, !l.ended) :: w.others.filter fun e => e.1 ≠ path }

def linesIn (s : Setting) (data : Octets) : List Line × Octets :=
  match (Octets.splitOn s.ending.toNat.toUInt8 data).reverse with
  | [] => ([], [])
  | last :: r => (r.reverse.map fun l => ⟨ofOctets l, true⟩, last)

def fill (s : Setting) : Nat → Edit Unit
  | 0 => return ()
  | fuel + 1 => do
    let w ← get
    match w.lines, w.input with
    | [], some fd =>
      match ← act (Act.read fd 4096) with
      | .error e =>
        giveUp s ("read error on ".toList ++ (if w.name = ['-'] then "stdin".toList else w.name) ++
          ": ".toList ++ faultText e) 4
      | .ok [] =>
        if fd ≠ 0 then act (Act.close fd)
        modify fun w => { w with
          input := none, held := [],
          lines := if w.held.isEmpty then [] else [⟨ofOctets w.held, false⟩] }
      | .ok data =>
        let (ls, rest) := linesIn s (w.held ++ data)
        modify fun w => { w with lines := ls, held := rest }
        fill s fuel
    | _, _ => return ()

def haveData (paths : List Chars) : Edit Bool :=
  act (Act.ask fun fs => paths.any fun p =>
    p = ['-'] || match fs.stat (toOctets p) with
      | .ok (.file content _ _) => !content.isEmpty
      | .ok (.device (.pipe _)) => true
      | _ => false)

def isLast (s : Setting) : Edit Bool := do
  fill s maxReads
  let w ← get
  if !w.lines.isEmpty then return false
  if s.separate then return true
  return !(← haveData w.files)

def backupName (mark path : Chars) : Chars :=
  let name := baseName path
  let front := path.take (path.length - name.length)
  let new := if mark.contains '*' then mark.flatMap fun c => if c = '*' then name else [c]
    else name ++ mark
  if new.contains '/' then new else front ++ new

def finishTarget (s : Setting) : Edit Unit := do
  match (← get).target, s.inPlace with
  | some (path, k), some mark =>
    let content := k.waiting.reverse.flatten
    let replace (fs : FileSystem) : Except SystemError FileSystem := do
      let place ←
        if s.follow then pure (FileSystem.pathOf (← fs.locate false (toOctets path)))
        else pure (toOctets path)
      let old ← fs.locate false place
      let mode := fs.modeAt old
      let fs ←
        if mark.isEmpty then fs.removeFile place
        else fs.rename place (toOctets (backupName mark (ofOctets place)))
      let fs ← fs.createNew place
      let l ← fs.locate true place
      return (fs.store l content).setModeAt l mode
    let _ ← act (Act.files replace)
    modify fun w => { w with target := none }
  | _, _ => return ()

def openNext (s : Setting) : Nat → Edit Bool
  | 0 => return false
  | fuel + 1 => do
    finishTarget s
    match (← get).files with
    | [] => return false
    | p :: r =>
      modify fun w => { w with files := r }
      let refuse (e : SystemError) : Edit Bool := do
        act (complain s.tool ("can't read ".toList ++ p ++ ": ".toList ++ faultText e))
        modify fun w => { w with status := 2 }
        openNext s fuel
      let isFile ← act (Act.ask fun fs => fs.isFile (toOctets p))
      let isThere ← act (Act.ask fun fs => fs.pathExists (toOctets p))
      if s.inPlace.isSome ∧ isThere ∧ !isFile then
        giveUp s ("couldn't edit ".toList ++ p ++ ": not a regular file".toList) 4
      match ← act (openInput p) with
      | .error e => refuse e
      | .ok fd =>
        modify fun w => { w with
          name := p, input := some fd
          number := if s.separate then 0 else w.number
          target := if s.inPlace.isSome ∧ p ≠ ['-'] then some (p, {}) else none }
        return true

def nextLine (s : Setting) : Nat → Edit (Option Line)
  | 0 => return none
  | fuel + 1 => do
    fill s maxReads
    match (← get).lines with
    | l :: r =>
      modify fun w => { w with lines := r, number := w.number + 1, replaced := false }
      return some l
    | [] => if ← openNext s ((← get).files.length + 1) then nextLine s fuel else return none

def writeLater (s : Setting) : Edit Unit := do
  let later := (← get).later
  modify fun w => { w with later := [] }
  for l in later do
    match l with
    | .text cs => emitText s cs
    | .file path =>
      let opened ← if path = "/dev/stdin".toList then pure (Except.ok 0)
        else act (Act.openFile (toOctets path) .read)
      match opened with
      | .error _ => pure ()
      | .ok fd =>
        let content ← act (Act.readAll fd maxReads [])
        if fd ≠ 0 then act (Act.close fd)
        emitRaw s (content.toOption.getD [])

def putOff (l : Later) : Edit Unit := modify fun w => { w with later := w.later ++ [l] }

def matcherOf (s : Setting) (m : Sought) : Edit Matcher := do
  match m.or (← get).latest with
  | some m =>
    modify fun w => { w with latest := some m }
    return m
  | none => giveUp s "-e expression #1, char 0: no previous regular expression".toList 1

def hits (s : Setting) (m : Sought) : Edit Bool := do
  let m ← matcherOf s m
  return m.isIn (← get).pattern.text

def addressHits (s : Setting) : Address → Edit Bool
  | .line n => return (← get).number = n
  | .every first step => do
    let n := (← get).number
    return first ≤ n && (n - first) % step = 0
  | .last => isLast s
  | .matching m => hits s m

def rangeAt (i : Nat) : Edit RangeState := return (← get).ranges.getD i .outside

def setRange (i : Nat) (r : RangeState) : Edit Unit :=
  modify fun w => { w with ranges := w.ranges.setIfInBounds i r }

def begins (s : Setting) (i : Nat) (first : Address) (finish : RangeEnd) : Edit Bool := do
  if !(← addressHits s first) then return false
  let n := (← get).number
  let byNumber : Bool := match first with
    | .line _ => true
    | _ => false
  let stop : Option Nat := match finish with
    | .line m => some m
    | .after k => some (n + k)
    | .multiple k => some (if k = 0 then n else (n / k + 1) * k)
    | _ => none
  match stop with
  | some m =>
    if m ≤ n then setRange i (if byNumber then .over else .outside) else setRange i (.inside m)
  | none => setRange i (.inside 0)
  return true

def inRange (s : Setting) (i : Nat) (first : Address) (finish : RangeEnd) : Edit Bool := do
  let closed : RangeState := match first with
    | .line _ => .over
    | _ => .outside
  match ← rangeAt i with
  | .over => return false
  | .outside => begins s i first finish
  | .inside stop =>
    let n := (← get).number
    match finish with
    | .matching m =>
      if ← hits s m then setRange i closed
      return true
    | .last =>
      if ← isLast s then setRange i closed
      return true
    | _ =>
      if stop ≤ n then setRange i closed
      if n ≤ stop then return true
      if closed = .over then return false else begins s i first finish

def chooses (s : Setting) (i : Nat) (c : Command) : Edit Bool := do
  let chosen ← match c.first, c.last with
    | none, _ => pure true
    | some a, none => addressHits s a
    | some a, some e => inRange s i a e
  return chosen != c.negated

end Edit

end TreePipeline.Tools.Editor
