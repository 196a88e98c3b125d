import TreePipeline.Tools.Launching
import TreePipeline.Tools.Records.Printing
import TreePipeline.Tools.Records.Separation
import TreePipeline.Tools.Records.Table

/-!
A script at work: its variables, the record that it holds, what it reads from and where it prints to.
A record and its fields follow from each other: a new record is split when its fields are first
needed, and a changed field makes the record anew. Numbers that look as if they came about by chance are
each the sum of the one three places and the one thirty-one places before it, of which all but the lowest
digit is shown.
-/

namespace TreePipeline.Tools.Records

open Shell Host

structure Chance where
  numbers : Array UInt32
  oldest : Nat

namespace Chance

def next (c : Chance) : Nat × Chance :=
  let x := c.numbers.getD ((c.oldest + 28) % 31) 0 + c.numbers.getD c.oldest 0
  ((x >>> 1).toNat, ⟨c.numbers.setIfInBounds c.oldest x, (c.oldest + 1) % 31⟩)

def skip : Nat → Chance → Chance
  | 0, c => c
  | n + 1, c => skip n c.next.2

def ofSeed (seed : UInt32) : Chance :=
  let first : Int := if seed = 0 then 1 else seed.toInt32.toInt
  let step (x : Int) : Int :=
    let y := Int.tmod (16807 * x) 2147483647
    if y < 0 then y + 2147483647 else y
  let rec chain : Nat → Int → List Int
    | 0, _ => []
    | n + 1, x => x :: chain n (step x)
  let numbers := (chain 31 first).map fun x => (x % 4294967296).toNat.toUInt32
  skip 310 ⟨numbers.toArray, 3⟩

def greatest : Nat := 2147483647

end Chance

structure Setting where
  tool : String
  env : Env
  script : Script

inductive Slot where
  | one (v : Value)
  | table (n : Nat)

instance : Inhabited Slot := ⟨.one .unset⟩

structure Input where
  name : Chars
  process : Option Nat
  fd : Nat
  buffer : Chars := []
  ended : Bool := false

structure Output where
  name : Chars
  direction : Direction
  process : Option Nat
  fd : Nat
  waiting : List Octets := []
  size : Nat := 0

inductive Connection where
  | input (i : Input)
  | output (o : Output)

def Connection.name : Connection → Chars
  | input i => i.name
  | output o => o.name

structure World where
  shared : Array Slot
  own : Array Slot := #[]
  tables : Array Table
  record : Value := .given []
  fields : Option (Array Value) := some #[]
  main : Option Input := none
  argument : Nat := 1
  named : Bool := false
  exhausted : Bool := false
  connections : List Connection := []
  out : Output := ⟨"/dev/stdout".toList, .over, none, 1, [], 0⟩
  matchers : Std.HashMap Chars Matcher := {}
  ranges : Array Bool := #[]
  chance : Chance
  seed : Value
  status : Nat := 0

inductive Leave where
  | next
  | nextFile
  | exit

abbrev Work := ExceptT Leave (StateT World Act)

namespace Work

def act {α : Type} (a : Act α) : Work α := ExceptT.mk fun w => do
  let r ← a
  return (.ok r, w)

/-! Output. -/

def drain (s : Setting) (everything last : Bool) (o : Output) : Act Output := do
  let size := if everything then o.size else o.size - o.size % blockSize
  if size = 0 then return o
  else
    let data := o.waiting.reverse.flatten
    match ← Act.write o.fd (data.take size) with
    | .ok () => return { o with waiting := [data.drop size], size := o.size - size }
    | .error e =>
      if !last then complain s.tool ("write failure (".toList ++ faultText e ++ [')'])
      complain s.tool ("close failed on file \"".toList ++ o.name ++ "\" (".toList ++ faultText e ++ [')'])
      Act.exit 2

def flushOut (s : Setting) (last : Bool) : Work Unit := do
  let o ← act (drain s true last (← get).out)
  modify fun w => { w with out := o }

def flushConnection (s : Setting) (c : Connection) : Act Connection := do
  match c with
  | .output o => return .output (← drain s true false o)
  | c => return c

def flushAll (s : Setting) : Work Unit := do
  flushOut s false
  let cs ← act ((← get).connections.mapM (flushConnection s))
  modify fun w => { w with connections := cs }

def addTo (o : Output) (data : Octets) : Output :=
  { o with waiting := data :: o.waiting, size := o.size + data.length }

def statusOf (word : UInt32) : Int :=
  match WaitStatus.exitCode? word, WaitStatus.signal? word with
  | some n, _ => n
  | none, some n => n + 256
  | none, none => 0

def shut (s : Setting) (c : Connection) : Act Int := do
  match c with
  | .output o =>
    let _ ← drain s true true o
    if o.fd > 2 then Act.close o.fd
    match o.process with
    | some pid => return statusOf (← awaitEnd pid)
    | none => return 0
  | .input i =>
    if i.fd > 2 then Act.close i.fd
    match i.process with
    | some pid => return statusOf (← awaitEnd pid)
    | none => return 0

def finish {α : Type} (s : Setting) (status : Nat) : Work α := do
  for c in (← get).connections do
    match c with
    | .output o =>
      let _ ← act (shut s (.output o))
    | .input _ => pure ()
  flushOut s true
  act (Act.exit (status % 256))

def giveUp {α : Type} (s : Setting) (text : Chars) : Work α := do
  act (complain s.tool text)
  finish s 2

/-! Variables. -/

def slotAt (p : Place) : Work Slot := do
  match p with
  | .shared n => return (← get).shared.getD n default
  | .own n => return (← get).own.getD n default

def variable_ (p : Place) : Work Value := do
  match ← slotAt p with
  | .one v => return v
  | .table _ => return .unset

def setVariable (p : Place) (v : Value) : Work Unit :=
  match p with
  | .shared n => modify fun w => { w with shared := w.shared.setIfInBounds n (.one v) }
  | .own n => modify fun w => { w with own := w.own.setIfInBounds n (.one v) }

def tableAt (p : Place) : Work Nat := do
  match ← slotAt p with
  | .table n => return n
  | .one _ => return 0

def useTable {α : Type} (n : Nat) (f : Table → α × Table) : Work α :=
  modifyGet fun w =>
    let (a, t) := f (w.tables.getD n default)
    (a, { w with tables := w.tables.setIfInBounds n t })

def numberFormat : Work Chars := do return (← variable_ .conversionFormat).toText "%.6g".toList

def textOf (v : Value) : Work Chars := do
  match v with
  | .text cs => return cs
  | .given cs => return cs
  | .unset => return []
  | v => return v.toText (← numberFormat)

def keyOf (v : Value) : Work Key := do return Key.ofValue (← numberFormat) v

def stop {α : Type} (s : Setting) (text : Chars) : Work α := do
  let number (p : Place) : Work Chars := do return (← variable_ p).toText "%.6g".toList
  let place := "\n\tFILENAME=\"".toList ++ (← textOf (← variable_ .fileName)) ++ "\" FNR=".toList ++
    (← number .fileRecordNumber) ++ " NR=".toList ++ (← number .recordNumber)
  giveUp s ("run time error: ".toList ++ text ++ place)

/-! What is looked for. -/

def matcherOf (s : Setting) (source : Chars) : Work Matcher := do
  match (← get).matchers[source]? with
  | some m => return m
  | none =>
    match Sought.read source with
    | .error f => stop s (f.complaint source)
    | .ok m =>
      modify fun w => { w with matchers := w.matchers.insert source m }
      return m

def separatorOf (s : Setting) (source : Chars) : Work Separator := do
  match source with
  | [] => return .nothing
  | [' '] => return .blanks
  | [c] => return .single c
  | cs => return .sought (← matcherOf s cs)

def recordEndOf (s : Setting) (source : Chars) : Work RecordEnd := do
  match source with
  | [] => return .emptyLines
  | [c] => return .single c
  | cs => return .sought (← matcherOf s cs)

/-! The record and its fields. -/

def setRecord (v : Value) : Work Unit := modify fun w => { w with record := v, fields := none }

def fields (s : Setting) : Work (Array Value) := do
  match (← get).fields with
  | some fs => return fs
  | none =>
    let separator ← separatorOf s (← textOf (← variable_ .fieldSeparator))
    let fs := ((separator.split (← textOf (← get).record)).map Value.given).toArray
    modify fun w => { w with fields := some fs }
    setVariable .fieldCount (.ofNat fs.size)
    return fs

def field (s : Setting) (n : Nat) : Work Value := do
  if n = 0 then return (← get).record
  else return (← fields s).getD (n - 1) (.text [])

def maxFields : Nat := 1000000

def setFields (fs : Array Value) : Work Unit := do
  let separator ← textOf (← variable_ .outputSeparator)
  let texts ← fs.toList.mapM fun v => do
    match v with
    | .unset => return []
    | v => textOf v
  modify fun w => { w with fields := some fs, record := .text (separator.intercalate texts) }
  setVariable .fieldCount (.ofNat fs.size)

def resized (fs : Array Value) (n : Nat) : Array Value :=
  fs.take n ++ Array.replicate (n - fs.size) (Value.text [])

def setField (s : Setting) (n : Nat) (v : Value) : Work Unit := do
  if n = 0 then setRecord (match v with
    | .number x => .number x
    | v => v)
  else
    let fs ← fields s
    let fs := if fs.size < n then resized fs n else fs
    setFields (fs.setIfInBounds (n - 1) v)

def fieldNumber (s : Setting) (v : Value) : Work Nat := do
  let n := wholeOf v.toNumber
  if n < 0 then stop s ("negative field index $".toList ++ (toString n).toList)
  else if maxFields < n then stop s ("field index ".toList ++ (toString n).toList ++ " exceeds limit".toList)
  else return n.toNat

def assign (s : Setting) (p : Place) (v : Value) : Work Unit := do
  if p = .fieldCount then
    let fs ← fields s
    if wholeOf v.toNumber < 0 then stop s "negative value assigned to NF".toList
    let n ← fieldNumber s v
    setFields (resized fs n)
    setVariable p v
  else
    if p = .fieldSeparator then
      let _ ← fields s
    setVariable p v

/-! Input. -/

def readMore (s : Setting) (i : Input) : Work Input := do
  match ← act (Act.read i.fd blockSize) with
  | .ok [] => return { i with ended := true }
  | .ok bs => return { i with buffer := i.buffer ++ ofOctets bs }
  | .error e => giveUp s ("read error (".toList ++ faultText e ++ [')'])

def recordFrom (s : Setting) (e : RecordEnd) : Nat → Input → Work (Option Chars × Input)
  | 0, i => return (none, i)
  | fuel + 1, i => do
    match e.next i.ended i.buffer with
    | some (r, rest) => return (r, { i with buffer := rest })
    | none => recordFrom s e fuel (← readMore s i)

def recordEnd (s : Setting) : Work RecordEnd := do
  recordEndOf s (← textOf (← variable_ .recordSeparator))

def assignment? (cs : Chars) : Option (String × Value) :=
  let name := cs.takeWhile isNamePart
  match name, cs.drop name.length with
  | c :: _, '=' :: r =>
    if isNameStart c then some (String.ofList name, .given (unescaped (r.length + 1) r)) else none
  | _, _ => none

def assignNamed (s : Setting) (name : String) (v : Value) : Work Unit := do
  match s.script.names.findIdx? (· == name) with
  | some n =>
    match ← slotAt (.shared n) with
    | .one _ => assign s (.shared n) v
    | .table _ =>
      giveUp s ("cannot command line assign to ".toList ++ name.toList ++ "\n\ttype clash or keyword".toList)
  | none => pure ()

def openNext (s : Setting) : Nat → Work (Option Input)
  | 0 => return none
  | fuel + 1 => do
    let w ← get
    let count := wholeOf (← variable_ .argumentCount).toNumber
    if count ≤ w.argument then
      if w.named ∨ w.exhausted then return none
      else
        modify fun w => { w with named := true }
        setVariable .fileName (.given ['-'])
        return some ⟨['-'], none, 0, [], false⟩
    else
      modify fun w => { w with argument := w.argument + 1 }
      let table ← tableAt .arguments
      let key := Key.whole w.argument
      let v ← useTable table fun t => if t.isKey key then t.get key else (.unset, t)
      let name ← textOf v
      if name.isEmpty then openNext s fuel
      else
        match assignment? name with
        | some (x, v) =>
          assignNamed s x v
          openNext s fuel
        | none =>
          modify fun w => { w with named := true }
          setVariable .fileName (.given name)
          setVariable .fileRecordNumber (.number 0)
          if name = ['-'] then return some ⟨name, none, 0, [], false⟩
          else
            match ← act (Act.openFile (toOctets name) .read) with
            | .ok fd => return some ⟨name, none, fd, [], false⟩
            | .error e => giveUp s ("cannot open ".toList ++ name ++ " (".toList ++ faultText e ++ [')'])

def maxOpenings : Nat := 1000000

def nextMain (s : Setting) : Nat → Work (Option Chars)
  | 0 => return none
  | fuel + 1 => do
    match (← get).main with
    | none =>
      if (← get).exhausted then return none
      else
        match ← openNext s maxOpenings with
        | none =>
          modify fun w => { w with exhausted := true }
          return none
        | some i =>
          modify fun w => { w with main := some i }
          nextMain s fuel
    | some i =>
      let (r, i) ← recordFrom s (← recordEnd s) maxReads i
      match r with
      | some r =>
        modify fun w => { w with main := some i }
        return some r
      | none =>
        if i.fd > 2 then act (Act.close i.fd)
        modify fun w => { w with main := none }
        nextMain s fuel

def skipFile : Work Unit := do
  match (← get).main with
  | some i =>
    if i.fd > 2 then act (Act.close i.fd)
    modify fun w => { w with main := none }
  | none => pure ()

def countRecord : Work Unit := do
  let up (p : Place) : Work Unit := do setVariable p (.number ((← variable_ p).toNumber + 1))
  up .recordNumber
  up .fileRecordNumber

def findConnection (wanted : Connection → Bool) : Work (Option Connection) := do
  let cs := (← get).connections
  match cs.findIdx? wanted with
  | none => return none
  | some n =>
    let c := cs[n]?
    modify fun w => { w with connections := c.toList ++ cs.eraseIdx n }
    return c

def setFirst (c : Connection) : Work Unit :=
  modify fun w => { w with connections := c :: w.connections.drop 1 }

def commandShell (s : Setting) (command : Chars) : Act Nat := do
  let _ ← Act.execute shellPath [shellPath, Octets.ofAscii "-c", toOctets command] s.env
  return 127

def inputOf (s : Setting) (command : Bool) (name : Chars) : Work (Option Input) := do
  let found ← findConnection fun c => match c with
    | .input i => i.name = name && i.process.isSome == command
    | .output _ => false
  match found with
  | some (.input i) => return some i
  | _ =>
    let opened : Option Input ←
      if command then do
        flushAll s
        match ← act (startPiped false (commandShell s name)) with
        | some (fd, pid) => pure (some ⟨name, some pid, fd, [], false⟩)
        | none => pure none
      else if name = ['-'] ∨ name = "/dev/stdin".toList then pure (some ⟨name, none, 0, [], false⟩)
      else
        match ← act (Act.openFile (toOctets name) .read) with
        | .ok fd => pure (some ⟨name, none, fd, [], false⟩)
        | .error _ => pure none
    match opened with
    | some i =>
      modify fun w => { w with connections := .input i :: w.connections }
      return some i
    | none => return none

def readFrom (s : Setting) (command : Bool) (name : Chars) : Work (Option (Option Chars)) := do
  match ← inputOf s command name with
  | none => return none
  | some i =>
    let (r, i) ← recordFrom s (← recordEnd s) maxReads i
    setFirst (.input i)
    return some r

/-! Printing. -/

def printOut (s : Setting) (data : Octets) : Work Unit := do
  let o ← act (drain s false false (addTo (← get).out data))
  modify fun w => { w with out := o }

def outputOf (s : Setting) (d : Direction) (name : Chars) : Work Output := do
  let found ← findConnection fun c => match c with
    | .output o => o.name = name && (o.direction = .pipe) == (d = .pipe)
    | .input _ => false
  match found with
  | some (.output o) => return o
  | _ =>
    let o : Output ←
      if d = .pipe then do
        flushAll s
        match ← act (startPiped true (commandShell s name)) with
        | some (fd, pid) => pure ⟨name, d, some pid, fd, [], 0⟩
        | none => giveUp s ("cannot create pipe for ".toList ++ name)
      else
        match ← act (Act.openFile (toOctets name) (if d = .append then .append else .write)) with
        | .ok fd => pure ⟨name, d, none, fd, [], 0⟩
        | .error e =>
          giveUp s ("cannot open \"".toList ++ name ++ "\" for output (".toList ++ faultText e ++ [')'])
    modify fun w => { w with connections := .output o :: w.connections }
    return o

def printTo (s : Setting) (d : Direction) (name : Chars) (data : Octets) : Work Unit := do
  if d ≠ .pipe ∧ (name = ['-'] ∨ name = "/dev/stdout".toList) then printOut s data
  else if d ≠ .pipe ∧ name = "/dev/stderr".toList then
    let _ ← act (Act.write 2 data)
  else
    let o ← outputOf s d name
    let o ← act (drain s false false (addTo o data))
    setFirst (.output o)

def close (s : Setting) (name : Chars) : Work Int := do
  let (those, rest) := (← get).connections.partition fun c => c.name = name
  modify fun w => { w with connections := rest }
  those.foldlM (fun _ c => act (shut s c)) (-1)

def flushNamed (s : Setting) (name : Chars) : Work Int := do
  if name.isEmpty then
    flushAll s
    return 0
  else if name = "/dev/stdout".toList then
    flushOut s false
    return 0
  else
    match ← findConnection fun c => c.name = name with
    | some (.output o) =>
      let o ← act (drain s true false o)
      setFirst (.output o)
      return 0
    | _ => return -1

end Work

end TreePipeline.Tools.Records
