import TreePipeline.Tools.Basic

/-! Small programs that copy streams of text. -/

namespace TreePipeline.Tools

open Shell Host

def openCopied (tool : String) (p : Chars) : Act (Option Nat) := do
  match ← openInput p with
  | .error e => do
    complain tool (asWord p ++ ": ".toList ++ faultText e)
    return none
  | .ok fd =>
    match ← Act.call (.feeds 1 fd) with
    | .number 1 => do
      complain tool (asWord p ++ ": input file is output file".toList)
      if fd ≠ 0 then Act.close fd
      return none
    | _ => return some fd

def catEach (tool : String) : List Chars → (status : Nat) → Act Nat
  | [], status => return status
  | p :: r, status => do
    match ← openCopied tool p with
    | none => catEach tool r 1
    | some fd => do
      let result ← copyThrough tool fd maxReads
      if fd ≠ 0 then Act.close fd
      match result with
      | .ok () => catEach tool r status
      | .error e => do
        complain tool (asWord p ++ ": ".toList ++ faultText e)
        if p = ['-'] ∧ e = .os .badDescriptor then
          complain tool ("closing standard input: ".toList ++ faultText e)
        catEach tool r 1

structure CopyStyle where
  numbers : Bool
  filled : Bool
  squeezed : Bool
  ends : Bool
  tabs : Bool
  controls : Bool

def CopyStyle.ofOptions (os : Options) : CopyStyle :=
  let any (keys : List String) : Bool := keys.any os.has
  { numbers := any ["n", "b"], filled := os.has "b", squeezed := os.has "s"
    ends := any ["A", "e", "E"], tabs := any ["A", "t", "T"], controls := any ["A", "e", "t", "v"] }

def visible (b : UInt8) : Octets :=
  let low (b : UInt8) : Octets :=
    if b < 32 then [0x5e, b + 64] else if b = 127 then [0x5e, 0x3f] else [b]
  if b < 128 then low b else [0x4d, 0x2d] ++ low (b - 128)

def copyOctet (style : CopyStyle) (b : UInt8) : Octets :=
  if b = 9 then (if style.tabs then [0x5e, 0x49] else [b])
  else if style.controls then visible b
  else [b]

def copyLine (style : CopyStyle) (l : Octets) : Octets :=
  let body := l.takeWhile (· ≠ newline)
  let ended := body.length < l.length
  let return_ := style.ends && ended && body.getLast? = some 13
  let body := if return_ then body.dropLast.flatMap (copyOctet style) ++ [0x5e, 0x4d]
    else body.flatMap (copyOctet style)
  body ++ (if ended then (if style.ends then [0x24, newline] else [newline]) else [])

def dropRepeatedEmpty : List Octets → (empty : Bool) → List Octets
  | [], _ => []
  | l :: r, empty =>
    if l = [newline] then (if empty then dropRepeatedEmpty r true else l :: dropRepeatedEmpty r true)
    else l :: dropRepeatedEmpty r false

def styledLines (style : CopyStyle) : List Octets → (number : Nat) → Octets
  | [], _ => []
  | l :: r, n =>
    if style.numbers && !(style.filled && l = [newline]) then
      let digits := (toString n).toList
      toOctets (List.replicate (6 - digits.length) ' ' ++ digits ++ ['\t']) ++ copyLine style l ++
        styledLines style r (n + 1)
    else copyLine style l ++ styledLines style r n

def copiedContents (tool : String) : List Chars → Act (Octets × Nat)
  | [] => return ([], 0)
  | p :: r => do
    let here ← match ← openCopied tool p with
      | none => pure none
      | some fd => do
        let content ← Act.readAll fd maxReads []
        if fd ≠ 0 then Act.close fd
        match content with
        | .ok bs => pure (some bs)
        | .error e => do
          complain tool (asWord p ++ ": ".toList ++ faultText e)
          pure none
    let (rest, status) ← copiedContents tool r
    return (here.getD [] ++ rest, if here.isSome then status else 1)

def catStyled (tool : String) (style : CopyStyle) (paths : List Chars) : Act Nat := do
  let (content, status) ← copiedContents tool paths
  let lines := linesOf content
  put tool (styledLines style (if style.squeezed then dropRepeatedEmpty lines false else lines) 1)
  return status

def cat : Tool := fun tool args _ =>
  let table := "A,show-all b,number-nonblank e E,show-ends n,number s,squeeze-blank t T,show-tabs u " ++
    "v,show-nonprinting"
  withTable tool table args fun os paths => do
    -- Without an output it does not even begin.
    match ← Act.call (.duplicate 1 1) with
    | .failed e => do
      complain tool ("standard output: ".toList ++ faultText e)
      return 1
    | _ =>
      if os.any fun o => o.1 ≠ "u" then catStyled tool (CopyStyle.ofOptions os) (inputsOr paths)
      else catEach tool (inputsOr paths) 0

def repeatWrite (tool : String) (data : Octets) : Nat → Act Nat
  | 0 => return 0
  | fuel + 1 => do
    match ← Act.write 1 data with
    | .ok () => repeatWrite tool data fuel
    | .error e =>
      complain tool ("standard output: ".toList ++ faultText e)
      return 1

def yes : Tool := fun tool args _ =>
  withTable tool "" args fun _ words =>
    let line := if words.isEmpty then ['y'] else [' '].intercalate words
    repeatWrite tool
      (List.replicate (8192 / (line.length + 1) + 1) (toOctets (line ++ ['\n']))).flatten maxReads

def writeEach (tool : String) (data : Octets) : List (Chars × Nat) → Act (List (Chars × Nat) × Bool)
  | [] => return ([], true)
  | (name, fd) :: r => do
    match ← Act.write fd data with
    | .ok () =>
      let (kept, fine) ← writeEach tool data r
      return ((name, fd) :: kept, fine)
    | .error e =>
      complain tool (asWord name ++ ": ".toList ++ faultText e)
      let (kept, _) ← writeEach tool data r
      return (kept, false)

def teeInto (tool : String) : Nat → List (Chars × Nat) → (status : Nat) → Act Nat
  | 0, _, status => return status
  | fuel + 1, goals, status => do
    if goals.isEmpty then return status
    match ← Act.read 0 Act.readSize with
    | .ok [] => return status
    | .error e =>
      complain tool ("read error: ".toList ++ faultText e)
      return 1
    | .ok bs => do
      let (goals, fine) ← writeEach tool bs goals
      teeInto tool fuel goals (if fine then status else 1)

def openAll (tool : String) (mode : OpenMode) : List Chars → Act (List (Chars × Nat) × Nat)
  | [] => return ([], 0)
  | p :: r => do
    let here ← Act.openFile (toOctets p) mode
    match here with
    | .ok fd =>
      let (fds, status) ← openAll tool mode r
      return ((p, fd) :: fds, status)
    | .error e => do
      complain tool (asWord p ++ ": ".toList ++ faultText e)
      let (fds, _) ← openAll tool mode r
      return (fds, 1)

def tee : Tool := fun tool args _ =>
  withTable tool "a,append i,ignore-interrupts p output-error=?" args fun os paths => do
    if os.has "i" then
      let _ ← Act.call (.dispose 2 .ignored)
    if os.has "p" ∨ os.has "output-error" then
      let _ ← Act.call (.dispose Signal.pipe .ignored)
    let (fds, status) ← openAll tool (if os.has "a" then .append else .write) paths
    teeInto tool maxReads (("standard output".toList, 1) :: fds) status

end TreePipeline.Tools
