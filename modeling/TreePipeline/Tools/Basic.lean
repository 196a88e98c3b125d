import TreePipeline.Host.Program
import TreePipeline.Tools.Options
import TreePipeline.Tools.Quoting

/-! What the small programs of the machine share: complaints, options and reading of their input. -/

namespace TreePipeline.Tools

open Shell Host

abbrev Tool := (tool : String) → (args : List Chars) → Env → Act Nat

def complain (tool : String) (text : Chars) : Act Unit := do
  let _ ← Act.write 2 (toOctets (tool.toList ++ ": ".toList ++ text ++ ['\n']))

def pointToHelp (status : Nat) (tool : String) : Act Nat := do
  let _ ← Act.write 2
    (toOctets ("Try '".toList ++ tool.toList ++ " --help' for more information.\n".toList))
  return status

def misuseWith (status : Nat) (tool : String) (text : Chars) : Act Nat := do
  complain tool text
  pointToHelp status tool

def misuse : (tool : String) → (text : Chars) → Act Nat := misuseWith 1

def faultText (e : SystemError) : Chars :=
  match e with
  | .os n => n.description.toList
  | e => e.message.toList

def blockSize : Nat := 4096

def putBlocks (tool : String) : (blocks : Nat) → Octets → Act Unit
  | 0, _ => return ()
  | n + 1, data => do
    match ← Act.write 1 (data.take blockSize) with
    | .ok () => putBlocks tool n (data.drop blockSize)
    | .error e =>
      complain tool ("write error: ".toList ++ faultText e)
      Act.exit 1

def put (tool : String) (data : Octets) : Act Unit :=
  putBlocks tool (data.length / blockSize + 1) data

def say (tool : String) (cs : Chars) : Act Unit := put tool (toOctets cs)

def complainOf (tool : String) (verb : String) (path : Chars) (e : SystemError) : Act Unit :=
  complain tool (verb.toList ++ inQuotes path ++ ": ".toList ++ faultText e)

def maxReads : Nat := 1000000

def withTableElse (status : Nat) (mixed : Bool) (tool table : String) (args : List Chars)
    (body : Options → List Chars → Act Nat) : Act Nat :=
  match Options.ofArgs table mixed args with
  | .error e => misuseWith status tool e
  | .ok (os, as) => body os as

def withTable : (tool table : String) → (args : List Chars) →
    (body : Options → List Chars → Act Nat) → Act Nat := withTableElse 1 true

def number? (cs : Chars) : Option Nat :=
  if cs.isEmpty || !cs.all Char.isDigit then none else (String.ofList cs).toNat?

def openInput (path : Chars) : Act (Except SystemError Nat) :=
  if path = ['-'] then return .ok 0 else Act.openFile (toOctets path) .read

def copyThrough (tool : String) (fd : Nat) : Nat → Act (Except SystemError Unit)
  | 0 => return .ok ()
  | fuel + 1 => do
    match ← Act.read fd Act.readSize with
    | .error e => return .error e
    | .ok [] => return .ok ()
    | .ok bs =>
      put tool bs
      copyThrough tool fd fuel

def contentOf (tool : String) (path : Chars) : Act (Option Octets) := do
  match ← openInput path with
  | .error e => do
    complain tool (asWord path ++ ": ".toList ++ faultText e)
    return none
  | .ok fd => do
    let r ← Act.readAll fd maxReads []
    if fd ≠ 0 then Act.close fd
    match r with
    | .ok bs => return some bs
    | .error e => do
      complain tool (asWord path ++ ": ".toList ++ faultText e)
      return none

def inputsOr (paths : List Chars) : List Chars := if paths.isEmpty then [['-']] else paths

def newline : UInt8 := 10

def linesOf : Octets → List Octets
  | [] => []
  | b :: r =>
    if b = newline then [b] :: linesOf r
    else match linesOf r with
      | [] => [[b]]
      | l :: ls => (b :: l) :: ls

def baseName (path : Chars) : Chars :=
  let front := (path.reverse.dropWhile (· = '/')).reverse
  if front.isEmpty then (if path.isEmpty then [] else ['/'])
  else (front.reverse.takeWhile (· ≠ '/')).reverse

def directoryName (path : Chars) : Chars :=
  let front := (path.reverse.dropWhile (· = '/')).reverse
  if front.isEmpty then (if path.isEmpty then ['.'] else ['/'])
  else
    let up := (front.reverse.dropWhile (· ≠ '/')).reverse
    let up' := (up.reverse.dropWhile (· = '/')).reverse
    if up.isEmpty then ['.'] else if up'.isEmpty then ['/'] else up'

def executeNamed (args : List Chars) (env : Env) : Act Errno := do
  let name := toOctets (args.headD [])
  let words := args.map toOctets
  let run (path : Octets) : Act Errno := do
    let e ← Act.execute path words env
    if e = Errno.execFormat then
      Act.execute (Octets.ofAscii "/bin/sh") (Octets.ofAscii "/bin/sh" :: path :: words.drop 1) env
    else return e
  let rec along : List Octets → Errno → Act Errno
    | [], e => return e
    | d :: r, e => do
      let f ← run (Path.join d name)
      along r (if f = Errno.noEntry ∨ f = Errno.notDirectory then e else f)
  if name = [] then return .noEntry
  else if name.contains Path.slash then run name
  else
    let path := (env.lookup (Octets.ofAscii "PATH")).getD (Octets.ofAscii "/bin:/usr/bin")
    along (Octets.splitOn 0x3a path) .noEntry

def becomeNamed (tool : String) (complaint : Chars → Chars) (args : List Chars) (env : Env) :
    Act Nat := do
  let e ← executeNamed args env
  complain tool (complaint (args.headD []) ++ ": ".toList ++ e.description.toList)
  return if e = Errno.noEntry then 127 else 126

end TreePipeline.Tools
