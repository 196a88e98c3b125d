import TreePipeline.Host.Kernel
import TreePipeline.Shell.Evaluation
import TreePipeline.Tools.Batching
import TreePipeline.Tools.Comparing
import TreePipeline.Tools.Copying
import TreePipeline.Tools.Counting
import TreePipeline.Tools.Dates
import TreePipeline.Tools.Differing
import TreePipeline.Tools.Digests
import TreePipeline.Tools.Dump
import TreePipeline.Tools.Editor
import TreePipeline.Tools.Ends
import TreePipeline.Tools.Entries
import TreePipeline.Tools.Environment
import TreePipeline.Tools.Expression
import TreePipeline.Tools.Finding
import TreePipeline.Tools.Identity
import TreePipeline.Tools.Joining
import TreePipeline.Tools.Listing
import TreePipeline.Tools.Moving
import TreePipeline.Tools.Places
import TreePipeline.Tools.Processes
import TreePipeline.Tools.Records
import TreePipeline.Tools.Repeats
import TreePipeline.Tools.Search
import TreePipeline.Tools.Texts
import TreePipeline.Tools.Treegen
import TreePipeline.Tools.Translation
import TreePipeline.Tools.Waiting

/-!
How files become programs. A file that is marked as a binary holds the name of a small program, a
script names its interpreter in its first line, and any other file has no form that can be run.
-/

namespace TreePipeline.Host

open Shell Tools

namespace Loader

def tools : List (String × Tool) :=
  [("cat", cat), ("head", head), ("tail", tail), ("tr", tr), ("wc", wc), ("seq", seq),
    ("yes", yes), ("tee", tee), ("sort", sort), ("uniq", uniq), ("comm", comm), ("grep", grep),
    ("egrep", egrep), ("fgrep", fgrep), ("sed", sed), ("cut", cut), ("paste", paste),
    ("join", join), ("dd", dd), ("date", date), ("rm", rm), ("rmdir", rmdir), ("mkdir", mkdir),
    ("touch", touch), ("chmod", chmod), ("ln", ln), ("cp", cp), ("mv", mv), ("install", install),
    ("link", link), ("truncate", truncate), ("unlink", unlink), ("mkfifo", mkfifo),
    ("mknod", mknod), ("mktemp", mktemp), ("chown", chown), ("chgrp", chgrp), ("stat", stat),
    ("du", du), ("od", od), ("expr", expr), ("cmp", cmp), ("diff", diff), ("ls", ls),
    ("readlink", readlink), ("realpath", realpath), ("sleep", sleep), ("timeout", timeout),
    ("true", true_), ("false", false_), ("echo", echo), ("printf", printf), ("test", test),
    ("[", bracket), ("basename", basename), ("dirname", dirname), ("pwd", pwd),
    ("pathchk", pathchk), ("env", env), ("printenv", printenv), ("setsid", setsid),
    ("nohup", nohup), ("nice", nice), ("kill", kill), ("sync", sync), ("id", id_),
    ("groups", groups), ("whoami", whoami), ("logname", logname), ("users", users), ("tty", tty),
    ("uname", uname), ("arch", arch), ("hostname", hostname), ("nproc", nproc), ("which", which),
    ("md5sum", md5sum), ("sha1sum", sha1sum), ("sha224sum", sha224sum), ("sha256sum", sha256sum),
    ("sha384sum", sha384sum), ("sha512sum", sha512sum), ("b2sum", b2sum), ("sum", sum),
    ("cksum", cksum), ("xargs", xargs), ("find", find), ("awk", awk), ("mawk", awk), ("nawk", awk),
    ("treegen", treegen)]

def shells : List String := ["dash", "bash"]

def binaryMark : Octets :=
  0x7f :: Octets.ofAscii "ELF" ++ [2, 1, 1, 0, 0, 0, 0, 0, 0, 0, 0, 0, 3, 0, 0x3e, 0, 1, 0, 0, 0]

def binary (name : String) : Octets := binaryMark ++ Octets.ofAscii name

def imported (env : Env) : List (String × Chars) :=
  (env.map fun (k, v) => (Utf8.decodeLossy k, ofOctets v)).filter fun e =>
    Reader.isGoodName e.1.toList

def ownVars : List (String × Chars) :=
  [("IFS", Expansion.defaultSeparators), ("OPTIND", ['1']), ("PS1", ['#', ' ']),
    ("PS2", ['>', ' ']), ("PS4", ['+', ' ']),
    ("PATH", "/usr/local/sbin:/usr/local/bin:/usr/sbin:/usr/bin:/sbin:/bin".toList)]

def shellState (name : Chars) (args : List Chars) (env : Env) : Shell.State where
  vars :=
    let given := (imported env).filter fun e => e.1 ≠ "IFS" && e.1 ≠ "OPTIND"
    given.foldl (fun vars (name, value) => vars.put name value) ownVars
  exported := (imported env).map Prod.fst
  name := name
  args := args
  status := 0
  pid := 0
  lastBackground := none
  jobs := []
  functions := []
  aliases := []
  nextOption := (1, none)
  traps := []
  leaving := none
  substituted := 0
  line := 1
  stopOnError := false
  refuseUnset := false
  noGlob := false
  trace := false
  dry := false
  exportAll := false
  keepFiles := false
  guarded := 0
  locals := []
  loops := 0
  fixed := []
  directory := []
  context := []

inductive ScriptSource where
  | text
  | input
  | file
  deriving DecidableEq

def readShellOption (c : Char) (source : ScriptSource) (s : Shell.State) :
    Except Char (ScriptSource × Shell.State) :=
  if c = 'c' then .ok (.text, s)
  else if c = 's' then .ok (if source = .text then .text else .input, s)
  else
    match Builtin.setOption true c s with
    | some s => .ok (source, s)
    | none => .error c

def readShellOptions : List Chars → ScriptSource → Shell.State →
    Except Char (ScriptSource × Shell.State × List Chars)
  | ['-', '-'] :: r, source, s => .ok (source, s, r)
  | ('-' :: c :: cs) :: r, source, s => do
    let (source, s) ← (c :: cs).foldlM (fun (source, s) c => readShellOption c source s) (source, s)
    readShellOptions r source s
  | r, source, s => .ok (source, s, r)

def refuseToStart (name text : Chars) : Act Nat := do
  let _ ← Act.write 2 (toOctets (name ++ ": 0: ".toList ++ text ++ ['\n']))
  return 2

def shellOnInput (s : Shell.State) (path : Option Chars) : Program :=
  let body : Act Nat := do
    let opened ← match path with
      | none => pure (Except.ok 0)
      | some p => Act.openFile (toOctets p) .read
    match opened with
    | .error e =>
      refuseToStart s.name ("cannot open ".toList ++ path.getD [] ++ ": ".toList ++
        Evaluation.openFault e true)
    | .ok fd => do
      let text ← Act.readAll fd Tools.maxReads []
      if path.isSome then Act.close fd
      let content := match text with
        | .ok bs => ofOctets bs
        | .error _ => []
      fun _ => Evaluation.program { s with name := path.getD s.name } (content.filter (· ≠ '\x00'))
  body.run

def shell (args : List Chars) (env : Env) : Program :=
  let name := args.headD []
  match readShellOptions (args.drop 1) .file (shellState name [] env) with
  | .error c => (refuseToStart name (Builtin.illegalOption c)).run
  | .ok (.text, s, script :: more) =>
    Evaluation.program { s with name := more.headD name, args := more.drop 1 } script
  | .ok (.text, _, []) => (refuseToStart name "-c requires an argument".toList).run
  | .ok (.input, s, rest) => shellOnInput { s with args := rest } none
  | .ok (.file, s, []) => shellOnInput s none
  | .ok (.file, s, file :: more) => shellOnInput { s with args := more } (some file)

def ofBinary (name : String) (args : List Chars) (env : Env) : Option Program :=
  if shells.contains name then some (shell args env)
  else (tools.lookup name).map fun tool =>
    (tool (String.ofList (args.headD [])) (args.drop 1) env).run

def executable (fs : FileSystem) (path : Octets) : Except Errno (Location × Octets) :=
  match fs.locate false path with
  | .error (.os e) => .error e
  | .error _ => .error .invalidArgument
  | .ok l =>
    match fs.get? l with
    | some (.file content mode _) =>
      if mode &&& 0o111 = 0 then .error .accessDenied else .ok (l, content)
    | _ => .error .accessDenied

def isBlank (b : UInt8) : Bool := b = 0x20 || b = 0x09

def dropBlanksAfter (bs : Octets) : Octets := (bs.reverse.dropWhile isBlank).reverse

def headLength : Nat := 256

def interpreterLine? (content : Octets) : Option Octets :=
  match content with
  | 0x23 :: 0x21 :: r =>
    let r := r.take (headLength - 2)
    let text := r ++ List.replicate (headLength - 2 - r.length) 0
    let line := text.takeWhile fun b => b ≠ 10 && b ≠ 0
    if (text.drop line.length).head? = some 10 then some (dropBlanksAfter line)
    else if (text.dropWhile isBlank).any fun b => isBlank b || b = 0 then
      some (dropBlanksAfter text.dropLast)
    else none
  | _ => none

def interpreter? (content : Octets) : Option (Octets × Option Octets) := do
  let line := (← interpreterLine? content).dropWhile isBlank
  if line = [] then none
  else
    let path := line.takeWhile fun b => !isBlank b && b ≠ 0
    match line.drop path.length with
    | [] => some (path, none)
    | b :: r =>
      if b = 0 then some (path, none)
      else some (path, some ((r.dropWhile isBlank).takeWhile (· ≠ 0)))

def maxInterpreters : Nat := 6

def ofContent (fs : FileSystem) (env : Env) (name : Octets) :
    Nat → Location → (content path : Octets) → (args : List Octets) → Except Errno Loaded
  | 0, _, _, _, _ => .error .linkLoop
  | depth + 1, location, content, path, args =>
    if binaryMark.isPrefixOf content then
      let tool := Utf8.decodeLossy (content.drop binaryMark.length)
      match ofBinary tool (args.map ofOctets) env with
      | some p => .ok ⟨name, location, args, p⟩
      | none => .error .execFormat
    else
      match interpreter? content with
      | none => .error .execFormat
      | some ([], _) => .error .accessDenied
      | some (interpreter, argument) => do
        let (location, content) ← executable fs interpreter
        ofContent fs env name depth location content interpreter
          (interpreter :: argument.toList ++ path :: args.drop 1)

def maxArgument : Nat := 131072

def maxArguments : Nat := 2097152

def fits (path : Octets) (args : List Octets) (env : Env) : Bool :=
  let sizes := args.map (fun a => a.length + 1) ++ env.map fun (k, v) => k.length + v.length + 2
  sizes.all (· ≤ maxArgument) &&
    sizes.foldl (fun sum n => sum + n + 8) (path.length + 1) ≤ maxArguments

def load : Loader := fun fs path args env => do
  let (location, content) ← executable fs path
  if fits path args env then
    ofContent fs env (toOctets (baseName (ofOctets path))) maxInterpreters location content path args
  else .error .argumentsTooLong

def search (fs : FileSystem) (program : Octets) (args : List Octets) (env : Env) :
    Except Errno Loaded :=
  let run (path : Octets) : Except Errno Loaded :=
    match load fs path (program :: args) env with
    | .error e =>
      if e = .execFormat then
        let sh := Octets.ofAscii "/bin/sh"
        load fs sh (sh :: path :: args) env
      else .error e
    | r => r
  let rec along : List Octets → Errno → Except Errno Loaded
    | [], e => .error e
    | d :: r, e =>
      match run (Path.join d program) with
      | .ok p => .ok p
      | .error f =>
        if f = .accessDenied then along r f
        else if f = .noEntry ∨ f = .notDirectory then along r (if e = .accessDenied then e else f)
        else .error f
  if program = [] then .error .noEntry
  else if program.contains Path.slash then run program
  else
    let path := (env.lookup (Octets.ofAscii "PATH")).getD (Octets.ofAscii "/bin:/usr/bin")
    along (Octets.splitOn 0x3a path) .noEntry

end Loader

end TreePipeline.Host
