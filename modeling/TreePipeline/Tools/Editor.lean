import TreePipeline.Tools.Editor.Reader
import TreePipeline.Tools.Editor.Work

/-! The stream editor: it carries out the commands of a script for one line after the other. -/

namespace TreePipeline.Tools

open Shell Host

namespace Editor

open TreePipeline.Tools.Editor.Edit

inductive Flow where
  | finished
  | again
  | dropped
  | ended (status : Nat)

def freshRanges (sc : Script) : Array RangeState :=
  sc.commands.map fun c =>
    match c.first with
    | some (.line 0) => .inside 0
    | _ => .outside

def readNext (s : Setting) (sc : Script) : Edit Bool := do
  writeLater s
  let before := (← get).number
  match ← nextLine s ((← get).files.length + 2) with
  | none => return false
  | some l =>
    modify fun w => { w with pattern := l }
    if s.separate ∧ (← get).number ≤ before then
      modify fun w => { w with ranges := freshRanges sc }
    return true

def readMore (s : Setting) : Edit Bool := do
  writeLater s
  match ← nextLine s ((← get).files.length + 2) with
  | none => return false
  | some l =>
    modify fun w => { w with pattern := ⟨w.pattern.text ++ s.ending :: l.text, l.ended⟩ }
    return true

def setText (cs : Chars) : Edit Unit := modify fun w => { w with pattern := { w.pattern with text := cs } }

def runCommand (s : Setting) (command : Chars) : Edit Chars := do
  let (data, _) ← act (captured (becomeShell command s.env))
  return ofOctets data

def substitute (s : Setting) (sub : Substitution) : Edit Unit := do
  let m ← matcherOf s sub.sought
  match substituted? m sub (← get).pattern.text with
  | none => return ()
  | some text =>
    modify fun w => { w with replaced := true }
    setText text
    if sub.runs then
      let result ← runCommand s text
      setText (if result.getLast? = some '\n' then result.dropLast else result)
    if sub.prints then emit s (← get).pattern
    match sub.output with
    | some path => emitTo s path (← get).pattern
    | none => return ()

def lineOf (path : Chars) : Edit (Option Chars) := do
  let lines ←
    match (← get).sources.lookup path with
    | some ls => pure ls
    | none =>
      let opened ← if path = "/dev/stdin".toList then pure (Except.ok 0)
        else act (Act.openFile (toOctets path) .read)
      match opened with
      | .error _ => pure []
      | .ok fd =>
        let content ← act (Act.readAll fd maxReads [])
        if fd ≠ 0 then act (Act.close fd)
        pure ((linesOf (content.toOption.getD [])).map ofOctets)
  modify fun w => { w with sources := (path, lines.drop 1) :: w.sources.filter fun e => e.1 ≠ path }
  return lines.head?

def Script.placeOf (sc : Script) (label : Chars) : Nat :=
  if label.isEmpty then sc.commands.size else (sc.labels.lookup label).getD sc.commands.size

def simple (s : Setting) (i : Nat) : Action → Edit Unit
  | .lineNumber => do emitWith s (toString (← get).number).toList true '\n'
  | .append text => if text.isEmpty then return () else putOff (.text text)
  | .insert text => emitText s text
  | .change text => do if !((← rangeAt i) matches .inside _) then emitText s text
  | .run command => do
    let command ← if command.isEmpty then pure (← get).pattern.text else pure command
    let text ← runCommand s command
    emitRaw s (toOctets text)
  | .fileName => do emitWith s (← get).name true '\n'
  | .get => modify fun w => { w with pattern := w.hold }
  | .getAppend => modify fun w => { w with
      pattern := ⟨w.pattern.text ++ s.ending :: w.hold.text, w.pattern.ended || w.hold.ended⟩ }
  | .hold => modify fun w => { w with hold := w.pattern }
  | .holdAppend => modify fun w => { w with
      hold := ⟨w.hold.text ++ s.ending :: w.pattern.text, w.pattern.ended || w.hold.ended⟩ }
  | .exchange => modify fun w => { w with pattern := w.hold, hold := w.pattern }
  | .list width => do
    emitText s (spelledLines (width.getD s.width) (← get).pattern.text 0)
  | .print => do emit s (← get).pattern
  | .printFirst => do
    let text := (← get).pattern.text
    let first := text.takeWhile (· ≠ s.ending)
    emit s ⟨first, first.length < text.length || (← get).pattern.ended⟩
  | .readFile path => putOff (.file path)
  | .readLine path => do
    match ← lineOf path with
    | some l => putOff (.text l)
    | none => return ()
  | .substitute sub => substitute s sub
  | .write path => do emitTo s path (← get).pattern
  | .writeFirst path => do
    let text := (← get).pattern.text
    emitTo s path ⟨text.takeWhile (· ≠ s.ending), true⟩
  | .exchangeLetters source target => do
    setText ((← get).pattern.text.map (exchanged source target))
  | .clear => setText []
  | _ => return ()

def runText (s : Setting) : Edit Unit := do
  let text ← runCommand s (← get).pattern.text
  setText (if text.getLast? = some '\n' then text.dropLast else text)

def perform (s : Setting) (sc : Script) : Nat → (place : Nat) → Edit Flow
  | 0, _ => return .finished
  | fuel + 1, place => do
    match sc.commands[place]? with
    | none => return .finished
    | some c =>
      if !(← chooses s place c) then
        match c.action with
        | .block stop => perform s sc fuel (stop + 1)
        | _ => perform s sc fuel (place + 1)
      else
        let jump (label : Chars) : Edit Flow := do
          act (do let _ ← Act.call .compute)
          perform s sc fuel (sc.placeOf label)
        match c.action with
        | .delete => return .dropped
        | .deleteFirst =>
          let text := (← get).pattern.text
          if text.contains s.ending then
            setText ((text.dropWhile (· ≠ s.ending)).drop 1)
            return .again
          else return .dropped
        | .change text =>
          simple s place (.change text)
          return .dropped
        | .next =>
          if ← isLast s then return .finished
          else
            if !s.quiet then emit s (← get).pattern
            if ← readNext s sc then perform s sc fuel (place + 1) else return .dropped
        | .nextAppend =>
          if ← isLast s then
            if !s.quiet then emit s (← get).pattern
            return .dropped
          else if ← readMore s then perform s sc fuel (place + 1)
          else return .dropped
        | .quit status =>
          if !s.quiet then emit s (← get).pattern
          writeLater s
          return .ended status
        | .leave status => return .ended status
        | .jump label => jump label
        | .jumpIf label =>
          if (← get).replaced then
            modify fun w => { w with replaced := false }
            jump label
          else perform s sc fuel (place + 1)
        | .jumpUnless label =>
          if (← get).replaced then
            modify fun w => { w with replaced := false }
            perform s sc fuel (place + 1)
          else jump label
        | .run [] =>
          runText s
          perform s sc fuel (place + 1)
        | action =>
          simple s place action
          perform s sc fuel (place + 1)

def maxSteps : Nat := 1000000000000

def cycles (s : Setting) (sc : Script) : Nat → Edit Nat
  | 0 => return 0
  | fuel + 1 => do
    let flow ← perform s sc maxSteps 0
    match flow with
    | .ended status => return status
    | .again =>
      writeLater s
      act (do let _ ← Act.call .compute)
      cycles s sc fuel
    | flow =>
      if flow matches .finished then
        if !s.quiet then emit s (← get).pattern
      if ← readNext s sc then cycles s sc fuel else return (← get).status

def openOutputs (s : Setting) : List Chars → Edit Unit
  | [] => return ()
  | p :: r => do
    if p = "/dev/stdout".toList then pure ()
    else if p = "/dev/stderr".toList then
      modify fun w => { w with others := (p, 2, false) :: w.others }
    else
      match ← act (Act.openFile (toOctets p) .write) with
      | .ok fd => modify fun w => { w with others := (p, fd, false) :: w.others }
      | .error e =>
        giveUp s ("couldn't open file ".toList ++ p ++ ": ".toList ++ faultText e) 4
    openOutputs s r

def readAhead (sc : Script) : Edit Unit := do
  for c in sc.commands.toList do
    match c.first, c.action with
    | some (.line 0), .readFile path => putOff (.file path)
    | _, _ => pure ()

def edit (s : Setting) (sc : Script) (paths : List Chars) : Act Nat := do
  let go : Edit Nat := do
    modify fun w => { w with files := inputsOr paths, ranges := freshRanges sc }
    openOutputs s sc.outputs
    readAhead sc
    let status ← if ← readNext s sc then cycles s sc maxSteps else pure (← get).status
    finishTarget s
    flush s
    match (← get).input with
    | some 0 =>
      let w ← get
      let unread := (w.lines.map fun l => l.text.length + 1).foldl Nat.add w.held.length
      if 0 < unread then
        act (do let _ ← Act.call (.seek 0 (-(unread : Int)) .current))
    | _ => pure ()
    return status
  return (← go.run {}).1

def usageText : String :=
  "Usage: sed [OPTION]... \x7bscript-only-if-no-other-script\x7d [input-file]...\n\n" ++
  "  -n, --quiet, --silent\n                 suppress automatic printing of pattern space\n" ++
  "      --debug\n                 annotate program execution\n" ++
  "  -e script, --expression=script\n                 add the script to the commands to be executed\n" ++
  "  -f script-file, --file=script-file\n" ++
  "                 add the contents of script-file to the commands to be executed\n" ++
  "  --follow-symlinks\n                 follow symlinks when processing in place\n" ++
  "  -i[SUFFIX], --in-place[=SUFFIX]\n" ++
  "                 edit files in place (makes backup if SUFFIX supplied)\n" ++
  "  -l N, --line-length=N\n" ++
  "                 specify the desired line-wrap length for the \x60l' command\n" ++
  "  --posix\n                 disable all GNU extensions.\n" ++
  "  -E, -r, --regexp-extended\n                 use extended regular expressions in the script\n" ++
  "                 (for portability use POSIX -E).\n" ++
  "  -s, --separate\n                 consider files as separate rather than as a single,\n" ++
  "                 continuous long stream.\n" ++
  "      --sandbox\n                 operate in sandbox mode (disable e/r/w commands).\n" ++
  "  -u, --unbuffered\n                 load minimal amounts of data from the input files and flush\n" ++
  "                 the output buffers more often\n" ++
  "  -z, --null-data\n                 separate lines by NUL characters\n" ++
  "      --help     display this help and exit\n" ++
  "      --version  output version information and exit\n\n" ++
  "If no -e, --expression, -f, or --file option is given, then the first\n" ++
  "non-option argument is taken as the sed script to interpret.  All\n" ++
  "remaining arguments are names of input files; if no input files are\n" ++
  "specified, then the standard input is read.\n\n"

def usage (tool : String) (text : Option Chars) : Act Nat := do
  match text with
  | some t => complain tool t
  | none => pure ()
  let _ ← Act.write 2 (Octets.ofAscii usageText)
  return 1

def table : String :=
  "b,binary E,r,regexp-extended debug i,in-place=? e,expression= f,file= follow-symlinks " ++
  "l,line-length= z,null-data,zero-terminated n,quiet,silent posix sandbox s,separate " ++
  "u,unbuffered version help"

def readParts (tool : String) : Options → (d : Dialect) → (parts : Nat) → ReadState →
    Act (ReadState × Nat)
  | [], _, parts, s => return (s, parts)
  | (key, value) :: r, d, parts, s => do
    let finish (read : Except Chars ReadState) (parts : Nat) : Act (ReadState × Nat) := do
      match read with
      | .ok s => readParts tool r d parts s
      | .error e => do
        complain tool e
        Act.exit (if (Regular.Fault.message .bareClass).toList = e then 4 else 1)
    match key, value with
    | "E", _ => readParts tool r { d with extended := true } parts s
    | "sandbox", _ => readParts tool r { d with sandbox := true } parts s
    | "e", some text => finish (s.add d (.expression (parts + 1)) text) (parts + 1)
    | "f", some path =>
      match ← openInput path with
      | .error e => do
        complain tool ("couldn't open file ".toList ++ path ++ ": ".toList ++ faultText e)
        Act.exit 4
      | .ok fd =>
        let content ← Act.readAll fd maxReads []
        if fd ≠ 0 then Act.close fd
        finish (s.add d (.file path) (ofOctets (content.toOption.getD []))) parts
    | _, _ => readParts tool r d parts s

end Editor

open Editor in
def sed : Tool := fun tool args env => do
  match Options.ofArgs Editor.table true args with
  | .error e => Editor.usage tool (some e)
  | .ok (os, words) =>
    let d : Dialect := ⟨os.has "E", os.has "sandbox"⟩
    let given := os.has "e" || os.has "f"
    if os.has "help" then
      say tool Editor.usageText.toList
      return 0
    else if !given && words.isEmpty then Editor.usage tool none
    else
      let start := ReadState.start d
      let (read, _) ←
        if given then Editor.readParts tool os ⟨false, false⟩ 0 start
        else Editor.readParts tool [("e", some (words.headD []))] d 0 start
      match read.finish with
      | .error e =>
        complain tool e
        return if "can't".toList.isPrefixOf e then 4 else 1
      | .ok sc =>
        let paths := if given then words else words.drop 1
        let inPlace := if os.has "i" then some ((os.value? "i").getD []) else none
        let s : Setting := {
          tool := tool, quiet := os.has "n" || sc.quiet, separate := os.has "s" || inPlace.isSome
          inPlace := inPlace, follow := os.has "follow-symlinks"
          ending := if os.has "z" then '\x00' else '\n'
          width := ((os.value? "l").bind number?).getD 70, env := env }
        if inPlace.isSome && paths.isEmpty then
          complain tool "no input files".toList
          return 4
        else edit s sc paths

end TreePipeline.Tools
