import TreePipeline.Shell.Expansion
import TreePipeline.Tools.Condition
import TreePipeline.Tools.Format

/-! Commands that the shell carries out itself and that run no other command. -/

namespace TreePipeline.Shell.Builtin

open Host Tools

def special : List String := specialCommands

def regular : List String :=
  ["[", "alias", "bg", "cd", "command", "echo", "false", "fg", "getopts", "hash", "jobs", "kill", "printf", "pwd", "read",
    "test", "true", "type", "ulimit", "umask", "unalias", "wait"]

def isBuiltin (name : String) : Bool := special.contains name || regular.contains name

def done (status : Nat) : Sh Flow := do
  Sh.setStatus status
  return .normal

def refuse (text : Chars) (status : Nat) : Sh Flow := do
  Sh.complain text
  done status

def print (name : String) (cs : Chars) (status : Nat) : Sh Flow := do
  match ← Sh.write 1 cs with
  | .ok () => done status
  | .error _ => refuse (name.toList ++ ": I/O error".toList) 1

def digits? (cs : Chars) : Option Nat :=
  if cs.isEmpty || !cs.all Char.isDigit then none else (String.ofList cs).toNat?

def isSpace (c : Char) : Bool := c = ' ' || ('\t' ≤ c && c ≤ '\r')

def number? (cs : Chars) : Option Nat :=
  let t := cs.dropWhile isSpace
  let (negative, t) := match t with
    | '-' :: r => (true, r)
    | '+' :: r => (false, r)
    | r => (false, r)
  let ds := t.takeWhile Char.isDigit
  if (t.drop ds.length).all isSpace then
    (digits? ds).filter fun n => if negative then n = 0 else n < 0x80000000
  else none

def letters (allowed : String) : List Chars → Except Char (Chars × List Chars)
  | ['-', '-'] :: r => .ok ([], r)
  | ('-' :: c :: cs) :: r =>
    match (c :: cs).find? fun c => !allowed.contains c with
    | some d => .error d
    | none => (letters allowed r).map fun (os, as) => (c :: cs ++ os, as)
  | r => .ok ([], r)

def illegalOption (c : Char) : Chars := "Illegal option -".toList ++ [c]

def withLetters (allowed : String) (args : List Chars) (body : Chars → List Chars → Sh Flow) :
    Sh Flow :=
  match letters allowed args with
  | .error c => refuse (illegalOption c) 2
  | .ok (os, as) => body os as

def illegalNumber (cs : Chars) : Chars := "Illegal number: ".toList ++ cs

def test (name : String) (args : List Chars) : Sh Flow := do
  let args? : Option (List Chars) :=
    if name = "[" then
      if args.getLast? = some [']'] then some args.dropLast else none
    else some args
  match args? with
  | none => refuse "missing ]".toList 2
  | some args =>
    match ← Sh.act (Condition.check args) with
    | .ok b => done (if b then 0 else 1)
    | .error e => refuse e.message 2

def printf (args : List Chars) : Sh Flow := do
  withLetters "" args fun _ args => do
    match args with
    | [] => refuse "usage: printf format [arg ...]".toList 2
    | format :: args =>
      let o := Format.print .shell format args
      let flow ← print "printf" o.text 0
      for c in o.complaints do
        Sh.complain c
      if o.invalid then done 2 else if o.complaints.isEmpty then return flow else done 1

def logicalPath (directory goal : Chars) : Chars :=
  let names (cs : Chars) : List Octets :=
    (Octets.splitOn Path.slash (toOctets cs)).filter fun n => n ≠ [] ∧ n ≠ Path.dot
  let start := if goal.head? = some '/' then [] else names directory
  let stack := (names goal).foldl (fun stack n => if n = Path.dotDot then stack.drop 1 else n :: stack)
    start.reverse
  '/' :: ['/'].intercalate (stack.reverse.map ofOctets)

def physicalDirectory : Sh Chars := do
  match ← Sh.act (Act.call .currentDirectory) with
  | .data bs => return ofOctets bs
  | _ => return []

def enter (directory : Chars) : Sh Unit := do
  modify fun s => { s with directory := directory }
  Sh.exportVar "PWD" directory

def findDirectory : Sh Unit := do
  let real ← physicalDirectory
  let given := (← Sh.getVar "PWD").getD []
  let same ← Sh.act (Act.ask fun fs => Condition.sameFile fs (toOctets given) (toOctets real))
  enter (if given.head? = some '/' ∧ same then given else real)

def pwd (args : List Chars) : Sh Flow := do
  withLetters "LP" args fun os _ => do
    let d ← if os.getLast? = some 'P' then physicalDirectory else do pure (← get).directory
    print "pwd" (d ++ ['\n']) 0

def isNear (goal : Chars) : Bool :=
  match goal with
  | '/' :: _ => true
  | ['.'] => true
  | '.' :: '/' :: _ => true
  | ['.', '.'] => true
  | '.' :: '.' :: '/' :: _ => true
  | _ => false

def alongDirectories (goal : Chars) : List Octets → Sh (Chars × Bool)
  | [] => return (goal, false)
  | d :: r => do
    let place := if d.isEmpty then goal else ofOctets d ++ '/' :: goal
    if ← Sh.act (Act.ask fun fs => fs.stat (toOctets place) matches .ok .directory) then
      return (place, !d.isEmpty)
    else alongDirectories goal r

def cd (args : List Chars) : Sh Flow := do
  withLetters "LP" args fun os args => do
    let back := args.head? = some ['-']
    let goal ← match args with
      | [] => do pure ((← Sh.getVar "HOME").getD [])
      | a :: _ => do
        if a = ['-'] then pure ((← Sh.getVar "OLDPWD").getD []) else pure a
    let old := (← get).directory
    let physical := os.getLast? = some 'P'
    let start := if goal.isEmpty then ['.'] else goal
    let path := (← Sh.getVar "CDPATH").getD []
    let (near, away) ←
      if isNear goal ∨ path.isEmpty then pure (start, false)
      else alongDirectories start (Octets.splitOn 0x3a (toOctets path))
    let target := if physical then near else logicalPath old near
    match ← Sh.act (Act.call (.changeDirectory (toOctets target))) with
    | .failed _ => refuse ("can't cd to ".toList ++ goal) 2
    | _ =>
      Sh.exportVar "OLDPWD" old
      enter (← if physical then physicalDirectory else pure target)
      if back || away then print "cd" ((← get).directory ++ ['\n']) 0 else done 0

def cutAssignment (cs : Chars) : String × Option Chars :=
  let name := cs.takeWhile (· ≠ '=')
  (String.ofList name, if name.length = cs.length then none else some (cs.drop (name.length + 1)))

def readAssignment (cs : Chars) : Sh (String × Option Chars) := do
  let (name, value) := cutAssignment cs
  if Reader.isGoodName name.toList then return (name, value)
  else Sh.fatal (name.toList ++ ": bad variable name".toList) 2

def quoteValue (cs : Chars) : Chars :=
  '\'' :: cs.flatMap (fun c => if c = '\'' then "'\"'\"'".toList else [c]) ++ ['\'']

def listVars (name command : String) (names : List String) : Sh Flow := do
  let vars := (← get).vars
  let sorted := (names.eraseDups).mergeSort fun a b => a ≤ b
  let text := sorted.flatMap fun n =>
    let value := match vars.lookup n with
      | some v => '=' :: quoteValue v
      | none => []
    command.toList ++ n.toList ++ value ++ ['\n']
  print name text 0

def export_ (args : List Chars) : Sh Flow := do
  match letters "p" args with
  | .error c => Sh.fatal (illegalOption c) 2
  | .ok (_, []) => listVars "export" "export " (← get).exported
  | .ok (_, args) =>
    for a in args do
      let (name, value) ← readAssignment a
      match value with
      | some v => Sh.setVar name v
      | none => pure ()
      Sh.markExported name
    done 0

def readonly (args : List Chars) : Sh Flow := do
  match letters "p" args with
  | .error c => Sh.fatal (illegalOption c) 2
  | .ok (_, []) => listVars "readonly" "readonly " (← get).fixed
  | .ok (_, args) =>
    for a in args do
      match ← readAssignment a with
      | (name, some v) => Sh.setVar name v
      | _ => pure ()
      modify fun s => { s with fixed := (cutAssignment a).1 :: s.fixed }
    done 0

def local_ (args : List Chars) : Sh Flow := do
  if (← get).locals.isEmpty then Sh.fatal "not in a function".toList 2
  for a in args do
    let (name, value) := cutAssignment a
    let old ← Sh.variable_ name
    modify fun s => { s with locals := match s.locals with
      | [] => []
      | l :: r => (old :: l) :: r }
    match value with
    | some v => Sh.setVar name v
    | none => pure ()
  done 0

def unset (args : List Chars) : Sh Flow := do
  match letters "vf" args with
  | .error c => Sh.fatal (illegalOption c) 2
  | .ok (os, args) =>
    for a in args do
      let name := String.ofList a
      if os.getLast? = some 'f' then
        modify fun s => { s with functions := s.functions.filter fun e => e.1 ≠ name }
      else
        let _ ← readAssignment a
        if (← get).fixed.contains name then
          Sh.fatal (a ++ ": is read only".toList) 2
        Sh.unsetVar name
    done 0

def shift (args : List Chars) : Sh Flow := do
  let n := match args with
    | [] => some 1
    | a :: _ => number? a
  match n with
  | none => Sh.fatal (illegalNumber (args.headD [])) 2
  | some n =>
    if (← get).args.length < n then Sh.fatal "can't shift that many".toList 2
    else
      Sh.setArgs ((← get).args.drop n)
      done 0

def setOption (on : Bool) (c : Char) (s : State) : Option State :=
  match c with
  | 'e' => some { s with stopOnError := on }
  | 'u' => some { s with refuseUnset := on }
  | 'f' => some { s with noGlob := on }
  | 'x' => some { s with trace := on }
  | 'n' => some { s with dry := on }
  | 'a' => some { s with exportAll := on }
  | 'C' => some { s with keepFiles := on }
  | c => if "vmbIiVE".toList.contains c then some s else none

def setOptions (on : Bool) : Chars → Sh Unit
  | [] => pure ()
  | c :: r => do
    match setOption on c (← get) with
    | some s => set s
    | none => Sh.fatal (illegalOption c) 2
    setOptions on r

def longOptions : List (String × Char) :=
  [("errexit", 'e'), ("noglob", 'f'), ("nounset", 'u'), ("xtrace", 'x'), ("allexport", 'a'),
    ("noclobber", 'C'), ("verbose", 'v'), ("monitor", 'm'), ("notify", 'b'), ("noexec", 'n'),
    ("ignoreeof", 'I'), ("interactive", 'i'), ("vi", 'V'), ("emacs", 'E')]

def setLong (on : Bool) (name : Chars) : Sh Unit := do
  match longOptions.lookup (String.ofList name) with
  | some c => setOptions on [c]
  | none => Sh.fatal ("Illegal option -o ".toList ++ name) 2

def settings (s : State) : List (String × Bool) :=
  [("errexit", s.stopOnError), ("noglob", s.noGlob), ("ignoreeof", false), ("interactive", false),
    ("monitor", false), ("noexec", false), ("stdin", false), ("xtrace", s.trace),
    ("verbose", false), ("vi", false), ("emacs", false), ("noclobber", s.keepFiles),
    ("allexport", s.exportAll), ("notify", false), ("nounset", s.refuseUnset),
    ("privileged", false), ("nolog", false), ("debug", false)]

def listSettings : Sh Flow := do
  let line (name : String) (on : Bool) : Chars :=
    name.toList ++ List.replicate (16 - name.length) ' ' ++ (if on then "on\n" else "off\n").toList
  let lines := (settings (← get)).flatMap fun (name, on) => line name on
  print "set" ("Current option settings\n".toList ++ lines) 0

def set_ : List Chars → Sh Flow
  | [] => done 0
  | [['-', 'o']] => listSettings
  | ['-', '-'] :: r => do
    Sh.setArgs r
    done 0
  | ['-'] :: r => do
    modify fun s => { s with trace := false }
    if !r.isEmpty then Sh.setArgs r
    done 0
  | ['-', 'o'] :: name :: r => do
    setLong true name
    set_ r
  | ['+', 'o'] :: name :: r => do
    setLong false name
    set_ r
  | ['-', 'e', 'o'] :: name :: r => do
    setOptions true ['e']
    setLong true name
    set_ r
  | ['-', 'e', 'u', 'o'] :: name :: r => do
    setOptions true ['e', 'u']
    setLong true name
    set_ r
  | ('-' :: c :: cs) :: r => do
    setOptions true (c :: cs)
    set_ r
  | ('+' :: c :: cs) :: r => do
    setOptions false (c :: cs)
    set_ r
  | args => do
    Sh.setArgs args
    done 0

inductive OptionStep where
  | found (letter : Char) (value : Option Chars)
  | unknown (letter : Char)
  | lacking (letter : Char)
  | finished

def nextOption (letters : Chars) (args : List Chars) (place : Nat) (within : Option Nat) :
    OptionStep × Nat × Option Nat :=
  let open_ : Chars := match within with
    | some n => if 1 < place then (args.getD (place - 2) []).drop n else []
    | none => []
  let step (c : Char) (r : Chars) (place : Nat) : OptionStep × Nat × Option Nat :=
    let offset := some ((args.getD (place - 2) []).length - r.length)
    match letters.dropWhile (· ≠ c) with
    | [] => (.unknown c, place, offset)
    | _ :: ':' :: _ =>
      if !r.isEmpty then (.found c (some r), place, none)
      else
        match args[place - 1]? with
        | some v => (.found c (some v), place + 1, none)
        | none => (.lacking c, place, none)
    | _ => (.found c none, place, offset)
  match open_ with
  | c :: r => step c r place
  | [] =>
    match args[place - 1]? with
    | some ['-', '-'] => (.finished, place + 1, none)
    | some ('-' :: c :: r) => step c r (place + 1)
    | _ => (.finished, place, none)

def getopts (args : List Chars) : Sh Flow := do
  match args with
  | letters :: name :: own => do
    let s ← get
    let args := if own.isEmpty then s.args else own
    let (place, within) := s.nextOption
    let (place, within) := if args.length + 1 < place then (1, none) else (place, within)
    let (result, place, within) := nextOption letters args place within
    let quiet := letters.head? = some ':'
    let letter ← match result with
      | .found c value => do
        Sh.setVar "OPTARG" (value.getD [])
        pure c
      | .unknown c => do
        if quiet then Sh.setVar "OPTARG" [c]
        else
          let _ ← Sh.write 2 (illegalOption c ++ ['\n'])
          Sh.unsetVar "OPTARG"
        pure '?'
      | .lacking c => do
        if quiet then Sh.setVar "OPTARG" [c]
        else
          let _ ← Sh.write 2 ("No arg for -".toList ++ c :: " option\n".toList)
          Sh.unsetVar "OPTARG"
        pure (if quiet then ':' else '?')
      | .finished => pure '?'
    Sh.setVar "OPTIND" (toString place).toList
    if !Reader.isGoodName name then Sh.fatal (name ++ ": bad variable name".toList) 2
    Sh.setVar (String.ofList name) [letter]
    modify fun s => { s with nextOption := (place, within) }
    done (match result with
      | .finished => 1
      | _ => 0)
  | _ => refuse "Usage: getopts optstring var [arg...]".toList 2

def showAlias (name : String) (text : Chars) : Chars := name.toList ++ '=' :: quoteValue text ++ ['\n']

def listAliases : Sh Flow := do
  let sorted := (← get).aliases.mergeSort fun a b => Sh.shelf a.1 ≤ Sh.shelf b.1
  print "alias" (sorted.flatMap fun e => showAlias e.1 e.2) 0

def aliasEach : List Chars → (status : Nat) → Sh Flow
  | [], status => done status
  | a :: r, status => do
    let name := a.takeWhile (· ≠ '=')
    if name.length < a.length ∧ !name.isEmpty then
      modify fun s => { s with
        aliases := Vars.put s.aliases (String.ofList name) (a.drop (name.length + 1)) }
      aliasEach r status
    else
      match (← get).aliases.lookup (String.ofList a) with
      | some text => do
        let _ ← Sh.write 1 (showAlias (String.ofList a) text)
        aliasEach r status
      | none => do
        let _ ← Sh.write 2 ("alias: ".toList ++ a ++ " not found\n".toList)
        aliasEach r 1

def unaliasEach : List Chars → (status : Nat) → Sh Flow
  | [], status => done status
  | a :: r, status => do
    let name := String.ofList a
    if ((← get).aliases.lookup name).isSome then
      modify fun s => { s with aliases := s.aliases.filter fun e => e.1 ≠ name }
      unaliasEach r status
    else
      let _ ← Sh.write 2 ("unalias: ".toList ++ a ++ " not found\n".toList)
      unaliasEach r 1

def unalias (args : List Chars) : Sh Flow :=
  withLetters "a" args fun os args => do
    if os.isEmpty then unaliasEach args 0
    else
      modify fun s => { s with aliases := [] }
      done 0

def readLine (raw : Bool) : Nat → Marked → Sh (Marked × Bool)
  | 0, acc => return (acc.reverse, true)
  | fuel + 1, acc => do
    match ← Sh.act (Act.read 0 1) with
    | .ok [b] =>
      match Char.ofNat b.toNat with
      | '\n' => return (acc.reverse, false)
      | '\x00' => readLine raw fuel acc
      | '\\' =>
        if raw then readLine raw fuel (('\\', false) :: acc)
        else
          match ← Sh.act (Act.read 0 1) with
          | .ok [d] =>
            let d := Char.ofNat d.toNat
            readLine raw fuel (if d = '\n' then acc else (d, true) :: acc)
          | _ => return (acc.reverse, true)
      | c => readLine raw fuel ((c, false) :: acc)
    | _ => return (acc.reverse, true)

def assignFields (ifs : Chars) : List String → Marked → Sh Unit
  | [], _ => pure ()
  | [name], m => do
    let isBlank (e : Char × Bool) : Bool := !e.2 && ifs.contains e.1 && Arithmetic.isSpace e.1
    let isSeparator (e : Char × Bool) : Bool := !e.2 && ifs.contains e.1
    let m := ((m.dropWhile isBlank).reverse.dropWhile isBlank).reverse
    let field := m.takeWhile fun e => !isSeparator e
    let single := (m.drop field.length).length = 1
    Sh.setVar name ((if single then field else m).map Prod.fst)
  | name :: more, m => do
    let isBlank (e : Char × Bool) : Bool := !e.2 && ifs.contains e.1 && Arithmetic.isSpace e.1
    let isSeparator (e : Char × Bool) : Bool := !e.2 && ifs.contains e.1
    let m := m.dropWhile isBlank
    let field := m.takeWhile fun e => !isSeparator e
    Sh.setVar name (field.map Prod.fst)
    let after := (m.drop field.length).dropWhile isBlank
    assignFields ifs more (if (after.head?.map isSeparator).getD false then after.drop 1 else after)

def dropPrompt : List Chars → List Chars
  | ['-', 'p'] :: _ :: r => dropPrompt r
  | ['-', 'r'] :: r => ['-', 'r'] :: dropPrompt r
  | r => r

def read (args : List Chars) : Sh Flow := do
  withLetters "r" (dropPrompt args) fun os names => do
    if names.isEmpty then refuse "arg count".toList 2
    else
      let (line, ended) ← readLine (os.contains 'r') 1000000 []
      let ifs := (← Sh.getVar "IFS").getD Expansion.defaultSeparators
      match names.find? fun n => !Reader.isGoodName n with
      | some n => refuse (n ++ ": bad variable name".toList) 2
      | none =>
        assignFields ifs (names.map String.ofList) line
        done (if ended then 1 else 0)

def signal? (cs : Chars) : Option Nat :=
  match digits? cs with
  | some n => if n ≤ Signal.last then some n else none
  | none => Signal.ofName? (String.ofList cs)

inductive Goal where
  | process (id : Int)
  | job
  | noJob (text : Chars)
  | none

def readGoal (jobs : List Job) (cs : Chars) : Goal :=
  match cs with
  | '%' :: _ =>
    match Job.find jobs cs with
    | .ok _ => .job
    | .error e => .noJob e
  | '-' :: r =>
    match number? r with
    | some n => .process (-(n : Int))
    | Option.none => .none
  | r =>
    match number? r with
    | some n => .process n
    | Option.none => .none

def killEach (signal : Nat) : List Chars → (status : Nat) → Sh Flow
  | [], status => done status
  | a :: r, status => do
    let lost (e : Errno) : Sh Flow := do
      Sh.complain (e.description.toList ++ ['\n'])
      killEach signal r 1
    match readGoal (← get).jobs a with
    | .none => refuse (illegalNumber (if a.head? = some '-' then a.drop 1 else a)) 2
    | .noJob text => refuse text 2
    | .job => lost ⟨3⟩
    | .process id =>
      match ← Sh.act (Act.call (.kill id signal)) with
      | .failed (.os e) => lost e
      | _ => killEach signal r status

def killUsage : Chars :=
  ("Usage: kill [-s sigspec | -signum | -sigspec] [pid | job]... or\n" ++
    "kill -l [exitstatus]").toList

def listSignals (args : List Chars) : Sh Flow := do
  match args with
  | [] => print "kill" ("0\n" ++ "\n".intercalate Signal.names ++ "\n").toList 0
  | a :: _ =>
    match number? a with
    | none => refuse (illegalNumber a) 2
    | some n =>
      let name := match if 128 < n then n - 128 else n with
        | 0 => none
        | k + 1 => Signal.names[k]?
      match name with
      | some name => print "kill" (name ++ "\n").toList 0
      | none => refuse ("invalid signal number or exit status: ".toList ++ a) 2

structure KillRequest where
  signal : Option Nat := none
  list : Bool := false
  args : List Chars := []

def readKillOptions : List Chars → KillRequest → Except Chars KillRequest
  | ['-', '-'] :: r, q => .ok { q with args := r }
  | ['-', 's'] :: [], _ => .error "No arg for -s option".toList
  | ['-', 's'] :: name :: r, q => named name r q
  | ('-' :: 's' :: name) :: r, q => named name r q
  | ['-', 'l'] :: r, q => readKillOptions r { q with list := true }
  | ('-' :: 'l' :: c :: _) :: _, _ => .error (illegalOption c)
  | ('-' :: c :: _) :: _, _ => .error (illegalOption c)
  | r, q => .ok { q with args := r }
where
  named (name : Chars) (r : List Chars) (q : KillRequest) : Except Chars KillRequest :=
    match signal? name with
    | some n => readKillOptions r { q with signal := some n }
    | none => .error ("invalid signal number or name: ".toList ++ name)

def readKill (args : List Chars) : Except Chars KillRequest :=
  match args with
  | ('-' :: name) :: r =>
    match signal? name with
    | some n => .ok { signal := some n, args := r }
    | none => readKillOptions args {}
  | r => .ok { args := r }

def kill (args : List Chars) : Sh Flow := do
  match readKill args with
  | .error e => refuse e 2
  | .ok q =>
    if q.list then
      if q.signal.isSome ∧ !q.args.isEmpty then refuse killUsage 2 else listSignals q.args
    else if q.args.isEmpty then refuse killUsage 2
    else killEach (q.signal.getD 15) q.args 0

def resources : List (Char × Resource × Nat × String) :=
  [('t', .cpu, 1, "time(seconds)"), ('f', .fileSize, 512, "file(blocks)"),
    ('d', .data, 1024, "data(kbytes)"), ('s', .stack, 1024, "stack(kbytes)"),
    ('c', .core, 512, "coredump(blocks)"), ('m', .resident, 1024, "memory(kbytes)"),
    ('l', .locked, 1024, "locked memory(kbytes)"), ('p', .processes, 1, "process"),
    ('n', .files, 1, "nofiles"), ('v', .memory, 1024, "vmemory(kbytes)"),
    ('w', .locks, 1, "locks"), ('r', .priority, 1, "rtprio")]

structure LimitRequest where
  soft : Bool := false
  hard : Bool := false
  resource : Resource := .fileSize
  factor : Nat := 512
  all : Bool := false

def readLimitOptions : Chars → LimitRequest → Except Char LimitRequest
  | [], q => .ok q
  | 'H' :: r, q => readLimitOptions r { q with hard := true }
  | 'S' :: r, q => readLimitOptions r { q with soft := true }
  | 'a' :: r, q => readLimitOptions r { q with all := true }
  | c :: r, q =>
    match resources.lookup c with
    | some (res, k, _) => readLimitOptions r { q with resource := res, factor := k }
    | none => .error c

def readLimitArgs : List Chars → LimitRequest → Except Char (LimitRequest × List Chars)
  | ('-' :: c :: cs) :: r, q => do
    let q ← readLimitOptions (c :: cs) q
    readLimitArgs r q
  | r, q => .ok (q, r)

def limitText (limit : Option Nat) (factor : Nat) : Chars :=
  match limit with
  | none => "unlimited".toList
  | some n =>
    let units := n / factor
    let signed : Int := if units < 0x8000000000000000 then units else units - 0x10000000000000000
    (toString signed).toList

def limitOf (resource : Resource) (hard : Bool) : Sh (Option Nat) := do
  match ← Sh.act (Act.call (.getLimit resource hard)) with
  | .limit n => return n
  | _ => return none

def ulimit (args : List Chars) : Sh Flow := do
  match readLimitArgs args {} with
  | .error c => refuse (illegalOption c) 2
  | .ok (q, rest) =>
    if q.all then
      let lines ← resources.mapM fun (_, resource, factor, title) => do
        let limit ← limitOf resource q.hard
        return title.toList ++ List.replicate (20 - title.length) ' ' ++ [' '] ++ limitText limit factor ++
          ['\n']
      return ← print "ulimit" lines.flatten 0
    match rest with
    | [] =>
      let limit ← limitOf q.resource q.hard
      print "ulimit" (limitText limit q.factor ++ ['\n']) 0
    | _ :: _ :: _ => refuse "too many arguments".toList 2
    | [a] =>
      let both := !q.soft && !q.hard
      let word (n : Nat) : Option Nat :=
        let n := n * q.factor % 0x10000000000000000
        if n = 0xffffffffffffffff then none else some n
      let value : Option (Option Nat) :=
        if a = "unlimited".toList then some none else (digits? a).map word
      match value with
      | none => refuse "bad number".toList 2
      | some v =>
        match ← Sh.act (Act.call (.setLimit q.resource (q.soft || both) (q.hard || both) v)) with
        | .failed (.os e) =>
          refuse ("error setting limit (".toList ++ e.description.toList ++ [')']) 2
        | _ => done 0

def letterBits (letters : Chars) : Nat :=
  letters.foldl (fun bits c =>
    bits ||| (match c with
      | 'r' => 4
      | 'w' => 2
      | 'x' => 1
      | _ => 0)) 0

def applyClause (mode : Nat) (clause : Chars) : Option Nat :=
  let who := clause.takeWhile "ugoa".toList.contains
  match clause.drop who.length with
  | op :: letters =>
    if !letters.all "rwx".toList.contains then none
    else
      let all := who.isEmpty || who.contains 'a'
      let spread (bits : Nat) : Nat :=
        (if all || who.contains 'u' then 64 * bits else 0) +
          (if all || who.contains 'g' then 8 * bits else 0) +
          (if all || who.contains 'o' then bits else 0)
      let bits := spread (letterBits letters)
      match op with
      | '+' => some (mode ||| bits)
      | '-' => some (mode - (mode &&& bits))
      | '=' => some ((mode - (mode &&& spread 7)) ||| bits)
      | _ => none
  | [] => none

def creationMask (value : Option Nat) : Sh Nat := do
  match ← Sh.act (Act.call (.mask value)) with
  | .number n => return n.toNat
  | _ => return 0

def umask (args : List Chars) : Sh Flow := do
  withLetters "S" args fun os args => do
    let mask ← creationMask none
    let digit (n : Nat) : Char := Char.ofNat (48 + n % 8)
    let class_ (name : Char) (bits : Nat) : Chars :=
      [name, '='] ++ (if bits &&& 4 = 0 then ['r'] else []) ++
        (if bits &&& 2 = 0 then ['w'] else []) ++ (if bits &&& 1 = 0 then ['x'] else [])
    match args with
    | [] =>
      if os.isEmpty then
        print "umask" ['0', digit (mask / 64), digit (mask / 8), digit mask, '\n'] 0
      else
        print "umask" (class_ 'u' (mask / 64 % 8) ++ [','] ++ class_ 'g' (mask / 8 % 8) ++ [','] ++
          class_ 'o' (mask % 8) ++ ['\n']) 0
    | a :: _ =>
      if (a.head?.map Char.isDigit).getD false then
        match Arithmetic.ofDigits 8 a with
        | some n =>
          let _ ← creationMask (some (n % 512))
          done 0
        | none => refuse (illegalNumber a) 2
      else
        let clauses := (Octets.splitOn 0x2c (toOctets a)).map ofOctets
        match clauses.foldlM applyClause (511 - mask) with
        | some mode =>
          let _ ← creationMask (some (511 - mode))
          done 0
        | none => refuse ("Illegal mode: ".toList ++ a) 2

def findProgram (name : Chars) : Sh (Option Chars) := do
  if name.contains '/' then
    if ← Sh.act (Act.ask fun fs => fs.isFile (toOctets name)) then return some name else return none
  let path := (← Sh.getVar "PATH").getD []
  let entries := (Octets.splitOn 0x3a (toOctets path)).map fun d => Path.join d (toOctets name)
  let found ← Sh.act (Act.askNames fun fs => entries.filter fs.isFile)
  return found.head?.map ofOctets

def describe (name : Chars) : Sh (Option Chars) := do
  let s := String.ofList name
  match (← get).aliases.lookup s with
  | some text => return some ("alias ".toList ++ (showAlias s text).dropLast)
  | none => pure ()
  if Reader.reserved.contains s || isBuiltin s || ((← get).functions.lookup s).isSome then
    return some name
  else findProgram name

def describeAll : List Chars → (status : Nat) → Sh Flow
  | [], status => done status
  | n :: r, status => do
    match ← describe n with
    | some t =>
      let _ ← Sh.write 1 (t ++ ['\n'])
      describeAll r status
    | none => describeAll r 127

def typeAll : List Chars → (status : Nat) → Sh Flow
  | [], status => done status
  | n :: r, status => do
    let s := String.ofList n
    let text ←
      if Reader.reserved.contains s then pure (some " is a shell keyword")
      else if let some value := (← get).aliases.lookup s then
        pure (some (" is an alias for " ++ String.ofList value))
      else if special.contains s then pure (some " is a special shell builtin")
      else if regular.contains s then pure (some " is a shell builtin")
      else if ((← get).functions.lookup s).isSome then pure (some " is a shell function")
      else do pure ((← findProgram n).map fun p => " is " ++ String.ofList p)
    match text with
    | some t =>
      let _ ← Sh.write 1 (n ++ t.toList ++ ['\n'])
      typeAll r status
    | none =>
      let _ ← Sh.write 1 (n ++ ": not found\n".toList)
      typeAll r 127

def leaveLoops (args : List Chars) (how : Nat → Flow) : Sh Flow := do
  let asked : Nat ← match args with
    | [] => pure 1
    | a :: _ =>
      match number? a with
      | some (n + 1) => pure (n + 1)
      | _ => Sh.fatal (illegalNumber a) 2
  Sh.setStatus 0
  match (← get).loops with
  | 0 => return .normal
  | n => return how (min n asked)

def showVars : Sh Flow := do
  listVars "set" "" ((← get).vars.map Prod.fst)

def hash : List Chars → (status : Nat) → Sh Flow
  | [], status => done status
  | n :: r, status => do
    if n.contains '/' ∨ isBuiltin (String.ofList n) ∨ (← findProgram n).isSome then hash r status
    else
      Sh.complain (n ++ ": not found".toList)
      hash r 1

def withoutControl (args : List Chars) : Sh Flow := do
  let name := args.headD "(null)".toList
  match Job.find (← get).jobs (args.headD ['%']) with
  | .ok _ => refuse ("job ".toList ++ name ++ " not created under job control".toList) 2
  | .error e => refuse e 2

def run (name : String) (args : List Chars) : Sh Flow :=
  match name with
  | ":" => done 0
  | "true" => done 0
  | "false" => done 1
  | "echo" => print "echo" (Format.echo args) 0
  | "printf" => printf args
  | "test" => test name args
  | "[" => test name args
  | "cd" => cd args
  | "pwd" => pwd args
  | "export" => export_ args
  | "readonly" => readonly args
  | "local" => local_ args
  | "unset" => unset args
  | "shift" => shift args
  | "set" => if args.isEmpty then showVars else set_ args
  | "hash" => if args.head? = some ['-', 'r'] then done 0 else hash args 0
  | "read" => read args
  | "kill" => kill args
  | "ulimit" => ulimit args
  | "umask" => umask args
  | "getopts" => getopts args
  | "alias" => if args.isEmpty then listAliases else aliasEach args 0
  | "unalias" => unalias args
  | "type" => typeAll args 0
  | "bg" => withoutControl args
  | "fg" => withoutControl args
  | "times" => print "times" "0m0.000000s 0m0.000000s\n0m0.000000s 0m0.000000s\n".toList 0
  | "break" => leaveLoops args .leave
  | "continue" => leaveLoops args .again
  | _ => done 0

end TreePipeline.Shell.Builtin
