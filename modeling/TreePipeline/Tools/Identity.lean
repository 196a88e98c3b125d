import TreePipeline.Tools.Basic

/-! Small programs that tell who runs them, on which machine, and where programs are. -/

namespace TreePipeline.Tools

open Shell Host

structure Account where
  name : String
  number : Nat
  group : String
  groupNumber : Nat

namespace Account

def ordinary (name : String) (number : Nat) : Account := ⟨name, number, name, number⟩

def known : List Account :=
  [ordinary "root" 0, ordinary "daemon" 1, ordinary "bin" 2, ordinary "sys" 3,
    ⟨"sync", 4, "nogroup", 65534⟩, ⟨"games", 5, "games", 60⟩, ⟨"man", 6, "man", 12⟩, ⟨"lp", 7, "lp", 7⟩,
    ordinary "mail" 8, ordinary "news" 9, ordinary "uucp" 10, ordinary "proxy" 13, ordinary "www-data" 33,
    ordinary "backup" 34, ordinary "list" 38, ordinary "irc" 39, ⟨"nobody", 65534, "nogroup", 65534⟩]

def named? (name : Chars) : Option Account :=
  known.find? fun a => a.name.toList = name ∨ number? name = some a.number

def own : Account := ordinary "root" 0

end Account

def refuseOperand (tool : String) (extra : Chars) : Act Nat :=
  misuse tool ("extra operand ".toList ++ inQuotes extra)

def withoutOperands (tool table : String) (args : List Chars) (body : Options → Act Nat) : Act Nat :=
  withTable tool table args fun os operands =>
    match operands with
    | [] => body os
    | extra :: _ => refuseOperand tool extra

def id_ : Tool := fun tool args _ =>
  withTable tool "a u,user g,group G,groups n,name r,real z,zero Z,context" args fun os names => do
    let refuse (text : String) : Act Nat := do
      complain tool text.toList
      return 1
    let kinds := ["u", "g", "G", "Z"].filter os.has
    let plain := kinds.isEmpty
    if os.has "Z" then return ← refuse "--context (-Z) works only on an SELinux-enabled kernel"
    if 1 < kinds.length then return ← refuse "cannot print \"only\" of more than one choice"
    if plain ∧ (os.has "n" ∨ os.has "r") then
      return ← refuse "cannot print only names or real IDs in default format"
    if plain ∧ os.has "z" then return ← refuse "option --zero not permitted in default format"
    let text (a : Account) : Chars :=
      let number (n : Nat) : Chars := (toString n).toList
      let pick (name : String) (n : Nat) : Chars := if os.has "n" then name.toList else number n
      let both (n : Nat) (name : String) : Chars := number n ++ '(' :: name.toList ++ [')']
      if os.has "u" then pick a.name a.number
      else if plain then
        "uid=".toList ++ both a.number a.name ++ " gid=".toList ++ both a.groupNumber a.group ++ " groups=".toList ++
          both a.groupNumber a.group
      else pick a.group a.groupNumber
    let ending : Chars := if os.has "z" then ['\x00'] else ['\n']
    if names.isEmpty then
      say tool (text Account.own ++ ending)
      return 0
    else
      let mut status := 0
      for n in names do
        match Account.named? n with
        | some a => say tool (text a ++ ending)
        | none =>
          complain tool (inQuotes n ++ ": no such user".toList)
          status := 1
      return status

def groups : Tool := fun tool args _ =>
  withTable tool "" args fun _ names => do
    if names.isEmpty then
      say tool (Account.own.group.toList ++ ['\n'])
      return 0
    else
      let mut status := 0
      for n in names do
        match Account.named? n with
        | some a => say tool (n ++ " : ".toList ++ a.group.toList ++ ['\n'])
        | none =>
          complain tool (inQuotes n ++ ": no such user".toList)
          status := 1
      return status

def whoami : Tool := fun tool args _ =>
  withoutOperands tool "" args fun _ => do
    say tool (Account.own.name.toList ++ ['\n'])
    return 0

def logname : Tool := fun tool args _ =>
  withoutOperands tool "" args fun _ => do
    complain tool "no login name".toList
    return 1

def users : Tool := fun _ _ _ => return 0

def tty : Tool := fun tool args _ =>
  match Options.ofArgs "s,silent,quiet" true args with
  | .error e => misuseWith 2 tool e
  | .ok (os, []) => do
    if !os.has "s" then say tool "not a tty\n".toList
    return 1
  | .ok (_, extra :: _) => misuseWith 2 tool ("extra operand ".toList ++ inQuotes extra)

namespace Machine

def hostName : String := "localhost"

def architecture : String := "x86_64"

def processors : Nat := 4

def facts : List (String × String) :=
  [("s", "Linux"), ("n", hostName), ("r", "6.1.0"), ("v", "#1 SMP PREEMPT_DYNAMIC"), ("m", architecture),
    ("p", "unknown"), ("i", "unknown"), ("o", "GNU/Linux")]

end Machine

def uname : Tool := fun tool args _ =>
  let table := "a,all s,kernel-name,sysname n,nodename r,kernel-release,release v,kernel-version m,machine " ++
    "p,processor i,hardware-platform o,operating-system"
  withoutOperands tool table args fun os => do
    let asked := if os.has "a" then Machine.facts.filter fun f => f.2 ≠ "unknown"
      else if os.isEmpty then Machine.facts.take 1
      else Machine.facts.filter fun f => os.has f.1
    say tool ([' '].intercalate (asked.map fun f => f.2.toList) ++ ['\n'])
    return 0

def arch : Tool := fun tool args _ =>
  withoutOperands tool "" args fun _ => do
    say tool (Machine.architecture.toList ++ ['\n'])
    return 0

def hostname : Tool := fun tool _ _ => do
  say tool (Machine.hostName.toList ++ ['\n'])
  return 0

def nproc : Tool := fun tool args _ =>
  withTable tool "all ignore=" args fun os operands => do
    match operands, (os.value? "ignore").filter fun v => (number? v).isNone with
    | extra :: _, _ => refuseOperand tool extra
    | [], some v =>
      complain tool ("invalid number: ".toList ++ inQuotes v)
      return 1
    | [], none =>
      let ignored := ((os.value? "ignore").bind number?).getD 0
      say tool ((toString (max 1 (Machine.processors - ignored))).toList ++ ['\n'])
      return 0

def which : Tool := fun tool args env => do
  match Options.ofArgs "a s" false args with
  | .error e =>
    let letter := (e.dropLast.getLast?).getD '?'
    let _ ← Act.write 2 (toOctets ("Illegal option -".toList ++ letter :: "\nUsage: /usr/bin/".toList ++ tool.toList ++
      " [-as] args\n".toList))
    return 2
  | .ok (os, names) =>
    let directories := Octets.splitOn 0x3a ((env.lookup (Octets.ofAscii "PATH")).getD [])
    let fs ← Act.tree
    let runs (path : Octets) : Bool :=
      match fs.locate false path with
      | .ok l => (match fs.get? l with
        | some (.file ..) => fs.modeAt l % 8 % 2 = 1 || fs.modeAt l / 8 % 2 = 1 || fs.modeAt l / 64 % 2 = 1
        | _ => false)
      | .error _ => false
    let found (name : Octets) : List Octets :=
      if name.contains Path.slash then [name].filter runs
      else (directories.map fun d => (if d.isEmpty then [0x2e] else d) ++ Path.slash :: name).filter runs
    let mut status := if names.isEmpty then 1 else 0
    for n in names do
      let paths := found (toOctets n)
      if paths.isEmpty then status := 1
      else if !os.has "s" then
        put tool ((if os.has "a" then paths else paths.take 1).flatMap fun p => p ++ [newline])
    return status

end TreePipeline.Tools
