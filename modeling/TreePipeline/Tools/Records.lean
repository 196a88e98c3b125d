import TreePipeline.Tools.Records.Evaluation
import TreePipeline.Tools.Records.Reader

/-! The small program that carries out a script for the records of files. -/

namespace TreePipeline.Tools

open Shell Host

namespace Records

structure Request where
  assignments : List (String × Value) := []
  files : List Chars := []
  rest : List Chars := []
  help : Bool := false

def readArguments : List Chars → Request → Except Chars Request
  | [], q => .ok q
  | ['-', '-'] :: r, q => .ok { q with rest := r }
  | ['-'] :: r, q => .ok { q with rest := ['-'] :: r }
  | ('-' :: '-' :: word) :: r, q =>
    if ["help".toList, "usage".toList].contains word then .ok { q with help := true }
    else if word = "posix".toList then readArguments r q
    else .error ("not an option: --".toList ++ word)
  | ['-', c] :: r, q =>
    if c ≠ 'f' ∧ c ≠ 'F' ∧ c ≠ 'v' ∧ c ≠ 'W' then .error ("not an option: -".toList ++ [c])
    else
      match r with
      | [] => .error ("option -".toList ++ [c] ++ " lacks argument".toList)
      | value :: r =>
        if c = 'W' ∧ ["help".toList, "usage".toList].contains value then .ok { q with help := true }
        else do readArguments r (← taken c value q)
  | ('-' :: c :: value) :: r, q =>
    if c ≠ 'f' ∧ c ≠ 'F' ∧ c ≠ 'v' ∧ c ≠ 'W' then .error ("not an option: -".toList ++ c :: value)
    else do readArguments r (← taken c value q)
  | args, q => .ok { q with rest := args }
where
  taken (c : Char) (value : Chars) (q : Request) : Except Chars Request :=
    match c with
    | 'f' => .ok { q with files := q.files ++ [value] }
    | 'F' =>
      .ok { q with assignments := ("FS", .given (unescaped (value.length + 1) value)) :: q.assignments }
    | 'v' =>
      match Work.assignment? value with
      | some a => .ok { q with assignments := a :: q.assignments }
      | none => .error ("improper assignment: -v ".toList ++ value)
    | _ => .error ("vacuous option: -W \"".toList ++ value ++ ['"'])

def usageText : String :=
  "Usage: mawk [Options] [Program] [file ...]\n\nProgram:\n" ++
  "    The -f option value is the name of a file containing program text.\n" ++
  "    If no -f option is given, a \"--\" ends option processing; the following\n" ++
  "    parameters are the program text.\n\nOptions:\n" ++
  "    -f program-file  Program  text is read from file instead of from the\n" ++
  "                     command-line.  Multiple -f options are accepted.\n" ++
  "    -F value         sets the field separator, FS, to value.\n" ++
  "    -v var=value     assigns value to program variable var.\n" ++
  "    --               unambiguous end of options.\n\n" ++
  "    Implementation-specific options are prefixed with \"-W\".  They can be\n" ++
  "    abbreviated:\n\n" ++
  "    -W version       show version information and exit.\n" ++
  "    -W dump          show assembler-like listing of program and exit.\n" ++
  "    -W help          show this message and exit.\n" ++
  "    -W interactive   set unbuffered output, line-buffered input.\n" ++
  "    -W exec file     use file as program as well as last option.\n" ++
  "    -W posix         stricter POSIX checking.\n" ++
  "    -W random=number set initial random seed.\n" ++
  "    -W sprintf=number adjust size of sprintf buffer.\n" ++
  "    -W usage         show this message and exit.\n"

def knownValues : List (String × Value) :=
  [("NF", .number 0), ("NR", .number 0), ("FNR", .number 0), ("FS", .text [' ']),
    ("OFS", .text [' ']), ("ORS", .text ['\n']), ("RS", .text ['\n']), ("SUBSEP", .text ['\x1c']),
    ("CONVFMT", .text "%.6g".toList), ("OFMT", .text "%.6g".toList)]

def argumentTable (tool : String) (args : List Chars) : Table :=
  (tool.toList :: args).zipIdx.foldl (fun t (a, i) => t.set (.whole i) (.given a)) {}

def environmentTable (env : Env) : Table :=
  env.foldl (fun t (name, value) => t.set (.text (ofOctets name)) (.given (ofOctets value))) {}

def World.start (s : Setting) (args : List Chars) (given : List (String × Value)) (seed : Int) : World :=
  let argumentCount : Value := .ofNat (args.length + 1)
  let known := ("ARGC", argumentCount) :: knownValues
  let tablesOf (n : Nat) : Table :=
    if Place.shared n = .environment then environmentTable s.env
    else if Place.shared n = .arguments then argumentTable s.tool args
    else {}
  let slot (name : String) (n : Nat) : Slot :=
    match s.script.tables.findIdx? (· == n) with
    | some k => .table (k + 1)
    | none => .one (((given.lookup name).or (known.lookup name)).getD .unset)
  { shared := s.script.names.mapIdx fun n name => slot name n
    tables := (({} : Table) :: s.script.tables.map tablesOf).toArray
    ranges := Array.replicate s.script.rules.length false
    chance := .ofSeed (seed % 4294967296).toNat.toUInt32
    seed := .number (ofInt seed) }

def scriptIn (tool : String) : List Chars → Act Chars
  | [] => return []
  | p :: r => do
    match ← contentsAt p with
    | .ok bs =>
      let rest ← scriptIn tool r
      let text := ofOctets bs
      return if rest.isEmpty then text
        else (if text.getLast? = some '\n' then text else text ++ ['\n']) ++ rest
    | .error e =>
      complain tool ("cannot open ".toList ++ p ++ " (".toList ++ faultText e ++ [')'])
      Act.exit 2
where
  contentsAt (p : Chars) : Act (Except SystemError Octets) := do
    match ← openInput p with
    | .error e => return .error e
    | .ok fd =>
      let r ← Act.readAll fd maxReads []
      if fd ≠ 0 then Act.close fd
      return r

def run (tool : String) (env : Env) (q : Request) : Act Nat := do
  let (text, args) ←
    if q.files.isEmpty then pure (q.rest.headD [], q.rest.drop 1)
    else do pure (← scriptIn tool q.files, q.rest)
  match Script.read text with
  | .error cs =>
    let place := match q.files.getLast? with
      | some p => p ++ ": ".toList
      | none => []
    for c in cs do
      complain tool (place ++ (if c.numbered then "line ".toList else []) ++ (toString c.line).toList ++
        ": ".toList ++ c.text)
    return 2
  | .ok script =>
    if script.rules.isEmpty then return 0
    else
      let s : Setting := ⟨tool, env, script⟩
      let seed := (← presentNanos) / 1000000000
      let (r, _) ← (runScript s).run.run (World.start s args q.assignments seed)
      return r.toOption.getD 0

end Records

open Records in
def awk : Tool := fun tool args env => do
  match readArguments args {} with
  | .error e =>
    complain tool e
    return 2
  | .ok q =>
    if q.help then
      say tool usageText.toList
      return 0
    else if args.isEmpty then
      let _ ← Act.write 2 (Octets.ofAscii usageText)
      return 0
    else Records.run tool env q

end TreePipeline.Tools
