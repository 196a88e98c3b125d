import TreePipeline.Shell.Reader
import TreePipeline.Tools.Basic

/-!
Small programs that show the environment or run other programs in a changed one. The arguments of
`env` may be packed into one text, which is taken apart much as a shell would do it.
-/

namespace TreePipeline.Tools

open Shell Host

namespace Environment

def isAssignment (cs : Chars) : Bool := cs.contains '='

def with_ (env : Env) (name value : Octets) : Env :=
  if env.any fun e => e.1 = name then env.map fun e => if e.1 = name then (name, value) else e
  else env ++ [(name, value)]

def assign (env : Env) (cs : Chars) : Env :=
  let name := cs.takeWhile (· ≠ '=')
  with_ env (toOctets name) (toOctets (cs.drop (name.length + 1)))

def isSpace (c : Char) : Bool := c = ' ' || ('\t' ≤ c && c ≤ '\r')

/-! Texts that are taken apart. -/

inductive Quote where
  | none
  | single
  | double
  deriving DecidableEq

inductive SplitFault where
  | unclosed
  | backslashAtEnd
  | badSequence (c : Char)
  | cutInQuotes
  | badVariable (rest : Chars)

def SplitFault.message : SplitFault → Chars
  | .unclosed => "no terminating quote in -S string".toList
  | .backslashAtEnd => "invalid backslash at end of string in -S".toList
  | .badSequence c => "invalid sequence '\\".toList ++ c :: "' in -S".toList
  | .cutInQuotes => "'\\c' must not appear in double-quoted -S string".toList
  | .badVariable rest => "only $\x7bVARNAME\x7d expansion is supported, error at: ".toList ++ rest

structure Words where
  done : List Chars := []
  apart : Bool := true

namespace Words

def add (w : Words) (cs : Chars) : Words :=
  if w.apart then ⟨cs :: w.done, false⟩
  else
    match w.done with
    | [] => ⟨[cs], false⟩
    | d :: ds => ⟨(d ++ cs) :: ds, false⟩

def part (w : Words) : Words := { w with apart := true }

end Words

def braced? : Chars → Option (Chars × Chars)
  | '\x7b' :: r =>
    let name := r.takeWhile fun c => c.isAlphanum || c = '_'
    match r.drop name.length with
    | '\x7d' :: rest => if Reader.isGoodName name then some (name, rest) else none
    | _ => none
  | _ => none

def split (env : Env) : (fuel : Nat) → Quote → Chars → Words → Except SplitFault (List Chars)
  | 0, _, _, w => .ok w.done.reverse
  | _ + 1, q, [], w => if q = .none then .ok w.done.reverse else .error .unclosed
  | fuel + 1, q, c :: r, w =>
    if c = '\'' ∧ q ≠ .double then
      split env fuel (if q = .single then .none else .single) r (w.add [])
    else if c = '"' ∧ q ≠ .single then
      split env fuel (if q = .double then .none else .double) r (w.add [])
    else if isSpace c ∧ q = .none then split env fuel q (r.dropWhile isSpace) w.part
    else if c = '#' ∧ w.apart then split env fuel q [] w
    else if c = '$' ∧ q ≠ .single then
      match braced? r with
      | none => .error (.badVariable (c :: r))
      | some (name, rest) =>
        match env.lookup (toOctets name) with
        | some v => split env fuel q rest (w.add (ofOctets v))
        | none => split env fuel q rest w
    else if c = '\\' ∧ (q ≠ .single ∨ r.head? = some '\\' ∨ r.head? = some '\'') then
      match r with
      | [] => .error .backslashAtEnd
      | e :: r =>
        if "\"#$'\\".toList.contains e then split env fuel q r (w.add [e])
        else if e = '_' then split env fuel q r (if q = .double then w.add [' '] else w.part)
        else if e = 'c' then if q = .double then .error .cutInQuotes else split env fuel q [] w
        else
          match [('f', '\x0c'), ('n', '\n'), ('r', '\r'), ('t', '\t'), ('v', '\x0b')].lookup e with
          | some s => split env fuel q r (w.add [s])
          | none => .error (.badSequence e)
    else split env fuel q r (w.add [c])

/-! The options of `env`. -/

def table : String :=
  "i,ignore-environment u,unset= C,chdir= S,split-string= 0,null v,debug block-signal=? " ++
    "default-signal=? ignore-signal=? list-signal-handling"

inductive Misuse where
  | option (text : Chars)
  | text (fault : SplitFault)

def readArgs (env : Env) : (fuel : Nat) → List Chars → Except Misuse (Options × List Chars)
  | 0, args => .ok ([], args)
  | fuel + 1, args =>
    let forms := OptionForm.table table
    let more (r : Except Chars (Options × List Chars)) : Except Misuse (Options × List Chars) :=
      match r with
      | .error e => .error (.option e)
      | .ok (os, rest) =>
        match os.getLast? with
        | some ("S", some text) =>
          match split env (text.length + 1) .none text {} with
          | .error e => .error (.text e)
          | .ok words => (readArgs env fuel (words ++ rest)).map fun (qs, as) => (os ++ qs, as)
        | _ => (readArgs env fuel rest).map fun (qs, as) => (os ++ qs, as)
    match args with
    | ['-', '-'] :: r => .ok ([], r)
    | ('-' :: '-' :: word) :: r => more ((Options.readWord forms word r).map fun (o, r) => ([o], r))
    | ('-' :: c :: cs) :: r => more (Options.readLetters forms (c :: cs) r)
    | as => .ok ([], as)

def hint : Chars := "use -[v]S to pass options in shebang lines".toList

def misuseStatus : Nat := 125

end Environment

def showEnv (tool : String) (ending : UInt8) (env : Env) : Act Nat := do
  put tool (env.flatMap fun (k, v) => k ++ [0x3d] ++ v ++ [ending])
  return 0

open Environment in
def env : Tool := fun tool args env => do
  match readArgs env (args.length + (args.map List.length).foldl Nat.add 0 + 1) args with
  | .error (.text fault) =>
    complain tool fault.message
    return misuseStatus
  | .error (.option e) =>
    if args.any fun a => a.head? = some '-' ∧ a.any isSpace ∧ e.getLast? = some '\'' ∧
        e.dropLast.getLast?.any isSpace then
      complain tool e
      complain tool hint
      pointToHelp misuseStatus tool
    else misuseWith misuseStatus tool e
  | .ok (os, words) =>
    let bare := os.has "i" || words.head? = some ['-']
    let words := if words.head? = some ['-'] then words.drop 1 else words
    let base := if bare then [] else env
    let bad := (os.values "u").find? fun n => n.isEmpty ∨ n.contains '='
    if let some n := bad then
      complain tool ("cannot unset ".toList ++ inQuotes n ++ ": Invalid argument".toList)
      return misuseStatus
    let base := base.filter fun e => !(os.values "u").any fun n => toOctets n = e.1
    let settings := words.takeWhile isAssignment
    let env := settings.foldl assign base
    match words.drop settings.length with
    | [] =>
      if os.has "C" then misuseWith misuseStatus tool "must specify command with --chdir (-C)".toList
      else showEnv tool (if os.has "0" then 0 else newline) env
    | command =>
      if os.has "0" then
        misuseWith misuseStatus tool "cannot specify --null (-0) with command".toList
      else
        match os.value? "C" with
        | none => start tool command env
        | some d =>
          match ← Act.call (.changeDirectory (toOctets d)) with
          | .failed e =>
            complain tool ("cannot change directory to ".toList ++ inQuotes d ++ ": ".toList ++ faultText e)
            return misuseStatus
          | _ => start tool command env
where
  start (tool : String) (command : List Chars) (env : Env) : Act Nat := do
    let status ← becomeNamed tool inQuotes command env
    if status = 127 ∧ (command.headD []).any isSpace then complain tool hint
    return status

def printenv : Tool := fun tool args env =>
  withTableElse 2 false tool "0,null" args fun os names => do
    let ending : UInt8 := if os.has "0" then 0 else newline
    if names.isEmpty then showEnv tool ending env
    else
      let found := names.filterMap fun n => if n.contains '=' then none else env.lookup (toOctets n)
      put tool (found.flatMap fun v => v ++ [ending])
      return if found.length = names.length then 0 else 1

end TreePipeline.Tools
