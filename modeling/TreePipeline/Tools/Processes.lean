import TreePipeline.Tools.Basic
import TreePipeline.Tools.Condition
import TreePipeline.Tools.Format
import TreePipeline.Stage.Result

/-! Small programs that print, test, send signals, or start other programs. -/

namespace TreePipeline.Tools

open Shell Host

def true_ : Tool := fun _ _ _ => return 0

def false_ : Tool := fun _ _ _ => return 1

def readEcho : List Chars → (newline escapes : Bool) → Bool × Bool × List Chars
  | ('-' :: c :: cs) :: r, newline, escapes =>
    if (c :: cs).all "neE".toList.contains then
      let escapes := (c :: cs).foldl (fun on c => if c = 'n' then on else decide (c = 'e')) escapes
      readEcho r (newline && !(c :: cs).contains 'n') escapes
    else (newline, escapes, ('-' :: c :: cs) :: r)
  | r, newline, escapes => (newline, escapes, r)

def echo : Tool := fun tool args _ => do
  let (newline, escapes, words) := readEcho args true false
  let text := [' '].intercalate words
  let (text, stopped) :=
    if escapes then Format.unescapeAll true (text.length + 1) text else (text, false)
  say tool (text ++ if newline && !stopped then ['\n'] else [])
  return 0

def printf : Tool := fun tool args _ => do
  let args := if args.head? = some ['-', '-'] then args.drop 1 else args
  match args with
  | [] => misuse tool "missing operand".toList
  | format :: args =>
    let o := Format.print .program format args
    say tool o.text
    for c in o.complaints do
      complain tool c
    match o.stopped, o.used, o.args with
    | false, false, a :: _ =>
      complain tool (Format.warning ++ "ignoring excess arguments, starting with ".toList ++ inPlainQuotes a)
    | _, _, _ => pure ()
    return if o.complaints.all Format.warning.isPrefixOf then 0 else 1

def conditionOf (tool : String) (args : List Chars) : Act Nat := do
  match ← Condition.check args with
  | .ok b => return if b then 0 else 1
  | .error e => do
    complain tool e.message
    return 2

def test : Tool := fun tool args _ => conditionOf tool args

def bracket : Tool := fun tool args _ =>
  if args.getLast? = some [']'] then conditionOf tool args.dropLast
  else do
    complain tool ("missing ".toList ++ inQuotes [']'])
    return 2

def setsid : Tool := fun tool args env =>
  withTableElse 1 false tool "c,ctty f,fork w,wait" args fun os words => do
    if words.isEmpty then return ← misuse tool "no command specified".toList
    let become : Act Nat := becomeNamed tool ("failed to execute ".toList ++ ·) words env
    let apart : Act Nat := do
      let child : Act Nat := do
        let _ ← Act.call .newSession
        become
      let pid ← Act.fork child.run
      if os.has "w" then
        match ← Act.call (.waitFor pid false) with
        | .number n => return (WaitStatus.exitCode? n.toNat.toUInt32).getD 1
        | _ => return 1
      else return 0
    if os.has "f" then apart
    else
      match ← Act.call .newSession with
      | .failed _ => apart
      | _ => become

def nohup : Tool := fun tool args env =>
  withTableElse 125 false tool "" args fun _ words => do
    if words.isEmpty then return ← misuseWith 125 tool "missing operand".toList
    let _ ← Act.call (.dispose 1 .ignored)
    becomeNamed tool (fun name => "failed to run command ".toList ++ inQuotes name) words env

namespace Niceness

def usual : Int := 10

def signed? : Chars → Option Int
  | '-' :: ds => (number? ds).map fun n => -(n : Int)
  | '+' :: ds => (number? ds).map fun n => (n : Int)
  | ds => (number? ds).map fun n => (n : Int)

def spelledOut : List Chars → List Chars
  | ('-' :: c :: r) :: rest =>
    let digits := if c = '-' ∨ c = '+' then r else c :: r
    if digits.head?.any Char.isDigit then ('-' :: 'n' :: c :: r) :: spelledOut rest
    else if c = 'n' ∧ r.isEmpty then
      match rest with
      | [] => [['-', 'n']]
      | v :: rest => ('-' :: 'n' :: v) :: spelledOut rest
    else ('-' :: c :: r) :: (if c = '-' ∧ r.isEmpty then rest else spelledOut rest)
  | rest => rest

end Niceness

open Niceness in
def nice : Tool := fun tool args env =>
  withTableElse 125 false tool "n,adjustment=" (spelledOut args) fun os words => do
    let given := os.value? "n"
    match given.filter fun v => (signed? v).isNone with
    | some v =>
      complain tool ("invalid adjustment ".toList ++ inQuotes v)
      return 125
    | none =>
      if words.isEmpty then
        if given.isSome then misuseWith 125 tool "a command must be given with an adjustment".toList
        else
          match ← Act.call (.renice 0) with
          | .number n =>
            say tool ((toString n).toList ++ ['\n'])
            return 0
          | _ => return 125
      else
        let _ ← Act.call (.renice ((given.bind signed?).getD usual))
        becomeNamed tool inQuotes words env

def sync : Tool := fun tool args _ =>
  withTable tool "d,data f,file-system" args fun os paths => do
    if os.has "d" ∧ os.has "f" then
      complain tool "cannot specify both --data and --file-system".toList
      return 1
    if os.has "d" ∧ paths.isEmpty then
      complain tool "--data needs at least one argument".toList
      return 1
    let mut status := 0
    for p in paths do
      match ← Act.openFile (toOctets p) .read with
      | .ok fd => Act.close fd
      | .error e =>
        complainOf tool "error opening " p e
        status := 1
    return status

def kill : Tool := fun _ args _ => do
  let (signal, pids) := match args with
    | ['-', 's'] :: name :: r => (Signal.ofLongName? (String.ofList name), r)
    | ('-' :: name) :: r =>
      ((number? name).or (Signal.ofLongName? (String.ofList name)), r)
    | r => (some 15, r)
  match signal with
  | none => return 1
  | some n =>
    let rec go : List Chars → Nat → Act Nat
      | [], status => return status
      | p :: r, status => do
        let goal : Option Int := match p with
          | '-' :: ds => (number? ds).map fun n => -(n : Int)
          | ds => (number? ds).map fun n => (n : Int)
        match goal with
        | none => go r 1
        | some g =>
          match ← Act.call (.kill g n) with
          | .failed _ => go r 1
          | _ => go r status
    go pids 0

end TreePipeline.Tools
