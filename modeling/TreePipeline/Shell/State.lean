import TreePipeline.Host.Program
import TreePipeline.Shell.Job

/-! The state of a shell, and the pieces of program that act on it. -/

namespace TreePipeline.Shell

open Host

structure Variable where
  name : String
  value : Option Chars
  exported : Bool
  fixed : Bool

structure State where
  vars : Vars
  exported : List String
  name : Chars
  args : List Chars
  status : Nat
  pid : Nat
  lastBackground : Option Nat
  jobs : List Job
  functions : List (String × Command)
  aliases : List (String × Chars)
  nextOption : Nat × Option Nat
  traps : List (Nat × Chars)
  leaving : Option Nat
  substituted : Nat
  line : Nat
  stopOnError : Bool
  refuseUnset : Bool
  noGlob : Bool
  trace : Bool
  dry : Bool
  exportAll : Bool
  keepFiles : Bool
  guarded : Nat
  locals : List (List Variable)
  loops : Nat
  fixed : List String
  directory : Chars
  context : Chars

inductive Flow where
  | normal
  | leave (loops : Nat)
  | again (loops : Nat)
  | returned
  deriving DecidableEq

inductive Stop where
  | fault
  | ended
  deriving DecidableEq

abbrev Sh := ExceptT Stop (StateT State Act)

namespace Sh

def act {α : Type} (a : Act α) : Sh α := fun s k => a fun x => k (.ok x, s)

def attempt {α : Type} (body : Sh α) : Sh (Except Stop α) := fun s k =>
  body s fun (r, s) => k (.ok r, s)

def afterwards {α : Type} (last : Sh Unit) (body : Sh α) : Sh α := do
  let r ← attempt body
  last
  match r with
  | .ok a => return a
  | .error e => throw e

def exit {α : Type} (status : Nat) : Sh α := fun _ _ => .exit (status % 256)

def getVar (name : String) : Sh (Option Chars) := do return (← get).vars.lookup name

def putVar (name : String) (value : Chars) : Sh Unit :=
  modify fun s => { s with
    vars := s.vars.put name value
    nextOption :=
      if name = "OPTIND" then (max 1 ((String.ofList value).toNat?.getD 1), none) else s.nextOption }

def setArgs (args : List Chars) : Sh Unit :=
  modify fun s => { s with args := args, nextOption := (1, none) }

def unsetVar (name : String) : Sh Unit :=
  modify fun s => { s with
    vars := s.vars.filter fun e => e.1 ≠ name, exported := s.exported.filter (· ≠ name) }

def variable_ (name : String) : Sh Variable := do
  let s ← get
  return ⟨name, s.vars.lookup name, s.exported.contains name, s.fixed.contains name⟩

def restore (v : Variable) : Sh Unit :=
  modify fun s => { s with
    vars := match v.value with
      | some t => s.vars.put v.name t
      | none => s.vars.filter fun e => e.1 ≠ v.name
    exported := (if v.exported then [v.name] else []) ++ s.exported.filter (· ≠ v.name)
    fixed := (if v.fixed then [v.name] else []) ++ s.fixed.filter (· ≠ v.name) }

def setStatus (n : Nat) : Sh Unit := modify fun s => { s with status := n }

def write (fd : Nat) (cs : Chars) : Sh (Except SystemError Unit) := act (Act.write fd (toOctets cs))

def octetChars (text : String) : Chars := ofOctets (Utf8.encode text)

def complain (text : Chars) : Sh Unit := do
  let s ← get
  let place := octetChars (": " ++ toString s.line ++ ": ")
  let _ ← write 2 (s.name ++ place ++ s.context ++ text ++ ['\n'])

def within {α : Type} (context : Chars) (body : Sh α) : Sh α := do
  let old := (← get).context
  modify fun s => { s with context := context }
  afterwards (modify fun s => { s with context := old }) body

def fatal {α : Type} (text : Chars) (status : Nat) : Sh α := do
  complain text
  setStatus status
  throw .fault

def finish {α : Type} : Sh α := do
  modify fun s => { s with status := s.leaving.getD s.status }
  throw .ended

def markExported (name : String) : Sh Unit :=
  modify fun s => { s with exported := name :: s.exported.filter (· ≠ name) }

def exportVar (name : String) (value : Chars) : Sh Unit := do
  putVar name value
  markExported name

def setVar (name : String) (value : Chars) : Sh Unit := do
  if (← get).fixed.contains name then fatal (name.toList ++ ": is read only".toList) 2
  else
    putVar name value
    if (← get).exportAll then markExported name

def shelves : Nat := 39

def shelf (name : String) : Nat :=
  match name.toList with
  | [] => 0
  | c :: cs => (16 * c.toNat + ((c :: cs).map Char.toNat).foldl Nat.add 0) % shelves

def environment (s : State) : Env :=
  let own := s.vars.filter fun e => s.exported.contains e.1
  (own.mergeSort fun a b => shelf a.1 ≤ shelf b.1).map fun (n, v) => (Utf8.encode n, toOctets v)

def parameter (name : String) : Sh (Option Chars) := do
  let s ← get
  match name with
  | "?" => return some (toString s.status).toList
  | "$" => return some (toString s.pid).toList
  | "!" => return s.lastBackground.map fun n => (toString n).toList
  | "#" => return some (toString s.args.length).toList
  | "-" =>
    let flag (on : Bool) (c : Char) : Chars := if on then [c] else []
    return some (flag s.refuseUnset 'u' ++ flag s.exportAll 'a' ++ flag s.keepFiles 'C' ++
      flag s.trace 'x' ++ flag s.noGlob 'f' ++ flag s.stopOnError 'e')
  | "0" => return some s.name
  | name =>
    match name.toNat? with
    | some n => return s.args[n - 1]?
    | none => return s.vars.lookup name

end Sh

end TreePipeline.Shell
