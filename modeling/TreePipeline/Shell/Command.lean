import TreePipeline.Text.Octets

/-!
Commands of the shell in which stage tools may be written. Text is a list of characters of which
each stands for one octet.
-/

namespace TreePipeline.Shell

abbrev Chars := List Char

def toOctets (cs : Chars) : Octets := cs.map fun c => c.toNat.toUInt8

def ofOctets (bs : Octets) : Chars := bs.map fun b => Char.ofNat b.toNat

def specialCommands : List String :=
  ["break", ":", "continue", ".", "eval", "exec", "exit", "export", "local", "readonly", "return",
    "set", "shift", "times", "trap", "unset"]

abbrev Vars := List (String × Chars)

def Vars.put (vars : Vars) (name : String) (value : Chars) : Vars :=
  if (vars.lookup name).isSome then vars.map fun e => if e.1 = name then (name, value) else e
  else vars ++ [(name, value)]

inductive Form where
  | plain
  | length
  | orElse (colon : Bool)
  | assign (colon : Bool)
  | complain (colon : Bool)
  | instead (colon : Bool)
  | trimFront (longest : Bool)
  | trimBack (longest : Bool)
  | bad
  deriving DecidableEq

structure Source where
  text : Chars
  line : Nat
  deriving DecidableEq

inductive Part where
  | plain (text : Chars)
  | quoted (text : Chars)
  | parameter (name : String) (form : Form) (operand : Source) (inQuotes : Bool)
  | command (script : Source) (inQuotes : Bool)
  | arithmetic (expression : Source) (inQuotes : Bool)
  deriving DecidableEq

abbrev Word := List Part

inductive Direction where
  | input
  | output
  | replace
  | append
  | both
  | duplicate
  | here
  deriving DecidableEq

structure Redirection where
  fd : Nat
  direction : Direction
  goal : Word
  deriving DecidableEq

inductive Command where
  | simple (assignments : List (String × Word)) (words : List Word) (redirections : List Redirection)
      (line : Nat)
  | pipeline (commands : List Command)
  | negated (c : Command)
  | both (a b : Command)
  | either (a b : Command)
  | sequence (a b : Command)
  | background (c : Command)
  | group (c : Command) (redirections : List Redirection)
  | subshell (c : Command) (redirections : List Redirection)
  | branch (condition yes no : Command)
  | loop (stopWhen : Bool) (condition body : Command)
  | each (name : String) (words : Option (List Word)) (body : Command)
  | choice (word : Word) (cases : List (List Word × Command))
  | function (name : String) (body : Command)
  | onLine (line : Nat) (c : Command)
  | nothing

instance : Inhabited Command := ⟨.nothing⟩

end TreePipeline.Shell
