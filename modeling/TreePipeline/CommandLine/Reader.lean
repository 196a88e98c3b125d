import TreePipeline.CommandLine.Given

/-!
Reading the command line, word by word. The value of an option is part of its word or the next
word; it takes its place when the next option comes or the words end. After `--` no word is an
option. What stands after the command's name goes before what stands in front of it.
-/

namespace TreePipeline.CommandLine

inductive Pending where
  | nothing
  | wanted (s : Setting)
  | value (s : Setting) (v : String)
  | reference (v : String)
  deriving DecidableEq

structure Progress where
  given : Given
  pending : Pending
  literal : Bool
  deriving DecidableEq

namespace Progress

def start : Progress := ⟨.empty, .nothing, false⟩

def isWanting (p : Progress) : Bool :=
  match p.pending with
  | .wanted _ => true
  | _ => false

def settle (p : Progress) : Except Notice Given :=
  match p.pending with
  | .nothing => .ok p.given
  | .wanted _ => .error .usage
  | .value s v => p.given.set s v
  | .reference v => p.given.refer v

def raise (p : Progress) (f : Flag) : Except Notice Progress := do
  let g ← p.settle
  return { p with given := ← g.raise f, pending := .nothing }

def attach (p : Progress) (s : Setting) (v : List Char) : Except Notice Progress := do
  let g ← p.settle
  return { p with given := ← g.set s (String.ofList v), pending := .nothing }

def want (p : Progress) (s : Setting) : Except Notice Progress := do
  let g ← p.settle
  return { p with given := g, pending := .wanted s }

def readPlain (scope : Scope) (p : Progress) (word : String) : Except Notice Progress :=
  match p.literal, p.pending with
  | false, .wanted s => .ok { p with pending := .value s word }
  | _, _ => do
    let g ← p.settle
    if scope = .resolve ∧ g.reference = none then
      return { p with given := g, pending := .reference word }
    else throw .usage

def readLetters (scope : Scope) (p : Progress) : List Char → Except Notice Progress
  | [] => .ok p
  | c :: rest =>
    match ofShort? scope c with
    | none => .error .usage
    | some (.flag f) => do
      let p ← p.raise f
      readLetters scope p rest
    | some (.setting s) =>
      match rest with
      | [] => p.want s
      | '=' :: v => p.attach s v
      | v => p.attach s v

def readLong (scope : Scope) (p : Progress) (cs : List Char) : Except Notice Progress :=
  let name := cs.takeWhile fun c => c ≠ '='
  match ofLong? scope (String.ofList name), cs.drop name.length with
  | some (.flag f), [] => p.raise f
  | some (.setting s), [] => p.want s
  | some (.setting s), _ :: v => p.attach s v
  | _, _ => .error .usage

def readWord (scope : Scope) (p : Progress) (word : String) : Except Notice Progress :=
  if p.literal then p.readPlain scope word
  else
    match word.toList with
    | ['-', '-'] => .ok { p with literal := true }
    | '-' :: '-' :: cs => p.readLong scope cs
    | '-' :: c :: cs => p.readLetters scope (c :: cs)
    | _ => p.readPlain scope word

end Progress

def helpFor : List String → Notice
  | [] => .help
  | [name] => if name = helpCommand ∨ (commands.lookup name).isSome then .help else .usage
  | _ => .usage

def readTop (p : Progress) : List String → Except Notice (Progress × Scope × List String)
  | [] => .error .usage
  | word :: rest =>
    if p.literal || p.isWanting then do
      let p ← p.readWord .top word
      readTop p rest
    else if word = helpCommand then .error (helpFor rest)
    else
      match commands.lookup word with
      | some scope => .ok (p, scope, rest)
      | none => do
        let p ← p.readWord .top word
        readTop p rest

def combine (top under : Given) (command : Command) : Request where
  verbose := under.flags.contains .verbose || top.flags.contains .verbose
  json := under.flags.contains .json || top.flags.contains .json
  overrides := under.overrides.orElse top.overrides
  command := command

def read (words : List String) : Except Notice Request := do
  let (top, scope, rest) ← readTop .start words
  let under ← rest.foldlM (Progress.readWord scope) Progress.start
  let under ← under.settle
  match under.command? scope with
  | none => throw .usage
  | some command =>
    let top ← top.settle
    return combine top under command

end TreePipeline.CommandLine
