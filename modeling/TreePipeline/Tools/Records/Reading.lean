import TreePipeline.Tools.Records.Sought

/-!
The state of reading a script: the tokens that are left, and the variables and routines that were met.
-/

namespace TreePipeline.Tools.Records

open Shell

structure Complaint where
  text : Chars
  line : Nat
  numbered : Bool := true

structure Variable where
  routine : Option Nat
  place : Place
  deriving DecidableEq

inductive Use where
  | one
  | table
  deriving DecidableEq

structure Link where
  variable_ : Variable
  routine : Nat
  argument : Nat
  line : Nat

structure Header where
  name : String
  parameters : Nat := 0
  body : Option Statement := none

structure CallSite where
  routine : Nat
  arguments : Nat
  line : Nat

structure Reading where
  tokens : List Located
  names : Array String := knownNames.toArray
  routines : Array Header := #[]
  own : List String := []
  current : Option Nat := none
  uses : List (Variable × Use) := []
  links : List Link := []
  calls : List CallSite := []
  brackets : Nat := 0
  braces : Nat := 0
  loops : Nat := 0
  inRule : Bool := false
  complaints : List Complaint := []
  ended : Bool := false

abbrev Parse := ExceptT Complaint (StateM Reading)

namespace Parse

def peek : Parse Located := do return (← get).tokens.headD default

def peekToken : Parse Token := do return (← peek).token

def advance : Parse Unit := modify fun s => { s with tokens := s.tokens.drop 1 }

def failAt {α : Type} (l : Located) (text : Chars) : Parse α := throw { text := text, line := l.line }

def note (c : Complaint) : Parse Unit := modify fun s => { s with complaints := c :: s.complaints }

def noteAt (l : Located) (text : Chars) : Parse Unit := note { text := text, line := l.line }

def noteHere (text : Chars) : Parse Unit := do noteAt (← peek) text

def refuse {α : Type} : Parse α := do
  let l ← peek
  let s ← get
  let shown := l.token.shown
  let closes := l.token.isEnd || l.token.isSign "\x7d"
  match l.token with
  | .fault text numbered => throw { text := text, line := l.line, numbered := numbered }
  | .finish => failAt l ((if 0 < s.braces then "missing \x7d near " else "syntax error at or near ").toList ++ shown)
  | _ =>
    if closes ∧ 0 < s.brackets then failAt l ("missing ) near ".toList ++ shown)
    else failAt l ("syntax error at or near ".toList ++ shown)

def isSign (s : String) : Parse Bool := do return (← peekToken).isSign s

def isKeyword (s : String) : Parse Bool := do return (← peekToken).isKeyword s

def takes (s : String) : Parse Bool := do
  if ← isSign s then
    advance
    return true
  else return false

def sign (s : String) : Parse Unit := do if !(← takes s) then refuse

def opening : Parse Unit := do
  sign "("
  modify fun s => { s with brackets := s.brackets + 1 }

def closing : Parse Unit := do
  sign ")"
  modify fun s => { s with brackets := s.brackets - 1 }

def skipNewlines : Parse Unit :=
  modify fun s => { s with tokens := s.tokens.dropWhile fun l => l.token matches .newline }

def statementEnd : Parse Unit := do
  if (← peekToken).isEnd then advance else refuse

def placeOf (name : String) : Parse Place := do
  let s ← get
  match s.own.findIdx? (· == name) with
  | some i => return .own i
  | none =>
    match s.names.findIdx? (· == name) with
    | some i => return .shared i
    | none =>
      set { s with names := s.names.push name }
      return .shared s.names.size

def isVariable (name : String) : Parse Bool := do
  let s ← get
  return s.own.contains name || s.names.contains name

def variableAt (p : Place) : Parse Variable := do
  match p with
  | .shared _ => return ⟨none, p⟩
  | .own _ => return ⟨(← get).current, p⟩

def use (name : String) (u : Use) : Parse Place := do
  if (← get).routines.any fun h => h.name == name then
    noteHere ("illegal reference to function ".toList ++ name.toList)
  let p ← placeOf name
  let v ← variableAt p
  let s ← get
  match s.uses.lookup v with
  | none => set { s with uses := (v, u) :: s.uses }
  | some w =>
    if u ≠ w then
      let kind := match p, w with
        | .shared _, .one => "variable "
        | .shared _, .table => "array "
        | .own _, .one => "local variable "
        | .own _, .table => "local array "
      noteHere ("illegal reference to ".toList ++ kind.toList ++ name.toList)
  return p

def routineOf (name : String) : Parse Nat := do
  let s ← get
  match s.routines.findIdx? fun h => h.name == name with
  | some i => return i
  | none =>
    set { s with routines := s.routines.push { name := name } }
    return s.routines.size

def attempt {α : Type} (p : Parse (Option α)) : Parse (Option α) := ExceptT.mk fun s =>
  match p.run.run s with
  | (.ok (some a), t) => (.ok (some a), t)
  | _ => (.ok none, s)

def recover (c : Complaint) : Parse Unit := do
  if (← get).ended then throw c
  note c
  let s ← get
  if 5 ≤ s.complaints.length ∨ (s.tokens.headD default).token matches .fault .. then
    set { s with ended := true }
    throw c
  else
    let rest := s.tokens.dropWhile fun l => !l.token.isEnd && !(l.token matches .finish)
    let rest := if (rest.headD default).token.isEnd then rest.drop 1 else rest
    set { s with tokens := rest, brackets := 0 }

end Parse

end TreePipeline.Tools.Records
