import TreePipeline.Tools.Basic
import TreePipeline.Tools.Regular.Reader

/-!
A small program that works out expressions given word by word. Operators bind, from the loosest on: or,
and, comparison, sum, product, match; an operand may be in brackets, and a word after `+` is never an
operator.
-/

namespace TreePipeline.Tools

open Shell Host

namespace Expression

inductive Value where
  | number (n : Int)
  | text (cs : Chars)

namespace Value

def number? : Value → Option Int
  | number n => some n
  | text ('-' :: ds) => (Tools.number? ds).map fun n => -(n : Int)
  | text ds => (Tools.number? ds).map Int.ofNat

def shown : Value → Chars
  | number n => (toString n).toList
  | text cs => cs

def isNothing : Value → Bool
  | number n => n = 0
  | text [] => true
  | text ('-' :: ds) => !ds.isEmpty && ds.all (· = '0')
  | text ds => ds.all (· = '0')

def zero : Value := number 0

end Value

abbrev Words := List Chars

structure Place where
  last : Chars
  rest : Words

abbrev Step := StateT Place (Except Chars)

def syntaxFault (text : String) (word : Chars) : Chars :=
  "syntax error: ".toList ++ text.toList ++ ' ' :: inPlainQuotes word

def take? (words : List String) : Step (Option String) := do
  let p ← get
  match p.rest with
  | w :: r =>
    match words.find? fun o => o.toList = w with
    | some o =>
      set (⟨w, r⟩ : Place)
      return some o
    | none => return none
  | [] => return none

def next : Step Chars := do
  let p ← get
  match p.rest with
  | w :: r =>
    set (⟨w, r⟩ : Place)
    return w
  | [] => throw (syntaxFault "missing argument after" p.last)

def matched (text pattern : Chars) : Except Chars Value := do
  match Matcher.read .calculating false pattern with
  | .error e => throw e.message.toList
  | .ok m =>
    match m.atFront? text with
    | some found => return if 0 < m.groups then .text (found.piece text 1) else .number found.stop
    | none => return if 0 < m.groups then .text [] else .zero

def arithmetic (operator : String) (a b : Value) : Except Chars Value := do
  match a.number?, b.number? with
  | some m, some n =>
    match operator with
    | "+" => return .number (m + n)
    | "-" => return .number (m - n)
    | "*" => return .number (m * n)
    | _ =>
      if n = 0 then throw "division by zero".toList
      else return .number (if operator = "/" then Int.tdiv m n else Int.tmod m n)
  | _, _ => throw "non-integer argument".toList

def textOrder : Chars → Chars → Ordering
  | [], [] => .eq
  | [], _ => .lt
  | _, [] => .gt
  | a :: r, b :: s => if a < b then .lt else if b < a then .gt else textOrder r s

def compared (operator : String) (a b : Value) : Value :=
  let order : Ordering := match (Value.text a.shown).number?, (Value.text b.shown).number? with
    | some m, some n => if m < n then .lt else if n < m then .gt else .eq
    | _, _ => textOrder a.shown b.shown
  let holds : Bool := match operator with
    | "<" => order = .lt
    | "<=" => order ≠ .gt
    | "!=" => order ≠ .eq
    | ">=" => order ≠ .lt
    | ">" => order = .gt
    | _ => order = .eq
  .number (if holds then 1 else 0)

def substring (text : Chars) (start length : Value) : Value :=
  match start.number?, length.number? with
  | some s, some n => if s ≤ 0 ∨ n ≤ 0 then .text [] else .text ((text.drop (s.toNat - 1)).take n.toNat)
  | _, _ => .text []

inductive Level where
  | or
  | and
  | comparison
  | sum
  | product
  | match_
  | operand

def Level.operators : Level → List String
  | or => ["|"]
  | and => ["&"]
  | comparison => ["<", "<=", "=", "==", "!=", ">=", ">"]
  | sum => ["+", "-"]
  | product => ["*", "/", "%"]
  | match_ => [":"]
  | operand => []

def Level.tighter : Level → Level
  | or => and
  | and => comparison
  | comparison => sum
  | sum => product
  | product => match_
  | _ => operand

def combine (level : Level) (operator : String) (a b : Value) : Except Chars Value :=
  match level with
  | .or => .ok (if !a.isNothing then a else if b.isNothing then .zero else b)
  | .and => .ok (if a.isNothing || b.isNothing then .zero else a)
  | .comparison => .ok (compared operator a b)
  | .match_ => matched a.shown b.shown
  | _ => arithmetic operator a b

def chain (level : Level) (tighter : Bool → Step Value) (matters : Bool) : Nat → Value → Step Value
  | 0, a => return a
  | rounds + 1, a => do
    match ← take? level.operators with
    | none => return a
    | some o =>
      let needed := match level with
        | .or => a.isNothing
        | .and => !a.isNothing
        | _ => true
      let b ← tighter (matters && needed)
      if matters then chain level tighter matters rounds (← combine level o a b)
      else chain level tighter matters rounds a

def evaluate : Nat → Level → (matters : Bool) → Step Value
  | 0, _, _ => return .zero
  | fuel + 1, .operand, matters => do
    match ← take? ["+", "length", "match", "index", "substr"] with
    | some "+" => return .text (← next)
    | some "length" =>
      let v ← evaluate fuel .operand matters
      return .number v.shown.length
    | some "match" =>
      let a ← evaluate fuel .operand matters
      let b ← evaluate fuel .operand matters
      if matters then matched a.shown b.shown else return a
    | some "index" =>
      let a ← evaluate fuel .operand matters
      let b ← evaluate fuel .operand matters
      return .number (match a.shown.findIdx? b.shown.contains with
        | some i => i + 1
        | none => 0)
    | some _ =>
      let a ← evaluate fuel .operand matters
      let start ← evaluate fuel .operand matters
      let length ← evaluate fuel .operand matters
      return substring a.shown start length
    | none =>
      let w ← next
      if w = ['('] then
        let v ← evaluate fuel .or matters
        let p ← get
        match p.rest with
        | [] => throw (syntaxFault "expecting ')' after" p.last)
        | [')'] :: r =>
          set (⟨[')'], r⟩ : Place)
          return v
        | w :: _ => throw (syntaxFault "expecting ')' instead of" w)
      else if w = [')'] then throw "syntax error: unexpected ')'".toList
      else return .text w
  | fuel + 1, level, matters => do
    let tighter : Bool → Step Value := evaluate fuel level.tighter
    chain level tighter matters fuel (← tighter matters)

def value (words : List Chars) : Except Chars Value := do
  let (v, p) ← (evaluate (8 * words.length + 16) .or true).run ⟨[], words⟩
  match p.rest with
  | [] => return v
  | w :: _ => throw (syntaxFault "unexpected argument" w)

end Expression

def expr : Tool := fun tool args _ => do
  let args := if args.head? = some "--".toList then args.drop 1 else args
  if args.isEmpty then misuseWith 2 tool "missing operand".toList
  else
    match Expression.value args with
    | .ok v =>
      say tool (v.shown ++ ['\n'])
      return if v.isNothing then 1 else 0
    | .error e =>
      complain tool e
      return 2

end TreePipeline.Tools
