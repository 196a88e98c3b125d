import TreePipeline.Shell.Command

/-! Arithmetic expressions over integers of 64 bits, which wrap. -/

namespace TreePipeline.Shell.Arithmetic

inductive Fault where
  | expecting (what : String)
  | divisionByZero
  | illegalNumber (text : Chars)
  | fixed (name : String)
  deriving DecidableEq

structure Input where
  rest : Chars
  vars : Vars
  fixed : List String

abbrev Evaluator := StateT Input (Except Fault)

def wrap (n : Int) : Int := n.bmod (0x10000000000000000)

def ofBool (b : Bool) : Int := if b then 1 else 0

def isSpace (c : Char) : Bool := c = ' ' || c = '\t' || c = '\n'

def skipSpace : Evaluator Unit :=
  modify fun s => { s with rest := s.rest.dropWhile isSpace }

def digitValue (c : Char) : Nat :=
  if c.isDigit then c.toNat - 48
  else if 'a' ≤ c ∧ c ≤ 'f' then c.toNat - 87
  else if 'A' ≤ c ∧ c ≤ 'F' then c.toNat - 55
  else 99

def greatest : Int := 0x7fffffffffffffff

def ofDigits (base : Nat) (ds : Chars) : Option Nat :=
  if ds.isEmpty || ds.any (fun c => base ≤ digitValue c) then none
  else some (ds.foldl (fun n c => n * base + digitValue c) 0)

def numeral? (cs : Chars) : Option Nat :=
  match cs with
  | '0' :: 'x' :: ds => ofDigits 16 ds
  | '0' :: 'X' :: ds => ofDigits 16 ds
  | '0' :: d :: ds => ofDigits 8 (d :: ds)
  | ds => ofDigits 10 ds

def valueOf (vars : Vars) (name : String) : Except Fault Int :=
  match vars.lookup name with
  | none => .ok 0
  | some text =>
    let t := (text.dropWhile isSpace)
    let (neg, ds) := match t with
      | '-' :: r => (true, r)
      | '+' :: r => (false, r)
      | r => (false, r)
    if t.isEmpty then .ok 0
    else
      match numeral? ds with
      | some n =>
        if greatest + (if neg then 1 else 0) < n then .error (.illegalNumber text)
        else .ok (if neg then -(n : Int) else n)
      | none => .error (.illegalNumber text)

def operators : List (String × Nat) :=
  [("||", 1), ("&&", 2), ("==", 6), ("!=", 6), ("<=", 7), (">=", 7), ("<<", 8), (">>", 8),
    ("|", 3), ("^", 4), ("&", 5), ("<", 7), (">", 7), ("+", 9), ("-", 9), ("*", 10), ("/", 10),
    ("%", 10)]

def startsWith (cs : Chars) (s : String) : Bool := s.toList.isPrefixOf cs

def operator? (cs : Chars) : Option (String × Nat) := operators.find? fun (s, _) => startsWith cs s

def apply (op : String) (a b : Int) : Except Fault Int :=
  match op with
  | "+" => .ok (wrap (a + b))
  | "-" => .ok (wrap (a - b))
  | "*" => .ok (wrap (a * b))
  | "/" => if b = 0 then .error .divisionByZero else .ok (wrap (a.tdiv b))
  | "%" => if b = 0 then .error .divisionByZero else .ok (wrap (a.tmod b))
  | "<<" => .ok (wrap (a * Nat.pow 2 (b % 64).toNat))
  | ">>" => .ok (a / Nat.pow 2 (b % 64).toNat)
  | "<" => .ok (ofBool (a < b))
  | ">" => .ok (ofBool (b < a))
  | "<=" => .ok (ofBool (a ≤ b))
  | ">=" => .ok (ofBool (b ≤ a))
  | "==" => .ok (ofBool (a = b))
  | "!=" => .ok (ofBool (a ≠ b))
  | "&" => .ok (Int64.ofInt a &&& Int64.ofInt b).toInt
  | "|" => .ok (Int64.ofInt a ||| Int64.ofInt b).toInt
  | "^" => .ok (Int64.ofInt a ^^^ Int64.ofInt b).toInt
  | "&&" => .ok (ofBool (a ≠ 0 && b ≠ 0))
  | "||" => .ok (ofBool (a ≠ 0 || b ≠ 0))
  | _ => .error (.expecting "EOF")

def assignments : List (String × String) :=
  [("<<=", "<<"), (">>=", ">>"), ("+=", "+"), ("-=", "-"), ("*=", "*"), ("/=", "/"), ("%=", "%"),
    ("&=", "&"), ("|=", "|"), ("^=", "^")]

def setVar (name : String) (n : Int) : Evaluator Unit := do
  if (← get).fixed.contains name then throw (.fixed name)
  modify fun s => { s with vars := s.vars.put name (toString n).toList }

def isNameStart (c : Char) : Bool := c.isAlpha || c = '_'

def isNameChar (c : Char) : Bool := c.isAlphanum || c = '_'

def skip (n : Nat) : Evaluator Unit := modify fun s => { s with rest := s.rest.drop n }

mutual

def expression (live : Bool) : Nat → Evaluator Int
  | 0 => throw (.expecting "primary")
  | fuel + 1 => do
    skipSpace
    let cs := (← get).rest
    let name := match cs with
      | c :: _ => if isNameStart c then cs.takeWhile isNameChar else []
      | [] => []
    let after := (cs.drop name.length).dropWhile isSpace
    let key := String.ofList name
    let gap := cs.length - after.length
    match name.isEmpty, after with
    | false, '=' :: '=' :: _ => ternary live fuel
    | false, '=' :: _ => do
      skip (gap + 1)
      let v ← expression live fuel
      if live then setVar key v
      return v
    | false, _ =>
      match assignments.find? fun (s, _) => startsWith after s with
      | some (s, op) => do
        skip (gap + s.length)
        let v ← expression live fuel
        if live then
          let old ← valueOf (← get).vars key
          let n ← apply op old v
          setVar key n
          return n
        else return 0
      | none => ternary live fuel
    | true, _ => ternary live fuel

def ternary (live : Bool) : Nat → Evaluator Int
  | 0 => throw (.expecting "primary")
  | fuel + 1 => do
    let c ← unary live fuel
    let c ← binary live 0 fuel c
    skipSpace
    match (← get).rest with
    | '?' :: _ => do
      skip 1
      let a ← expression (live && c ≠ 0) fuel
      skipSpace
      match (← get).rest with
      | ':' :: _ => do
        skip 1
        let b ← ternary (live && c = 0) fuel
        return if c ≠ 0 then a else b
      | _ => throw (.expecting "':'")
    | _ => return c

def binary (live : Bool) (level : Nat) : Nat → Int → Evaluator Int
  | 0, a => return a
  | fuel + 1, a => do
    skipSpace
    match operator? (← get).rest with
    | none => return a
    | some (op, p) =>
      if p ≤ level then return a
      else
        skip op.length
        let need := live && !(op = "&&" && a = 0) && !(op = "||" && a ≠ 0)
        let b ← unary need fuel
        let b ← binary need p fuel b
        let v ← if need then apply op a b else pure (if op = "||" then ofBool (a ≠ 0) else 0)
        binary live level fuel v

def unary (live : Bool) : Nat → Evaluator Int
  | 0 => throw (.expecting "primary")
  | fuel + 1 => do
    skipSpace
    match (← get).rest with
    | '-' :: _ => do
      skip 1
      return wrap (-(← unary live fuel))
    | '+' :: _ => do
      skip 1
      unary live fuel
    | '!' :: _ => do
      skip 1
      return ofBool ((← unary live fuel) = 0)
    | '~' :: _ => do
      skip 1
      return -(← unary live fuel) - 1
    | '(' :: _ => do
      skip 1
      let v ← expression live fuel
      skipSpace
      match (← get).rest with
      | ')' :: _ => do
        skip 1
        return v
      | _ => throw (.expecting "')'")
    | c :: r =>
      if c.isDigit then do
        let ds := c :: r.takeWhile fun c => c.isAlphanum
        skip ds.length
        match numeral? ds with
        | some n => return min n greatest
        | none => throw (.expecting "EOF")
      else if isNameStart c then do
        let name := c :: r.takeWhile isNameChar
        skip name.length
        if live then return ← valueOf (← get).vars (String.ofList name) else return 0
      else throw (.expecting "primary")
    | [] => throw (.expecting "primary")

end

def evaluate (vars : Vars) (fixed : List String) (text : Chars) : Except Fault (Int × Vars) := do
  if (text.dropWhile isSpace).isEmpty then return (0, vars)
  let (v, s) ← (expression true (4 * text.length + 8)).run ⟨text, vars, fixed⟩
  if (s.rest.dropWhile isSpace).isEmpty then return (v, s.vars) else throw (.expecting "EOF")

def Fault.message (text : Chars) : Fault → String
  | .expecting what =>
    "arithmetic expression: expecting " ++ what ++ ": \"" ++ String.ofList text ++ "\""
  | .divisionByZero =>
    "arithmetic expression: division by zero: \"" ++ String.ofList text ++ "\""
  | .illegalNumber t => "Illegal number: " ++ String.ofList t
  | .fixed name => name ++ ": is read only"

end TreePipeline.Shell.Arithmetic
