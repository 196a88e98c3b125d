import TreePipeline.Tools.Records.Reading

/-!
The grammar of expressions. A value follows another one to be joined with it; an assignment may stand
wherever a comparison may. In what is printed, a comparison by `>` needs brackets, because the sign
tells there where the text goes.
-/

namespace TreePipeline.Tools.Records

open Shell Parse

def assignments : List (String × Option Operator) :=
  [("=", none), ("+=", some .add), ("-=", some .subtract), ("*=", some .multiply),
    ("/=", some .divide), ("%=", some .remainder), ("^=", some .power)]

def comparisons : List (String × Comparison) :=
  [("==", .equal), ("!=", .different), ("<", .less), ("<=", .lessOrEqual), (">", .greater),
    (">=", .greaterOrEqual)]

def fitStrength : Nat := 4

def memberStrength : Nat := 3

def relations : List (String × Nat × (Expr → Expr → Expr)) :=
  [("||", 1, Expr.either), ("&&", 2, Expr.both), ("~", fitStrength, Expr.fits),
    ("!~", fitStrength, fun a b => .isNot (.fits a b))] ++
  comparisons.map fun (s, c) => (s, 5, Expr.compare c)

def Function.arity : Function → Nat × Nat
  | length => (0, 1)
  | substr => (2, 3)
  | index => (2, 2)
  | match_ => (2, 2)
  | sprintf => (1, 255)
  | rand => (0, 0)
  | srand => (0, 1)
  | atan2 => (2, 2)
  | flush => (0, 1)
  | sysTime => (0, 0)
  | formatTime => (0, 3)
  | _ => (1, 1)

def Token.beginsOperand : Token → Bool
  | number .. => true
  | text _ => true
  | regular _ => true
  | name .. => true
  | function .. => true
  | keyword s => ["getline", "split", "sub", "gsub"].contains s
  | sign s => ["(", "$", "!", "++", "--"].contains s
  | _ => false

def Expr.target? : Expr → Option Target
  | value t => some t
  | _ => none

def checkSought (l : Located) (e : Expr) : Parse Unit := do
  match e with
  | .text cs =>
    match Sought.read cs with
    | .ok _ => pure ()
    | .error f => noteAt l (f.complaint cs)
  | _ => pure ()

def signIn {α : Type} (table : List (String × α)) : Parse (Option α) := do
  match ← peekToken with
  | .sign s => return table.lookup s
  | _ => return none

mutual

def expression : Nat → (printed : Bool) → Parse Expr
  | 0, _ => refuse
  | fuel + 1, printed => do
    let c ← binary fuel printed 1
    if ← takes "?" then
      skipNewlines
      let a ← expression fuel printed
      skipNewlines
      sign ":"
      skipNewlines
      let b ← expression fuel printed
      return .choice c a b
    else return c

def binary : Nat → (printed : Bool) → (least : Nat) → Parse Expr
  | 0, _, _ => refuse
  | fuel + 1, printed, least => do
    let a ← assigned fuel printed
    moreBinary fuel printed least a

def moreBinary : Nat → (printed : Bool) → (least : Nat) → Expr → Parse Expr
  | 0, _, _, _ => refuse
  | fuel + 1, printed, least, a => do
    let l ← peek
    let word := l.token.shown
    if l.token.isKeyword "in" then
      if memberStrength < least then return a
      else
        advance
        moreBinary fuel printed least (.isKey [a] (← tableName))
    else
      match ← signIn relations with
      | none => return a
      | some (strength, combine) =>
        if strength < least ∨ (printed ∧ word = ['>']) then return a
        else
          advance
          let b ← binary fuel printed (strength + 1)
          if strength = fitStrength then checkSought l b
          moreBinary fuel printed least (combine a b)

def assigned : Nat → (printed : Bool) → Parse Expr
  | 0, _ => refuse
  | fuel + 1, printed => do
    let first ← sum fuel printed
    match first.target?, ← signIn assignments with
    | some t, some o =>
      advance
      skipNewlines
      let e ← expression fuel printed
      return match o with
        | none => .assign t e
        | some o => .update o t e
    | _, _ => joined fuel printed first

def joined : Nat → (printed : Bool) → Expr → Parse Expr
  | 0, _, _ => refuse
  | fuel + 1, printed, a => do
    if (← peekToken).beginsOperand then
      let b ← sum fuel printed
      joined fuel printed (.join a b)
    else return a

def sum : Nat → (printed : Bool) → Parse Expr
  | 0, _ => refuse
  | fuel + 1, printed => do
    let a ← product fuel printed
    moreSum fuel printed a

def moreSum : Nat → (printed : Bool) → Expr → Parse Expr
  | 0, _, _ => refuse
  | fuel + 1, printed, a => do
    match ← signIn [("+", Operator.add), ("-", .subtract)] with
    | some o =>
      advance
      let b ← product fuel printed
      moreSum fuel printed (.calculate o a b)
    | none => return a

def product : Nat → (printed : Bool) → Parse Expr
  | 0, _ => refuse
  | fuel + 1, printed => do
    let a ← signed fuel printed
    moreProduct fuel printed a

def moreProduct : Nat → (printed : Bool) → Expr → Parse Expr
  | 0, _, _ => refuse
  | fuel + 1, printed, a => do
    match ← signIn [("*", Operator.multiply), ("/", .divide), ("%", .remainder)] with
    | some o =>
      advance
      let b ← signed fuel printed
      moreProduct fuel printed (.calculate o a b)
    | none => return a

def signed : Nat → (printed : Bool) → Parse Expr
  | 0, _ => refuse
  | fuel + 1, printed => do
    if ← takes "!" then return .isNot (← signed fuel printed)
    else if ← takes "-" then return .opposite (← signed fuel printed)
    else if ← takes "+" then return .asNumber (← signed fuel printed)
    else
      let a ← power fuel printed
      if printed then return a else piped fuel a

def piped : Nat → Expr → Parse Expr
  | 0, _ => refuse
  | fuel + 1, a => do
    if ← isSign "|" then
      advance
      if !(← isKeyword "getline") then refuse
      advance
      let t ← readTarget fuel
      piped fuel (.readRecord (.command a) t)
    else return a

def power : Nat → (printed : Bool) → Parse Expr
  | 0, _ => refuse
  | fuel + 1, printed => do
    let a ← counted fuel printed
    if ← takes "^" then
      let b ← signed fuel printed
      return .calculate .power a b
    else return a

def counted : Nat → (printed : Bool) → Parse Expr
  | 0, _ => refuse
  | fuel + 1, printed => do
    match ← signIn [("++", true), ("--", false)] with
    | some up =>
      advance
      countedTarget fuel printed up
    | none =>
      let a ← operand fuel printed
      match a.target?, ← signIn [("++", true), ("--", false)] with
      | some t, some up =>
        advance
        return .count up true t
      | _, _ => return a

def countedTarget : Nat → (printed up : Bool) → Parse Expr
  | 0, _, _ => refuse
  | fuel + 1, printed, up => do
    let begins := match ← peekToken with
      | .name .. => true
      | .sign s => s == "$" || s == "("
      | _ => false
    if !begins then refuse
    match (← operand fuel printed).target? with
    | some t => return .count up false t
    | none => refuse

def fieldNumber : Nat → (printed : Bool) → Parse Expr
  | 0, _ => refuse
  | fuel + 1, printed => do
    if ← takes "!" then return .isNot (← fieldNumber fuel printed)
    else if ← takes "-" then return .opposite (← fieldNumber fuel printed)
    else if ← takes "+" then return .asNumber (← fieldNumber fuel printed)
    else
      match ← signIn [("++", true), ("--", false)] with
      | some up =>
        advance
        countedTarget fuel printed up
      | none => operand fuel printed

def operand : Nat → (printed : Bool) → Parse Expr
  | 0, _ => refuse
  | fuel + 1, printed => do
    let l ← peek
    match l.token with
    | .number x _ =>
      advance
      return .number x
    | .text cs =>
      advance
      return .text cs
    | .regular source =>
      advance
      match Sought.read source with
      | .ok _ => return .regular source
      | .error f =>
        noteAt l (f.complaint source)
        return .regular []
    | .sign "$" =>
      advance
      return .value (.field (← fieldNumber fuel printed))
    | .sign "(" => bracketed fuel
    | .name s called =>
      advance
      let isRoutine := (← get).routines.any fun h => h.name == s
      if isRoutine ∨ (called ∧ !(← isVariable s)) then call fuel s
      else return .value (← named fuel s)
    | .function f s =>
      advance
      application fuel f s
    | .keyword "getline" =>
      advance
      let t ← readTarget fuel
      if ← takes "<" then
        let path ← power fuel printed
        return .readRecord (.file path) t
      else return .readRecord .main t
    | .keyword "split" =>
      advance
      opening
      let text ← expression fuel false
      sign ","
      let table ← tableName
      let separator ← if ← takes "," then some <$> expression fuel false else pure none
      closing
      return .split text table separator
    | .keyword "sub" =>
      advance
      substitution fuel false
    | .keyword "gsub" =>
      advance
      substitution fuel true
    | _ => refuse

def bracketed : Nat → Parse Expr
  | 0 => refuse
  | fuel + 1 => do
    opening
    let first ← expression fuel false
    if ← isSign "," then
      let more ← moreExpressions fuel false
      closing
      if !(← isKeyword "in") then refuse
      advance
      return .isKey (first :: more) (← tableName)
    else
      closing
      return match first with
        | .value (.field n) => .value (.field n)
        | e => .grouped e

def moreExpressions : Nat → (printed : Bool) → Parse (List Expr)
  | 0, _ => refuse
  | fuel + 1, printed => do
    if ← takes "," then
      let e ← expression fuel printed
      return e :: (← moreExpressions fuel printed)
    else return []

def named : Nat → (name : String) → Parse Target
  | 0, _ => refuse
  | fuel + 1, name => do
    if ← isSign "[" then
      let p ← use name .table
      advance
      let first ← expression fuel false
      let more ← moreExpressions fuel false
      sign "]"
      return .element p (first :: more)
    else return .variable (← use name .one)

def tableName : Parse Place := do
  match ← peekToken with
  | .name s _ =>
    let p ← use s .table
    advance
    return p
  | _ => refuse

def readTarget : Nat → Parse (Option Target)
  | 0 => refuse
  | fuel + 1 => do
    match ← peekToken with
    | .name s _ =>
      advance
      return some (← named fuel s)
    | .sign "$" =>
      advance
      return some (.field (← fieldNumber fuel false))
    | _ => return none

def arguments : Nat → (routine : Nat) → (count : Nat) → Parse (List Expr)
  | 0, _, _ => refuse
  | fuel + 1, routine, count => do
    let bare : Option (String × Nat) := match (← get).tokens with
      | ⟨.name s _, line⟩ :: next :: _ =>
        if next.token.isSign "," || next.token.isSign ")" then some (s, line) else none
      | _ => none
    let e ←
      match bare with
      | some (s, line) =>
        if (← get).routines.any fun h => h.name == s then refuse
        advance
        let p ← placeOf s
        let v ← variableAt p
        modify fun s => { s with links := ⟨v, routine, count, line⟩ :: s.links }
        pure (.value (.variable p))
      | none => expression fuel false
    if ← takes "," then return e :: (← arguments fuel routine (count + 1)) else return [e]

def call : Nat → (name : String) → Parse Expr
  | 0, _ => refuse
  | fuel + 1, name => do
    let routine ← routineOf name
    let line := (← peek).line
    opening
    let args ← if ← isSign ")" then pure [] else arguments fuel routine 0
    closing
    modify fun s => { s with calls := ⟨routine, args.length, line⟩ :: s.calls }
    return .call routine args

def application : Nat → Function → (name : String) → Parse Expr
  | 0, _, _ => refuse
  | fuel + 1, f, name => do
    let l ← peek
    let given ← isSign "("
    if f = .length ∧ !given then return .apply f []
    else
      opening
      let bare : Option String := match f, (← get).tokens with
        | .length, ⟨.name s _, _⟩ :: next :: _ => if next.token.isSign ")" then some s else none
        | _, _ => none
      let args ←
        match bare with
        | some s =>
          advance
          pure [Expr.value (.variable (← placeOf s))]
        | none =>
          if ← isSign ")" then pure []
          else
            let first ← expression fuel false
            let more ← if f = .length then pure [] else moreExpressions fuel false
            pure (first :: more)
      closing
      let (least, most) := f.arity
      if args.length < least ∨ most < args.length then
        noteAt l ("wrong number of arguments in call to ".toList ++ name.toList)
      if f = .match_ then checkSought l (args.getD 1 default)
      return .apply f args

def substitution : Nat → (all : Bool) → Parse Expr
  | 0, _ => refuse
  | fuel + 1, all => do
    let l ← peek
    opening
    let pattern ← expression fuel false
    checkSought l pattern
    sign ","
    let replacement ← expression fuel false
    if ← takes "," then
      match (← expression fuel false).target? with
      | some t =>
        closing
        return .substitute all pattern replacement t
      | none => refuse
    else
      closing
      return .substitute all pattern replacement (.field (.number 0))

end

end TreePipeline.Tools.Records
