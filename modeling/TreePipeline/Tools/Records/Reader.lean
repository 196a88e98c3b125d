import TreePipeline.Tools.Records.Terms

/-!
The grammar of statements and rules. After a statement that makes no sense reading goes on, to find what
else is wrong. What a variable holds is found out in the end, from how it is used and passed on.
-/

namespace TreePipeline.Tools.Records

open Shell Parse

def printGoal (fuel : Nat) : Parse (Option Goal) := do
  match ← signIn [(">", Direction.over), (">>", .append), ("|", .pipe)] with
  | some d =>
    advance
    return some ⟨d, ← expression fuel false⟩
  | none => return none

def printed (fuel : Nat) : Parse (List Expr) := do
  let atEnd : Parse Bool := do
    let t ← peekToken
    return t.isEnd || t.isSign ">" || t.isSign ">>" || t.isSign "|"
  if ← atEnd then return []
  else
    let listed : Parse (Option (List Expr)) := do
      opening
      let first ← expression fuel false
      let more ← moreExpressions fuel false
      closing
      return if ← atEnd then some (first :: more) else none
    match ← attempt listed with
    | some es => return es
    | none =>
      let first ← expression fuel true
      return first :: (← moreExpressions fuel true)

def optionally (fuel : Nat) (missing : Token → Bool) : Parse (Option Expr) := do
  if missing (← peekToken) then return none else return some (← expression fuel false)

def inLoop (body : Parse Statement) : Parse Statement := do
  modify fun s => { s with loops := s.loops + 1 }
  let b ← body
  modify fun s => { s with loops := s.loops - 1 }
  return b

def condition (fuel : Nat) : Parse Expr := do
  opening
  let c ← expression fuel false
  closing
  return c

mutual

def statement : Nat → Parse Statement
  | 0 => refuse
  | fuel + 1 => do
    let l ← peek
    match l.token with
    | .sign "\x7b" => block fuel
    | .keyword "if" =>
      advance
      let c ← condition fuel
      skipNewlines
      let a ← statement fuel
      if ← isKeyword "else" then
        advance
        skipNewlines
        return .choose c a (some (← statement fuel))
      else return .choose c a none
    | .keyword "while" =>
      advance
      let c ← condition fuel
      skipNewlines
      return .while_ c (← inLoop (statement fuel))
    | .keyword "do" =>
      advance
      skipNewlines
      let b ← inLoop (statement fuel)
      if !(← isKeyword "while") then refuse
      advance
      let c ← condition fuel
      statementEnd
      return .doWhile b c
    | .keyword "for" =>
      advance
      forLoop fuel
    | .keyword "print" =>
      advance
      let es ← printed fuel
      let g ← printGoal fuel
      statementEnd
      return .print es g
    | .keyword "printf" =>
      advance
      let es ← printed fuel
      if es.isEmpty then noteAt l "no arguments in call to printf".toList
      let g ← printGoal fuel
      statementEnd
      return .printf es g
    | .keyword "delete" =>
      advance
      let p ← tableName
      if ← takes "[" then
        let first ← expression fuel false
        let more ← moreExpressions fuel false
        sign "]"
        statementEnd
        return .delete p (some (first :: more))
      else
        statementEnd
        return .delete p none
    | .keyword "break" =>
      advance
      statementEnd
      if (← get).loops = 0 then noteAt l "break statement outside of loop".toList
      return .break_
    | .keyword "continue" =>
      advance
      statementEnd
      if (← get).loops = 0 then noteAt l "continue statement outside of loop".toList
      return .continue_
    | .keyword "next" =>
      advance
      statementEnd
      if !(← get).inRule then noteAt l "improper use of next".toList
      return .next
    | .keyword "nextfile" =>
      advance
      statementEnd
      if !(← get).inRule then noteAt l "improper use of nextfile".toList
      return .nextFile
    | .keyword "exit" =>
      advance
      let e ← optionally fuel Token.isEnd
      statementEnd
      return .exit e
    | .keyword "return" =>
      advance
      let e ← optionally fuel Token.isEnd
      statementEnd
      if (← get).current.isNone then noteAt l "return outside function body".toList
      return .return_ e
    | t =>
      if t.isEnd then
        advance
        return .block []
      else
        let e ← expression fuel false
        statementEnd
        return .evaluate e

def forLoop : Nat → Parse Statement
  | 0 => refuse
  | fuel + 1 => do
    let each : Option (String × String) := match (← get).tokens with
      | ⟨.sign "(", _⟩ :: ⟨.name k _, _⟩ :: ⟨.keyword "in", _⟩ :: ⟨.name t _, _⟩ :: ⟨.sign ")", _⟩ :: _ =>
        some (k, t)
      | _ => none
    match each with
    | some (k, t) =>
      advance
      let key ← use k .one
      advance
      advance
      let table ← use t .table
      advance
      advance
      skipNewlines
      return .forEach key table (← inLoop (statement fuel))
    | none =>
      opening
      let start ← optionally fuel (Token.isSign ";")
      sign ";"
      let c ← optionally fuel (Token.isSign ";")
      sign ";"
      let step ← optionally fuel (Token.isSign ")")
      closing
      skipNewlines
      return .loop start c step (← inLoop (statement fuel))

def block : Nat → Parse Statement
  | 0 => refuse
  | fuel + 1 => do
    sign "\x7b"
    modify fun s => { s with braces := s.braces + 1 }
    let ss ← statements fuel
    sign "\x7d"
    modify fun s => { s with braces := s.braces - 1 }
    return .block ss

def statements : Nat → Parse (List Statement)
  | 0 => refuse
  | fuel + 1 => do
    if (← isSign "\x7d") ∨ ((← peekToken) matches .finish) then return []
    else
      let s ← tryCatch (statement fuel) fun c => do
        recover c
        return .block []
      return s :: (← statements fuel)

end

def parameterNames : Nat → Parse (List String)
  | 0 => refuse
  | fuel + 1 => do
    match ← peekToken with
    | .name s _ =>
      advance
      if ← takes "," then
        let more ← parameterNames fuel
        if more.contains s then noteHere (s.toList ++ " is duplicated in argument list".toList)
        return s :: more
      else return [s]
    | _ => refuse

def spreadUses (links : List Link) (uses : List (Variable × Use)) : List (Variable × Use) :=
  links.foldl (fun uses l =>
    let p : Variable := ⟨some l.routine, .own l.argument⟩
    match uses.lookup l.variable_, uses.lookup p with
    | some u, none => (p, u) :: uses
    | none, some u => (l.variable_, u) :: uses
    | _, _ => uses) uses

def definition (fuel : Nat) : Parse Unit := do
  let l ← peek
  match l.token with
  | .name s _ =>
    if ← isVariable s then noteAt l ("illegal reference to variable ".toList ++ s.toList)
    let i ← routineOf s
    if ((← get).routines[i]?.bind Header.body).isSome then noteAt l ("redefinition of ".toList ++ s.toList)
    advance
    opening
    let ps ← if ← isSign ")" then pure [] else parameterNames fuel
    if ps.contains s then noteAt l "function parameter cannot be the function".toList
    closing
    skipNewlines
    modify fun r => { r with
      own := ps, current := some i, inRule := true
      uses := spreadUses (r.links.filter fun l => l.routine = i) r.uses }
    let b ← block fuel
    modify fun r => { r with
      own := [], current := none
      routines := r.routines.setIfInBounds i { name := s, parameters := ps.length, body := some b } }
  | _ => refuse

def rule (fuel : Nat) : Parse Rule := do
  let special (c : Chooser) : Parse Rule := do
    advance
    modify fun s => { s with inRule := false }
    return ⟨c, some (← block fuel)⟩
  let action : Parse (Option Statement) := do
    if ← isSign "\x7b" then some <$> block fuel
    else
      statementEnd
      return none
  modify fun s => { s with inRule := true }
  match ← peekToken with
  | .keyword "BEGIN" => special .begin_
  | .keyword "END" => special .end_
  | .sign "\x7b" => return ⟨.always, some (← block fuel)⟩
  | _ =>
    let c ← expression fuel false
    if ← takes "," then
      let d ← expression fuel false
      return ⟨.between c d, ← action⟩
    else return ⟨.when c, ← action⟩

def allRules : Nat → (fuel : Nat) → Parse (List Rule)
  | 0, _ => return []
  | n + 1, fuel => do
    match ← peekToken with
    | .finish => return []
    | .extra =>
      noteHere "extra '\x7d'".toList
      advance
      allRules n fuel
    | .keyword "function" =>
      advance
      definition fuel
      allRules n fuel
    | _ =>
      let r ← rule fuel
      return r :: (← allRules n fuel)

def spreadAll (links : List Link) : Nat → List (Variable × Use) → List (Variable × Use)
  | 0, uses => uses
  | n + 1, uses =>
    let more := spreadUses links uses
    if more.length = uses.length then uses else spreadAll links n more

def Reading.script (s : Reading) (rs : List Rule) : Except Complaint Script := do
  let line := (s.tokens.headD default).line
  for h in s.routines do
    if h.body.isNone then
      throw { text := "function ".toList ++ h.name.toList ++ " never defined".toList, line := line }
  let nameOf (i : Nat) : Chars := ((s.routines[i]?.map fun h => h.name.toList).getD [])
  for c in s.calls.reverse do
    if ((s.routines[c.routine]?.map Header.parameters).getD 0) < c.arguments then
      throw { text := "too many arguments in call to ".toList ++ nameOf c.routine, line := c.line }
  let uses := spreadAll s.links (2 * s.links.length + 1) s.uses
  for l in s.links.reverse do
    match uses.lookup l.variable_, uses.lookup ⟨some l.routine, .own l.argument⟩ with
    | some u, some v =>
      if u ≠ v then
        throw {
          text := "type error in arg(".toList ++ (toString (l.argument + 1)).toList ++ ") in call to ".toList ++
            nameOf l.routine
          line := l.line }
    | _, _ => pure ()
  let tablesOf (routine : Option Nat) : List Nat := uses.filterMap fun (v, u) =>
    match v.place, u with
    | .shared n, .table => if routine.isNone then some n else none
    | .own n, .table => if routine.isSome ∧ v.routine = routine then some n else none
    | _, _ => none
  let routines := s.routines.mapIdx fun i h =>
    { name := h.name, parameters := h.parameters, tables := tablesOf (some i)
      body := h.body.getD (.block []) : Routine }
  return ⟨rs, routines, s.names, tablesOf none⟩

def Script.read (text : Chars) : Except (List Complaint) Script :=
  let tokens := tokensOf text
  let size := tokens.length
  let start : Reading := {
    tokens := tokens
    uses := [(⟨none, .environment⟩, .table), (⟨none, .arguments⟩, .table)] }
  match (allRules (size + 1) (40 * size + 100)).run.run start with
  | (.error c, s) =>
    .error (s.complaints.reverse ++ if s.ended then [] else [c])
  | (.ok rs, s) => if s.complaints.isEmpty then (s.script rs).mapError fun c => [c]
    else .error s.complaints.reverse

end TreePipeline.Tools.Records
