import TreePipeline.Tools.Sorting

/-! Small programs that cut lines into columns and put columns side by side. -/

namespace TreePipeline.Tools

open Shell Host

abbrev Span := Nat × Option Nat

namespace Span

structure Naming where
  zero : String
  range : String
  large : String
  invalid : String
  missing : String

def fields : Naming where
  zero := "fields are numbered from 1"
  range := "invalid field range"
  large := "field number "
  invalid := "invalid field value "
  missing := "missing list of fields"

def octets : Naming where
  zero := "byte/character positions are numbered from 1"
  range := "invalid byte or character range"
  large := "byte/character offset "
  invalid := "invalid byte/character position "
  missing := "missing list of byte/character positions"

def most : Nat := 0xffffffffffffffff

def readItem (n : Naming) (item rest : Chars) : Except Chars Span := do
  let a := item.takeWhile Char.isDigit
  let number (ds at_ : Chars) : Except Chars (Option Nat) :=
    match number? ds with
    | some v =>
      if most ≤ v then .error (n.large.toList ++ inQuotes ds ++ " is too large".toList)
      else .ok (some v)
    | none => if at_.isEmpty then .ok none else .error (n.invalid.toList ++ inQuotes at_)
  let invalid (passed : Nat) : Except Chars Span :=
    .error (n.invalid.toList ++ inQuotes (rest.drop passed))
  let first ← if a.isEmpty then pure none else number a a
  match item.drop a.length with
  | [] =>
    match first with
    | none => throw n.zero.toList
    | some v => if v = 0 then throw n.zero.toList else return (v, some v)
  | '-' :: b =>
    if first = some 0 then throw n.zero.toList
    let ds := b.takeWhile Char.isDigit
    let last ← if ds.isEmpty then pure none else number ds ds
    match b.drop ds.length with
    | [] =>
      match first, last with
      | none, none => throw "invalid range with no endpoint: -".toList
      | first, none => return (first.getD 1, none)
      | first, some v =>
        if v < first.getD 1 then throw "invalid decreasing range".toList
        else return (first.getD 1, some v)
    | '-' :: _ => throw n.range.toList
    | _ => invalid (a.length + 1 + ds.length)
  | _ => invalid a.length

def itemsOf : Nat → Chars → List (Chars × Chars)
  | 0, _ => []
  | fuel + 1, cs =>
    let isEnd (c : Char) : Bool := c = ',' || c = ' ' || c = '\t'
    let item := cs.takeWhile fun c => !isEnd c
    match cs.drop item.length with
    | [] => [(item, cs)]
    | _ :: r => (item, cs) :: itemsOf fuel r

def readAll (n : Naming) (cs : Chars) : Except Chars (List Span) :=
  (itemsOf (cs.length + 1) cs).mapM fun (item, rest) => readItem n item rest

def holds (s : Span) (n : Nat) : Bool :=
  s.1 ≤ n && (s.2.map fun b => decide (n ≤ b)).getD true

def joined : List Span → List Span
  | [] => []
  | (a, e) :: r =>
    match joined r with
    | [] => [(a, e)]
    | (b, f) :: more =>
      match e with
      | none => [(a, none)]
      | some e =>
        if b ≤ e then
          (a, match f with
            | none => none
            | some f => some (max e f)) :: more
        else (a, some e) :: (b, f) :: more

def ordered (spans : List Span) : List Span := joined (spans.mergeSort fun a b => a.1 ≤ b.1)

def gaps : (start : Nat) → List Span → List Span
  | start, [] => [(start, none)]
  | start, (a, e) :: r =>
    let front := if start < a then [(start, some (a - 1))] else []
    match e with
    | none => front
    | some e => front ++ gaps (max start (e + 1)) r

end Span

structure Cut where
  spans : List Span
  fields : Bool
  tab : Char
  onlyCut : Bool
  glue : Option Chars

namespace Cut

def line (q : Cut) (l : Chars) : Option Chars :=
  if q.fields then
    let parts := (Octets.splitOn q.tab.toNat.toUInt8 (toOctets l)).map ofOctets
    if parts.length ≤ 1 then (if q.onlyCut then none else some l)
    else
      let kept := (parts.zipIdx 1).filterMap fun (p, n) =>
        if q.spans.any fun s => s.holds n then some p else none
      some ((q.glue.getD [q.tab]).intercalate kept)
  else
    let pieces := q.spans.filterMap fun (a, e) =>
      let from_ := l.drop (a - 1)
      let cut := match e with
        | none => from_
        | some e => from_.take (e + 1 - a)
      if cut.isEmpty then none else some cut
    some ((q.glue.getD []).intercalate pieces)

def table : String :=
  "b,bytes= c,characters= f,fields= d,delimiter= n s,only-delimited z,zero-terminated complement " ++
  "output-delimiter="

def ofOptions (os : Options) : Except Chars Cut := do
  let lists := os.filter fun o => ["b", "c", "f"].contains o.1
  -- What is wrong with an option itself is noticed in the order of the options.
  let rec look : Options → (list : Bool) → Except Chars Unit
    | [], _ => .ok ()
    | (key, value) :: r, list => do
      if ["b", "c", "f"].contains key then
        if list then throw "only one list may be specified".toList else look r true
      else if key = "d" ∧ 1 < (value.getD []).length then
        throw "the delimiter must be a single character".toList
      else look r list
  look os false
  match lists.head? with
  | none => throw "you must specify a list of bytes, characters, or fields".toList
  | some (key, list) =>
    let fields : Bool := key = "f"
    if !fields ∧ os.has "d" then
      throw "an input delimiter may be specified only when operating on fields".toList
    if !fields ∧ os.has "s" then
      throw ("suppressing non-delimited lines makes sense\n" ++
        "\tonly when operating on fields").toList
    let spans ← Span.readAll (if fields then Span.fields else Span.octets) (list.getD [])
    let spans := Span.ordered spans
    return {
      spans := if os.has "complement" then Span.gaps 1 spans else spans
      fields := fields
      tab := match os.value? "d" with
        | none => '\t'
        | some cs => cs.headD '\x00'
      onlyCut := os.has "s"
      glue := (os.value? "output-delimiter").map fun g => if g.isEmpty then ['\x00'] else g }

end Cut

def cut : Tool := fun tool args _ => withTable tool Cut.table args fun os paths => do
  match Cut.ofOptions os with
  | .error e => misuse tool e
  | .ok q =>
    let ending : UInt8 := if os.has "z" then 0 else newline
    let rec each : List Chars → (status : Nat) → Act Nat
      | [], status => return status
      | p :: r, status => do
        match ← contentOf tool p with
        | none => each r 1
        | some content =>
          let ls := (Sorting.pieces ending content).filterMap q.line
          put tool (ls.flatMap fun l => toOctets l ++ [ending])
          each r status
    each (inputsOr paths) 0

namespace Paste

def readGlue : Nat → Chars → Option (List Chars)
  | 0, _ => some []
  | _ + 1, [] => some []
  | _ + 1, ['\\'] => none
  | fuel + 1, '\\' :: c :: r =>
    let d : Chars := match c with
      | '0' => []
      | 'b' => ['\x08']
      | 'f' => ['\x0c']
      | 'n' => ['\n']
      | 'r' => ['\r']
      | 't' => ['\t']
      | 'v' => ['\x0b']
      | c => [c]
    (readGlue fuel r).map (d :: ·)
  | fuel + 1, c :: r => (readGlue fuel r).map ([c] :: ·)

def glued (glue : List Chars) : (place : Nat) → List Chars → Chars
  | _, [] => []
  | _, [a] => a
  | n, a :: r => a ++ glue.getD (n % max glue.length 1) [] ++ glued glue (n + 1) r

def row : (shared : List Chars) → List (Option (List Chars)) →
    List (Option Chars) × List Chars × List (Option (List Chars))
  | shared, [] => ([], shared, [])
  | shared, none :: r =>
    let (ls, rest, sources) := row (shared.drop 1) r
    (shared.head? :: ls, rest, none :: sources)
  | shared, some ls :: r =>
    let (more, rest, sources) := row shared r
    (ls.head? :: more, rest, some (ls.drop 1) :: sources)

def rows (glue : List Chars) : Nat → (shared : List Chars) → List (Option (List Chars)) → List Chars
  | 0, _, _ => []
  | fuel + 1, shared, sources =>
    let (ls, shared, sources) := row shared sources
    if ls.all Option.isNone then []
    else glued glue 0 (ls.map fun l => l.getD []) :: rows glue fuel shared sources

def sourcesOf (tool : String) (ending : UInt8) : List Chars → Act (Option (List (Option (List Chars))))
  | [] => return some []
  | p :: r => do
    if p = ['-'] then return (← sourcesOf tool ending r).map (none :: ·)
    match ← contentOf tool p with
    | none => return none
    | some content => return (← sourcesOf tool ending r).map (some (Sorting.pieces ending content) :: ·)

end Paste

open Paste in
def paste : Tool := fun tool args _ =>
  withTable tool "d,delimiters= s,serial z,zero-terminated" args fun os paths => do
    let list := (os.value? "d").getD ['\t']
    match readGlue (list.length + 1) list with
    | none =>
      complain tool ("delimiter list ends with an unescaped backslash: ".toList ++ list)
      return 1
    | some glue =>
      let ending : UInt8 := if os.has "z" then 0 else newline
      let stop := [Char.ofNat ending.toNat]
      let paths := inputsOr paths
      if os.has "s" then
        let rec each : List Chars → (status : Nat) → Act Nat
          | [], status => return status
          | p :: r, status => do
            match ← contentOf tool p with
            | none => each r 1
            | some content =>
              say tool (glued glue 0 (Sorting.pieces ending content) ++ stop)
              each r status
        each paths 0
      else
        match ← sourcesOf tool ending paths with
        | none => return 1
        | some sources =>
          let shared ← if paths.contains ['-'] then
              (do pure (((← contentOf tool ['-']).map (Sorting.pieces ending)).getD []))
            else pure []
          let most := (sources.map fun s => (s.getD []).length).foldl max shared.length
          say tool ((rows glue (most + 1) shared sources).flatMap fun l => l ++ stop)
          return 0

end TreePipeline.Tools
