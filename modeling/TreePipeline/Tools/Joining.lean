import TreePipeline.Tools.Columns

/-! A small program that puts lines of two files together that have a field in common. -/

namespace TreePipeline.Tools

open Shell Host

namespace Joining

inductive Shown where
  | common
  | field (file number : Nat)

structure Style where
  one : Nat := 0
  two : Nat := 0
  tab : Option Char := none
  whole : Bool := false
  pairs : Bool := true
  alone : List Nat := []
  filler : Option Chars := none
  format : Option (List Shown) := none
  auto : Bool := false
  fold : Bool := false
  check : Option Bool := none
  header : Bool := false
  ending : UInt8 := newline
  deriving Inhabited

abbrev Row := List Chars

def Style.fieldsOf (s : Style) (line : Chars) : Row :=
  if line.isEmpty then []
  else if s.whole then [line]
  else
    match s.tab with
    | some t => (Octets.splitOn t.toNat.toUInt8 (toOctets line)).map ofOctets
    | none => blankFields (line.length + 1) (line.dropWhile Sorting.isBlank)
where
  blankFields : Nat → Chars → Row
    | 0, _ => []
    | fuel + 1, cs =>
      if cs.isEmpty then []
      else
        let f := cs.takeWhile fun c => !Sorting.isBlank c
        match cs.drop f.length with
        | [] => [f]
        | r =>
          match r.dropWhile Sorting.isBlank with
          | [] => [f, []]
          | r => f :: blankFields fuel r

structure Entry where
  line : Chars
  number : Nat
  row : Row

def Style.place (s : Style) (file : Nat) : Nat := if file = 1 then s.one else s.two

def Style.key (s : Style) (file : Nat) (e : Entry) : Chars :=
  let k := e.row.getD (s.place file) []
  if s.fold then k.map Char.toLower else k

def Style.gap (s : Style) : Char := s.tab.getD ' '

def Style.filled (s : Style) (f : Option Chars) : Chars :=
  match f with
  | some (c :: cs) => c :: cs
  | _ => s.filler.getD []

structure Widths where
  one : Nat
  two : Nat

def Style.joined (s : Style) (w : Widths) (a b : Option Entry) : Chars :=
  let rowOf (e : Option Entry) : Row := (e.map Entry.row).getD []
  let common : Chars :=
    match a with
    | some e => s.filled e.row[s.one]?
    | none => s.filled (rowOf b)[s.two]?
  match s.format with
  | some shown =>
    [s.gap].intercalate (shown.map fun f =>
      match f with
      | .common => common
      | .field 1 n => s.filled (rowOf a)[n]?
      | .field _ n => s.filled (rowOf b)[n]?)
  | none =>
    let others (row : Row) (place width : Nat) : List Chars :=
      let n := if s.auto then width else row.length
      ((List.range n).filter (· ≠ place)).map fun i => s.filled row[i]?
    [s.gap].intercalate (common :: others (rowOf a) s.one w.one ++ others (rowOf b) s.two w.two)

inductive Finding where
  | line (text : Chars)
  | disorder (file : Nat) (e : Entry)

structure Found where
  findings : List Finding := []
  lone : Bool := false
  disordered : List Nat := []
  stopped : Bool := false

def Found.add (text : Chars) (f : Found) : Found := { f with findings := .line text :: f.findings }

def Found.note (s : Style) (file : Nat) (before after : Option Entry) (f : Found) : Found :=
  match before, after with
  | some a, some b =>
    let looks := s.check = some true || (s.check.isNone && f.lone)
    if !f.stopped && looks && !f.disordered.contains file &&
        Sorting.compareText (s.key file a) (s.key file b) = .gt then
      { f with
        findings := .disorder file b :: f.findings, disordered := file :: f.disordered
        stopped := s.check = some true }
    else f
  | _, _ => f

def Found.noteAll (s : Style) (file : Nat) : List Entry → (next : Option Entry) → Found → Found
  | [], _, f => f
  | [a], next, f => f.note s file (some a) next
  | a :: b :: r, next, f => noteAll s file (b :: r) next (f.note s file (some a) (some b))

def rest (s : Style) (w : Widths) (file : Nat) : List Entry → Found → Found
  | [], f => f
  | e :: r, f =>
    if f.stopped then f
    else
      let f := if s.alone.contains file then
          f.add (if file = 1 then s.joined w (some e) none else s.joined w none (some e))
        else f
      rest s w file r (f.note s file (some e) r.head?)

def join (s : Style) (w : Widths) : Nat → List Entry → List Entry → Found → Found
  | 0, _, _, f => f
  | fuel + 1, one, two, f =>
    if f.stopped then f
    else
      match one, two with
      | a :: r, b :: t =>
        match Sorting.compareText (s.key 1 a) (s.key 2 b) with
        | .lt =>
          let f := if s.alone.contains 1 then f.add (s.joined w (some a) none) else f
          let f := f.note s 1 (some a) r.head?
          join s w fuel r two { f with lone := true }
        | .gt =>
          let f := if s.alone.contains 2 then f.add (s.joined w none (some b)) else f
          let f := f.note s 2 (some b) t.head?
          join s w fuel one t { f with lone := true }
        | .eq =>
          let key := s.key 1 a
          let mine := one.takeWhile fun e => s.key 1 e = key
          let others := two.takeWhile fun e => s.key 2 e = key
          let one := one.drop mine.length
          let two := two.drop others.length
          let f := f.noteAll s 1 mine one.head?
          let f := f.noteAll s 2 others two.head?
          let f := if s.pairs ∧ !f.stopped then
              mine.foldl (fun f x =>
                others.foldl (fun f y => f.add (s.joined w (some x) (some y))) f) f
            else f
          join s w fuel one two f
      | one, two =>
        let f := rest s w 1 one { f with lone := f.lone }
        rest s w 2 two f

def readShown (cs : Chars) : Except Chars Shown :=
  let bad : Except Chars Shown := .error ("invalid field specifier: ".toList ++ inQuotes cs)
  match cs with
  | ['0'] => .ok .common
  | '0' :: _ => bad
  | c :: '.' :: ds =>
    if c = '1' ∨ c = '2' then
      match number? ds with
      | some (n + 1) => .ok (.field (c.toNat - 48) n)
      | _ => .error ("invalid field number: ".toList ++ inQuotes ds)
    else .error ("invalid file number in field spec: ".toList ++ inQuotes cs)
  | ['1'] => bad
  | ['2'] => bad
  | '1' :: _ => bad
  | '2' :: _ => bad
  | _ => .error ("invalid file number in field spec: ".toList ++ inQuotes cs)

def table : String :=
  "a= e= 1= 2= i,ignore-case j= o= t= v= z,zero-terminated check-order nocheck-order header"

def styleOf (os : Options) : Except Chars Style := do
  let number (cs : Chars) : Except Chars Nat :=
    match number? cs with
    | some (n + 1) => .ok n
    | _ => .error ("invalid field number: ".toList ++ inQuotes cs)
  let step (s : Style) (o : String × Option Chars) : Except Chars Style := do
    let value := o.2.getD []
    let fileOf : Except Chars Nat :=
      match value with
      | ['1'] => .ok 1
      | ['2'] => .ok 2
      | v => .error ("invalid field number: ".toList ++ inQuotes v)
    match o.1 with
    | "a" => return { s with alone := (← fileOf) :: s.alone }
    | "v" => return { s with alone := (← fileOf) :: s.alone, pairs := false }
    | "e" =>
      if s.filler.isSome ∧ s.filler ≠ some value then
        throw "conflicting empty-field replacement strings".toList
      return { s with filler := some value }
    | "1" => return { s with one := ← number value }
    | "2" => return { s with two := ← number value }
    | "j" =>
      let n ← number value
      return { s with one := n, two := n }
    | "i" => return { s with fold := true }
    | "o" =>
      if value = "auto".toList then return { s with auto := true }
      else
        let items := (Span.itemsOf (value.length + 1) value).map Prod.fst
        let shown ← items.mapM readShown
        return { s with format := some (s.format.getD [] ++ shown) }
    | "t" =>
      match value with
      | [] => return { s with whole := true, tab := some '\n' }
      | [c] => return { s with tab := some c }
      | ['\\', '0'] => return { s with tab := some '\x00' }
      | v => throw ("multi-character tab ".toList ++ inQuotes v)
    | "z" => return { s with ending := 0 }
    | "check-order" => return { s with check := some true }
    | "nocheck-order" => return { s with check := some false }
    | "header" => return { s with header := true }
    | _ => return s
  os.foldlM step {}

def entries (s : Style) (content : Octets) : List Entry :=
  ((Sorting.pieces s.ending content).zipIdx 1).map fun (l, n) => ⟨l, n, s.fieldsOf l⟩

end Joining

open Joining in
def join : Tool := fun tool args _ => withTable tool table args fun os paths => do
  match styleOf os with
  | .error e =>
    complain tool e
    return 1
  | .ok s =>
    match paths with
    | [] => misuse tool "missing operand".toList
    | [a] => misuse tool ("missing operand after ".toList ++ inQuotes a)
    | _ :: _ :: extra :: _ => misuse tool ("extra operand ".toList ++ inQuotes extra)
    | [a, b] =>
      if a = ['-'] ∧ b = ['-'] then
        complain tool "both files cannot be standard input".toList
        return 1
      match ← contentOf tool a with
      | none => return 1
      | some one =>
        match ← contentOf tool b with
        | none => return 1
        | some two =>
          let one := entries s one
          let two := entries s two
          let width (es : List Entry) : Nat := ((es.head?.map Entry.row).getD []).length
          let w : Widths := ⟨width one, width two⟩
          let header := s.header && !(one.isEmpty && two.isEmpty)
          let f : Found := if header then ({} : Found).add (s.joined w one.head? two.head?) else {}
          let one := if header then one.drop 1 else one
          let two := if header then two.drop 1 else two
          let f := Joining.join s w (one.length + two.length + 1) one two f
          for e in f.findings.reverse do
            match e with
            | .line text => say tool (text ++ [Char.ofNat s.ending.toNat])
            | .disorder file e =>
              complain tool ((if file = 1 then a else b) ++ ':' :: (toString e.number).toList ++
                ": is not sorted: ".toList ++ e.line)
          if f.disordered.isEmpty then return 0
          if !f.stopped then complain tool "input is not in sorted order".toList
          return 1

end TreePipeline.Tools
