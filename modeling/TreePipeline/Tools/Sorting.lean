import TreePipeline.Tools.Sorting.Key

/-! A small program that puts lines in order, or tells whether they are. -/

namespace TreePipeline.Tools

open Shell Host

namespace Sorting

structure Entry where
  line : Chars
  parts : List Chars

structure Sorter where
  keys : List Key
  tab : Option Char
  stable : Bool
  unique : Bool
  reversed : Bool
  ending : UInt8

namespace Sorter

def entry (s : Sorter) (line : Chars) : Entry :=
  ⟨line, s.keys.map fun k => k.part s.tab line⟩

def compareKeys : List Key → List Chars → List Chars → Ordering
  | k :: ks, a :: r, b :: t => (k.compare a b).then (compareKeys ks r t)
  | _, _, _ => .eq

def compare (s : Sorter) (a b : Entry) : Ordering :=
  let byKeys := compareKeys s.keys a.parts b.parts
  if byKeys ≠ .eq ∨ (!s.keys.isEmpty ∧ (s.unique || s.stable)) then byKeys
  else
    let o := compareText a.line b.line
    if s.reversed then o.swap else o

def le (s : Sorter) (a b : Entry) : Bool := s.compare a b ≠ .gt

def dropSame (s : Sorter) : List Entry → List Entry
  | [] => []
  | a :: r =>
    match dropSame s r with
    | [] => [a]
    | b :: more => if s.compare a b = .eq then a :: more else a :: b :: more

def merge (s : Sorter) : List (List Entry) → List Entry
  | [] => []
  | a :: r => a.merge (merge s r) s.le

def disorder? (s : Sorter) : List Entry → (number : Nat) → Option (Nat × Chars)
  | a :: b :: r, n =>
    let o := s.compare a b
    if o = .gt ∨ (s.unique ∧ o = .eq) then some (n + 1, b.line) else disorder? s (b :: r) (n + 1)
  | _, _ => none

end Sorter

def inputs (tool : String) : List Chars → Act (Option (List Octets))
  | [] => return some []
  | p :: r => do
    match ← openInput p with
    | .error e =>
      complain tool ("cannot read: ".toList ++ p ++ ": ".toList ++ faultText e)
      return none
    | .ok fd =>
      let content ← Act.readAll fd maxReads []
      if fd ≠ 0 then Act.close fd
      match content with
      | .error e =>
        complain tool ("read failed: ".toList ++ p ++ ": ".toList ++ faultText e)
        return none
      | .ok bs => return (← inputs tool r).map (bs :: ·)

def pieces (ending : UInt8) (content : Octets) : List Chars :=
  let parts := Octets.splitOn ending content
  (if parts.getLast? = some [] then parts.dropLast else parts).map ofOctets

def table : String :=
  "b,ignore-leading-blanks d,dictionary-order f,ignore-case g,general-numeric-sort " ++
  "h,human-numeric-sort i,ignore-nonprinting M,month-sort n,numeric-sort R,random-sort r,reverse " ++
  "V,version-sort c check=? C k,key= m,merge o,output= s,stable S,buffer-size= t,field-separator= " ++
  "T,temporary-directory= u,unique z,zero-terminated sort= parallel= batch-size= debug"

def orderNamed? (name : Chars) : Option Char :=
  [("general-numeric", 'g'), ("human-numeric", 'h'), ("month", 'M'), ("numeric", 'n'),
    ("random", 'R'), ("version", 'V')].lookup (String.ofList name)

def tabOf (cs : Chars) : Except Chars Char :=
  match cs with
  | [] => .error "empty tab".toList
  | [c] => .ok c
  | ['\\', '0'] => .ok '\x00'
  | cs => .error ("multi-character tab ".toList ++ inQuotes cs)

def clashText (letters : Chars) : Chars :=
  "options '-".toList ++ letters ++ "' are incompatible".toList

def sorterOf (os : Options) : Except Chars Sorter := do
  let fault {α : Type} : Except Key.Fault α → Except Chars α := fun r => r.mapError Key.Fault.message
  let keys ← (os.values "k").mapM fun spec => fault (Key.read spec)
  let tab ← ((os.values "t").mapM tabOf)
  match tab with
  | a :: r => if r.any (· ≠ a) then throw "incompatible tabs".toList
  | [] => pure ()
  let letters := os.filterMap fun (key, value) =>
    match key, value with
    | "sort", some name => orderNamed? name
    | key, _ => match key.toList with
      | [c] => if c = 'b' ∨ Key.orderLetters.contains c then some c else none
      | _ => none
  let whole : Key := letters.foldl (Key.add true true) {}
  let keys := keys.map (Key.inherit whole)
  let keys := if keys.isEmpty ∧ !whole.isPlain then [whole] else keys
  match keys.findSome? Key.clash? with
  | some letters => throw (clashText letters)
  | none => pure ()
  return {
    keys := keys, tab := tab.head?, stable := os.has "s", unique := os.has "u"
    reversed := whole.letters.contains 'r', ending := if os.has "z" then 0 else newline }

def written (s : Sorter) (es : List Entry) : Octets :=
  es.flatMap fun e => toOctets e.line ++ [s.ending]

def check (tool : String) (s : Sorter) (quiet : Bool) (path : Chars) : Act Nat := do
  match ← inputs tool [path] with
  | none => return 2
  | some contents =>
    let es := (contents.flatMap (pieces s.ending)).map s.entry
    match s.disorder? es 1 with
    | none => return 0
    | some (n, line) =>
      if !quiet then
        complain tool (path ++ ':' :: (toString n).toList ++ ": disorder: ".toList ++ line)
      return 1

def emit (tool : String) (goal : Option Chars) (data : Octets) : Act Nat := do
  match goal with
  | none =>
    put tool data
    return 0
  | some path =>
    match ← Act.openFile (toOctets path) .write with
    | .error e =>
      complain tool ("open failed: ".toList ++ path ++ ": ".toList ++ faultText e)
      return 2
    | .ok fd =>
      let _ ← Act.write fd data
      Act.close fd
      return 0

end Sorting

open Sorting in
def sort : Tool := fun tool args _ => withTableElse 2 true tool table args fun os paths => do
  match sorterOf os with
  | .error e =>
    complain tool e
    return 2
  | .ok s =>
    let checking := os.has "c" || os.has "C" || os.has "check"
    let quiet := os.has "C" ||
      (os.values "check").any fun v => v = "quiet".toList || v = "silent".toList
    if checking then
      match paths with
      | _ :: extra :: _ =>
        complain tool ("extra operand ".toList ++ inQuotes extra ++ " not allowed with -".toList ++
          [if os.has "C" then 'C' else 'c'])
        return 2
      | _ => check tool s quiet (paths.headD ['-'])
    else
      match ← inputs tool (inputsOr paths) with
      | none => return 2
      | some contents =>
        let lists := contents.map fun c => (pieces s.ending c).map s.entry
        let sorted := if os.has "m" then s.merge lists else lists.flatten.mergeSort s.le
        let kept := if s.unique then s.dropSame sorted else sorted
        emit tool (os.value? "o") (written s kept)

end TreePipeline.Tools
