import TreePipeline.Tools.Sorting.Order

/-!
Keys by which lines are put in order: from one place in a line to another, compared in a way that
letters ask for.
-/

namespace TreePipeline.Tools.Sorting

open Shell

structure Key where
  field : Nat := 0
  char : Nat := 0
  stop : Option (Nat × Nat) := none
  letters : Chars := []
  skipStart : Bool := false
  skipStop : Bool := false

namespace Key

def orderLetters : Chars := "dfghiMnRrV".toList

def add (atStart atStop : Bool) (k : Key) (c : Char) : Key :=
  if c = 'b' then { k with skipStart := k.skipStart || atStart, skipStop := k.skipStop || atStop }
  else if k.letters.contains c then k
  else { k with letters := k.letters ++ [c] }

def isPlain (k : Key) : Bool := !k.skipStart && !k.skipStop && k.letters.all (· = 'r')

def inherit (whole k : Key) : Key :=
  if k.isPlain && !k.letters.contains 'r' then
    { k with letters := whole.letters, skipStart := whole.skipStart, skipStop := whole.skipStop }
  else k

def clash? (k : Key) : Option Chars :=
  let has (c : Char) : Bool := k.letters.contains c
  let kinds := ['n', 'g', 'h', 'M'].filter has
  let others := ['V', 'R', 'd', 'i'].any has
  if 1 < kinds.length + (if others then 1 else 0) then
    some (orderLetters.filter fun c => has c && c ≠ 'r' && !(c = 'i' && has 'd'))
  else none

inductive Fault where
  | noNumber (where_ : String) (rest : Chars)
  | bad (what : String) (spec : Chars)

def Fault.message : Fault → Chars
  | .noNumber place rest =>
    place.toList ++ ": invalid count at start of ".toList ++ inQuotes rest
  | .bad what spec => what.toList ++ ": invalid field specification ".toList ++ inQuotes spec

def count (place : String) (cs : Chars) : Except Fault (Nat × Chars) :=
  let ds := cs.takeWhile Char.isDigit
  match number? ds with
  | some n => .ok (n, cs.drop ds.length)
  | none => .error (.noNumber place cs)

def readLetters (atStart atStop : Bool) : Chars → Key → Key × Chars
  | c :: r, k =>
    if c = 'b' ∨ orderLetters.contains c then readLetters atStart atStop r (k.add atStart atStop c)
    else (k, c :: r)
  | [], k => (k, [])

def read (spec : Chars) : Except Fault Key := do
  let bad {α : Type} (what : String) : Except Fault α := .error (.bad what spec)
  let (f, r) ← count "invalid number at field start" spec
  if f = 0 then return ← bad "field number is zero"
  let (c, r) ← match r with
    | '.' :: r => do
      let (c, r) ← count "invalid number after '.'" r
      if c = 0 then bad "character offset is zero" else pure (c - 1, r)
    | r => pure (0, r)
  let (k, r) := readLetters true false r { field := f - 1, char := c }
  let (k, r) ← match r with
    | ',' :: r => do
      let (f, r) ← count "invalid number after ','" r
      if f = 0 then return ← bad "field number is zero"
      let (c, r) ← match r with
        | '.' :: r => count "invalid number after '.'" r
        | r => pure (0, r)
      pure (readLetters false true r { k with stop := some (f - 1, c) })
    | r => pure (k, r)
  if r.isEmpty then return k else bad "stray character in field spec"

def fieldsLength (tab : Option Char) (line : Chars) : Nat → Nat
  | 0 => 0
  | n + 1 =>
    let passed := fieldsLength tab line n
    let r := line.drop passed
    match tab with
    | some t =>
      let f := r.takeWhile (· ≠ t)
      passed + f.length + (if f.length < r.length then 1 else 0)
    | none =>
      let b := r.takeWhile isBlank
      passed + b.length + ((r.drop b.length).takeWhile fun c => !isBlank c).length

def blanksAt (line : Chars) (n : Nat) : Nat := ((line.drop n).takeWhile isBlank).length

def part (tab : Option Char) (k : Key) (line : Chars) : Chars :=
  let start := fieldsLength tab line (min k.field line.length)
  let start := if k.skipStart then start + blanksAt line start else start
  let start := min line.length (start + k.char)
  let stop := match k.stop with
    | none => line.length
    | some (f, 0) =>
      let front := fieldsLength tab line (min f line.length)
      match tab with
      | some t => front + ((line.drop front).takeWhile (· ≠ t)).length
      | none => fieldsLength tab line (min (f + 1) (line.length + 1))
    | some (f, c) =>
      let front := fieldsLength tab line (min f line.length)
      let front := if k.skipStop then front + blanksAt line front else front
      min line.length (front + c)
  (line.take stop).drop start

def plainPart (k : Key) (cs : Chars) : Chars :=
  let has (c : Char) : Bool := k.letters.contains c
  let cs :=
    if has 'd' then cs.filter fun c => isBlank c || c.isAlphanum
    else if has 'i' then cs.filter Quoting.isPrintable
    else cs
  if has 'f' then cs.map Char.toUpper else cs

def compare (k : Key) (a b : Chars) : Ordering :=
  let has (c : Char) : Bool := k.letters.contains c
  let o :=
    if has 'n' then compareNumbers a b
    else if has 'g' then compareAmounts a b
    else if has 'h' then compareUnits a b
    else if has 'M' then compareInt (monthNumber a) (monthNumber b)
    else
      let a := k.plainPart a
      let b := k.plainPart b
      if has 'V' then compareVersions a b else compareText a b
  if has 'r' then o.swap else o

end Key

end TreePipeline.Tools.Sorting
