import TreePipeline.Tools.Basic

/-!
Replacing, dropping and squeezing characters. A set of characters is spelled with ranges, classes and
repeats; it stands for a list, in which the place of a character tells by which one of the other set
it is replaced.
-/

namespace TreePipeline.Tools

open Shell Host

namespace CharSet

inductive Item where
  | one (c : Char)
  | range (a b : Char)
  | class_ (name : String)
  | same (c : Char)
  | repeat_ (c : Char) (count : Nat)

def all : Chars := (List.range 256).map Char.ofNat

def isGraph (c : Char) : Bool := '!' ≤ c && c ≤ '~'

def isControl (c : Char) : Bool := c < ' ' || c = '\x7f'

def isSpace (c : Char) : Bool := c = ' ' || ('\t' ≤ c && c ≤ '\r')

def isHex (c : Char) : Bool := c.isDigit || ('a' ≤ c && c ≤ 'f') || ('A' ≤ c && c ≤ 'F')

def class? (name : String) : Option (Char → Bool) :=
  match name with
  | "alnum" => some Char.isAlphanum
  | "alpha" => some Char.isAlpha
  | "blank" => some fun c => c = ' ' || c = '\t'
  | "cntrl" => some isControl
  | "digit" => some Char.isDigit
  | "graph" => some isGraph
  | "lower" => some Char.isLower
  | "print" => some fun c => c = ' ' || isGraph c
  | "punct" => some fun c => isGraph c && !c.isAlphanum
  | "space" => some isSpace
  | "upper" => some Char.isUpper
  | "xdigit" => some isHex
  | _ => none

abbrev Sign := Char × Bool

def signs : Nat → Chars → List Sign
  | 0, _ => []
  | _ + 1, [] => []
  | _ + 1, ['\\'] => [('\\', false)]
  | fuel + 1, '\\' :: c :: r =>
    let simple (d : Char) : List Sign := (d, true) :: signs fuel r
    match c with
    | 'a' => simple '\x07'
    | 'b' => simple '\x08'
    | 'f' => simple '\x0c'
    | 'n' => simple '\n'
    | 'r' => simple '\r'
    | 't' => simple '\t'
    | 'v' => simple '\x0b'
    | c =>
      let isOctal (c : Char) : Bool := '0' ≤ c && c ≤ '7'
      let ds := ((c :: r).take 3).takeWhile isOctal
      if ds.isEmpty then simple c
      else
        let value (ds : Chars) : Nat := ds.foldl (fun v d => 8 * v + (d.toNat - 48)) 0
        let ds := if 255 < value ds then ds.take 2 else ds
        (Char.ofNat (value ds), true) :: signs fuel ((c :: r).drop ds.length)
  | fuel + 1, c :: r => (c, false) :: signs fuel r

def warnings : Nat → Chars → List Chars
  | 0, _ => []
  | _ + 1, [] => []
  | _ + 1, ['\\'] => ["an unescaped backslash at end of string is not portable".toList]
  | fuel + 1, '\\' :: c :: r =>
    match (c :: r).take 3 with
    | [a, b, d] =>
      let isOctal (c : Char) : Bool := '0' ≤ c && c ≤ '7'
      if [a, b, d].all isOctal && '3' < a then
        ("the ambiguous octal escape \\".toList ++ [a, b, d] ++
          " is being\n\tinterpreted as the 2-byte sequence \\0".toList ++ [a, b, ',', ' ', d]) ::
          warnings fuel ((c :: r).drop 2)
      else warnings fuel r
    | _ => warnings fuel r
  | fuel + 1, _ :: r => warnings fuel r

def shown (c : Char) : Chars := if Quoting.isPrintable c then [c] else Quoting.escape c

def upTo (mark : Char) : List Sign → Option (Chars × List Sign)
  | (c, e) :: (d, f) :: r =>
    if c = mark ∧ d = ']' ∧ !e ∧ !f then some ([], r)
    else (upTo mark ((d, f) :: r)).map fun (cs, r) => (c :: cs, r)
  | _ => none

def repeat? : List Sign → Except Chars (Option (Item × List Sign))
  | (c, _) :: ('*', false) :: r =>
    let ds := r.takeWhile fun s => s.1 ≠ ']' && !s.2
    match r.drop ds.length with
    | (']', false) :: after =>
      let ds := ds.map Prod.fst
      let base := if ds.head? = some '0' then 8 else 10
      match if ds.isEmpty then some 0 else Arithmetic.ofDigits base ds with
      | some n => .ok (some (.repeat_ c n, after))
      | none =>
        .error ("invalid repeat count ".toList ++ inQuotes ds ++ " in [c*n] construct".toList)
    | _ => .ok none
  | _ => .ok none

def looksRepeated : List Sign → Bool
  | ('*', false) :: r => (r.dropWhile fun s => s.1.isDigit && !s.2).head? = some (']', false)
  | _ => false

def named? (mark : Char) (r : List Sign) : Except Chars (Option (Item × List Sign)) :=
  match upTo mark r with
  | none => .ok none
  | some (name, after) =>
    if name.isEmpty then
      .error (if mark = ':' then "missing character class name '[::]'"
        else "missing equivalence class character '[==]'").toList
    else if mark = ':' then
      if (class? (String.ofList name)).isSome then .ok (some (.class_ (String.ofList name), after))
      else if looksRepeated r then .ok none
      else .error ("invalid character class ".toList ++ inQuotes name)
    else
      match name with
      | [c] => .ok (some (.same c, after))
      | name =>
        if looksRepeated r then .ok none
        else .error (name ++ ": equivalence class operand must be a single character".toList)

def items : Nat → List Sign → Except Chars (List Item)
  | 0, _ => .ok []
  | _ + 1, [] => .ok []
  | fuel + 1, (c, e) :: r => do
    let plain : Except Chars (List Item) :=
      match r with
      | ('-', false) :: (d, _) :: more =>
        if d < c then
          .error ("range-endpoints of '".toList ++ shown c ++ '-' :: shown d ++
            "' are in reverse collating sequence order".toList)
        else (items fuel more).map (.range c d :: ·)
      | r => (items fuel r).map (.one c :: ·)
    if c = '[' ∧ !e ∧ 2 ≤ r.length then
      let named ← match r with
        | (':', false) :: more => named? ':' more
        | ('=', false) :: more => named? '=' more
        | _ => pure none
      match named with
      | some (item, more) => (items fuel more).map (item :: ·)
      | none =>
        match ← repeat? r with
        | some (item, more) => (items fuel more).map (item :: ·)
        | none => plain
    else plain

def read (cs : Chars) : Except Chars (List Item) :=
  let ss := signs (cs.length + 1) cs
  items (ss.length + 1) ss

namespace Item

def isOpen : Item → Bool
  | .repeat_ _ 0 => true
  | _ => false

def chars (free : Nat) : Item → Chars
  | .one c => [c]
  | .range a b => all.filter fun c => a ≤ c && c ≤ b
  | .class_ name => all.filter ((class? name).getD fun _ => false)
  | .same c => [c]
  | .repeat_ c 0 => List.replicate free c
  | .repeat_ c n => List.replicate n c

def isCase : Item → Bool
  | .class_ name => name = "lower" || name = "upper"
  | _ => false

def isClass : Item → Bool
  | .class_ _ => true
  | _ => false

def isSame : Item → Bool
  | .same _ => true
  | _ => false

end Item

def expand (length : Nat) (is : List Item) : Chars :=
  let fixed := (is.map fun i => (i.chars 0).length).foldl Nat.add 0
  is.flatMap (Item.chars (length - fixed))

def caseStarts : List Item → (place : Nat) → List Nat
  | [], _ => []
  | i :: r, place => (if i.isCase then [place] else []) ++ caseStarts r (place + (i.chars 0).length)

structure Wish where
  complement : Bool
  delete : Bool
  squeeze : Bool
  shorten : Bool

def pair (w : Wish) (one two : List Item) : Except Chars (Chars × Chars) := do
  let own := expand 0 one
  let source := if w.complement then all.filter fun c => !own.contains c else own
  let target := expand source.length two
  if two.any Item.isSame then
    throw "[=c=] expressions may not appear in string2 when translating".toList
  if two.any fun i => i.isClass && !i.isCase then
    throw ("when translating, the only character classes that may appear in\n" ++
      "string2 are 'upper' and 'lower'").toList
  let aligned := w.complement || (caseStarts two 0).all (caseStarts one 0).contains
  if !aligned then throw "misaligned [:upper:] and/or [:lower:] construct".toList
  if target.length < source.length ∧ !w.shorten then
    if target.isEmpty then throw "when not truncating set1, string2 must be non-empty".toList
    if ((two.getLast?.map Item.isClass).getD false) then
      throw ("when translating with string1 longer than string2,\n" ++
        "the latter string must not end with a character class").toList
  let last := target.getLastD 'x'
  let target :=
    if w.shorten then target else target ++ List.replicate (source.length - target.length) last
  if w.complement ∧ one.any Item.isClass ∧
      !(target.length = source.length ∧ target.all fun c => c = target.headD c) then
    throw ("when translating with complemented character classes,\n" ++
      "string2 must map all characters in the domain to one").toList
  return (source, target)

end CharSet

structure Filter where
  drop : Chars
  replace : List (Char × Char)
  squeezed : Chars

namespace Filter

open CharSet

def ofPair (w : Wish) (source target two : Chars) : Filter :=
  { drop := [], replace := (source.zip target).reverse
    squeezed := if w.squeeze then two else [] }

def ofSets (w : Wish) (one : List Item) (two : Option (List Item)) : Except Chars Filter := do
  if one.any Item.isOpen then
    throw "the [c*] repeat construct may not appear in string1".toList
  let own := expand 0 one
  let first := if w.complement then all.filter fun c => !own.contains c else own
  match two with
  | none =>
    return { drop := if w.delete then first else [], replace := []
             squeezed := if w.delete then [] else first }
  | some two =>
    if 1 < (two.filter Item.isOpen).length then
      throw "only one [c*] repeat construct may appear in string2".toList
    if w.delete then
      if two.any Item.isOpen then
        throw "the [c*] construct may appear in string2 only when translating".toList
      return { drop := first, replace := [], squeezed := expand 0 two }
    else
      let (source, target) ← pair w one two
      return ofPair w source target (expand source.length two)

def squeeze (set : Chars) : (before : Option Char) → Chars → Chars
  | _, [] => []
  | before, c :: r =>
    if before = some c ∧ set.contains c then squeeze set before r else c :: squeeze set (some c) r

def apply (f : Filter) (before : Option Char) (text : Chars) : Chars :=
  squeeze f.squeezed before ((text.filter fun c => !f.drop.contains c).map fun c =>
    (f.replace.lookup c).getD c)

def pass (tool : String) (f : Filter) : Nat → (before : Option Char) → Act Nat
  | 0, _ => return 0
  | fuel + 1, before => do
    match ← Act.read 0 Act.readSize with
    | .error e => do
      complain tool ("read error: ".toList ++ faultText e)
      return 1
    | .ok [] => return 0
    | .ok bs =>
      let text := f.apply before (ofOctets bs)
      say tool text
      pass tool f fuel (text.getLast?.or before)

end Filter

def tr : Tool := fun tool args _ =>
  let table := "c,C,complement d,delete s,squeeze-repeats t,truncate-set1"
  match Options.ofArgs table false args with
  | .error e => misuse tool e
  | .ok (os, sets) => do
    let w : CharSet.Wish := {
      complement := os.has "c", delete := os.has "d", squeeze := os.has "s", shorten := os.has "t" }
    let least := if w.delete = w.squeeze then 2 else 1
    let most := if w.delete ∧ !w.squeeze then 1 else 2
    match sets with
    | [] => return ← misuse tool "missing operand".toList
    | [a] =>
      if 1 < least then
        return ← misuse tool ("missing operand after ".toList ++ inQuotes a ++
          (if w.delete then "\nTwo strings must be given when both deleting and squeezing repeats."
            else "\nTwo strings must be given when translating.").toList)
    | _ => pure ()
    match sets.drop most with
    | extra :: more =>
      return ← misuse tool ("extra operand ".toList ++ inQuotes extra ++
        (if most = 1 ∧ more.isEmpty then
          "\nOnly one string may be given when deleting without squeezing repeats." else "").toList)
    | [] => pure ()
    for cs in sets do
      for text in CharSet.warnings (cs.length + 1) cs do
        complain tool ("warning: ".toList ++ text)
    let filter? : Except Chars Filter := do
      let one ← CharSet.read (sets.headD [])
      let two ← (sets[1]?).mapM CharSet.read
      Filter.ofSets w one two
    match filter? with
    | .error e =>
      complain tool e
      return 1
    | .ok f => f.pass tool maxReads none

end TreePipeline.Tools
