import TreePipeline.Tools.Extent
import TreePipeline.Tools.Format

/-! Small programs that count: what is in texts, and numbers one after the other. -/

namespace TreePipeline.Tools

open Shell Host

structure Counts where
  lines : Nat := 0
  words : Nat := 0
  octets : Nat := 0
  widest : Nat := 0

namespace Counts

def isBlankOctet (b : UInt8) : Bool := b = 32 || (9 ≤ b && b ≤ 13)

def wordCount : (inside : Bool) → Octets → Nat
  | _, [] => 0
  | inside, b :: r =>
    if isBlankOctet b then wordCount false r else (if inside then 0 else 1) + wordCount true r

def widestLine : (place widest : Nat) → Octets → Nat
  | place, widest, [] => max place widest
  | place, widest, b :: r =>
    if b = 10 ∨ b = 12 ∨ b = 13 then widestLine 0 (max place widest) r
    else if b = 9 then widestLine (place + 8 - place % 8) widest r
    else if 32 ≤ b ∧ b < 127 then widestLine (place + 1) widest r
    else widestLine place widest r

def ofOctets (bs : Octets) : Counts :=
  ⟨bs.count newline, wordCount false bs, bs.length, widestLine 0 0 bs⟩

def add (a b : Counts) : Counts :=
  ⟨a.lines + b.lines, a.words + b.words, a.octets + b.octets, max a.widest b.widest⟩

def row (c : Counts) (os : Options) (width : Nat) (name : Option Chars) : Chars :=
  let all := !(["l", "w", "m", "c", "L"].any os.has)
  let shown :=
    (if all || os.has "l" then [c.lines] else []) ++ (if all || os.has "w" then [c.words] else []) ++
      (if os.has "m" then [c.octets] else []) ++ (if all || os.has "c" then [c.octets] else []) ++
      (if os.has "L" then [c.widest] else [])
  [' '].intercalate (shown.map fun n => padLeft width (toString n).toList) ++
    (match name with
      | some n => ' ' :: n
      | none => []) ++ ['\n']

def input (tool : String) (path : Chars) : Act (Option Octets × Bool) := do
  match ← openInput path with
  | .error e => do
    complain tool (asWord path ++ ": ".toList ++ faultText e)
    return (none, false)
  | .ok fd => do
    let r ← Act.readAll fd maxReads []
    if fd ≠ 0 then Act.close fd
    match r with
    | .ok bs => return (some bs, true)
    | .error e => do
      complain tool (asWord path ++ ": ".toList ++ faultText e)
      return (some [], false)

def widthFor (paths : List Chars) : Act Nat := do
  let named (p : Chars) : Octets := toOctets (if p = ['-'] then "/dev/stdin".toList else p)
  let sizes ← Act.askNames fun fs => paths.filterMap fun p =>
    match fs.stat (named p) with
    | .ok (.file content _ _) => some (List.replicate content.length 0)
    | _ => none
  let others ← Act.ask fun fs => paths.any fun p =>
    match fs.stat (named p) with
    | .ok (.file ..) => false
    | .ok _ => true
    | .error _ => false
  let width := (toString ((sizes.map List.length).foldl Nat.add 0)).length
  return if others then max width 7 else width

def each (tool : String) (os : Options) (width : Nat) (shown : Bool) :
    List (Chars × Option Chars) → (total : Counts) → (status : Nat) → Act (Counts × Nat)
  | [], total, status => return (total, status)
  | (p, name) :: r, total, status => do
    let (content, fine) ← input tool p
    let status := if fine then status else 1
    match content with
    | none => each tool os width shown r total status
    | some bs =>
      let c := ofOctets bs
      if shown then say tool (c.row os width name)
      each tool os width shown r (total.add c) status

end Counts

open Counts in
def wc : Tool := fun tool args _ =>
  let table := "c,bytes m,chars l,lines L,max-line-length w,words total= files0-from="
  withTable tool table args fun os paths => do
    let listed ← match os.value? "files0-from" with
      | none => pure (some paths)
      | some p => do
        let (content, fine) ← input tool p
        pure (if fine then
            (content.map fun bs => ((Octets.splitOn 0 bs).map Shell.ofOctets).filter fun n => !n.isEmpty)
          else none)
    match listed with
    | none => return 1
    | some paths =>
      let kinds := (["l", "w", "m", "c", "L"].filter os.has).length
      let total := ((os.value? "total").map String.ofList).getD "auto"
      let single := paths.length ≤ 1 && kinds = 1
      let streamed ← match os.value? "files0-from" with
        | some ['-'] => Act.ask fun fs => !fs.isFile (Octets.ofAscii "/dev/stdin")
        | _ => pure false
      let width ← if single ∨ total = "only" ∨ streamed then pure 1 else widthFor (inputsOr paths)
      let goals := if paths.isEmpty then [(['-'], none)] else paths.map fun p => (p, some (asWord p))
      let (sum, status) ← each tool os width (total ≠ "only") goals {} 0
      let showTotal := total = "always" || total = "only" || (total = "auto" && 1 < goals.length)
      if showTotal then
        say tool (sum.row os width (if total = "only" then none else some "total".toList))
      return status

structure Term where
  value : Amount
  width : Nat
  places : Option Nat

namespace Term

def isSpace (c : Char) : Bool := c = ' ' || ('\t' ≤ c && c ≤ '\r')

def measure (arg : Chars) (finite : Bool) : Nat × Option Nat :=
  let arg := arg.dropWhile fun c => isSpace c || c = '+'
  let front := arg.takeWhile (· ≠ '.')
  let point := front.length < arg.length
  let places : Option Nat := if !point ∧ !arg.contains 'p' then some 0 else none
  if arg.any (fun c => c = 'x' || c = 'X') ∨ !finite then (0, places)
  else
    let isExp (c : Char) : Bool := c = 'e' || c = 'E'
    let part := ((arg.drop (front.length + 1)).takeWhile fun c => !isExp c).length
    let part := if point then part else 0
    let places := if point then part else places.getD 0
    let width : Int := arg.length +
      (if !point then 0 else if part = 0 then -1
        else if ((front.getLast?.map Char.isDigit).getD false) then 0 else 1)
    let mantissa := arg.takeWhile fun c => !isExp c
    match arg.drop mantissa.length with
    | [] => (width.toNat, some places)
    | _ :: digits =>
      let negative := digits.head? = some '-'
      let digits := if negative ∨ digits.head? = some '+' then digits.drop 1 else digits
      let e := (number? (digits.takeWhile Char.isDigit)).getD 0
      let width := width - ((arg.length : Int) - mantissa.length)
      if negative then
        let more : Int :=
          if point then (if part = 0 then 1 else 0) else 1
        ((width + more + e).toNat, some (places + e))
      else
        let left := places - min places e
        let less : Int := if point ∧ left = 0 ∧ part ≠ 0 then 1 else 0
        ((width - less + ((e - min part e : Nat) : Int)).toNat, some left)

def read (arg : Chars) : Option Term :=
  match Amount.read arg with
  | some (a, []) =>
    let finite : Bool := match a with
      | .finite .. => true
      | _ => false
    let (width, places) := measure arg finite
    some ⟨a, width, places⟩
  | _ => none

end Term

namespace Sequence

structure Shape where
  before : Chars := []
  after : Chars := []
  conversion : Format.Conversion

def plainText : Chars → Chars × Chars
  | '%' :: '%' :: r =>
    let (t, r) := plainText r
    ('%' :: t, r)
  | '%' :: r => ([], '%' :: r)
  | c :: r =>
    let (t, r) := plainText r
    (c :: t, r)
  | [] => ([], [])

def readFormat (format : Chars) : Except Chars Shape :=
  let fault (text : String) : Except Chars Shape :=
    .error ("format ".toList ++ inQuotes format ++ text.toList)
  let (before, r) := plainText format
  match r with
  | [] => fault " has no % directive"
  | _ :: r =>
    let flags := r.takeWhile "-+#0 '".toList.contains
    let (v, _) := Format.readFlags (flags.filter (· ≠ '\'')) {}
    let (width, r) := Format.readNat (r.drop flags.length)
    let (precision, r) : Option Nat × Chars := match r with
      | '.' :: r =>
        let (n, r) := Format.readNat r
        (some n, r)
      | r => (none, r)
    let r := if r.head? = some 'L' then r.drop 1 else r
    match r with
    | [] => fault " ends in %"
    | k :: r =>
      if !"efgaEFGA".toList.contains k then
        .error ("format ".toList ++ inQuotes format ++ " has unknown %".toList ++ [k] ++
          " directive".toList)
      else
        let (after, rest) := plainText r
        if rest.isEmpty then
          .ok ⟨before, after, { v with width := width, precision := precision, kind := k }⟩
        else fault " has too many % directives"

def usualShape (wide : Bool) (first step last : Term) : Shape :=
  match first.places, step.places, last.places with
  | some p, some q, some z =>
    let places := max p q
    let firstWidth := first.width + (places - p) + (if p = 0 ∧ places ≠ 0 then 1 else 0)
    let lastWidth := last.width + places - z - (if z ≠ 0 ∧ places = 0 then 1 else 0) +
      (if z = 0 ∧ places ≠ 0 then 1 else 0)
    { conversion := {
        zero := wide, width := if wide then max firstWidth lastWidth else 0
        precision := some places, kind := 'f' } }
  | _, _, _ => { conversion := { kind := 'g' } }

def shown (s : Shape) (a : Amount) : Chars :=
  s.before ++ Format.amountText .program s.conversion a ++ s.after

structure Series where
  first : Int
  step : Int
  last : Option Int
  denominator : Nat

def Series.at_ (q : Series) (i : Nat) : Amount :=
  let n := q.first + i * q.step
  .finite (n < 0) n.natAbs q.denominator

def Series.has (q : Series) (i : Nat) : Bool :=
  let n := q.first + i * q.step
  match q.last with
  | none => true
  | some last => if q.step < 0 then last ≤ n else n ≤ last

def chunk : Nat := 500

def emit (tool : String) (s : Shape) (gap : Chars) (q : Series) : Nat → (i : Nat) → Act Unit
  | 0, _ => return ()
  | fuel + 1, i => do
    let here := (List.range chunk).filter fun k => q.has (i + k)
    let text := here.flatMap fun k =>
      (if i + k = 0 then [] else gap) ++ shown s (q.at_ (i + k))
    say tool text
    if here.length = chunk then emit tool s gap q fuel (i + chunk)
    else if 0 < i + here.length then say tool ['\n']

def signed (negative : Bool) (n : Nat) : Int := if negative then -(n : Int) else n

def seriesOf? (first step last : Amount) : Option Series :=
  match first, step with
  | .finite a n d, .finite b m e =>
    match last with
    | .finite c k f =>
      some ⟨signed a n * e * f, signed b m * d * f, some (signed c k * d * e), d * e * f⟩
    | .infinite negative =>
      if negative = b then some ⟨signed a n * e, signed b m * d, none, d * e⟩ else none
    | _ => none
  | _, _ => none

end Sequence

open Sequence in
def seq : Tool := fun tool args _ => do
  -- A number below zero is no option.
  let isNumber (a : Chars) : Bool := match a with
    | '-' :: c :: _ => c = '.' || c.isDigit
    | _ => false
  let table := "f,format= s,separator= w,equal-width"
  let rec split (fuel : Nat) (front : List Chars) (r : List Chars) : List Chars × List Chars :=
    match fuel, r with
    | fuel + 1, a :: r =>
      if isNumber a then (front.reverse, a :: r) else split fuel (a :: front) r
    | _, r => (front.reverse, r)
  let (front, rest) := split args.length [] args
  match Options.ofArgs table false front with
  | .error e => misuse tool e
  | .ok (os, operands) =>
    let operands := operands ++ rest
    match operands with
    | [] => misuse tool "missing operand".toList
    | _ :: _ :: _ :: extra :: _ => misuse tool ("extra operand ".toList ++ inQuotes extra)
    | operands =>
      let shape? : Except Chars (Option Shape) :=
        match os.value? "f" with
        | none => .ok none
        | some f => (readFormat f).map some
      match shape? with
      | .error e =>
        complain tool e
        return 1
      | .ok given =>
        if given.isSome ∧ os.has "w" then
          return ← misuse tool
            "format string may not be specified when printing equal width strings".toList
        match operands.find? fun a => (Term.read a).isNone with
        | some a => misuse tool ("invalid floating point argument: ".toList ++ inQuotes a)
        | none =>
          let isUndefined (a : Chars) : Bool := match Term.read a with
            | some ⟨.undefined _, _, _⟩ => true
            | _ => false
          match operands.find? isUndefined with
          | some a => misuse tool ("invalid 'not-a-number' argument: ".toList ++ inQuotes a)
          | none =>
          let unit : Term := ⟨.ofInt 1, 1, some 0⟩
          let (first, step, last) := match operands.filterMap Term.read with
            | [last] => (unit, unit, last)
            | [first, last] => (first, unit, last)
            | [first, step, last] => (first, step, last)
            | _ => (unit, unit, unit)
          if step.value.isZero then
            return ← misuse tool ("invalid Zero increment value: ".toList ++ inQuotes (operands.getD 1 []))
          let shape := given.getD (usualShape (os.has "w") first step last)
          match seriesOf? first.value step.value last.value with
          | none => return 0
          | some q =>
            emit tool shape ((os.value? "s").getD ['\n']) q maxReads 0
            return 0

end TreePipeline.Tools
