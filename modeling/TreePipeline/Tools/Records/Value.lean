import TreePipeline.Tools.Format
import TreePipeline.Tools.Records.Token

/-!
Values of variables: numbers and texts, each read as the other where that is needed. What was read from
outside counts as a number in comparisons if it looks like one.
-/

namespace TreePipeline.Tools.Records

open Shell

inductive Value where
  | unset
  | number (x : Float)
  | text (cs : Chars)
  | given (cs : Chars)

instance : Inhabited Value := ⟨.unset⟩

def floatOf (a : Amount) : Float := Float.ofBits a.toBinary64.bits

def amountOf (x : Float) : Amount := if x.isNaN then .undefined true else .ofBinary64 ⟨x.toBits⟩

def maxWhole : Int := 0x7fffffffffffffff

def wholeOf (x : Float) : Int :=
  match amountOf x with
  | .infinite negative => if negative then -maxWhole else maxWhole
  | .undefined _ => -maxWhole - 1
  | a => max (-maxWhole) (min maxWhole a.truncated)

def ofInt (n : Int) : Float := floatOf (.ofInt n)

def numberOfText (cs : Chars) : Float :=
  let cs := cs.dropWhile Amount.isBlank
  let ds := cs.takeWhile Char.isDigit
  let rest := cs.drop ds.length
  let isPlain := !ds.isEmpty && ds.length < 16 && !rest.head?.any fun c => ['.', 'e', 'E', 'x', 'X'].contains c
  if isPlain then Float.ofNat (ds.foldl (fun v c => 10 * v + (c.toNat - 48)) 0)
  else
    match Amount.read cs with
    | some (a, _) => floatOf a
    | none => 0

def wholeNumber? (cs : Chars) : Option Float :=
  let isSpace (c : Char) : Bool := Amount.isBlank c
  match cs.dropWhile isSpace with
  | [] => none
  | c :: r =>
    if c.isDigit ∨ c = '+' ∨ c = '-' ∨ c = '.' then
      match Amount.read (c :: r) with
      | some (a, rest) => if rest.all isSpace then some (floatOf a) else none
      | none => none
    else none

structure NumberFormat where
  front : Chars
  back : Chars
  conversion : Format.Conversion

namespace NumberFormat

def ofText (cs : Chars) : NumberFormat :=
  let front := cs.takeWhile (· ≠ '%')
  match cs.drop front.length with
  | [] => ⟨front, [], { kind := 'x' }⟩
  | _ :: r =>
    let (v, r) := Format.readFlags r {}
    let (w, r) := Format.readNat r
    let (p, r) := match r with
      | '.' :: r =>
        let (p, r) := Format.readNat r
        (some p, r)
      | r => (none, r)
    match r with
    | k :: r => ⟨front, r, { v with width := w, precision := p, kind := k }⟩
    | [] => ⟨cs, [], { kind := 'x' }⟩

def write (f : NumberFormat) (x : Float) : Chars :=
  let middle : Chars :=
    if "eEfFgGaA".toList.contains f.conversion.kind then
      Format.amountText .shell f.conversion (amountOf x)
    else if f.conversion.kind = 'd' ∨ f.conversion.kind = 'i' then
      let n := wholeOf x
      Format.padNumber f.conversion (Format.signOf f.conversion (n < 0)) (Nat.toDigits 10 n.natAbs)
    else []
  f.front ++ middle ++ f.back

end NumberFormat

def textOfNumber (format : Chars) (x : Float) : Chars :=
  let n := wholeOf x
  if ofInt n == x then (if n < 0 then ['-'] else []) ++ Nat.toDigits 10 n.natAbs
  else (NumberFormat.ofText format).write x

namespace Value

def toNumber : Value → Float
  | unset => 0
  | number x => x
  | text cs => numberOfText cs
  | given cs => numberOfText cs

def toText (format : Chars) : Value → Chars
  | unset => []
  | number x => textOfNumber format x
  | text cs => cs
  | given cs => cs

def ofBool (b : Bool) : Value := .number (if b then 1 else 0)

def ofNat (n : Nat) : Value := .number (Float.ofNat n)

def isTrue : Value → Bool
  | unset => false
  | number x => x != 0
  | text cs => !cs.isEmpty
  | given cs =>
    match wholeNumber? cs with
    | some x => x != 0
    | none => !cs.isEmpty

def comparedNumber? : Value → Option Float
  | unset => some 0
  | number x => some x
  | text _ => none
  | given cs => wholeNumber? cs

def orderOfTexts : Chars → Chars → Ordering
  | [], [] => .eq
  | [], _ :: _ => .lt
  | _ :: _, [] => .gt
  | a :: r, b :: s => if a < b then .lt else if b < a then .gt else orderOfTexts r s

def order (format : Chars) (a b : Value) : Ordering :=
  match a.comparedNumber?, b.comparedNumber? with
  | some x, some y => if x < y then .lt else if y < x then .gt else .eq
  | _, _ => orderOfTexts (a.toText format) (b.toText format)

end Value

def Comparison.holds : Comparison → Ordering → Bool
  | less, o => o == .lt
  | lessOrEqual, o => o != .gt
  | equal, o => o == .eq
  | different, o => o != .eq
  | greater, o => o == .gt
  | greaterOrEqual, o => o != .lt

def remainderOf (x y : Float) : Float :=
  match amountOf x, amountOf y with
  | .finite negative n d, .finite _ m e =>
    if m = 0 then 0 / 0 else floatOf (.finite negative ((n * e) % (m * d)) (d * e))
  | .finite .., .infinite _ => x
  | _, _ => 0 / 0

def Operator.calculate : Operator → Float → Float → Float
  | add, x, y => x + y
  | subtract, x, y => x - y
  | multiply, x, y => x * y
  | divide, x, y => x / y
  | remainder, x, y => remainderOf x y
  | power, x, y => x.pow y

end TreePipeline.Tools.Records
