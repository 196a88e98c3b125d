import TreePipeline.Tools.Records.Value

/-! Texts made from a pattern with conversions, each of which shows a value. -/

namespace TreePipeline.Tools.Records

open Shell

inductive PrintFault where
  | tooFewArguments
  | badConversion (number : Nat)

def PrintFault.complaint (f : PrintFault) (function : String) (pattern : Chars) : Chars :=
  let call := function.toList ++ "(\"".toList ++ pattern ++ "\")".toList
  match f with
  | tooFewArguments => "not enough arguments passed to ".toList ++ call
  | badConversion n => "improper conversion(number ".toList ++ (toString n).toList ++ ") in ".toList ++ call

namespace Printing

open Format

def wordOf (x : Float) : Nat :=
  match amountOf x with
  | .infinite negative => if negative then 1 else 0xffffffffffffffff
  | .undefined _ => 0x8000000000000000
  | a => (max (-0xffffffffffffffff) (min 0xffffffffffffffff a.truncated) % 0x10000000000000000).toNat

def charOf (v : Value) : Chars :=
  let ofNumber (x : Float) : Chars := [Char.ofNat (wholeOf x % 256).toNat]
  let ofText (cs : Chars) : Chars := [cs.headD '\x00']
  match v with
  | .number x => ofNumber x
  | .given cs =>
    match wholeNumber? cs with
    | some x => ofNumber x
    | none => ofText cs
  | .text cs => ofText cs
  | .unset => ofText []

def convert (numbers : Chars) (v : Conversion) (long short : Bool) (value : Value) : Option Chars :=
  let sized := long || short
  let cut (cs : Chars) : Chars := match v.precision with
    | some p => cs.take p
    | none => cs
  let unsigned (base : Nat) (mark : Chars) : Chars × Chars :=
    let n := wordOf value.toNumber
    (if v.alternate ∧ n ≠ 0 then mark else [], Nat.toDigits base n)
  match v.kind with
  | 's' => if sized then none else some (pad v (cut (value.toText numbers)))
  | 'c' => if sized then none else some (pad v (charOf value))
  | 'd' => some (signed value)
  | 'i' => some (signed value)
  | 'u' => some (padNumber v [] (unsigned 10 []).2)
  | 'o' =>
    let (mark, ds) := unsigned 8 ['0']
    some (padNumber v [] (mark ++ ds))
  | 'x' =>
    let (mark, ds) := unsigned 16 ['0', 'x']
    some (padNumber v mark ds)
  | 'X' =>
    let (mark, ds) := unsigned 16 ['0', 'X']
    some (padNumber v mark (ds.map Char.toUpper))
  | k =>
    if "eEfgG".toList.contains k ∧ !sized then
      some (amountText .shell v (amountOf value.toNumber))
    else none
where
  signed (value : Value) : Chars :=
    let n := wholeOf value.toNumber
    padNumber v (signOf v (n < 0)) (Nat.toDigits 10 n.natAbs)

def readSize (cs : Chars) (values : List Value) : Option Int × Chars × List Value :=
  match cs with
  | '*' :: r => (some (wholeOf ((values.headD .unset).toNumber)), r, values.drop 1)
  | cs =>
    let (n, r) := readNat cs
    (if r.length = cs.length then none else some n, r, values)

def run (numbers : Chars) : Nat → (number : Nat) → Chars → List Value → Chars × Option PrintFault
  | 0, _, _, _ => ([], none)
  | _ + 1, _, [], _ => ([], none)
  | fuel + 1, n, '%' :: '%' :: r, values =>
    let (t, e) := run numbers fuel n r values
    ('%' :: t, e)
  | fuel + 1, n, '%' :: r, values =>
    let (v, r) := readFlags r {}
    let (w, r, values) := readSize r values
    let (p, r, values) : Option Int × Chars × List Value := match r with
      | '.' :: r =>
        let (p, r, values) := readSize r values
        (some (p.getD 0), r, values)
      | r => (none, r, values)
    match values with
    | [] => ([], some .tooFewArguments)
    | value :: values =>
      let (long, short, r) := match r with
        | 'l' :: r => (true, false, r)
        | 'h' :: r => (false, true, r)
        | r => (false, false, r)
      let w := w.getD 0
      let v := { v with
        left := v.left || w < 0, width := w.natAbs
        precision := p.bind fun p => if p < 0 then none else some p.toNat
        kind := r.headD '\x00' }
      match convert numbers v long short value with
      | none => ([], some (.badConversion n))
      | some t =>
        let (u, e) := run numbers fuel (n + 1) (r.drop 1) values
        (t ++ u, e)
  | fuel + 1, n, c :: r, values =>
    let (t, e) := run numbers fuel n r values
    (c :: t, e)

end Printing

def printed? (numbers pattern : Chars) (values : List Value) : Chars × Option PrintFault :=
  Printing.run numbers (pattern.length + 1) 1 pattern values

end TreePipeline.Tools.Records
