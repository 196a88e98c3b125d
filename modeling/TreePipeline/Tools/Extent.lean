import TreePipeline.Tools.Basic

/-! Sizes and counts as they are given to small programs: a number with a unit after it. -/

namespace TreePipeline.Tools

open Shell

namespace Extent

inductive Fault where
  | invalid
  | tooLarge
  deriving DecidableEq

def Fault.ending : Fault → Chars
  | .invalid => []
  | .tooLarge => ": Value too large for defined data type".toList

def most : Nat := 0xffffffffffffffff

def powerOf (c : Char) : Option Nat :=
  if c = 'k' then some 1
  else ("KMGTPEZYRQ".toList.findIdx? (· = c)).map (· + 1)

def factor? (unit : Chars) : Option Nat :=
  match unit with
  | [] => some 1
  | ['b'] => some 512
  | [c] => if c = 'm' then some (Nat.pow 1024 2) else (powerOf c).map (Nat.pow 1024)
  | [c, 'B'] => (powerOf c).map (Nat.pow 1000)
  | [c, 'i', 'B'] => (powerOf c).map (Nat.pow 1024)
  | _ => none

def read (cs : Chars) : Except Fault Nat :=
  let cs := cs.dropWhile Arithmetic.isSpace
  let cs := if cs.head? = some '+' then cs.drop 1 else cs
  let ds := cs.takeWhile Char.isDigit
  let unit := cs.drop ds.length
  match factor? unit with
  | none => .error .invalid
  | some k =>
    if ds.isEmpty ∧ unit.isEmpty then .error .invalid
    else
      let n := (if ds.isEmpty then 1 else (number? ds).getD 0) * k
      if most < n then .error .tooLarge else .ok n

end Extent

def padLeft (width : Nat) (cs : Chars) : Chars := List.replicate (width - cs.length) ' ' ++ cs

end TreePipeline.Tools
