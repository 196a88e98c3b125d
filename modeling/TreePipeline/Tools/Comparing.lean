import TreePipeline.Files.Relation
import TreePipeline.Tools.Extent
import TreePipeline.Tools.Options
import TreePipeline.Tools.Quoting

/-! Files compared octet by octet. -/

namespace TreePipeline.Tools

open Shell Host

def misuseComparing (tool : String) (text : Chars) : Act Nat := do
  complain tool text
  complain tool ("Try '".toList ++ tool.toList ++ " --help' for more information.".toList)
  return 2

namespace Comparing

def differences : (place : Nat) → Octets → Octets → List (Nat × UInt8 × UInt8)
  | n, a :: r, b :: s => if a = b then differences (n + 1) r s else (n, a, b) :: differences (n + 1) r s
  | _, _, _ => []

def visibleSign (b : UInt8) : Chars :=
  let low (b : UInt8) : Chars :=
    if b < 32 then ['^', Char.ofNat (b.toNat + 64)] else if b = 127 then "^?".toList else [Char.ofNat b.toNat]
  if b < 128 then low b else "M-".toList ++ low (b - 128)

def octalSign (b : UInt8) : Chars := padLeft 3 (Nat.toDigits 8 b.toNat)

def readExtent (cs : Chars) : Except Chars Nat :=
  match if cs.head?.any Char.isDigit then (Extent.read cs).toOption else none with
  | some n => .ok n
  | none => .error (cs.dropWhile Char.isDigit)

def readPair (cs : Chars) : Except Chars (Nat × Nat) := do
  let a := cs.takeWhile (· ≠ ':')
  match cs.drop a.length with
  | [] => (readExtent a).map fun n => (n, n)
  | _ :: b =>
    let n ← (readExtent a).mapError (· ++ ':' :: b)
    return (n, ← readExtent b)

def pair? (cs : Chars) : Option (Nat × Nat) := (readPair cs).toOption

def contentOrFault (path : Chars) : Act (Except SystemError Octets) := do
  match ← openInput path with
  | .error e => return .error e
  | .ok fd =>
    let content ← Act.readAll fd maxReads []
    if fd ≠ 0 then Act.close fd
    return content

end Comparing

open Comparing in
def cmp : Tool := fun tool args _ => do
  let table := "b,print-bytes i,ignore-initial= l,verbose n,bytes= s,quiet,silent"
  match Options.ofArgs table true args with
  | .error e => misuseComparing tool e
  | .ok (os, operands) =>
    if os.has "l" ∧ os.has "s" then
      return ← misuseComparing tool "options -l and -s are incompatible".toList
    let invalid (what : String) (v : Chars) : Act Nat :=
      misuseComparing tool (("invalid --" ++ what ++ " value ").toList ++ inPlainQuotes v)
    let rejected (v : Chars) : Option Chars := match readPair v with
      | .ok _ => none
      | .error rest => some rest
    match (os.value? "i").bind rejected, (os.value? "n").filter fun v => (readExtent v).toOption.isNone with
    | some v, _ => invalid "ignore-initial" v
    | none, some v => invalid "bytes" v
    | none, none =>
    match operands with
    | [] => misuseComparing tool ("missing operand after ".toList ++ inPlainQuotes tool.toList)
    | _ :: _ :: _ :: _ :: extra :: _ => misuseComparing tool ("extra operand ".toList ++ inPlainQuotes extra)
    | first :: rest =>
      let second := rest.headD ['-']
      let skips := rest.drop 1
      match skips.findSome? rejected with
      | some v => invalid "ignore-initial" v
      | none =>
      let (skip₁, skip₂) := ((os.value? "i").bind pair?).getD (0, 0)
      let given (i : Nat) (usual : Nat) : Nat := ((skips[i]?).bind pair?).elim usual Prod.fst
      let skip₁ := given 0 skip₁
      let skip₂ := given 1 skip₂
      let limit := (os.value? "n").bind fun v => (readExtent v).toOption
      let quiet := os.has "s"
      let fs ← Act.tree
      let place (p : Chars) : Option Location :=
        if p = ['-'] then none else (fs.locate false (toOctets p)).toOption
      let same := skip₁ = skip₂ && (match place first, place second with
        | some a, some b => fs.isSame a b
        | none, none => first = ['-'] && second = ['-']
        | _, _ => false)
      if same then return 0
      let fail (p : Chars) (e : SystemError) : Act Nat := do
        if !quiet then complain tool (p ++ ": ".toList ++ faultText e)
        return 2
      match ← contentOrFault first with
      | .error e => fail first e
      | .ok a =>
      match ← contentOrFault second with
      | .error e => fail second e
      | .ok b =>
        let cut (skip : Nat) (bs : Octets) : Octets :=
          let bs := bs.drop skip
          match limit with
          | some n => bs.take n
          | none => bs
        let a := cut skip₁ a
        let b := cut skip₂ b
        let found := differences 1 a b
        let short := min a.length b.length
        -- Where one content ends before the other, it is complained of.
        let ended (inLine : Bool) : Act Unit := do
          let name := if a.length < b.length then first else second
          let shown := name ++ (if short = 0 then " which is empty".toList
            else " after byte ".toList ++ (toString short).toList)
          let lines := (a.take short).count newline
          let line := if !inLine ∨ short = 0 then []
            else if a[short - 1]? = some newline then ", line ".toList ++ (toString lines).toList
            else ", in line ".toList ++ (toString (lines + 1)).toList
          complain tool ("EOF on ".toList ++ shown ++ line)
        if quiet then return if found.isEmpty ∧ a.length = b.length then 0 else 1
        else if os.has "l" then
          if a.length ≠ b.length then ended false
          let width := (toString short).length
          say tool (found.flatMap fun (n, x, y) =>
            padLeft width (toString n).toList ++ ' ' :: octalSign x ++ (if os.has "b" then
              let v := visibleSign x
              ' ' :: v ++ List.replicate (4 - v.length) ' ' ++ ' ' :: octalSign y ++ ' ' :: visibleSign y
            else ' ' :: octalSign y) ++ ['\n'])
          return if found.isEmpty ∧ a.length = b.length then 0 else 1
        else
          match found with
          | (n, x, y) :: _ =>
            let line := ((a.take (n - 1)).count newline) + 1
            say tool (first ++ ' ' :: second ++ " differ: ".toList ++
              (if os.has "b" then "byte " else "char ").toList ++ (toString n).toList ++ ", line ".toList ++
              (toString line).toList ++ (if os.has "b" then
                " is ".toList ++ octalSign x ++ ' ' :: visibleSign x ++ ' ' :: octalSign y ++ ' ' :: visibleSign y
              else []) ++ ['\n'])
            return 1
          | [] =>
            if a.length = b.length then return 0
            ended true
            return 1

end TreePipeline.Tools
