import TreePipeline.Tools.Extent
import TreePipeline.Tools.Sorting

/-! Small programs that find lines which repeat: one after the other, or in two files in order. -/

namespace TreePipeline.Tools

open Shell Host

namespace Repeats

structure Compared where
  fields : Nat
  chars : Nat
  most : Option Nat
  fold : Bool

def Compared.part (c : Compared) (line : Chars) : Chars :=
  let from_ := line.drop (Sorting.Key.fieldsLength none line (min c.fields line.length))
  let from_ := from_.drop c.chars
  let cut := match c.most with
    | some n => from_.take n
    | none => from_
  if c.fold then cut.map Char.toUpper else cut

def runs (c : Compared) : List Chars → List (List Chars)
  | [] => []
  | a :: r =>
    match runs c r with
    | (b :: run) :: more =>
      if c.part a = c.part b then (a :: b :: run) :: more else [a] :: (b :: run) :: more
    | rs => [a] :: rs

inductive Separation where
  | none
  | before
  | between
  | after
  | around
  deriving DecidableEq

def Separation.ofName? (name : Chars) : Option Separation :=
  [("none", .none), ("prepend", .before), ("separate", .between), ("append", .after),
    ("both", .around)].lookup (String.ofList name)

def separated (s : Separation) (groups : List (List Chars)) : List Chars :=
  let put (g : List Chars) (first : Bool) : List Chars :=
    match s with
    | .none => g
    | .before => [] :: g
    | .between => if first then g else [] :: g
    | .after => g ++ [[]]
    | .around => if first then [] :: g ++ [[]] else g ++ [[]]
  match groups with
  | [] => []
  | g :: r => put g true ++ r.flatMap fun g => put g false

def table : String :=
  "c,count d,repeated D all-repeated=? f,skip-fields= i,ignore-case s,skip-chars= u,unique " ++
  "w,check-chars= z,zero-terminated group=?"

def comparedOf (os : Options) : Except Chars Compared := do
  let number (key what : String) : Except Chars (Option Nat) :=
    match os.value? key with
    | none => .ok none
    | some v =>
      match number? v with
      | some n => .ok (some n)
      | none => .error (v ++ (": invalid number of " ++ what).toList)
  let fields ← number "f" "fields to skip"
  let chars ← number "s" "bytes to skip"
  let most ← number "w" "bytes to compare"
  return ⟨fields.getD 0, chars.getD 0, most, os.has "i"⟩

def kept (os : Options) (c : Compared) (lines : List Chars) : List Chars :=
  let groups := runs c lines
  let separation (key : String) (usual : Separation) : Separation :=
    ((os.value? key).bind Separation.ofName?).getD usual
  if os.has "group" then separated (separation "group" .between) groups
  else
    let chosen := groups.filter fun g =>
      (!(os.has "d" || os.has "D" || os.has "all-repeated") || 1 < g.length) &&
        (!os.has "u" || g.length = 1)
    if os.has "D" ∨ os.has "all-repeated" then separated (separation "all-repeated" .none) chosen
    else
      chosen.map fun g =>
        (if os.has "c" then padLeft 7 (toString g.length).toList ++ [' '] else []) ++ g.headD []

end Repeats

def withNumbers : List Chars → List Chars
  | [] => []
  | ['-', '-'] :: r => ['-', '-'] :: r
  | a :: r =>
    match a with
    | '-' :: d :: ds =>
      if (d :: ds).all Char.isDigit then ['-', 'f'] :: (d :: ds) :: withNumbers r
      else a :: withNumbers r
    | '+' :: d :: ds =>
      if (d :: ds).all Char.isDigit then ['-', 's'] :: (d :: ds) :: withNumbers r
      else a :: withNumbers r
    | a => a :: withNumbers r

open Repeats in
def uniq : Tool := fun tool args _ => withTable tool table (withNumbers args) fun os paths => do
  match comparedOf os with
  | .error e =>
    complain tool e
    return 1
  | .ok c =>
    if os.has "c" ∧ (os.has "D" ∨ os.has "all-repeated") then
      return ← misuse tool
        "printing all duplicated lines and repeat counts is meaningless".toList
    if os.has "group" ∧ ["c", "d", "u", "D", "all-repeated"].any os.has then
      return ← misuse tool "--group is mutually exclusive with -c/-d/-D/-u".toList
    match paths.drop 2 with
    | extra :: _ => return ← misuse tool ("extra operand ".toList ++ inQuotes extra)
    | [] => pure ()
    let path := (inputsOr paths).headD []
    match ← openInput path with
    | .error e =>
      complain tool (path ++ ": ".toList ++ faultText e)
      return 1
    | .ok fd =>
      let goal ← match paths[1]? with
        | some p => if p = ['-'] then pure (Except.ok 1) else Act.openFile (toOctets p) .write
        | none => pure (Except.ok 1)
      match goal with
      | .error e =>
        complain tool ((paths.getD 1 []) ++ ": ".toList ++ faultText e)
        return 1
      | .ok out =>
        match ← Act.readAll fd maxReads [] with
        | .error e =>
          complain tool ("error reading ".toList ++ inQuotes path ++ ": ".toList ++ faultText e)
          return 1
        | .ok bs =>
          let ending : UInt8 := if os.has "z" then 0 else newline
          let lines := kept os c (Sorting.pieces ending bs)
          let data := lines.flatMap fun l => toOctets l ++ [ending]
          if out = 1 then put tool data
          else
            let _ ← Act.write out data
          return 0

namespace Common

structure Style where
  fronts : List (Option Chars)
  check : Option Bool

inductive Finding where
  | line (kind : Nat) (text : Chars)
  | disorder (file : Nat)

structure Found where
  findings : List Finding := []
  lone : Bool := false
  disordered : List Nat := []
  stopped : Bool := false

def Found.add (kind : Nat) (text : Chars) (f : Found) : Found :=
  { f with findings := .line kind text :: f.findings, lone := f.lone || kind ≠ 3 }

def Found.noteOrder (s : Style) (file : Nat) (before after : Option Chars) (f : Found) : Found :=
  match before, after with
  | some a, some b =>
    let looks := s.check = some true || (s.check.isNone && f.lone)
    if looks && !f.disordered.contains file && Sorting.compareText a b = .gt then
      { f with
        findings := .disorder file :: f.findings, disordered := file :: f.disordered
        stopped := s.check = some true }
    else f
  | _, _ => f

def compare (s : Style) : Nat → (a b : Option Chars) → List Chars → List Chars → Found → Found
  | 0, _, _, _, _, f => f
  | fuel + 1, a, b, one, two, f =>
    if f.stopped then f
    else
      let order : Ordering := match one, two with
        | [], _ => .gt
        | _, [] => .lt
        | x :: _, y :: _ => Sorting.compareText x y
      let stepOne (f : Found) : Found :=
        match one with
        | x :: y :: _ => f.noteOrder s 1 (some x) (some y)
        | [x] => f.noteOrder s 1 a (some x)
        | [] => f
      let stepTwo (f : Found) : Found :=
        match two with
        | x :: y :: _ => f.noteOrder s 2 (some x) (some y)
        | [x] => f.noteOrder s 2 b (some x)
        | [] => f
      match order, one, two with
      | .lt, x :: one', _ =>
        compare s fuel (some x) b one' two (stepOne (f.add 1 x))
      | .gt, _, y :: two' =>
        compare s fuel a (some y) one two' (stepTwo (f.add 2 y))
      | .eq, x :: one', y :: two' =>
        let f := stepOne (f.add 3 y)
        compare s fuel (some x) (some y) one' two' (if f.stopped then f else stepTwo f)
      | _, _, _ => f

end Common

open Common in
def comm : Tool := fun tool args _ =>
  withTable tool "1 2 3 z,zero-terminated check-order nocheck-order output-delimiter= total" args
    fun os paths => do
  match paths with
  | [] => misuse tool "missing operand".toList
  | [a] => misuse tool ("missing operand after ".toList ++ inQuotes a)
  | _ :: _ :: extra :: _ => misuse tool ("extra operand ".toList ++ inQuotes extra)
  | [a, b] =>
    let gap := (os.value? "output-delimiter").getD ['\t']
    let gap := if gap.isEmpty then ['\x00'] else gap
    let shown (key : String) : Bool := !os.has key
    let tabs (n : Nat) : Chars := (List.replicate n gap).flatten
    let s : Style := {
      fronts :=
        [if shown "1" then some [] else none,
          if shown "2" then some (tabs (if shown "1" then 1 else 0)) else none,
          if shown "3" then
            some (tabs ((if shown "1" then 1 else 0) + (if shown "2" then 1 else 0)))
          else none]
      check := (os.last? ["check-order", "nocheck-order"]).map (· = "check-order") }
    let ending : UInt8 := if os.has "z" then 0 else newline
    match ← contentOf tool a with
    | none => return 1
    | some one =>
      match ← contentOf tool b with
      | none => return 1
      | some two =>
        let one := Sorting.pieces ending one
        let two := Sorting.pieces ending two
        let f := compare s (one.length + two.length + 1) none none one two {}
        let stop : Chars := [Char.ofNat ending.toNat]
        for e in f.findings.reverse do
          match e with
          | .line kind text =>
            match s.fronts.getD (kind - 1) none with
            | some front => say tool (front ++ text ++ stop)
            | none => pure ()
          | .disorder n =>
            complain tool ("file ".toList ++ (toString n).toList ++ " is not in sorted order".toList)
        if f.stopped then return 1
        let count (kind : Nat) : Chars :=
          (toString (f.findings.countP fun e => match e with
            | .line k _ => k = kind
            | .disorder _ => false)).toList
        if os.has "total" then
          say tool (gap.intercalate [count 1, count 2, count 3, "total".toList] ++ stop)
        if f.disordered.isEmpty then return 0
        complain tool "input is not in sorted order".toList
        return 1

end TreePipeline.Tools
