import TreePipeline.Number.Amount
import TreePipeline.Tools.Extent
import TreePipeline.Tools.Format

/-! A small program that shows octets as numbers and signs, in lines with the place of each in front. -/

namespace TreePipeline.Tools

open Shell Host

namespace Dump

inductive Kind where
  | signs
  | names
  | signed
  | unsigned
  | octal
  | hexadecimal
  | fraction
  deriving DecidableEq

structure Form where
  kind : Kind
  size : Nat
  shown : Bool := false

namespace Form

def width (f : Form) : Nat :=
  let bits := 8 * f.size
  match f.kind with
  | .signs => 3
  | .names => 3
  | .octal => (bits + 2) / 3
  | .hexadecimal => 2 * f.size
  | .unsigned => (Nat.toDigits 10 (Nat.pow 2 bits - 1)).length
  | .signed => (Nat.toDigits 10 (Nat.pow 2 (bits - 1))).length + 1
  | .fraction => if f.size = 4 then 15 else 24

def controlNames : List String :=
  ["nul", "soh", "stx", "etx", "eot", "enq", "ack", "bel", "bs", "ht", "nl", "vt", "ff", "cr", "so", "si",
    "dle", "dc1", "dc2", "dc3", "dc4", "nak", "syn", "etb", "can", "em", "sub", "esc", "fs", "gs", "rs", "us",
    "sp"]

def nameOf (b : UInt8) : Chars :=
  let n := b.toNat % 128
  if n = 127 then "del".toList
  else match controlNames[n]? with
    | some s => s.toList
    | none => [Char.ofNat n]

def signOf (b : UInt8) : Chars :=
  let c := Char.ofNat b.toNat
  if b = 0 then "\\0".toList
  else if Quoting.isPrintable c then [c]
  else match Quoting.escapeLetter? c with
    | some l => ['\\', l]
    | none => [Quoting.octalDigit (c.toNat / 64), Quoting.octalDigit (c.toNat / 8), Quoting.octalDigit c.toNat]

def shortest (bits : Nat) (a : Amount) : Chars :=
  let most := if bits = 24 then 9 else 17
  let text (p : Nat) : Chars :=
    (if a.isNegative then ['-'] else []) ++ a.text 53 1 'g' (some p) false
  let same (p : Nat) : Bool := match Amount.read (text p) with
    | some (b, []) => match (b.rounded bits), a with
      | .finite s n d, .finite t m e => s == t && n * e == m * d
      | x, y => x == y
    | _ => false
  text (((List.range most).map (· + 1)).find? same |>.getD most)

def shortAmount (n : Nat) : Amount :=
  let negative := 0x80000000 ≤ n
  let e := n / 0x800000 % 256
  let f := n % 0x800000
  if e = 255 then (if f = 0 then .infinite negative else .undefined negative)
  else
    let m := if e = 0 then f else 0x800000 + f
    let e := max e 1
    if 150 ≤ e then .finite negative (m * Nat.pow 2 (e - 150)) 1 else .finite negative m (Nat.pow 2 (150 - e))

def text (f : Form) (bs : Octets) : Chars :=
  let n := bs.foldr (fun b v => 256 * v + b.toNat) 0
  let zeros (base : Nat) : Chars :=
    let ds := Nat.toDigits base n
    List.replicate (f.width - ds.length) '0' ++ ds
  match f.kind with
  | .signs => signOf (bs.headD 0)
  | .names => nameOf (bs.headD 0)
  | .octal => zeros 8
  | .hexadecimal => zeros 16
  | .unsigned => Nat.toDigits 10 n
  | .signed =>
    let half := Nat.pow 2 (8 * f.size - 1)
    if half ≤ n then '-' :: Nat.toDigits 10 (2 * half - n) else Nat.toDigits 10 n
  | .fraction =>
    if f.size = 4 then shortest 24 (shortAmount n) else shortest 53 (.ofBinary64 ⟨n.toUInt64⟩)

inductive Fault where
  | invalid
  | badLetter (c : Char)
  | noSize (n : Nat)

def sizeLetter? (c : Char) (fraction : Bool) : Option Nat :=
  if fraction then (match c with
    | 'F' => some 4
    | 'D' => some 8
    | 'L' => some 8
    | _ => none)
  else (match c with
    | 'C' => some 1
    | 'S' => some 2
    | 'I' => some 4
    | 'L' => some 8
    | _ => none)

def readAll : Nat → Chars → Except Fault (List Form)
  | 0, _ => .ok []
  | _ + 1, [] => .ok []
  | fuel + 1, c :: r =>
    let ended (f : Form) (r : Chars) : Except Fault (List Form) :=
      match r with
      | 'z' :: r => (readAll fuel r).map ({ f with shown := true } :: ·)
      | r => (readAll fuel r).map (f :: ·)
    let sized (kind : Kind) (usual : Nat) : Except Fault (List Form) :=
      let fraction := kind = .fraction
      match r with
      | k :: r' =>
        match sizeLetter? k fraction with
        | some n => ended ⟨kind, n, false⟩ r'
        | none =>
          let ds := r.takeWhile Char.isDigit
          if ds.isEmpty then ended ⟨kind, usual, false⟩ r
          else
            let n := (number? ds).getD 0
            let sizes := if fraction then [4, 8] else [1, 2, 4, 8]
            if sizes.contains n then ended ⟨kind, n, false⟩ (r.drop ds.length) else .error (.noSize n)
      | [] => ended ⟨kind, usual, false⟩ r
    match c with
    | 'a' => ended ⟨.names, 1, false⟩ r
    | 'c' => ended ⟨.signs, 1, false⟩ r
    | 'd' => sized .signed 4
    | 'u' => sized .unsigned 4
    | 'o' => sized .octal 4
    | 'x' => sized .hexadecimal 4
    | 'f' => sized .fraction 8
    | c => .error (.badLetter c)

end Form

def placeText (base width : Nat) (place : Nat) : Chars :=
  if base = 0 then []
  else
    let ds := Nat.toDigits base place
    List.replicate (width - ds.length) '0' ++ ds

structure Layout where
  forms : List Dump.Form
  base : Nat
  digits : Nat
  line : Nat
  verbose : Bool
  bigEndian : Bool

namespace Layout

def groups (size : Nat) : Nat → Octets → List Octets
  | 0, _ => []
  | _ + 1, [] => []
  | fuel + 1, bs => bs.take size :: groups size fuel (bs.drop size)

def widest (l : Layout) : Nat :=
  (l.forms.map fun f => (f.width + 1) * (l.line / f.size)).foldl max 0

def formText (l : Layout) (f : Dump.Form) (bs : Octets) : Chars :=
  let fields := l.line / f.size
  let padding := l.widest - f.width * fields
  let gs := groups f.size bs.length bs
  let full (g : Octets) : Octets := g ++ List.replicate (f.size - g.length) 0
  let parts := gs.zipIdx.flatMap fun (g, i) =>
    -- The room between fields is given away evenly.
    let before := padding * (fields - i) / fields
    let after := padding * (fields - i - 1) / fields
    let g := full g
    padLeft (before - after + f.width) (f.text (if l.bigEndian then g.reverse else g))
  let blank := fields - gs.length
  let trailer : Chars :=
    if f.shown then
      List.replicate (blank * f.width + padding * blank / fields) ' ' ++ "  >".toList ++
        (bs.map fun b => let c := Char.ofNat b.toNat
          if Quoting.isPrintable c then c else '.') ++ ['<']
    else []
  parts ++ trailer

def lineText (l : Layout) (place : Nat) (bs : Octets) : Chars :=
  l.forms.zipIdx.flatMap fun (f, i) =>
    (if i = 0 then placeText l.base l.digits place
      else List.replicate (if l.base = 0 then 0 else l.digits) ' ') ++ l.formText f bs ++ ['\n']

def lines (l : Layout) : Nat → (place : Nat) → (before : Option Octets) → (starred : Bool) → Octets → Chars
  | 0, _, _, _, _ => []
  | fuel + 1, place, before, starred, bs =>
    if bs.isEmpty then []
    else
      let here := bs.take l.line
      let rest := bs.drop l.line
      if !l.verbose ∧ here.length = l.line ∧ before = some here then
        (if starred then [] else ['*', '\n']) ++ lines l fuel (place + l.line) before true rest
      else l.lineText place here ++ lines l fuel (place + l.line) (some here) false rest

def text (l : Layout) (start : Nat) (bs : Octets) : Chars :=
  l.lines (bs.length + 1) start none false bs ++
    (if l.base = 0 then [] else placeText l.base l.digits (start + bs.length) ++ ['\n'])

end Layout

def readUpTo (fd : Nat) : Nat → (left : Nat) → List Octets → Act (Except SystemError Octets)
  | 0, _, acc => return .ok acc.reverse.flatten
  | fuel + 1, left, acc => do
    if left = 0 then return .ok acc.reverse.flatten
    match ← Act.read fd (min left Act.readSize) with
    | .ok [] => return .ok acc.reverse.flatten
    | .ok bs => readUpTo fd fuel (left - bs.length) (bs :: acc)
    | .error e => return .error e

def gather (tool : String) : (limit : Option Nat) → List Chars → Act (Octets × Bool × Nat)
  | _, [] => return ([], false, 0)
  | limit, p :: r => do
    if limit = some 0 then return ([], true, 0)
    let (here, open_, status) ← do
      match ← openInput p with
      | .error e => do
        complain tool (asWord p ++ ": ".toList ++ faultText e)
        pure (([] : Octets), false, 1)
      | .ok fd => do
        let content ← match limit with
          | none => Act.readAll fd maxReads []
          | some n => readUpTo fd maxReads n []
        if fd ≠ 0 then Act.close fd
        match content with
        | .ok bs => pure (bs, true, 0)
        | .error e => do
          complain tool (asWord p ++ ": ".toList ++ faultText e)
          pure (([] : Octets), true, 1)
    let (rest, more, after) ← gather tool (limit.map (· - here.length)) r
    return (here ++ rest, open_ || more, max status after)

def readCount (cs : Chars) : Except Extent.Fault Nat :=
  match cs with
  | '0' :: x :: r =>
    if (x = 'x' ∨ x = 'X') ∧ !r.isEmpty ∧ r.all fun c => Arithmetic.digitValue c < 16 then
      .ok (r.foldl (fun v c => 16 * v + Arithmetic.digitValue c) 0)
    else if (x :: r).all fun c => '0' ≤ c && c ≤ '7' then
      .ok ((x :: r).foldl (fun v c => 8 * v + (c.toNat - 48)) 0)
    else Extent.read cs
  | cs => if cs.head?.any Char.isDigit then Extent.read cs else .error .invalid

def readPlace? (cs : Chars) : Option Nat :=
  let cs := if cs.head? = some '+' then cs.drop 1 else cs
  let (cs, unit) := if cs.getLast? = some 'b' then (cs.dropLast, 512) else (cs, 1)
  let value : Option Nat := match cs with
    | '0' :: 'x' :: r =>
      if r.isEmpty ∨ !r.all fun c => Arithmetic.digitValue c < 16 then none
      else some (r.foldl (fun v c => 16 * v + Arithmetic.digitValue c) 0)
    | cs =>
      if cs.getLast? = some '.' then number? cs.dropLast
      else if cs.isEmpty ∨ !cs.all fun c => '0' ≤ c && c ≤ '7' then none
      else some (cs.foldl (fun v c => 8 * v + (c.toNat - 48)) 0)
  value.map (· * unit)

def shortForm? (key : String) : Option String :=
  match key with
  | "a" => some "a"
  | "b" => some "o1"
  | "B" => some "o2"
  | "c" => some "c"
  | "d" => some "u2"
  | "D" => some "u4"
  | "e" => some "f8"
  | "f" => some "f4"
  | "H" => some "x4"
  | "h" => some "x2"
  | "i" => some "d4"
  | "l" => some "d8"
  | "o" => some "o2"
  | "O" => some "o4"
  | "s" => some "d2"
  | _ => none

def texts (least : Nat) : (place : Nat) → (begun : Chars) → Octets → List (Nat × Chars)
  | _, _, [] => []
  | place, begun, b :: r =>
    let c := Char.ofNat b.toNat
    if Quoting.isPrintable c ∨ (7 ≤ b ∧ b ≤ 13) then texts least (place + 1) (c :: begun) r
    else
      (if b = 0 ∧ least ≤ begun.length then [(place - begun.length, begun.reverse)] else []) ++
        texts least (place + 1) [] r

end Dump

open Dump in
def od : Tool := fun tool args _ => do
  let table := "A,address-radix= endian= j,skip-bytes= N,read-bytes= S= strings=? t,format= v,output-duplicates " ++
    "w,width=? traditional a b B c d D e f H,X h,x i l,I,L o O s"
  withTable tool table args fun os operands => do
    let fail (text : Chars) : Act Nat := do
      complain tool text
      return 1
    let addresses : List (Char × Nat × Nat) := [('o', 8, 7), ('d', 10, 7), ('x', 16, 6), ('n', 0, 0)]
    let radix := (os.value? "A").getD ['o']
    match addresses.lookup (radix.headD ' ') with
    | none => fail ("invalid output address radix ".toList ++ inPlainQuotes radix ++
        "; it must be one character from [doxn]".toList)
    | some (base, digits) =>
    let count (key : String) : Except Chars (Option Nat) := match os.value? key with
      | none => .ok none
      | some v => match readCount v with
        | .ok n => .ok (some n)
        | .error e => .error ("invalid ".toList ++ (if key = "w" then "--width argument " else "-" ++ key ++ " argument ").toList ++
            inPlainQuotes v ++ e.ending)
    match count "j", count "N", count "w" with
    | .error e, _, _ => fail e
    | _, .error e, _ => fail e
    | _, _, .error e => fail e
    | .ok skip?, .ok limit, .ok width =>
    let words : List Chars := os.filterMap fun (key, v) =>
      if key = "t" then v else (shortForm? key).map String.toList
    let read (w : Chars) : Except Chars (List Dump.Form) := match Form.readAll (w.length + 1) w with
      | .ok fs => .ok fs
      | .error .invalid => .error ("invalid type string ".toList ++ inPlainQuotes w)
      | .error (.badLetter c) => .error ("invalid character ".toList ++ inPlainQuotes [c] ++
          " in type string ".toList ++ inPlainQuotes w)
      | .error (.noSize n) => .error ("invalid type string ".toList ++ inPlainQuotes w ++
          ";\nthis system doesn't provide a ".toList ++ (toString n).toList ++ "-byte ".toList ++
          (if w.head? = some 'f' then "floating point type" else "integral type").toList)
    match (if words.isEmpty then ["o2".toList] else words).mapM read with
    | .error e => fail e
    | .ok forms =>
      let forms := forms.flatten
      let modern := ["A", "j", "N", "t", "v", "w", "S", "strings"].any os.has
      let (paths, place) : List Chars × Option Nat := match modern, operands with
        | false, [a] => if a.head? = some '+' then
            (match readPlace? a with
              | some n => ([], some n)
              | none => ([a], none))
          else ([a], none)
        | false, [f, a] => if a.head? = some '+' ∨ a.head?.any Char.isDigit then
            (match readPlace? a with
              | some n => ([f], some n)
              | none => ([f, a], none))
          else ([f, a], none)
        | _, ps => (ps, none)
      let skip := (skip?.or place).getD 0
      let (content, open_, status) ← gather tool (limit.map (· + skip)) (inputsOr paths)
      if !open_ then return status
      if content.length < skip then
        return ← fail "cannot skip past end of combined input".toList
      let content := content.drop skip
      if os.has "S" ∨ os.has "strings" then
        let least := (((os.value? "S").or (os.value? "strings")).bind number?).getD 3
        say tool ((texts least skip [] content).flatMap fun (n, t) =>
          (if base = 0 then [] else placeText base digits n ++ [' ']) ++ t.flatMap (fun c =>
            if Quoting.isPrintable c then [c] else match Quoting.escapeLetter? c with
              | some l => ['\\', l]
              | none => [c]) ++ ['\n'])
        return status
      let unit := (forms.map Form.size).foldl Nat.lcm 1
      let usual := if unit < 16 then unit * (16 / unit) else unit
      let asked : Option Nat := if os.has "w" then some (width.getD 32) else none
      let line ← match asked with
        | none => pure usual
        | some w =>
          if w ≠ 0 ∧ w % unit = 0 then pure w
          else do
            complain tool ("warning: invalid width ".toList ++ (toString w).toList ++ "; using ".toList ++
              (toString unit).toList ++ " instead".toList)
            pure unit
      let l : Layout := ⟨forms, base, digits, line, os.has "v", os.value? "endian" = some "big".toList⟩
      say tool (l.text skip content)
      return status

end TreePipeline.Tools
