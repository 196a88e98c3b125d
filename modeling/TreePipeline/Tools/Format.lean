import TreePipeline.Number.Amount
import TreePipeline.Tools.Quoting

/-!
Formatted output: escapes, conversions, and the format used again while arguments are left. There are
two dialects: that of shells, and that of the program which does the same.
-/

namespace TreePipeline.Tools.Format

open Shell

def octal (n : Nat) (cs : Chars) : Nat × Chars :=
  let ds := (cs.take n).takeWhile fun c => '0' ≤ c && c ≤ '7'
  (ds.foldl (fun v c => 8 * v + (c.toNat - 48)) 0, cs.drop ds.length)

def octet (n : Nat) : Char := Char.ofNat (n % 256)

def simpleEscape? (c : Char) : Option Char :=
  match c with
  | 'a' => some '\x07'
  | 'b' => some '\x08'
  | 'e' => some '\x1b'
  | 'f' => some '\x0c'
  | 'n' => some '\n'
  | 'r' => some '\r'
  | 't' => some '\t'
  | 'v' => some '\x0b'
  | '\\' => some '\\'
  | _ => none

def hexadecimal? (cs : Chars) : Option (Nat × Chars) :=
  let ds := (cs.take 2).takeWhile fun c => Arithmetic.digitValue c < 16
  if ds.isEmpty then none
  else some (ds.foldl (fun v c => 16 * v + Arithmetic.digitValue c) 0, cs.drop ds.length)

def argumentEscape (hex : Bool) (cs : Chars) : Chars × Chars × Bool :=
  match cs with
  | [] => (['\\'], [], false)
  | 'c' :: r => ([], r, true)
  | '0' :: r =>
    let (n, r) := octal 3 r
    ([octet n], r, false)
  | c :: r =>
    if '1' ≤ c ∧ c ≤ '7' then
      let (n, r) := octal 3 (c :: r)
      ([octet n], r, false)
    else
      match if hex ∧ c = 'x' then hexadecimal? r else none with
      | some (n, r) => ([octet n], r, false)
      | none =>
        match simpleEscape? c with
        | some d => ([d], r, false)
        | none => if hex ∧ c = '"' then ([c], r, false) else (['\\', c], r, false)

def unescapeAll (hex : Bool) : Nat → Chars → Chars × Bool
  | 0, _ => ([], false)
  | _ + 1, [] => ([], false)
  | fuel + 1, '\\' :: r =>
    let (t, r, stop) := argumentEscape hex r
    if stop then (t, true)
    else
      let (u, s) := unescapeAll hex fuel r
      (t ++ u, s)
  | fuel + 1, c :: r =>
    let (u, s) := unescapeAll hex fuel r
    (c :: u, s)

def unescape : Nat → Chars → Chars × Bool := unescapeAll false

def echo (args : List Chars) : Chars :=
  let (newline, args) := match args with
    | ['-', 'n'] :: r => (false, r)
    | r => (true, r)
  let (text, stopped) := unescape (([' '].intercalate args).length + 1) ([' '].intercalate args)
  if newline && !stopped then text ++ ['\n'] else text

structure Conversion where
  left : Bool := false
  zero : Bool := false
  plus : Bool := false
  space : Bool := false
  alternate : Bool := false
  width : Nat := 0
  precision : Option Nat := none
  kind : Char := 's'

def readFlags : Chars → Conversion → Conversion × Chars
  | '-' :: r, v => readFlags r { v with left := true }
  | '0' :: r, v => readFlags r { v with zero := true }
  | '+' :: r, v => readFlags r { v with plus := true }
  | ' ' :: r, v => readFlags r { v with space := true }
  | '#' :: r, v => readFlags r { v with alternate := true }
  | cs, v => (v, cs)

def readNat (cs : Chars) : Nat × Chars :=
  let ds := cs.takeWhile Char.isDigit
  ((String.ofList ds).toNat?.getD 0, cs.drop ds.length)

def pad (v : Conversion) (cs : Chars) : Chars :=
  let n := v.width - cs.length
  if v.left then cs ++ List.replicate n ' ' else List.replicate n ' ' ++ cs

def padSigned (v : Conversion) (zeros : Bool) (sign digits : Chars) : Chars :=
  if zeros ∧ v.zero ∧ !v.left then
    sign ++ List.replicate (v.width - (sign ++ digits).length) '0' ++ digits
  else pad v (sign ++ digits)

def padNumber (v : Conversion) (sign digits : Chars) : Chars :=
  let digits := if v.precision = some 0 ∧ digits = ['0'] then [] else digits
  let digits := List.replicate (v.precision.getD 1 - digits.length) '0' ++ digits
  padSigned v v.precision.isNone sign digits

def signOf (v : Conversion) (negative : Bool) : Chars :=
  if negative then ['-'] else if v.plus then ['+'] else if v.space then [' '] else []

structure Dialect where
  strict : Bool

def Dialect.shell : Dialect := ⟨false⟩

def Dialect.program : Dialect := ⟨true⟩

namespace Dialect

def shown (d : Dialect) (arg : Chars) : Chars := if d.strict then inPlainQuotes arg else arg

def outOfRange : Chars := ": Numerical result out of range".toList

def leftOver (d : Dialect) (arg : Chars) (nothing : Bool) : Chars :=
  d.shown arg ++ (match d.strict, nothing with
    | true, true => ": expected a numeric value"
    | true, false => ": value not completely converted"
    | false, true => ": expected numeric value"
    | false, false => ": not completely converted").toList

end Dialect

def warning : Chars := "warning: ".toList

def quotedValue? (d : Dialect) (arg : Chars) : Option (Nat × Option Chars) :=
  match arg with
  | [] => none
  | q :: r =>
    if q ≠ '\'' ∧ q ≠ '"' then none
    else
      match r with
      | [] => if d.strict then none else some (0, none)
      | [c] => some (c.toNat, none)
      | c :: more =>
        let ignored := ": character(s) following character constant have been ignored".toList
        some (c.toNat, if d.strict then some (warning ++ more ++ ignored) else none)

def minInt : Int := -0x8000000000000000

def maxInt : Int := 0x7fffffffffffffff

def maxWord : Int := 0xffffffffffffffff

def readWhole (cs : Chars) : Option (Int × Chars) :=
  let r := cs.dropWhile Amount.isBlank
  let (negative, r) := match r with
    | '-' :: r => (true, r)
    | '+' :: r => (false, r)
    | r => (false, r)
  let (base, ds, rest) : Nat × Chars × Chars := match r with
    | '0' :: x :: r' =>
      let hs := if x = 'x' ∨ x = 'X' then r'.takeWhile fun c => Arithmetic.digitValue c < 16 else []
      if !hs.isEmpty then (16, hs, r'.drop hs.length)
      else
        let os := (x :: r').takeWhile fun c => '0' ≤ c && c ≤ '7'
        (8, '0' :: os, (x :: r').drop os.length)
    | r =>
      let ds := r.takeWhile Char.isDigit
      (10, ds, r.drop ds.length)
  if ds.isEmpty then none
  else
    let n : Int := (ds.foldl (fun v c => base * v + Arithmetic.digitValue c) 0 : Nat)
    some (if negative then -n else n, rest)

def whole (d : Dialect) (signed : Bool) (arg : Chars) : Int × Option Chars :=
  match quotedValue? d arg with
  | some (n, e) => (n, e)
  | none =>
    match readWhole arg with
    | none => (0, if arg.isEmpty then none else some (d.leftOver arg true))
    | some (n, rest) =>
      let low := if signed then minInt else -maxWord
      let high := if signed then maxInt else maxWord
      let value :=
        if n < low then (if signed then minInt else maxWord) else if high < n then high else n
      let complaint :=
        if d.strict then
          if n < low ∨ high < n then some (d.shown arg ++ Dialect.outOfRange)
          else if rest.isEmpty then none else some (d.leftOver arg false)
        else if !rest.isEmpty then some (d.leftOver arg false)
        else if n < low ∨ high < n then some (d.shown arg ++ Dialect.outOfRange) else none
      (value, complaint)

def amount (d : Dialect) (arg : Chars) : Amount × Option Chars :=
  match quotedValue? d arg with
  | some (n, e) => (.ofInt n, e)
  | none =>
    match Amount.read arg with
    | none => (.ofInt 0, if arg.isEmpty then none else some (d.leftOver arg true))
    | some (a, rest) =>
      let held := if d.strict then a.rounded 64 else .ofBinary64 a.toBinary64
      let lost := match a, held with
        | .finite .., .infinite _ => true
        | .finite .., held => held.isZero && !a.isZero
        | _, _ => false
      (held, if !rest.isEmpty then some (d.leftOver arg false)
        else if lost then some (d.shown arg ++ Dialect.outOfRange) else none)

def word64 (n : Int) : Nat := (n % 0x10000000000000000).toNat

def amountText (d : Dialect) (v : Conversion) (a : Amount) : Chars :=
  let (bits, lead) := if d.strict then (64, 4) else (53, 1)
  let finite := match a with
    | .finite .. => true
    | _ => false
  padSigned v finite (signOf v a.isNegative) (a.text bits lead v.kind v.precision v.alternate)

def convert (d : Dialect) (v : Conversion) (given : Option Chars) :
    Chars × Option Chars × Bool :=
  let arg := given.getD []
  let cut (cs : Chars) : Chars := match v.precision with
    | some p => cs.take p
    | none => cs
  let signed : Chars × Option Chars × Bool :=
    let (n, e) := if given.isNone then (0, none) else whole d true arg
    (padNumber v (signOf v (n < 0)) (Nat.toDigits 10 n.natAbs), e, false)
  let unsigned (mark : Chars) (digits : Nat → Chars) : Chars × Option Chars × Bool :=
    let (n, e) := if given.isNone then (0, none) else whole d false arg
    let n := word64 n
    (padNumber v (if v.alternate ∧ n ≠ 0 then mark else []) (digits n), e, false)
  match v.kind with
  | 's' => (pad v (cut arg), none, false)
  | 'b' =>
    let (t, stop) := unescapeAll d.strict (arg.length + 1) arg
    (pad v (cut t), none, stop)
  | 'q' => (asWordAlone arg, none, false)
  | 'c' => (pad v (if arg.isEmpty then ['\x00'] else arg.take 1), none, false)
  | 'd' => signed
  | 'i' => signed
  | 'u' => unsigned [] (Nat.toDigits 10)
  | 'o' =>
    let (n, e) := if given.isNone then (0, none) else whole d false arg
    let ds := Nat.toDigits 8 (word64 n)
    if v.alternate ∧ (word64 n ≠ 0 ∨ v.precision = some 0) ∧ v.precision.getD 1 ≤ ds.length then
      (padSigned v v.precision.isNone [] (if ds = ['0'] then ds else '0' :: ds), e, false)
    else (padNumber v [] ds, e, false)
  | 'x' => unsigned ['0', 'x'] (Nat.toDigits 16)
  | 'X' => unsigned ['0', 'X'] fun n => (Nat.toDigits 16 n).map Char.toUpper
  | c =>
    let (a, e) := if given.isNone then (.ofInt 0, none) else amount d arg
    (amountText d { v with kind := c } a, e, false)
where
  asWordAlone (cs : Chars) : Chars := if Quoting.needed false cs then inQuotes cs else cs

structure Output where
  text : Chars := []
  complaints : List Chars := []
  args : List Chars
  stopped : Bool := false
  used : Bool := false
  invalid : Bool := false

def Output.add (o : Output) (cs : Chars) : Output := { o with text := o.text ++ cs }

def nextArg (o : Output) : Option Chars × Output :=
  match o.args with
  | [] => (none, { o with used := true })
  | a :: r => (some a, { o with args := r, used := true })

def readSize (d : Dialect) (cs : Chars) (o : Output) : Int × Chars × Output :=
  match cs with
  | '*' :: r =>
    let (a, o) := nextArg o
    let (n, e) := whole d true (a.getD ['0'])
    (n, r, { o with complaints := o.complaints ++ e.toList })
  | cs =>
    let (n, r) := readNat cs
    (n, r, o)

def isKind (d : Dialect) (c : Char) : Bool :=
  "bcdisouxXaAeEfFgG".toList.contains c || (d.strict && c = 'q')

def isSensible (d : Dialect) (v : Conversion) (sized : Bool) : Bool :=
  if !d.strict then true
  else
    match v.kind with
    | 'b' => !sized
    | 'q' => !sized
    | 'c' => !(v.zero || v.alternate || v.plus || v.precision.isSome)
    | 's' => !(v.zero || v.alternate || v.plus)
    | 'd' => !v.alternate
    | 'i' => !v.alternate
    | 'u' => !v.alternate
    | _ => true

def invalidFormat (d : Dialect) (spec : Chars) (o : Output) : Output :=
  let what := if d.strict then ": invalid conversion specification" else ": invalid directive"
  { o with complaints := o.complaints ++ [spec ++ what.toList], stopped := true, invalid := true }

def passConversion (d : Dialect) (r : Chars) (o : Output) : Chars × Output :=
  let start := r
  let (v, r) := readFlags r {}
  let (w, r, o) := readSize d r o
  let (p, r, o) := match r with
    | '.' :: r =>
      let (n, r, o) := readSize d r o
      (some n, r, o)
    | r => (none, r, o)
  let v := { v with
    left := v.left || w < 0, width := w.natAbs
    precision := p.bind fun n => if n < 0 then none else some n.toNat }
  let r := if d.strict then r.dropWhile "hlLjtz".toList.contains else r
  let spec (r : Chars) : Chars := '%' :: start.take (start.length - r.length)
  match r with
  | [] =>
    if d.strict then ([], invalidFormat d (spec []) o)
    else ([], { o with
      complaints := o.complaints ++ ["missing format character".toList], stopped := true,
      invalid := true })
  | k :: r =>
    let v := { v with kind := k }
    let sized := start.length ≠ r.length + 1
    if !isKind d k ∨ !isSensible d v sized then ([], invalidFormat d (spec r) o)
    else
      let (a, o) := nextArg o
      let (t, e, stop) := convert d v a
      let o := { o.add t with complaints := o.complaints ++ e.toList }
      (r, if stop then { o with stopped := true } else o)

def pass (d : Dialect) : Nat → Chars → Output → Output
  | 0, _, o => o
  | _ + 1, [], o => o
  | fuel + 1, '\\' :: r, o =>
    match r with
    | [] => o.add ['\\']
    | c :: r' =>
      if '0' ≤ c ∧ c ≤ '7' then
        let (n, r) := octal 3 (c :: r')
        pass d fuel r (o.add [octet n])
      else if d.strict ∧ c = 'c' then { o with stopped := true }
      else if d.strict ∧ c = 'x' then
        match hexadecimal? r' with
        | some (n, r) => pass d fuel r (o.add [octet n])
        | none =>
          { o with
            complaints := o.complaints ++ ["missing hexadecimal number in escape".toList]
            stopped := true, invalid := true }
      else
        match simpleEscape? c with
        | some e => pass d fuel r' (o.add [e])
        | none => pass d fuel r' (o.add (if d.strict ∧ c = '"' then [c] else ['\\', c]))
  | fuel + 1, '%' :: '%' :: r, o => pass d fuel r (o.add ['%'])
  | fuel + 1, '%' :: r, o =>
    let (r, o) := passConversion d r o
    if o.stopped then o else pass d fuel r o
  | fuel + 1, c :: r, o => pass d fuel r (o.add [c])

def passes (d : Dialect) (format : Chars) : Nat → Output → Output
  | 0, o => o
  | fuel + 1, o =>
    let o := pass d (format.length + 1) format { o with used := false }
    if o.stopped || !o.used || o.args.isEmpty then o else passes d format fuel o

def print (d : Dialect) (format : Chars) (args : List Chars) : Output :=
  passes d format (args.length + 1) { args := args }

end TreePipeline.Tools.Format
