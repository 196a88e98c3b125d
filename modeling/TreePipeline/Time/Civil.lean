import TreePipeline.Time.Timestamp

/-!
Dates and times of day as clocks show them, with their distance from Universal Time, and how they are
written by a pattern of directives.
-/

namespace TreePipeline

structure Zone where
  ahead : Int
  name : List Char
  deriving DecidableEq

namespace Zone

def universal : Zone := ⟨0, "UTC".toList⟩

def isNameChar (c : Char) : Bool := c.isAlpha

def readSpan (cs : List Char) : Int × List Char :=
  let number (cs : List Char) : Int × List Char :=
    let ds := cs.takeWhile Char.isDigit
    (((String.ofList ds).toNat?.getD 0 : Nat), cs.drop ds.length)
  let (h, r) := number cs
  match r with
  | ':' :: r =>
    let (m, r) := number r
    match r with
    | ':' :: r =>
      let (s, r) := number r
      (3600 * h + 60 * m + s, r)
    | r => (3600 * h + 60 * m, r)
  | r => (3600 * h, r)

def ofSetting (cs : List Char) : Zone :=
  let (name, rest) : List Char × List Char := match cs with
    | '<' :: r => (r.takeWhile (· ≠ '>'), (r.dropWhile (· ≠ '>')).drop 1)
    | cs => (cs.takeWhile isNameChar, cs.dropWhile isNameChar)
  if cs.isEmpty then ⟨0, "Universal".toList⟩
  else if name.length < 3 then universal
  else
    match rest with
    | '-' :: r => ⟨(readSpan r).1, name⟩
    | '+' :: r => ⟨-(readSpan r).1, name⟩
    | c :: r => if c.isDigit then ⟨-(readSpan (c :: r)).1, name⟩ else ⟨0, name⟩
    | [] => ⟨0, name⟩

end Zone

structure Civil where
  year : Int
  month : Nat
  day : Nat
  hour : Nat
  minute : Nat
  second : Nat
  nanos : Nat
  zone : Zone

namespace Civil

def ofInstant (secs : Int) (nanos : Nat) (zone : Zone) : Civil :=
  let local_ := secs + zone.ahead
  let days := local_.fdiv 86400
  let rest := (local_ - days * 86400).toNat
  let (year, month, day) := Timestamp.dateFromDays days
  ⟨year, month, day, rest / 3600, rest / 60 % 60, rest % 60, nanos, zone⟩

def days (c : Civil) : Int := Timestamp.daysFromDate c.year c.month c.day

def instant (c : Civil) : Int :=
  c.days * 86400 + c.hour * 3600 + c.minute * 60 + c.second - c.zone.ahead

def weekday (c : Civil) : Nat := ((c.days + 4).fmod 7).toNat

def yearDay (c : Civil) : Nat := (c.days - Timestamp.daysFromDate c.year 1 1).toNat

def isoWeek (c : Civil) : Int × Nat :=
  let thursday := c.days - ((c.weekday + 6) % 7 : Nat) + 3
  let (year, _, _) := Timestamp.dateFromDays thursday
  (year, (thursday - Timestamp.daysFromDate year 1 1).toNat / 7 + 1)

def weekdayNames : List String :=
  ["Sunday", "Monday", "Tuesday", "Wednesday", "Thursday", "Friday", "Saturday"]

def monthNames : List String :=
  ["January", "February", "March", "April", "May", "June", "July", "August", "September", "October",
    "November", "December"]

def weekdayName (c : Civil) : List Char := (weekdayNames.getD c.weekday "").toList

def monthName (c : Civil) : List Char := (monthNames.getD (c.month - 1) "").toList

structure Style where
  fill : Option Char := none
  bare : Bool := false
  upper : Bool := false
  swap : Bool := false
  plus : Bool := false
  colons : Nat := 0
  width : Option Nat := none

def letters (s : Style) (cs : List Char) : List Char :=
  if s.upper then cs.map Char.toUpper
  else cs

def textField (s : Style) (cs : List Char) : List Char :=
  let cs := letters s cs
  let fill := if s.fill = some '0' then '0' else ' '
  if s.bare then cs else List.replicate (s.width.getD 0 - cs.length) fill ++ cs

def numberField (s : Style) (fill : Char) (width : Nat) (n : Int) : List Char :=
  let ds := Nat.toDigits 10 n.natAbs
  let sign := if n < 0 then ['-'] else if s.plus ∧ s.width.isSome ∧ width < s.width.getD 0 then ['+'] else []
  if s.bare then sign ++ ds
  else
    let fill := s.fill.getD fill
    let room := (s.width.getD width) - (sign.length + ds.length)
    if fill = ' ' then List.replicate room ' ' ++ sign ++ ds
    else sign ++ List.replicate room '0' ++ ds

def zoneText (s : Style) (ahead : Int) : List Char :=
  let n := ahead.natAbs
  let two (n : Nat) : List Char := Timestamp.padded 2 n
  let h := two (n / 3600)
  let m := two (n / 60 % 60)
  let sec := two (n % 60)
  let body := match s.colons with
    | 0 => h ++ m
    | 1 => h ++ ':' :: m
    | 2 => h ++ ':' :: m ++ ':' :: sec
    | _ => if n % 60 ≠ 0 then h ++ ':' :: m ++ ':' :: sec
      else if n / 60 % 60 ≠ 0 then h ++ ':' :: m else h
  let sign := if ahead < 0 then '-' else '+'
  let room := s.width.getD 0 - (body.length + 1)
  sign :: List.replicate room '0' ++ body

def readStyle : Nat → List Char → Style → Style × List Char
  | 0, cs, s => (s, cs)
  | fuel + 1, cs, s =>
    match cs with
    | '-' :: r => readStyle fuel r { s with bare := true }
    | '_' :: r => readStyle fuel r { s with fill := some ' ', bare := false }
    | '0' :: r => readStyle fuel r { s with fill := some '0', bare := false }
    | '+' :: r => readStyle fuel r { s with fill := some '0', plus := true }
    | '^' :: r => readStyle fuel r { s with upper := true }
    | '#' :: r => readStyle fuel r { s with swap := true }
    | cs =>
      let ds := cs.takeWhile Char.isDigit
      let r := cs.drop ds.length
      let s := if ds.isEmpty then s else { s with width := (String.ofList ds).toNat? }
      let colons := (r.takeWhile (· = ':')).length
      let r' := r.drop colons
      let (s, r) := if 0 < colons ∧ colons ≤ 3 ∧ r'.head? = some 'z' then ({ s with colons := colons }, r')
        else (s, r)
      match r with
      | 'E' :: k :: more => if "cCxXyY".toList.contains k then (s, k :: more) else (s, r)
      | 'O' :: k :: more => if "deHIklmMSuUVwWy".toList.contains k then (s, k :: more) else (s, r)
      | r => (s, r)

def directive? (c : Civil) (s : Style) : (depth : Nat) → (k : Char) → Option (List Char)
  | 0, _ => none
  | depth + 1, k =>
    let num (fill : Char) (width : Nat) (n : Int) : Option (List Char) :=
      some (numberField s fill width n)
    let text (cs : List Char) : Option (List Char) := some (textField s cs)
    let caps (cs : List Char) : Option (List Char) :=
      some (textField { s with upper := s.upper || s.swap } cs)
    let several (ks : List (Char × String)) : Option (List Char) :=
      let parts : Option (List (List Char)) :=
        ks.mapM fun (k, after) => (directive? c {} depth k).map fun cs => cs ++ after.toList
      parts.map fun ps => textField s ps.flatten
    let hour12 := if c.hour % 12 = 0 then 12 else c.hour % 12
    let half := (if c.hour < 12 then "AM" else "PM").toList
    match k with
    | '%' => text ['%']
    | 'n' => text ['\n']
    | 't' => text ['\t']
    | 'a' => caps (c.weekdayName.take 3)
    | 'A' => caps c.weekdayName
    | 'b' => caps (c.monthName.take 3)
    | 'h' => caps (c.monthName.take 3)
    | 'B' => caps c.monthName
    | 'c' => several [('a', " "), ('b', " "), ('e', " "), ('T', " "), ('Y', "")]
    | 'C' => num '0' 2 (c.year.fdiv 100)
    | 'd' => num '0' 2 c.day
    | 'D' => several [('m', "/"), ('d', "/"), ('y', "")]
    | 'e' => num ' ' 2 c.day
    | 'F' => several [('Y', "-"), ('m', "-"), ('d', "")]
    | 'g' => num '0' 2 (c.isoWeek.1.fmod 100)
    | 'G' => num '0' 4 c.isoWeek.1
    | 'H' => num '0' 2 c.hour
    | 'I' => num '0' 2 hour12
    | 'j' => num '0' 3 (c.yearDay + 1 : Nat)
    | 'k' => num ' ' 2 c.hour
    | 'l' => num ' ' 2 hour12
    | 'm' => num '0' 2 c.month
    | 'M' => num '0' 2 c.minute
    | 'N' =>
      let ds := Timestamp.padded 9 c.nanos
      some (match s.width with
        | some w => ds.take w ++ List.replicate (w - 9) '0'
        | none => ds)
    | 'p' => text (if s.swap then half.map Char.toLower else half)
    | 'P' => text (half.map Char.toLower)
    | 'q' => num '0' 1 ((c.month + 2) / 3 : Nat)
    | 'r' => several [('I', ":"), ('M', ":"), ('S', " "), ('p', "")]
    | 'R' => several [('H', ":"), ('M', "")]
    | 's' => num '0' 1 c.instant
    | 'S' => num '0' 2 c.second
    | 'T' => several [('H', ":"), ('M', ":"), ('S', "")]
    | 'u' => num '0' 1 (if c.weekday = 0 then 7 else c.weekday : Nat)
    | 'U' => num '0' 2 ((c.yearDay + 7 - c.weekday) / 7 : Nat)
    | 'V' => num '0' 2 c.isoWeek.2
    | 'w' => num '0' 1 c.weekday
    | 'W' => num '0' 2 ((c.yearDay + 7 - (c.weekday + 6) % 7) / 7 : Nat)
    | 'x' => several [('m', "/"), ('d', "/"), ('y', "")]
    | 'X' => several [('H', ":"), ('M', ":"), ('S', "")]
    | 'y' => num '0' 2 (c.year.fmod 100)
    | 'Y' => num '0' 4 c.year
    | 'z' => some (zoneText s c.zone.ahead)
    | 'Z' => text (if s.swap then c.zone.name.map Char.toLower else c.zone.name)
    | _ => none

def format (c : Civil) : Nat → List Char → List Char
  | 0, _ => []
  | _ + 1, [] => []
  | fuel + 1, '%' :: r =>
    let (s, rest) := readStyle (r.length + 1) r {}
    match rest with
    | [] => '%' :: r
    | k :: more =>
      match directive? c s 3 k with
      | some cs => cs ++ format c fuel more
      | none => '%' :: r.take (r.length - rest.length + 1) ++ format c fuel more
  | fuel + 1, a :: r => a :: format c fuel r

def written (c : Civil) (pattern : String) : List Char :=
  c.format (pattern.length + 1) pattern.toList

end Civil

end TreePipeline
