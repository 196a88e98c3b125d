import TreePipeline.Text.Numeral
import TreePipeline.Time.Timestamp

/-!
Reading an instant from RFC 3339. Reading is lenient in what lies between the parts: white space may
stand before numbers and separators, a space may replace the `T`, and the offset may be `UTC`.
Each part is checked against its range as soon as it is read, the date as a whole at the end.
-/

namespace TreePipeline

inductive TimestampError where
  | tooShort
  | invalid
  | outOfRange
  | trailing
  | impossible
  deriving DecidableEq

def TimestampError.message : TimestampError → String
  | .tooShort => "premature end of input"
  | .invalid => "input contains invalid characters"
  | .outOfRange => "input is out of range"
  | .trailing => "trailing input"
  | .impossible => "no possible date and time matching input"

namespace Timestamp

def digit? (c : Char) : Option Nat := if '0' ≤ c ∧ c ≤ '9' then some (c.toNat - 48) else none

def readDigits : (width acc : Nat) → List Char → Except TimestampError (Nat × List Char)
  | 0, acc, cs => .ok (acc, cs)
  | _ + 1, acc, [] => .ok (acc, [])
  | width + 1, acc, c :: r =>
    match digit? c with
    | none => .ok (acc, c :: r)
    | some d => if 0x8000000000000000 ≤ 10 * acc + d then .error .outOfRange else readDigits width (10 * acc + d) r

def readNumber (width : Nat) (cs : List Char) : Except TimestampError (Nat × List Char) :=
  match cs with
  | [] => .error .tooShort
  | c :: _ => if (digit? c).isSome then readDigits width 0 cs else .error .invalid

def readYear (cs : List Char) : Except TimestampError (Int × List Char) := do
  let (year, r) ← match Text.dropBlanks cs with
    | '-' :: r => do
      let (n, r) ← readNumber r.length r
      pure (-(n : Int), r)
    | '+' :: r => do
      let (n, r) ← readNumber r.length r
      pure ((n : Int), r)
    | cs => do
      let (n, r) ← readNumber 4 cs
      pure ((n : Int), r)
  if -(0x80000000) ≤ year ∧ year < 0x80000000 then .ok (year, r) else .error .outOfRange

def readField (low high : Nat) (cs : List Char) : Except TimestampError (Nat × List Char) := do
  let (n, r) ← readNumber 2 (Text.dropBlanks cs)
  if low ≤ n ∧ n ≤ high then .ok (n, r) else .error .outOfRange

def readMark (mark : Char) (cs : List Char) : Except TimestampError (List Char) :=
  match Text.dropBlanks cs with
  | [] => .error .tooShort
  | c :: r => if c = mark then .ok r else .error .invalid

def readFraction (cs : List Char) : Except TimestampError (Nat × List Char) :=
  match cs with
  | '.' :: cs => do
    let (n, r) ← readNumber 9 cs
    let scale := Nat.pow 10 (9 - (cs.length - r.length))
    .ok (n * scale, r.dropWhile fun c => (digit? c).isSome)
  | cs => .ok (0, cs)

def readPair (cs : List Char) : Except TimestampError (Nat × Nat × List Char) :=
  match cs with
  | [] => .error .tooShort
  | [c] => .error (if c.toNat < 128 then .tooShort else .invalid)
  | c :: d :: r =>
    match digit? c, digit? d with
    | some m, some n => .ok (m, n, r)
    | _, _ => .error .invalid

def readSignedOffset (negative : Bool) (cs : List Char) : Except TimestampError (Int × List Char) := do
  let (h, h', r) ← readPair cs
  let (m, m', r) ← readPair (r.dropWhile fun c => c = ':' || Text.isBlank c)
  if 6 ≤ m then .error .outOfRange
  else
    let secs : Int := (10 * h + h') * 3600 + (10 * m + m') * 60
    .ok (if negative then -secs else secs, r)

def readOffset (cs : List Char) : Except TimestampError (Int × List Char) :=
  match cs with
  | [] => .error .tooShort
  | 'Z' :: r => .ok (0, r)
  | 'z' :: r => .ok (0, r)
  | '+' :: r => readSignedOffset false r
  | '-' :: r => readSignedOffset true r
  | '\u2212' :: r => readSignedOffset true r
  | u :: t :: c :: r =>
    if [u.toUpper, t.toUpper, c.toUpper] = ['U', 'T', 'C'] then .ok (0, r) else .error .invalid
  | _ => .error .invalid

def isYear (year : Int) : Bool := -262143 ≤ year && year ≤ 262142

def ofDate? (year : Int) (month day secs nanos : Nat) (offset : Int) : Except TimestampError Timestamp :=
  if !isYear year ∨ daysInMonth year month < day then .error .outOfRange
  else if offset ≤ -86400 ∨ 86400 ≤ offset then .error .outOfRange
  else
    let instant := daysFromDate year month day * 86400 + secs - offset
    if isYear (dateFromDays (instant.fdiv 86400)).1 then .ok ⟨instant, nanos⟩
    else .error .impossible

def read (s : String) : Except TimestampError Timestamp := do
  let (year, r) ← readYear s.toList
  let r ← readMark '-' r
  let (month, r) ← readField 1 12 r
  let r ← readMark '-' r
  let (day, r) ← readField 1 31 r
  let r ← match r with
    | [] => .error .tooShort
    | c :: r => if c = 't' ∨ c = 'T' ∨ c = ' ' then .ok r else .error .invalid
  let (hour, r) ← readField 0 23 r
  let r ← readMark ':' r
  let (minute, r) ← readField 0 59 r
  let r ← readMark ':' r
  let (second, r) ← readField 0 60 r
  let (nanos, r) ← readFraction r
  let (offset, r) ← readOffset (Text.dropBlanks r)
  if (Text.dropBlanks r).isEmpty then
    let leap := if second = 60 then 1 else 0
    ofDate? year month day (hour * 3600 + minute * 60 + second - leap) (nanos + leap * 1000000000) offset
  else .error .trailing

end Timestamp

end TreePipeline
