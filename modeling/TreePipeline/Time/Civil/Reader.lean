import TreePipeline.Time.Civil

/-!
Reading a moment from words: dates, times of day, zones, days of the week, and distances from the
present such as `2 days ago`, in any order. A date wins over a day of the week; where a date is given
but no time of day, the day begins.
-/

namespace TreePipeline.Civil

inductive Word where
  | number (sign : Option Bool) (digits : List Char) (fraction : Option Nat)
  | name (letters : List Char)
  | mark (c : Char)
  deriving DecidableEq

namespace Word

def dropComment : (depth : Nat) → List Char → List Char
  | _, [] => []
  | depth, '(' :: r => dropComment (depth + 1) r
  | 0, ')' :: r => r
  | 1, ')' :: r => r
  | depth + 2, ')' :: r => dropComment (depth + 1) r
  | depth, _ :: r => dropComment depth r

def billionths (ds : List Char) : Nat :=
  let ds := ds.take 9
  (String.ofList (ds ++ List.replicate (9 - ds.length) '0')).toNat?.getD 0

def readNumber (sign : Option Bool) (cs : List Char) : Word × List Char :=
  let ds := cs.takeWhile Char.isDigit
  match cs.drop ds.length with
  | p :: d :: r =>
    if (p = '.' ∨ p = ',') ∧ d.isDigit then
      let fs := (d :: r).takeWhile Char.isDigit
      (.number sign ds (some (billionths fs)), (d :: r).drop fs.length)
    else (.number sign ds none, p :: d :: r)
  | r => (.number sign ds none, r)

def readAll : Nat → List Char → List Word
  | 0, _ => []
  | _ + 1, [] => []
  | fuel + 1, c :: r =>
    if c = ' ' ∨ ('\t' ≤ c ∧ c ≤ '\r') then readAll fuel r
    else if c.isDigit then
      let (w, r) := readNumber none (c :: r)
      w :: readAll fuel r
    else if c = '-' ∨ c = '+' then
      let r' := r.dropWhile fun c => c = ' '
      if r'.head?.any Char.isDigit then
        let (w, r) := readNumber (some (c = '-')) r'
        w :: readAll fuel r
      else readAll fuel r
    else if c.isAlpha then
      let ls := (c :: r).takeWhile fun c => c.isAlpha || c = '.'
      .name ((ls.filter (· ≠ '.')).map Char.toLower) :: readAll fuel ((c :: r).drop ls.length)
    else if c = '(' then readAll fuel (dropComment 1 r)
    else .mark c :: readAll fuel r

end Word

structure Reading where
  instant : Option (Int × Nat) := none
  date : Option (Option Int × Nat × Nat) := none
  time : Option (Nat × Nat × Nat × Nat) := none
  zone : Option Int := none
  weekday : Option (Int × Nat) := none
  years : Int := 0
  months : Int := 0
  days : Int := 0
  seconds : Int := 0
  nanos : Int := 0
  relative : Bool := false

namespace Reading

def value (ds : List Char) : Nat := (String.ofList ds).toNat?.getD 0

def monthOf? (w : List Char) : Option Nat :=
  let names := Civil.monthNames.map fun n => n.toList.map Char.toLower
  match names.findIdx? fun n => n = w ∨ (n.take 3 = w) with
  | some i => some (i + 1)
  | none => if w = "sept".toList then some 9 else none

def weekdayOf? (w : List Char) : Option Nat :=
  let names := Civil.weekdayNames.map fun n => n.toList.map Char.toLower
  let more : List (String × Nat) := [("tues", 2), ("wednes", 3), ("thur", 4), ("thurs", 4)]
  (names.findIdx? fun n => n = w ∨ n.take 3 = w).or (more.lookup (String.ofList w))

def zones : List (String × Int) :=
  [("utc", 0), ("gmt", 0), ("ut", 0), ("z", 0), ("wet", 0), ("west", 3600), ("bst", 3600), ("art", -10800),
    ("brt", -10800), ("ndt", -9000), ("nst", -12600), ("adt", -10800), ("ast", -14400), ("edt", -14400),
    ("est", -18000), ("cdt", -18000), ("cst", -21600), ("mdt", -21600), ("mst", -25200), ("pdt", -25200),
    ("pst", -28800), ("akdt", -28800), ("akst", -32400), ("hst", -36000), ("cet", 3600), ("cest", 7200),
    ("met", 3600), ("mest", 7200), ("eet", 7200), ("eest", 10800), ("cat", 7200), ("sast", 7200),
    ("eat", 10800), ("msk", 10800), ("msd", 14400), ("ist", 19800), ("sgt", 28800), ("kst", 32400),
    ("jst", 32400), ("gst", 36000), ("nzst", 43200), ("nzdt", 46800)]

def ordinals : List (String × Int) :=
  [("last", -1), ("this", 0), ("next", 1), ("first", 1), ("third", 3), ("fourth", 4), ("fifth", 5),
    ("sixth", 6), ("seventh", 7), ("eighth", 8), ("ninth", 9), ("tenth", 10), ("eleventh", 11),
    ("twelfth", 12)]

def singular (w : List Char) : List Char :=
  if w.getLast? = some 's' ∧ 3 < w.length then w.dropLast else w

def addUnit? (q : Reading) (n : Int) (fraction : Nat) (w : List Char) : Option Reading :=
  let q := { q with relative := true }
  match String.ofList (singular w) with
  | "year" => some { q with years := q.years + n }
  | "month" => some { q with months := q.months + n }
  | "fortnight" => some { q with days := q.days + 14 * n }
  | "week" => some { q with days := q.days + 7 * n }
  | "day" => some { q with days := q.days + n }
  | "hour" => some { q with seconds := q.seconds + 3600 * n }
  | "minute" | "min" => some { q with seconds := q.seconds + 60 * n }
  | "second" | "sec" =>
    let sign : Int := if n < 0 then -1 else 1
    some { q with seconds := q.seconds + n, nanos := q.nanos + sign * fraction }
  | _ => none

def shiftOf? (w : List Char) : Option Int :=
  match String.ofList w with
  | "tomorrow" => some 1
  | "yesterday" => some (-1)
  | "today" | "now" => some 0
  | _ => none

def fullYear (ds : List Char) : Int :=
  let y := value ds
  if ds.length = 2 then (if y < 69 then 2000 + y else 1900 + y : Nat) else y

def halved? (h : Nat) (w : List Char) : Option Nat :=
  match String.ofList w with
  | "am" => if 1 ≤ h ∧ h ≤ 12 then some (h % 12) else none
  | "pm" => if 1 ≤ h ∧ h ≤ 12 then some (h % 12 + 12) else none
  | _ => none

def zoneNumber (negative : Bool) (ds : List Char) (minutes : Option (List Char)) : Int :=
  let n := value ds
  let seconds : Int := match minutes with
    | some m => (3600 * n + 60 * value m : Nat)
    | none => if ds.length ≤ 2 then (3600 * n : Nat) else (3600 * (n / 100) + 60 * (n % 100) : Nat)
  if negative then -seconds else seconds

def setDate (q : Reading) (year : Option Int) (month day : Nat) (rest : List Word) :
    Option (Reading × List Word) :=
  if q.date.isSome then none else some ({ q with date := some (year, month, day) }, rest)

def setTime (q : Reading) (h m s n : Nat) (rest : List Word) : Option (Reading × List Word) :=
  if q.time.isSome then none
  else
    let plain : Reading := { q with time := some (h, m, s, n) }
    match rest with
    | .number (some negative) ds none :: .mark ':' :: .number none ms none :: r =>
      some ({ plain with zone := some (zoneNumber negative ds (some ms)) }, r)
    | .number (some negative) ds none :: r =>
      some ({ plain with zone := some (zoneNumber negative ds none) }, r)
    | .name w :: r =>
      if w = "am".toList ∨ w = "pm".toList then
        (halved? h w).map fun h => ({ plain with time := some (h, m, s, n) }, r)
      else some (plain, rest)
    | _ => some (plain, rest)

def item (q : Reading) (ws : List Word) : Option (Reading × List Word) :=
  -- An item of distance may be turned around by a word after it.
  let unit (n : Int) (fraction : Nat) (w : List Char) (r : List Word) : Option (Reading × List Word) :=
    match r with
    | .name a :: r' =>
      if a = "ago".toList then (q.addUnit? (-n) fraction w).map fun q => (q, r')
      else (q.addUnit? n fraction w).map fun q => (q, r)
    | r => (q.addUnit? n fraction w).map fun q => (q, r)
  let signed (sign : Option Bool) (ds : List Char) : Int :=
    if sign = some true then -(value ds : Int) else value ds
  match ws with
  | .mark '@' :: .number sign ds fraction :: r =>
    let n := signed sign ds
    let f := fraction.getD 0
    if q.instant.isSome then none
    else if sign = some true ∧ f ≠ 0 then some ({ q with instant := some (n - 1, 1000000000 - f) }, r)
    else some ({ q with instant := some (n, f) }, r)
  | .number none h none :: .mark ':' :: .number none m none :: .mark ':' :: .number none s f :: r =>
    setTime q (value h) (value m) (value s) (f.getD 0) r
  | .number none h none :: .mark ':' :: .number none m none :: r => setTime q (value h) (value m) 0 0 r
  | .number none a none :: .mark '/' :: .number none b none :: .mark '/' :: .number none c none :: r =>
    if 4 ≤ a.length then setDate q (some (value a)) (value b) (value c) r
    else setDate q (some (fullYear c)) (value a) (value b) r
  | .number none a none :: .mark '/' :: .number none b none :: r => setDate q none (value a) (value b) r
  | .number none y none :: .number (some true) m none :: .number (some true) d none :: r =>
    match r with
    -- A letter may join the date to the time of day.
    | .name ['t'] :: .number none h f :: .mark ':' :: r' =>
      setDate q (some (fullYear y)) (value m) (value d) (.number none h f :: .mark ':' :: r')
    | r => setDate q (some (fullYear y)) (value m) (value d) r
  | .number none d none :: .name w :: r =>
    match monthOf? w with
    | some m =>
      match r with
      | .number none y none :: .mark ':' :: r => setDate q none m (value d) (.number none y none :: .mark ':' :: r)
      | .number none y none :: r => setDate q (some (fullYear y)) m (value d) r
      | .number (some true) y none :: r => setDate q (some (fullYear y)) m (value d) r
      | r => setDate q none m (value d) r
    | none =>
      match halved? (value d) w with
      | some h => setTime q h 0 0 0 r
      | none =>
        match unit (value d) 0 w r with
        | some done => some done
        | none => plain (.number none d none :: .name w :: r)
  | .number sign ds (some f) :: .name w :: r => unit (signed sign ds) f w r
  | .number (some negative) ds none :: .name w :: r => unit (signed (some negative) ds) 0 w r
  | .name w :: r =>
    match monthOf? w, r with
    | some m, .number none d none :: .mark ',' :: .number none y none :: r =>
      setDate q (some (fullYear y)) m (value d) r
    | some m, .number none d none :: .number none y none :: .mark ':' :: r =>
      setDate q none m (value d) (.number none y none :: .mark ':' :: r)
    | some m, .number none d none :: .number none y none :: r =>
      setDate q (some (fullYear y)) m (value d) r
    | some m, .number none d none :: r => setDate q none m (value d) r
    | some _, _ => none
    | none, _ =>
    match weekdayOf? w with
    | some d =>
      let r := match r with
        | .mark ',' :: r => r
        | r => r
      if q.weekday.isSome then none else some ({ q with weekday := some (0, d) }, r)
    | none =>
    match ordinals.lookup (String.ofList w), r with
    | some n, .name u :: r =>
      match weekdayOf? u with
      | some d => some ({ q with weekday := some (n, d) }, r)
      | none => unit n 0 u r
    | some _, _ => none
    | none, _ =>
    match shiftOf? w with
    | some n => some ({ q with days := q.days + n, relative := true }, r)
    | none =>
    match zones.lookup (String.ofList w) with
    | some z =>
      match r with
      | .number (some negative) ds none :: .mark ':' :: .number none ms none :: r =>
        some ({ q with zone := some (z + zoneNumber negative ds (some ms)) }, r)
      | r => if q.zone.isSome then none else some ({ q with zone := some z }, r)
    | none => unit 1 0 w r
  | ws => plain ws
where
  plain (ws : List Word) : Option (Reading × List Word) :=
    match ws with
    | .number none ds none :: r =>
      let n := value ds
      let yearless := q.date.any fun d => d.1.isNone
      let zoned : Bool := match r with
        | .number (some _) _ none :: .name w :: _ => (q.addUnit? 1 0 w).isNone
        | .number (some _) _ none :: _ => true
        | _ => false
      if yearless ∧ !q.relative ∧ (q.time.isSome ∨ 2 < ds.length) then
        some ({ q with date := q.date.map fun d => (some (fullYear ds), d.2) }, r)
      else if 4 < ds.length then setDate q (some (n / 10000 : Nat)) (n / 100 % 100) (n % 100) r
      else if ds.length ≤ 2 ∨ zoned then setTime q n 0 0 0 r
      else setTime q (n / 100) (n % 100) 0 0 r
    | _ => none

def all (q : Reading) : Nat → List Word → Option Reading
  | 0, _ => none
  | _ + 1, [] => some q
  | fuel + 1, ws =>
    match q.item ws with
    | some (q, r) => all q fuel r
    | none => none

def moment? (q : Reading) (now : Int) (nanos : Nat) (zone : Zone) : Option (Int × Nat) :=
  match q.instant with
  | some t => some t
  | none =>
    let zone := match q.zone with
      | some z => ⟨z, zone.name⟩
      | none => zone
    let present := Civil.ofInstant now nanos zone
    let (year, month, day) := match q.date with
      | some (y, m, d) => (y.getD present.year, m, d)
      | none => (present.year, present.month, present.day)
    let atStart := q.date.isSome || q.weekday.isSome || (!q.relative && q.time.isNone)
    let (h, m, s, n) := match q.time with
      | some t => t
      | none => if atStart then (0, 0, 0, 0)
        else (present.hour, present.minute, present.second, present.nanos)
    if month = 0 ∨ 12 < month ∨ day = 0 ∨ Timestamp.daysInMonth year month < day ∨ 23 < h ∨ 59 < m ∨
        59 < s then none
    else
      let months := 12 * (year + q.years) + (month - 1 : Nat) + q.months
      let first := Timestamp.daysFromDate (months.fdiv 12) ((months.fmod 12).toNat + 1) 1
      let days := first + (day - 1 : Nat) + q.days
      let days := match q.weekday, q.date with
        | some (n, w), none =>
          let today := (days + 4).fmod 7
          let ahead := ((w : Int) - today).fmod 7
          days + ahead + 7 * (n - (if 0 < n ∧ ahead ≠ 0 then 1 else 0))
        | _, _ => days
      let total := days * 86400 + h * 3600 + m * 60 + s - zone.ahead + q.seconds
      let billionths : Int := n + q.nanos
      some (total + billionths.fdiv 1000000000, (billionths.fmod 1000000000).toNat)

end Reading

def momentOf? (now : Int) (nanos : Nat) (zone : Zone) (cs : List Char) : Option (Int × Nat) :=
  let (zone, cs) := match cs with
    | 'T' :: 'Z' :: '=' :: '"' :: r =>
      (Zone.ofSetting (r.takeWhile (· ≠ '"')), (r.dropWhile (· ≠ '"')).drop 1)
    | cs => (zone, cs)
  let ws := Word.readAll (cs.length + 1) cs
  (Reading.all {} (ws.length + 1) ws).bind fun q => q.moment? now nanos zone

end TreePipeline.Civil
