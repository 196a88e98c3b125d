import TreePipeline.Tools.Dates
import TreePipeline.Tools.Records.Substitution
import TreePipeline.Tools.Records.Work

/-!
What the expressions of a script are worth and what its statements do. A target is looked up before the
value for it is computed, and an element that is only asked for comes into being.
-/

namespace TreePipeline.Tools.Records

open Shell Host Work

inductive Spot where
  | variable (p : Place)
  | element (table : Nat) (key : Key)
  | field (n : Nat)

namespace Spot

def value (s : Setting) : Spot → Work Value
  | .variable p => do
    if p = .fieldCount then
      let _ ← fields s
    variable_ p
  | .element n k => useTable n fun t => t.get k
  | .field n => Work.field s n

def assign (s : Setting) (v : Value) : Spot → Work Unit
  | .variable p => Work.assign s p v
  | .element n k => useTable n fun t => ((), t.set k v)
  | .field n => setField s n v

end Spot

inductive Flow where
  | on
  | break_
  | continue_
  | return_ (v : Value)

def tick : Work Unit := act do let _ ← Act.call .compute

def secondsOf (zone : Zone) (cs : Chars) : Int :=
  let numbers := (Separator.splitBlanks (cs.length + 1) cs).map wholeNumber?
  match numbers.map fun n => n.map wholeOf with
  | some year :: some month :: some day :: some hour :: some minute :: some second :: _ =>
    let months := 12 * year + (month - 1)
    let days := Timestamp.daysFromDate (months.fdiv 12) ((months.fmod 12).toNat + 1) 1 + (day - 1)
    days * 86400 + hour * 3600 + minute * 60 + second - zone.ahead
  | _ => -1

def placeIn (sought : Chars) : Nat → Chars → Nat
  | n, [] => if sought.isEmpty then n else 0
  | n, c :: r => if sought.isPrefixOf (c :: r) then n else placeIn sought (n + 1) r

def pieceOf (cs : Chars) (start : Int) (count : Option Int) : Chars :=
  let skipped := (max start 1 - 1).toNat
  match count with
  | none => cs.drop skipped
  | some n => (cs.drop skipped).take (n + min (start - 1) 0).toNat

def applied (s : Setting) (f : Function) (vs : List Value) : Work Value := do
  let first := vs.headD .unset
  let x := first.toNumber
  let fraction (g : Float → Float) : Work Value := return .number (g x)
  match f with
  | .length =>
    let cs ← if vs.isEmpty then textOf (← get).record else textOf first
    return .ofNat cs.length
  | .substr =>
    let cs ← textOf first
    let start := wholeOf ((vs.getD 1 .unset).toNumber)
    return .text (pieceOf cs start (vs[2]?.map fun v => wholeOf v.toNumber))
  | .index =>
    let cs ← textOf first
    let sought ← textOf (vs.getD 1 .unset)
    return .ofNat (placeIn sought 1 cs)
  | .match_ => return .unset
  | .sprintf =>
    let pattern ← textOf first
    match printed? (← numberFormat) pattern (vs.drop 1) with
    | (t, none) => return .text t
    | (_, some e) => stop s (e.complaint "sprintf" pattern)
  | .toLower => return .text ((← textOf first).map Char.toLower)
  | .toUpper => return .text ((← textOf first).map Char.toUpper)
  | .int => fraction fun x => if x < 0 then x.ceil else x.floor
  | .sin => fraction Float.sin
  | .cos => fraction Float.cos
  | .atan2 => return .number (Float.atan2 x (vs.getD 1 .unset).toNumber)
  | .exp => fraction Float.exp
  | .log => fraction Float.log
  | .sqrt => fraction Float.sqrt
  | .rand =>
    let (n, chance) := (← get).chance.next
    modify fun w => { w with chance := chance }
    return .number (Float.ofNat n / Float.ofNat Chance.greatest)
  | .srand =>
    let seed ← match vs with
      | v :: _ => pure v
      | [] => do pure (.number (ofInt ((← act presentNanos) / 1000000000)))
    let before := (← get).seed
    modify fun w => { w with
      seed := seed, chance := Chance.ofSeed (wholeOf seed.toNumber % 4294967296).toNat.toUInt32 }
    return before
  | .system =>
    let command ← textOf first
    flushAll s
    let word ← act (runShell command s.env)
    return .number (ofInt (statusOf word))
  | .close => return .number (ofInt (← close s (← textOf first)))
  | .flush =>
    match vs with
    | [] =>
      flushOut s false
      return .number 0
    | v :: _ => return .number (ofInt (← flushNamed s (← textOf v)))
  | .sysTime => return .number (ofInt ((← act presentNanos) / 1000000000))
  | .makeTime => return .number (ofInt (secondsOf (zoneOf s.env) (← textOf first)))
  | .formatTime =>
    let pattern ← match vs with
      | v :: _ => textOf v
      | [] => pure "%c".toList
    let seconds ← match vs[1]? with
      | some v => pure (wholeOf v.toNumber)
      | none => do pure ((← act presentNanos) / 1000000000)
    let zone := if (vs.getD 2 .unset).isTrue then .universal else zoneOf s.env
    return .text ((Civil.ofInstant seconds 0 zone).format (pattern.length + 1) pattern)

def keepRecord (s : Setting) (spot : Option Spot) (record : Chars) : Work Unit := do
  match spot with
  | some spot => spot.assign s (.given record)
  | none => setRecord (.given record)

mutual

def eval (s : Setting) : Nat → Expr → Work Value
  | 0, _ => return .unset
  | fuel + 1, e => do
    match e with
    | .number x => return .number x
    | .text cs => return .text cs
    | .regular source =>
      let m ← matcherOf s source
      return .ofBool (m.isIn (← textOf (← get).record))
    | .value t => (← locate s fuel t).value s
    | .grouped a => eval s fuel a
    | .assign t a =>
      let spot ← locate s fuel t
      let v ← eval s fuel a
      spot.assign s v
      return v
    | .update o t a =>
      let spot ← locate s fuel t
      let y ← eval s fuel a
      let x ← spot.value s
      let v := Value.number (o.calculate x.toNumber y.toNumber)
      spot.assign s v
      return v
    | .count up before t =>
      let spot ← locate s fuel t
      let x := (← spot.value s).toNumber
      let y := if up then x + 1 else x - 1
      spot.assign s (.number y)
      return .number (if before then x else y)
    | .choice c a b => if (← eval s fuel c).isTrue then eval s fuel a else eval s fuel b
    | .both a b =>
      if (← eval s fuel a).isTrue then return .ofBool (← eval s fuel b).isTrue else return .ofBool false
    | .either a b =>
      if (← eval s fuel a).isTrue then return .ofBool true else return .ofBool (← eval s fuel b).isTrue
    | .isNot a => return .ofBool !(← eval s fuel a).isTrue
    | .isKey index table =>
      let k ← keyFrom s fuel index
      let n ← tableAt table
      return .ofBool (← useTable n fun t => t.look k)
    | .fits a pattern =>
      let cs ← textOf (← eval s fuel a)
      let m ← matcherFrom s fuel pattern
      return .ofBool (m.isIn cs)
    | .compare c a b =>
      let x ← eval s fuel a
      let y ← eval s fuel b
      return .ofBool (c.holds (x.order (← numberFormat) y))
    | .join a b =>
      let x ← textOf (← eval s fuel a)
      let y ← textOf (← eval s fuel b)
      return .text (x ++ y)
    | .calculate o a b =>
      let x ← eval s fuel a
      let y ← eval s fuel b
      return .number (o.calculate x.toNumber y.toNumber)
    | .opposite a => return .number (-(← eval s fuel a).toNumber)
    | .asNumber a => return .number (← eval s fuel a).toNumber
    | .call routine args => call_ s fuel routine args
    | .apply .length [.value (.variable p)] =>
      match ← slotAt p with
      | .table n => return .ofNat (← useTable n fun t => (t.size, t))
      | .one _ => applied s .length [← (Spot.variable p).value s]
    | .apply .match_ args =>
      let cs ← textOf (← eval s fuel (args.headD default))
      let m ← matcherFrom s fuel (args.getD 1 default)
      let (start, count) : Int × Int := match m.find? cs with
        | some f => (f.start + 1, f.stop - f.start)
        | none => (0, -1)
      setVariable .matchStart (.number (ofInt start))
      setVariable .matchLength (.number (ofInt count))
      return .number (ofInt start)
    | .apply f args => applied s f (← evalAll s fuel args)
    | .split a table separator =>
      let cs ← textOf (← eval s fuel a)
      let by_ ← match separator with
        | none => do separatorOf s (← textOf (← variable_ .fieldSeparator))
        | some (.regular source) => do pure (.sought (← matcherOf s source))
        | some e => do separatorOf s (← textOf (← eval s fuel e))
      let pieces := (by_.split cs).map Value.given
      let n ← tableAt table
      useTable n fun _ => ((), Table.ofList pieces)
      return .ofNat pieces.length
    | .substitute all pattern replacement t =>
      let m ← matcherFrom s fuel pattern
      let r ← textOf (← eval s fuel replacement)
      let spot ← locate s fuel t
      let cs ← textOf (← spot.value s)
      let pieces := Piece.ofText (r.length + 1) r
      let (text, n) := if all then Substitution.all m pieces (2 * cs.length + 2) none false cs
        else Substitution.first m pieces cs
      if 0 < n then spot.assign s (.text text)
      return .ofNat n
    | .readRecord source t => read s fuel source t

def evalAll (s : Setting) : Nat → List Expr → Work (List Value)
  | 0, _ => return []
  | _ + 1, [] => return []
  | fuel + 1, e :: r => do
    let v ← eval s fuel e
    return v :: (← evalAll s fuel r)

def locate (s : Setting) : Nat → Target → Work Spot
  | 0, _ => return .field 0
  | fuel + 1, t => do
    match t with
    | .variable p => return .variable p
    | .element table index =>
      let k ← keyFrom s fuel index
      let n ← tableAt table
      useTable n fun t => ((), (t.get k).2)
      return .element n k
    | .field e => return .field (← Work.fieldNumber s (← eval s fuel e))

def keyFrom (s : Setting) : Nat → List Expr → Work Key
  | 0, _ => return .text []
  | fuel + 1, index => do
    match index with
    | [e] => keyOf (← eval s fuel e)
    | es =>
      let texts ← (← evalAll s fuel es).mapM textOf
      return .text ((← textOf (← variable_ .keySeparator)).intercalate texts)

def matcherFrom (s : Setting) : Nat → Expr → Work Matcher
  | 0, _ => matcherOf s []
  | fuel + 1, e => do
    match e with
    | .regular source => matcherOf s source
    | e => matcherOf s (← textOf (← eval s fuel e))

def read (s : Setting) : Nat → Source → Option Target → Work Value
  | 0, _, _ => return .number 0
  | fuel + 1, source, t => do
    let keep (r : Chars) : Work Unit := do
      match t with
      | some t => do keepRecord s (some (← locate s fuel t)) r
      | none => keepRecord s none r
    match source with
    | .main =>
      match ← nextMain s maxOpenings with
      | some r =>
        countRecord
        keep r
        return .number 1
      | none => return .number 0
    | .file e => from_ (← readFrom s false (← textOf (← eval s fuel e))) keep
    | .command e => from_ (← readFrom s true (← textOf (← eval s fuel e))) keep
where
  from_ (r : Option (Option Chars)) (keep : Chars → Work Unit) : Work Value := do
    match r with
    | none => return .number (-1)
    | some none => return .number 0
    | some (some r) =>
      keep r
      return .number 1

def slots (s : Setting) : Nat → (tables : List Nat) → (n left : Nat) → List Expr → Work (List Slot)
  | 0, _, _, _, _ => return []
  | _ + 1, _, _, 0, _ => return []
  | fuel + 1, tables, n, left + 1, args => do
    let given : Option Slot ←
      match args with
      | .value (.variable p) :: _ => do
        match ← slotAt p with
        | .table k => pure (some (.table k))
        | .one _ => do pure (some (.one (← (Spot.variable p).value s)))
      | e :: _ => do pure (some (.one (← eval s fuel e)))
      | [] => pure none
    let slot : Slot ←
      match given with
      | some (.table k) => pure (.table k)
      | given =>
        if tables.contains n then
          modifyGet fun w => (Slot.table w.tables.size, { w with tables := w.tables.push {} })
        else pure (given.getD default)
    return slot :: (← slots s fuel tables (n + 1) left (args.drop 1))

def call_ (s : Setting) : Nat → (routine : Nat) → List Expr → Work Value
  | 0, _, _ => return .unset
  | fuel + 1, routine, args => do
    match s.script.routines[routine]? with
    | none => return .unset
    | some r =>
      tick
      let own := (← get).own
      let tables := (← get).tables.size
      let frame ← slots s fuel r.tables 0 r.parameters args
      modify fun w => { w with own := frame.toArray }
      let flow ← exec s fuel r.body
      modify fun w => { w with own := own, tables := w.tables.shrink tables }
      return match flow with
        | .return_ v => v
        | _ => .unset

def exec (s : Setting) : Nat → Statement → Work Flow
  | 0, _ => return .on
  | fuel + 1, statement => do
    match statement with
    | .evaluate e =>
      let _ ← eval s fuel e
      return .on
    | .block ss => execAll s fuel ss
    | .choose c a b =>
      if (← eval s fuel c).isTrue then exec s fuel a
      else
        match b with
        | some b => exec s fuel b
        | none => return .on
    | .while_ c body => loop s fuel (some c) none body
    | .doWhile body c =>
      match ← exec s fuel body with
      | .break_ => return .on
      | .return_ v => return .return_ v
      | _ => loop s fuel (some c) none body
    | .loop start c step body =>
      match start with
      | some e =>
        let _ ← eval s fuel e
      | none => pure ()
      loop s fuel c step body
    | .forEach key table body =>
      let n ← tableAt table
      let keys ← useTable n Table.keys
      loopKeys s fuel key body keys
    | .print args goal =>
      let vs ← if args.isEmpty then pure [(← get).record] else evalAll s fuel args
      let numbers := (← variable_ .outputFormat).toText "%.6g".toList
      let separator ← textOf (← variable_ .outputSeparator)
      let ending ← textOf (← variable_ .outputEnding)
      let text := separator.intercalate (vs.map (Value.toText numbers)) ++ ending
      write s fuel goal text
      return .on
    | .printf args goal =>
      let vs ← evalAll s fuel args
      let pattern ← textOf (vs.headD .unset)
      let (text, fault) := printed? (← numberFormat) pattern (vs.drop 1)
      write s fuel goal text
      match fault with
      | some e => stop s (e.complaint "printf" pattern)
      | none => return .on
    | .delete table none =>
      let n ← tableAt table
      useTable n fun _ => ((), {})
      return .on
    | .delete table (some index) =>
      let k ← keyFrom s fuel index
      let n ← tableAt table
      useTable n fun t => ((), t.erase k)
      return .on
    | .break_ => return .break_
    | .continue_ => return .continue_
    | .next => throw .next
    | .nextFile => throw .nextFile
    | .exit status =>
      match status with
      | some e =>
        let n := wholeOf (← eval s fuel e).toNumber
        modify fun w => { w with status := (n % 256).toNat }
      | none => pure ()
      throw .exit
    | .return_ result =>
      match result with
      | some e => return .return_ (← eval s fuel e)
      | none => return .return_ .unset

def execAll (s : Setting) : Nat → List Statement → Work Flow
  | 0, _ => return .on
  | _ + 1, [] => return .on
  | fuel + 1, a :: r => do
    match ← exec s fuel a with
    | .on => execAll s fuel r
    | flow => return flow

def write (s : Setting) : Nat → Option Goal → Chars → Work Unit
  | 0, _, _ => return ()
  | fuel + 1, goal, text => do
    match goal with
    | none => printOut s (toOctets text)
    | some g =>
      let name ← textOf (← eval s fuel g.name)
      printTo s g.direction name (toOctets text)

def loop (s : Setting) : Nat → (condition step : Option Expr) → (body : Statement) → Work Flow
  | 0, _, _, _ => return .on
  | fuel + 1, c, step, body => do
    tick
    let again ← match c with
      | some e => do pure (← eval s fuel e).isTrue
      | none => pure true
    if !again then return .on
    else
      match ← exec s fuel body with
      | .break_ => return .on
      | .return_ v => return .return_ v
      | _ =>
        match step with
        | some e =>
          let _ ← eval s fuel e
        | none => pure ()
        loop s fuel c step body

def loopKeys (s : Setting) : Nat → (key : Place) → (body : Statement) → List Chars → Work Flow
  | 0, _, _, _ => return .on
  | _ + 1, _, _, [] => return .on
  | fuel + 1, key, body, k :: r => do
    tick
    Work.assign s key (.text k)
    match ← exec s fuel body with
    | .break_ => return .on
    | .return_ v => return .return_ v
    | _ => loopKeys s fuel key body r

end

def maxSteps : Nat := 1000000000000

def chooses (s : Setting) (n : Nat) : Chooser → Work Bool
  | .begin_ => return false
  | .end_ => return false
  | .always => return true
  | .when c => do return (← eval s maxSteps c).isTrue
  | .between first last => do
    let inside := (← get).ranges.getD n false
    if inside ∨ (← eval s maxSteps first).isTrue then
      let ends := (← eval s maxSteps last).isTrue
      modify fun w => { w with ranges := w.ranges.setIfInBounds n !ends }
      return true
    else return false

def perform (s : Setting) (action : Option Statement) : Work Unit := do
  let _ ← exec s maxSteps (action.getD (.print [] none))

def applyRules (s : Setting) : (n : Nat) → List Rule → Work Unit
  | _, [] => return ()
  | n, r :: more => do
    if ← chooses s n r.chooser then perform s r.action
    applyRules s (n + 1) more

def applyToAll (s : Setting) : Nat → Work Unit
  | 0 => return ()
  | fuel + 1 => do
    match ← nextMain s maxOpenings with
    | none => return ()
    | some r =>
      tick
      countRecord
      setRecord (.given r)
      tryCatch (applyRules s 0 s.script.rules) fun l => do
        match l with
        | .next => return ()
        | .nextFile => skipFile
        | .exit => throw .exit
      applyToAll s fuel

def performSpecial (s : Setting) (isSpecial : Chooser → Bool) : Work Unit :=
  (s.script.rules.filter fun r => isSpecial r.chooser).forM fun r => perform s r.action

def runScript (s : Setting) : Work Nat := do
  let isBegin (c : Chooser) : Bool := c matches .begin_
  let isEnd (c : Chooser) : Bool := c matches .end_
  let rules := s.script.rules
  let front : Work Unit := do
    performSpecial s isBegin
    if rules.any fun r => !isBegin r.chooser then applyToAll s maxSteps
  let unlessExit (w : Work Unit) : Work Unit := tryCatch w fun _ => return ()
  unlessExit front
  unlessExit (performSpecial s isEnd)
  finish s (← get).status

end TreePipeline.Tools.Records
