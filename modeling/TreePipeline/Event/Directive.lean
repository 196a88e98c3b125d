import TreePipeline.Event.Basic
import TreePipeline.Text.Alphanumeric
import TreePipeline.Text.Expression.Reader
import TreePipeline.Text.Utf8

/-!
One directive of a log filter, such as `warn`, `store=info` or `store[purge{root=/srv.*}]=debug`: for
which part of the program, for which span and for which field it holds, and how detailed the events
are that it lets through.
-/

namespace TreePipeline

abbrev Threshold := Option Level

namespace Threshold

def rank : Threshold → Nat
  | none => 0
  | some l => l.detail

def admits (t : Threshold) (l : Level) : Bool := l.detail ≤ t.rank

def parse? (s : String) : Option Threshold :=
  match Numeral.read 0xffffffffffffffff s with
  | .ok 0 => some none
  | _ => if s.toUpper = "OFF" then some none else (Level.parse? s).map some

end Threshold

inductive FieldValue where
  | noText
  | text (written : String) (pattern : Text.Expression)
  deriving DecidableEq

namespace FieldValue

def fits (v : FieldValue) (text : String) : Bool :=
  match v with
  | .noText => false
  | .text _ pattern => pattern.accepts text.toList

def afterDecimal? (cs : List Char) : Option (List Char) :=
  let whole := cs.takeWhile Char.isDigit
  let (fraction, r) := match cs.drop whole.length with
    | '.' :: r => (r.takeWhile Char.isDigit, r.dropWhile Char.isDigit)
    | r => ([], r)
  if whole.isEmpty && fraction.isEmpty then none else some r

def withoutSign : List Char → List Char
  | '+' :: r => r
  | '-' :: r => r
  | r => r

def isNumber (s : String) : Bool :=
  let cs := withoutSign s.toList
  if ["inf", "infinity", "nan"].contains (String.ofList cs).toLower then true
  else match afterDecimal? cs with
    | none => false
    | some [] => true
    | some (e :: r) =>
      let digits := withoutSign r
      (e = 'e' || e = 'E') && !digits.isEmpty && digits.all Char.isDigit

def parse? (s : String) : Option FieldValue :=
  if s = "true" ∨ s = "false" ∨ isNumber s then some .noText
  else (Text.Expression.read? s.toList).map (.text s)

end FieldValue

structure FieldCondition where
  name : String
  value : Option FieldValue
  deriving DecidableEq

namespace FieldCondition

def parse? (s : String) : Option FieldCondition :=
  match s.splitOn "=" with
  | name :: value :: _ => (FieldValue.parse? value).map fun v => ⟨name, some v⟩
  | _ => some ⟨s, none⟩

end FieldCondition

structure Directive where
  target : Octets
  span : Option Octets
  field : Option FieldCondition
  threshold : Threshold
  deriving DecidableEq

namespace Directive

def equals : UInt8 := 0x3d

def openBracket : UInt8 := 0x5b

def closeBracket : UInt8 := 0x5d

def openBrace : UInt8 := 0x7b

def closeBrace : UInt8 := 0x7d

def mayBegin (c : Char) : Bool := c = '-' || c = ':' || c = '_' || Text.isAlphanumeric c

def readThreshold (d : Directive) (bs : Octets) : Option Directive :=
  if bs = [] then some { d with threshold := some .trace }
  else (Threshold.parse? (Utf8.decodeLossy bs)).map fun t => { d with threshold := t }

def readEnd (d : Directive) (whole rest : Octets) (place : Nat) : Option Directive :=
  match rest with
  | [] => some d
  | b :: _ => if b = equals then d.readThreshold (whole.drop (place + 1)) else none

def readSpan (target whole rest : Octets) (place : Nat) : Option Directive :=
  let n := (rest.takeWhile fun b => b ≠ closeBracket ∧ b ≠ openBrace).length
  let name := (whole.drop place).take n
  match rest.drop n with
  | [] => none
  | b :: r =>
    if b = closeBracket then readEnd ⟨target, some name, none, some .trace⟩ whole r (place + n + 1)
    else
      let m := (r.takeWhile (· ≠ closeBrace)).length
      let field := (whole.drop (place + n + 1)).take m
      match r.drop m with
      | _ :: c :: r =>
        if m = 0 ∨ c ≠ closeBracket then none
        else do
          let field ← FieldCondition.parse? (Utf8.decodeLossy field)
          let span := if name = [] then none else some name
          readEnd ⟨target, span, some field, some .trace⟩ whole r (place + n + m + 3)
      | _ => none

def parse? (s : String) : Option Directive :=
  let whole := Utf8.encode s
  let trimmed := Text.trim s
  let text := Utf8.encode trimmed
  match trimmed.toList with
  | [] => none
  | c :: _ =>
    let n := (text.takeWhile fun b => b ≠ equals ∧ b ≠ openBracket).length
    let target := whole.take n
    if c ≠ '[' ∧ !mayBegin c then none
    else match text.drop n with
      | [] =>
        match Threshold.parse? s with
        | some t => some ⟨[], none, none, t⟩
        | none => some ⟨whole, none, none, some .trace⟩
      | b :: r =>
        if b = equals then readThreshold ⟨target, none, none, some .trace⟩ (whole.drop (n + 1))
        else readSpan target whole r (n + 1)

end Directive

end TreePipeline
