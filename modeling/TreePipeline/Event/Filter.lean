import TreePipeline.Event.Directive
import TreePipeline.Time.Timestamp

/-!
Which events reach the log, and their lines. Directives with neither a span nor the value of a field
are rules for events: of those that concern an event the one with the longest target decides, and of
equally long ones one that asks for a field. Directives with a span or a field are rules for spans:
they let events through that happen inside, wherever in the program.
-/

namespace TreePipeline

def logTargets : List String := ["treegen", "treegen_core", "treegen_pipeline"]

def defaultDirectives (level : Level) : String :=
  ",".intercalate ("warn" :: logTargets.map fun t => t ++ "=" ++ level.name)

def Event.target : Event → String
  | .identifierTaken _ => "treegen_core::artifact"
  | .allocationFailed _ => "treegen_pipeline::pipeline"
  | .sourceWriteFailed _ _ => "treegen_pipeline::pipeline"
  | .deadlineExceeded _ _ => "treegen_pipeline::runner"
  | .pipesAbandoned _ => "treegen_pipeline::runner"
  | .generationStarting _ _ => "treegen"
  | _ => "treegen_core::obs"

abbrev LogFilter := List Directive

namespace Directive

def isForEvents (d : Directive) : Bool :=
  d.span.isNone && (d.field.all fun f => f.value.isNone)

def isForSpans (d : Directive) : Bool := d.span.isSome || d.field.isSome

def sameAs (d e : Directive) : Bool :=
  d.target = e.target && d.span = e.span && d.field = e.field

def concernsTarget (d : Directive) (target : String) : Bool :=
  d.target.isPrefixOf (Utf8.encode target)

def outranks (d e : Directive) : Bool :=
  match d.field, e.field with
  | some f, some g => Octets.le (Utf8.encode g.name) (Utf8.encode f.name)
  | none, some _ => false
  | _, none => true

end Directive

namespace LogFilter

def parse? (s : String) : Option LogFilter :=
  ((s.splitOn ",").filter (· ≠ "")).mapM Directive.parse?

def choose (asked : Option String) (level : Level) : LogFilter :=
  ((asked.bind parse?).or (parse? (defaultDirectives level))).getD []

def eventRules (f : LogFilter) : List Directive := f.filter Directive.isForEvents

def spanRules (f : LogFilter) : List Directive :=
  match f with
  | [] => []
  | d :: r => if d.isForSpans && !(r.any d.sameAs) then d :: spanRules r else spanRules r

def decisive (rules : List Directive) : Option Directive :=
  rules.foldl (fun best d =>
    match best with
    | none => some d
    | some b =>
      if d.target.length < b.target.length then best
      else if b.target.length < d.target.length ∨ d.outranks b then some d
      else best) none

def ceiling (f : LogFilter) : Nat :=
  if f.any fun d => d.field.any fun c => c.value.isSome then Level.trace.detail
  else f.foldl (fun n d => max n d.threshold.rank) 0

def passesPlainly (f : LogFilter) (e : Event) : Bool :=
  let names := e.fields.map Prod.fst
  let rules := f.eventRules.filter fun d =>
    d.concernsTarget e.target && d.field.all fun c => names.contains c.name
  match decisive rules with
  | some d => d.threshold.admits e.level
  | none => false

end LogFilter

namespace LogEntry

def spanTarget : String := "treegen_core::obs"

def spanField : String := "base_id"

def spanLevel : Level := .info

end LogEntry

namespace LogFilter

def submissionRules (f : LogFilter) : List Directive :=
  f.spanRules.filter fun d =>
    d.concernsTarget LogEntry.spanTarget &&
      (d.span.all (· = Utf8.encode LogEntry.spanName)) &&
      d.field.all fun c => c.name = LogEntry.spanField

def keepsSpans (f : LogFilter) : Bool :=
  let plainly := match decisive (f.eventRules.filter (·.concernsTarget LogEntry.spanTarget)) with
    | some d => d.threshold.admits LogEntry.spanLevel
    | none => false
  LogEntry.spanLevel.detail ≤ f.ceiling && (!f.submissionRules.isEmpty || plainly)

def passesInside (f : LogFilter) (base : String) (level : Level) : Bool :=
  f.keepsSpans && f.submissionRules.any fun d =>
    d.threshold.admits level &&
      d.field.all fun c => c.value.all fun v => v.fits base

end LogFilter

namespace LogEntry

def filtered? (f : LogFilter) (e : LogEntry) : Option LogEntry :=
  let inside := e.span.any fun base => f.passesInside base e.event.level
  if inside || f.passesPlainly e.event then
    some { e with span := if f.keepsSpans then e.span else none }
  else none

def toJson (e : LogEntry) (time : Timestamp) : Json :=
  let span : Json.Members :=
    match e.span with
    | none => []
    | some base =>
      let members : Json :=
        .object [("base_id", .string base), ("name", .string spanName)]
      [("span", members), ("spans", .array [members])]
  .object ([("timestamp", .string time.toText), ("level", .string e.event.level.name),
    ("fields", .object e.event.fields)] ++ span)

end LogEntry

end TreePipeline
