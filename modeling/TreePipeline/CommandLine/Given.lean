import TreePipeline.CommandLine.Basic
import TreePipeline.Text.Numeral

/-!
What was given on one side of the command's name. Every option is given at most once there, and a
value is read when it is put in its place.
-/

namespace TreePipeline.CommandLine

structure Given where
  flags : List Flag
  overrides : Overrides
  input : Option String
  olderThan : Option UInt64
  reference : Option String
  deriving DecidableEq

def readWord64? (v : String) : Option UInt64 :=
  match Numeral.read (0xffffffffffffffff) v with
  | .ok n => some n.toUInt64
  | .error _ => none

def readWord32? (v : String) : Option UInt32 :=
  match v.toList with
  | '-' :: c :: r =>
    match Numeral.readDigits 0 0 (c :: r) with
    | .ok _ => some 0
    | .error _ => none
  | _ =>
    match Numeral.read (0xffffffff) v with
    | .ok n => some n.toUInt32
    | .error _ => none

def readPath? (v : String) : Option String := if v = "" then none else some v

def once {α : Type} (old new : Option α) : Option (Option α) :=
  if old.isSome || new.isNone then none else some new

namespace Given

def empty : Given := ⟨[], {}, none, none, none⟩

def setOverride (o : Overrides) (s : Setting) (v : String) : Option Overrides :=
  match s with
  | .cpuLimit => (once o.cpuLimit (readWord64? v)).map fun x => { o with cpuLimit := x }
  | .wallFactor => (once o.wallFactor (readWord32? v)).map fun x => { o with wallFactor := x }
  | .artifactDir => (once o.artifactDir (readPath? v)).map fun x => { o with artifactDir := x }
  | .buildCommand => (once o.buildCommand (readPath? v)).map fun x => { o with buildCommand := x }
  | .renderCommand => (once o.renderCommand (readPath? v)).map fun x => { o with renderCommand := x }
  | .iterations => (once o.iterations (readWord32? v)).map fun x => { o with iterations := x }
  | .display => (once o.display (some v)).map fun x => { o with display := x }
  | .input => none
  | .olderThan => none

def set (g : Given) (s : Setting) (v : String) : Except Notice Given :=
  let changed : Option Given :=
    match s with
    | .input => (once g.input (readPath? v)).map fun x => { g with input := x }
    | .olderThan => (once g.olderThan (readWord64? v)).map fun x => { g with olderThan := x }
    | s => (setOverride g.overrides s v).map fun o => { g with overrides := o }
  match changed with
  | some g => .ok g
  | none => .error .usage

def raise (g : Given) : Flag → Except Notice Given
  | .help => .error .help
  | .version => .error .version
  | f => if g.flags.contains f then .error .usage else .ok { g with flags := f :: g.flags }

def refer (g : Given) (v : String) : Except Notice Given :=
  if g.reference.isSome then .error .usage else .ok { g with reference := some v }

def command? (g : Given) : Scope → Option Command
  | .top => none
  | .generate => some (.generate g.input (g.flags.contains .skipDisplayCheck))
  | .resolve => g.reference.map .resolve
  | .doctor => some .doctor
  | .purge => g.olderThan.map .purge

end Given

end TreePipeline.CommandLine
