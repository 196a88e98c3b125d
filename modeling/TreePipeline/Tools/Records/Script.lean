import TreePipeline.Shell.Command

/-!
Scripts that go through records: rules that choose records, and what is done for those. A variable is
known by its place, which is that of a shared one or that of a parameter; whether it holds one value
or a table of values follows from how the script uses it.
-/

namespace TreePipeline.Tools.Records

open Shell

inductive Place where
  | shared (n : Nat)
  | own (n : Nat)
  deriving DecidableEq

inductive Operator where
  | add
  | subtract
  | multiply
  | divide
  | remainder
  | power
  deriving DecidableEq

inductive Comparison where
  | less
  | lessOrEqual
  | equal
  | different
  | greater
  | greaterOrEqual
  deriving DecidableEq

inductive Function where
  | length
  | substr
  | index
  | match_
  | sprintf
  | toLower
  | toUpper
  | int
  | sin
  | cos
  | atan2
  | exp
  | log
  | sqrt
  | rand
  | srand
  | system
  | close
  | flush
  | sysTime
  | makeTime
  | formatTime
  deriving DecidableEq

mutual

inductive Expr where
  | number (x : Float)
  | text (cs : Chars)
  | regular (source : Chars)
  | value (t : Target)
  | grouped (a : Expr)
  | assign (t : Target) (e : Expr)
  | update (o : Operator) (t : Target) (e : Expr)
  | count (up before : Bool) (t : Target)
  | choice (condition a b : Expr)
  | both (a b : Expr)
  | either (a b : Expr)
  | isNot (a : Expr)
  | isKey (index : List Expr) (table : Place)
  | fits (text pattern : Expr)
  | compare (c : Comparison) (a b : Expr)
  | join (a b : Expr)
  | calculate (o : Operator) (a b : Expr)
  | opposite (a : Expr)
  | asNumber (a : Expr)
  | call (routine : Nat) (args : List Expr)
  | apply (f : Function) (args : List Expr)
  | split (text : Expr) (table : Place) (separator : Option Expr)
  | substitute (all : Bool) (pattern replacement : Expr) (t : Target)
  | readRecord (source : Source) (t : Option Target)

inductive Target where
  | variable (p : Place)
  | element (table : Place) (index : List Expr)
  | field (number : Expr)

inductive Source where
  | main
  | file (path : Expr)
  | command (text : Expr)

end

instance : Inhabited Expr := ⟨.number 0⟩

inductive Direction where
  | over
  | append
  | pipe
  deriving DecidableEq

structure Goal where
  direction : Direction
  name : Expr

inductive Statement where
  | evaluate (e : Expr)
  | block (ss : List Statement)
  | choose (condition : Expr) (a : Statement) (b : Option Statement)
  | while_ (condition : Expr) (body : Statement)
  | doWhile (body : Statement) (condition : Expr)
  | loop (start condition step : Option Expr) (body : Statement)
  | forEach (key : Place) (table : Place) (body : Statement)
  | print (args : List Expr) (goal : Option Goal)
  | printf (args : List Expr) (goal : Option Goal)
  | delete (table : Place) (index : Option (List Expr))
  | break_
  | continue_
  | next
  | nextFile
  | exit (status : Option Expr)
  | return_ (result : Option Expr)

inductive Chooser where
  | begin_
  | end_
  | always
  | when (condition : Expr)
  | between (first last : Expr)

structure Rule where
  chooser : Chooser
  action : Option Statement

structure Routine where
  name : String
  parameters : Nat
  tables : List Nat
  body : Statement

structure Script where
  rules : List Rule
  routines : Array Routine
  names : Array String
  tables : List Nat

def knownNames : List String :=
  ["NF", "NR", "FNR", "FS", "OFS", "ORS", "RS", "SUBSEP", "RSTART", "RLENGTH", "FILENAME", "CONVFMT",
    "OFMT", "ENVIRON", "ARGC", "ARGV"]

namespace Place

def fieldCount : Place := shared 0
def recordNumber : Place := shared 1
def fileRecordNumber : Place := shared 2
def fieldSeparator : Place := shared 3
def outputSeparator : Place := shared 4
def outputEnding : Place := shared 5
def recordSeparator : Place := shared 6
def keySeparator : Place := shared 7
def matchStart : Place := shared 8
def matchLength : Place := shared 9
def fileName : Place := shared 10
def conversionFormat : Place := shared 11
def outputFormat : Place := shared 12
def environment : Place := shared 13
def argumentCount : Place := shared 14
def arguments : Place := shared 15

end Place

end TreePipeline.Tools.Records
