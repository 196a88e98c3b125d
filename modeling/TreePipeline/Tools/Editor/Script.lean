import TreePipeline.Tools.Basic
import TreePipeline.Tools.Regular.Reader

/-!
Scripts of the stream editor: commands, each for the lines that its addresses choose, in one row in
which blocks and jumps name the places where to go on.
-/

namespace TreePipeline.Tools.Editor

open Shell

abbrev Sought := Option Matcher

inductive Address where
  | line (n : Nat)
  | every (first step : Nat)
  | last
  | matching (m : Sought)

inductive RangeEnd where
  | line (n : Nat)
  | last
  | matching (m : Sought)
  | after (n : Nat)
  | multiple (n : Nat)

inductive CaseMark where
  | upper
  | lower
  | upperNext
  | lowerNext
  | stop
  deriving DecidableEq

inductive Piece where
  | text (cs : Chars)
  | group (n : Nat)
  | mark (m : CaseMark)

structure Substitution where
  sought : Sought
  pieces : List Piece
  everywhere : Bool
  from_ : Nat
  prints : Bool
  runs : Bool
  output : Option Chars

inductive Action where
  | block (stop : Nat)
  | blockEnd
  | nothing
  | lineNumber
  | append (text : Chars)
  | insert (text : Chars)
  | change (text : Chars)
  | delete
  | deleteFirst
  | run (command : Chars)
  | fileName
  | get
  | getAppend
  | hold
  | holdAppend
  | exchange
  | list (width : Option Nat)
  | next
  | nextAppend
  | print
  | printFirst
  | quit (status : Nat)
  | leave (status : Nat)
  | readFile (path : Chars)
  | readLine (path : Chars)
  | substitute (s : Substitution)
  | jump (label : Chars)
  | jumpIf (label : Chars)
  | jumpUnless (label : Chars)
  | write (path : Chars)
  | writeFirst (path : Chars)
  | exchangeLetters (source target : Chars)
  | clear

structure Command where
  first : Option Address
  last : Option RangeEnd
  negated : Bool
  action : Action

structure Script where
  commands : Array Command
  labels : List (Chars × Nat)
  outputs : List Chars
  quiet : Bool

end TreePipeline.Tools.Editor
