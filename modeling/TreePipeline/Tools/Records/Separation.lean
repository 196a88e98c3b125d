import TreePipeline.Tools.Records.Sought

/-!
What separates the fields of a record from each other, and one record from the next. A text of one
character stands for that character, a longer one for an expression; a blank stands for all blanks, and
then those around the fields belong to none of them.
-/

namespace TreePipeline.Tools.Records

open Shell

inductive Separator where
  | blanks
  | single (c : Char)
  | sought (m : Matcher)
  | nothing

namespace Separator

def isBlank (c : Char) : Bool := c = ' ' || c = '\t' || c = '\n'

def findFilled (m : Matcher) : Nat → (before : Option Char) → (place : Nat) → Chars → Option Match
  | 0, _, _, _ => none
  | fuel + 1, before, place, rest =>
    match m.findFrom false rest before place rest with
    | none => none
    | some f =>
      if f.start < f.stop then some f
      else
        let skipped := f.start - place + 1
        match rest.drop (skipped - 1) with
        | [] => none
        | c :: r => findFilled m fuel (some c) (place + skipped) r

def splitBlanks : Nat → Chars → List Chars
  | 0, _ => []
  | fuel + 1, cs =>
    match cs.dropWhile isBlank with
    | [] => []
    | cs => cs.takeWhile (!isBlank ·) :: splitBlanks fuel (cs.dropWhile (!isBlank ·))

def splitSingle (c : Char) : Chars → List Chars
  | [] => [[]]
  | d :: r =>
    if d = c then [] :: splitSingle c r
    else
      match splitSingle c r with
      | f :: fs => (d :: f) :: fs
      | [] => [[d]]

def splitSought (m : Matcher) : Nat → (before : Option Char) → Chars → List Chars
  | 0, _, cs => [cs]
  | fuel + 1, before, cs =>
    match findFilled m (cs.length + 1) before 0 cs with
    | none => [cs]
    | some f => cs.take f.start :: splitSought m fuel (cs[f.stop - 1]?) (cs.drop f.stop)

def split (s : Separator) (cs : Chars) : List Chars :=
  if cs.isEmpty then []
  else
    match s with
    | blanks => splitBlanks (cs.length + 1) cs
    | single c => splitSingle c cs
    | sought m => splitSought m (cs.length + 1) none cs
    | nothing => cs.map fun c => [c]

end Separator

inductive RecordEnd where
  | single (c : Char)
  | emptyLines
  | sought (m : Matcher)

namespace RecordEnd

def next (e : RecordEnd) (ended : Bool) (cs : Chars) : Option (Option Chars × Chars) :=
  let last (cs : Chars) : Option (Option Chars × Chars) :=
    if !ended then none else if cs.isEmpty then some (none, []) else some (some cs, [])
  match e with
  | single c =>
    let record := cs.takeWhile (· ≠ c)
    match cs.drop record.length with
    | _ :: r => some (some record, r)
    | [] => last cs
  | sought m =>
    match Separator.findFilled m (cs.length + 1) none 0 cs with
    | some f =>
      if f.stop = cs.length ∧ !ended then none
      else some (some (cs.take f.start), cs.drop f.stop)
    | none => last cs
  | emptyLines =>
    let cs := cs.dropWhile (· = '\n')
    let rec upToEmpty : Chars → Option (Chars × Chars)
      | '\n' :: '\n' :: r => some ([], r)
      | c :: r => (upToEmpty r).map fun (a, b) => (c :: a, b)
      | [] => none
    match upToEmpty cs with
    | some (record, r) => some (some record, r)
    | none => last (if ended ∧ cs.getLast? = some '\n' then cs.dropLast else cs)

end RecordEnd

end TreePipeline.Tools.Records
