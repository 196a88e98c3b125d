import TreePipeline.Shell.Arithmetic

/-!
The options of small programs. A table names them in one line of text: names that stand for one
option are joined by commas, those of one letter follow a dash and longer ones two; an equals sign
after them asks for a value, and a question mark after that makes it one that may be left out.
-/

namespace TreePipeline.Tools

open Shell

inductive Takes where
  | nothing
  | value
  | perhaps
  deriving DecidableEq

structure OptionForm where
  key : String
  letters : Chars
  words : List Chars
  takes : Takes

namespace OptionForm

def read (item : String) : OptionForm :=
  let cs := item.toList
  let names := cs.takeWhile (· ≠ '=')
  let takes : Takes := match cs.drop names.length with
    | ['=', '?'] => .perhaps
    | ['='] => .value
    | _ => .nothing
  let all := (Octets.splitOn 0x2c (toOctets names)).map ofOctets
  { key := String.ofList (all.headD [])
    letters := all.filterMap fun n => if n.length = 1 then n.head? else none
    words := all.filter fun n => 1 < n.length
    takes := takes }

def table (text : String) : List OptionForm :=
  ((text.splitOn " ").filter (· ≠ "")).map read

end OptionForm

abbrev Options := List (String × Option Chars)

namespace Options

def has (os : Options) (key : String) : Bool := os.any fun o => o.1 = key

def values (os : Options) (key : String) : List Chars :=
  os.filterMap fun o => if o.1 = key then o.2 else none

def value? (os : Options) (key : String) : Option Chars := (os.values key).getLast?

def last? (os : Options) (keys : List String) : Option String :=
  ((os.filter fun o => keys.contains o.1).getLast?).map Prod.fst

def wordForm (forms : List OptionForm) (word : Chars) : Except Chars OptionForm :=
  let name := word.takeWhile (· ≠ '=')
  let shown (w : Chars) : Chars := '\'' :: '-' :: '-' :: w ++ ['\'']
  match forms.find? fun f => f.words.contains name with
  | some f => .ok f
  | none =>
    let found := forms.flatMap fun f => (f.words.filter name.isPrefixOf).map fun w => (w, f)
    match found with
    | [] => .error ("unrecognized option ".toList ++ shown word)
    | (_, f) :: r =>
      if r.all fun e => e.2.key = f.key then .ok f
      else
        .error ("option ".toList ++ shown word ++ " is ambiguous; possibilities:".toList ++
          found.flatMap fun e => ' ' :: shown e.1)

def readWord (forms : List OptionForm) (word : Chars) (rest : List Chars) :
    Except Chars ((String × Option Chars) × List Chars) := do
  let f ← wordForm forms word
  let name := word.takeWhile (· ≠ '=')
  let full := (f.words.find? name.isPrefixOf).getD name
  let shown := "option '--".toList ++ full ++ ['\'']
  match f.takes, word.drop name.length, rest with
  | .nothing, [], _ => return ((f.key, none), rest)
  | .nothing, _, _ => throw (shown ++ " doesn't allow an argument".toList)
  | _, _ :: value, _ => return ((f.key, some value), rest)
  | .perhaps, [], _ => return ((f.key, none), rest)
  | .value, [], v :: rest => return ((f.key, some v), rest)
  | .value, [], [] => throw (shown ++ " requires an argument".toList)

def readLetters (forms : List OptionForm) : Chars → (rest : List Chars) →
    Except Chars (Options × List Chars)
  | [], rest => .ok ([], rest)
  | c :: cs, rest =>
    match forms.find? fun f => f.letters.contains c with
    | none => .error ("invalid option -- ".toList ++ ['\'', c, '\''])
    | some f =>
      match f.takes, cs, rest with
      | .nothing, cs, rest => (readLetters forms cs rest).map fun (os, r) => ((f.key, none) :: os, r)
      | .perhaps, cs, rest => .ok ([(f.key, if cs.isEmpty then none else some cs)], rest)
      | .value, [], [] => .error ("option requires an argument -- ".toList ++ ['\'', c, '\''])
      | .value, [], v :: rest => .ok ([(f.key, some v)], rest)
      | .value, cs, rest => .ok ([(f.key, some cs)], rest)

def read (forms : List OptionForm) (mixed : Bool) : Nat → List Chars →
    Except Chars (Options × List Chars)
  | 0, args => .ok ([], args)
  | _ + 1, [] => .ok ([], [])
  | fuel + 1, a :: r =>
    match a with
    | ['-', '-'] => .ok ([], r)
    | '-' :: '-' :: word => do
      let (o, r) ← readWord forms word r
      let (os, as) ← read forms mixed fuel r
      return (o :: os, as)
    | '-' :: c :: cs => do
      let (os, r) ← readLetters forms (c :: cs) r
      let (more, as) ← read forms mixed fuel r
      return (os ++ more, as)
    | a =>
      if mixed then (read forms mixed fuel r).map fun (os, as) => (os, a :: as)
      else .ok ([], a :: r)

def ofArgs (table : String) (mixed : Bool) (args : List Chars) :
    Except Chars (Options × List Chars) :=
  read (OptionForm.table table) mixed (args.length + 1) args

end Options

end TreePipeline.Tools
