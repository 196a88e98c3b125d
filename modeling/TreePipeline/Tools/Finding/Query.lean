import TreePipeline.Tools.Inspection
import TreePipeline.Tools.Regular.Reader

/-!
What is looked for in a tree: tests of entries, deeds that are done to them, and how both are put
together. A test looks at the tree and changes nothing; its meaning is `Test.holds`.
-/

namespace TreePipeline.Tools

open Shell Host

namespace Finding

inductive Relation where
  | more
  | less
  | exactly
  deriving DecidableEq

structure Bound where
  relation : Relation
  value : Nat

def Bound.admits (b : Bound) (n : Nat) : Bool :=
  match b.relation with
  | .more => b.value < n
  | .less => n < b.value
  | .exactly => n = b.value

inductive ModeTest where
  | same
  | all
  | some_
  deriving DecidableEq

inductive Test where
  | constant (b : Bool)
  | name (pattern : Chars) (fold : Bool)
  | path (pattern : Chars) (fold : Bool)
  | expression (m : Matcher)
  | goal (pattern : Chars) (fold : Bool)
  | kind (letters : Chars) (other : Bool)
  | size (b : Bound) (unit : Nat)
  | empty
  | changed (relation : Relation) (time : Int) (span : Int)
  | mode (bits : Nat) (how : ModeTest)
  | owner (b : Bound)
  | nameCount (b : Bound)
  | number (b : Bound)
  | same (l : Location)
  | mayRun

inductive Piece where
  | text (cs : Chars)
  | field (v : Format.Conversion) (k : Char)
  | time (v : Format.Conversion) (k : Option Char)
  | stop

structure Command where
  words : List Chars
  inside : Bool
  ask : Bool
  many : Option Nat

inductive Deed where
  | print (file : Option Chars) (ending : Char)
  | show_ (file : Option Chars) (pieces : List Piece)
  | list (file : Option Chars)
  | run (c : Command)
  | delete
  | prune
  | quit

inductive Query where
  | test (t : Test)
  | deed (d : Deed)
  | not (q : Query)
  | and (p q : Query)
  | or (p q : Query)
  | then_ (p q : Query)

namespace Query

def deeds : Query → List Deed
  | .test _ => []
  | .deed d => [d]
  | .not q => q.deeds
  | .and p q => p.deeds ++ q.deeds
  | .or p q => p.deeds ++ q.deeds
  | .then_ p q => p.deeds ++ q.deeds

end Query

structure Entry where
  path : Chars
  start : Chars
  depth : Nat
  facts : Facts
  following : Bool

namespace Entry

def name (e : Entry) : Chars := baseName e.path

def letterOf (n : Node) : Char :=
  match n with
  | .directory => 'd'
  | .link _ => 'l'
  | .file .. => 'f'
  | .device (.pipe _) => 'p'
  | .device _ => 'c'

def kindLetter (e : Entry) : Char := letterOf e.facts.node

def otherKind (fs : FileSystem) (e : Entry) : Char :=
  let found := if e.following then fs.lstat (toOctets e.path) else fs.stat (toOctets e.path)
  match found with
  | .ok n => letterOf n
  | .error _ => e.kindLetter

end Entry

def fits (pattern : Chars) (fold : Bool) (text : Chars) : Bool :=
  if fold then Pattern.admits (pattern.map Char.toLower) (text.map Char.toLower) else Pattern.admits pattern text

def Test.holds (fs : FileSystem) (e : Entry) : Test → Bool
  | .constant b => b
  | .name pattern fold => fits pattern fold e.name
  | .path pattern fold => fits pattern fold e.path
  | .expression m => match m.atFront? e.path with
    | some found => found.stop = e.path.length
    | none => false
  | .goal pattern fold => match e.facts.goal? with
    | some g => fits pattern fold g
    | none => false
  | .kind letters other => letters.contains (if other then e.otherKind fs else e.kindLetter)
  | .size b unit => b.admits ((e.facts.size + unit - 1) / unit)
  | .empty => match e.facts.node with
    | .file content _ _ => content.isEmpty
    | .directory => (fs.childNames e.facts.location).isEmpty
    | _ => false
  | .changed relation time span => match relation with
    | .more => e.facts.modified < time
    | .less => time < e.facts.modified
    | .exactly => time < e.facts.modified && e.facts.modified ≤ time + span
  | .mode bits how => match how with
    | .same => e.facts.mode % 0o10000 = bits
    | .all => e.facts.mode &&& bits = bits
    | .some_ => bits = 0 || e.facts.mode &&& bits ≠ 0
  | .owner b => b.admits 0
  | .nameCount b => b.admits e.facts.names
  | .number b => b.admits (e.facts.number fs)
  | .same l => fs.isSame l e.facts.location
  | .mayRun => e.facts.node.isDirectory || e.facts.mode &&& 0o111 ≠ 0

end Finding

end TreePipeline.Tools
