/-!
Patterns for the end of a text. Of the places and ways in which a pattern fits a piece of the text
the first one counts: an earlier place comes before a later one, an earlier branch before a later
one, and a greedy repetition goes on before it stops. The text is accepted if that way goes on to
its end. The ways are followed side by side, so a text costs time in proportion to its length.
-/

namespace TreePipeline.Text

inductive CharSet where
  | range (first last : Char)
  | union (a b : CharSet)
  | both (a b : CharSet)
  | complement (a : CharSet)
  | anyCase (a : CharSet)
  deriving DecidableEq

namespace CharSet

def isRaised (c : Char) : Bool := 'A' ≤ c && c ≤ 'Z'

def otherCase (c : Char) : Char := if isRaised c then c.toLower else c.toUpper

def has : CharSet → Char → Bool
  | range first last, c => first ≤ c && c ≤ last
  | union a b, c => a.has c || b.has c
  | both a b, c => a.has c && b.has c
  | complement a, c => !a.has c
  | anyCase a, c => a.has c || a.has (otherCase c)

def single (c : Char) : CharSet := .range c c

def none : CharSet := .range '\x01' '\x00'

def unionOf (as : List CharSet) : CharSet := as.foldr .union none

def without (a b : CharSet) : CharSet := .both a (.complement b)

def inOne (a b : CharSet) : CharSet := .union (without a b) (without b a)

end CharSet

inductive WordEdge where
  | start
  | finish
  | any
  | none
  deriving DecidableEq

structure Around where
  before : Option Char
  after : Option Char

namespace WordEdge

def isWordMark (c : Char) : Bool := c.isAlphanum || c = '_'

def isAt (e : WordEdge) (place : Around) : Bool :=
  let before := place.before.any isWordMark
  let after := place.after.any isWordMark
  match e with
  | start => !before && after
  | finish => before && !after
  | any => before != after
  | none => before == after

end WordEdge

inductive Expression where
  | empty
  | one (s : CharSet)
  | start
  | finish
  | edge (e : WordEdge)
  | sequence (a b : Expression)
  | either (a b : Expression)
  | optional (greedy : Bool) (a : Expression)
  | repeated (greedy : Bool) (a : Expression)
  deriving DecidableEq

namespace Expression

inductive Item where
  | fit (a : Expression)
  | again (greedy : Bool) (a : Expression) (moved : Bool)
  deriving DecidableEq

abbrev Way := List Item

structure Ways where
  pending : List Way
  complete : Bool

def Ways.none : Ways := ⟨[], false⟩

def Ways.before (a : Ways) (b : Unit → Ways) : Ways :=
  if a.complete then a else ⟨a.pending ++ (b ()).pending, (b ()).complete⟩

def Ways.inOrder (greedy : Bool) (inside outside : Unit → Ways) : Ways :=
  if greedy then (inside ()).before outside else (outside ()).before inside

def carryOn (place : Around) : Nat → Way → Ways
  | 0, _ => .none
  | _ + 1, [] => ⟨[], true⟩
  | fuel + 1, .again greedy a moved :: r =>
    if moved then
      .inOrder greedy (fun _ => carryOn place fuel (.fit a :: .again greedy a false :: r))
        fun _ => carryOn place fuel r
    else carryOn place fuel r
  | fuel + 1, .fit a :: r =>
    match a with
    | .empty => carryOn place fuel r
    | .one s => ⟨[.fit (.one s) :: r], false⟩
    | .start => if place.before.isNone then carryOn place fuel r else .none
    | .finish => if place.after.isNone then carryOn place fuel r else .none
    | .edge e => if e.isAt place then carryOn place fuel r else .none
    | .sequence a b => carryOn place fuel (.fit a :: .fit b :: r)
    | .either a b =>
      (carryOn place fuel (.fit a :: r)).before fun _ =>
        carryOn place fuel (.fit b :: r)
    | .optional greedy a =>
      .inOrder greedy (fun _ => carryOn place fuel (.fit a :: r))
        fun _ => carryOn place fuel r
    | .repeated greedy a => carryOn place fuel (.fit a :: .again greedy a false :: r)

def size : Expression → Nat
  | sequence a b => a.size + b.size + 1
  | either a b => a.size + b.size + 1
  | optional _ a => a.size + 1
  | repeated _ a => 2 * a.size + 2
  | _ => 1

def Item.move : Item → Item
  | .again greedy a _ => .again greedy a true
  | i => i

def take (c : Char) (after : Option Char) (fuel : Nat) : List Way → Ways
  | [] => .none
  | (.fit (.one s) :: r) :: ws =>
    if s.has c then
      (carryOn ⟨some c, after⟩ fuel (r.map Item.move)).before fun _ => take c after fuel ws
    else take c after fuel ws
  | _ :: ws => take c after fuel ws

def takeAll (fuel : Nat) : Ways → List Char → Bool
  | ws, [] => ws.complete
  | ws, c :: r => takeAll fuel (take c r.head? fuel ws.pending.eraseDups) r

def anywhere (a : Expression) : Expression :=
  .sequence (.optional false (.repeated false (.one (.complement .none)))) a

def accepts (a : Expression) (cs : List Char) : Bool :=
  let a := a.anywhere
  let fuel := (a.size + 1) * (a.size + 1)
  takeAll fuel (carryOn ⟨none, cs.head?⟩ fuel [.fit a]) cs

end Expression

end TreePipeline.Text
