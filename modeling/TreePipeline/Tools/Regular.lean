import TreePipeline.Shell.Command

/-!
Regular expressions, and where in a text they fit. Of the places where an expression fits the first
one counts, and there the longest piece. An expression without references back to its groups is
followed along all of its ways side by side, so that a text costs time in proportion to its length.
-/

namespace TreePipeline.Tools

open Shell

structure Symbols where
  negated : Bool
  ranges : List (Char × Char)
  deriving DecidableEq

inductive Spot where
  | lineStart
  | lineEnd
  | textStart
  | textEnd
  | wordStart
  | wordEnd
  | wordEdge
  | noWordEdge
  | afterNoWord
  | beforeNoWord
  deriving DecidableEq

inductive Regular where
  | empty
  | one (s : Symbols)
  | spot (s : Spot)
  | sequence (a b : Regular)
  | either (a b : Regular)
  | star (a : Regular)
  | group (n : Nat) (a : Regular)
  | back (n : Nat)
  deriving DecidableEq

namespace Symbols

def all : Symbols := ⟨true, []⟩

def single (c : Char) : Symbols := ⟨false, [(c, c)]⟩

def has (s : Symbols) (c : Char) : Bool := s.ranges.any (fun (a, b) => a ≤ c && c ≤ b) != s.negated

def accepts (s : Symbols) (fold : Bool) (c : Char) : Bool :=
  if fold then
    let within (c : Char) : Bool := s.ranges.any fun (a, b) => a ≤ c && c ≤ b
    (within c || within c.toLower || within c.toUpper) != s.negated
  else s.has c

end Symbols

def isWordChar (c : Char) : Bool := c.isAlphanum || c = '_'

def Spot.isAt (s : Spot) (before after : Option Char) : Bool :=
  let inWord (c : Option Char) : Bool := c.any isWordChar
  match s with
  | lineStart => before.isNone || before = some '\n'
  | lineEnd => after.isNone || after = some '\n'
  | textStart => before.isNone
  | textEnd => after.isNone
  | wordStart => !inWord before && inWord after
  | wordEnd => inWord before && !inWord after
  | wordEdge => inWord before != inWord after
  | noWordEdge => inWord before == inWord after
  | afterNoWord => !inWord before
  | beforeNoWord => !inWord after

structure Match where
  start : Nat
  stop : Nat
  groups : List (Nat × Nat × Nat)

namespace Regular

def literal (c : Char) : Regular := .one (.single c)

def ofChars (cs : Chars) : Regular := cs.foldr (fun c r => .sequence (.literal c) r) .empty

def power (a : Regular) : Nat → Regular
  | 0 => .empty
  | n + 1 => .sequence a (power a n)

def atMost (a : Regular) : Nat → Regular
  | 0 => .empty
  | n + 1 => .either (.sequence a (atMost a n)) .empty

def repeated (a : Regular) (least : Nat) (most : Option Nat) : Regular :=
  match most with
  | none => if least = 0 then .star a else .sequence (power a least) (.star a)
  | some m =>
    if least = 0 then atMost a m
    else if m = least then power a least
    else .sequence (power a least) (atMost a (m - least))

def refersBack : Regular → Bool
  | back _ => true
  | sequence a b => a.refersBack || b.refersBack
  | either a b => a.refersBack || b.refersBack
  | star a => a.refersBack
  | group _ a => a.refersBack
  | _ => false

inductive Step where
  | take (s : Symbols)
  | check (s : Spot)
  | fork (first second : Nat)
  | jump (goal : Nat)
  | save (slot : Nat)

def emit : Regular → Array Step → Array Step
  | empty, p => p
  | one s, p => p.push (.take s)
  | spot s, p => p.push (.check s)
  | sequence a b, p => emit b (emit a p)
  | either a b, p =>
    let i := p.size
    let p := emit a (p.push (.fork (i + 1) 0))
    let j := p.size
    let p := emit b (p.push (.jump 0))
    (p.setIfInBounds i (.fork (i + 1) (j + 1))).setIfInBounds j (.jump p.size)
  | star a, p =>
    let i := p.size
    let p := (emit a (p.push (.fork 0 0))).push (.jump i)
    p.setIfInBounds i (.fork (i + 1) p.size)
  | group n a, p => (emit a (p.push (.save (2 * n)))).push (.save (2 * n + 1))
  | back _, p => p

structure Way where
  next : Nat
  start : Nat
  saved : List (Nat × Nat)

structure Ways where
  ready : List Way
  complete : Option Way

def spread (steps : Array Step) (place : Nat) (before after : Option Char) :
    Nat → List Way → (seen : Array Bool) → Ways → Ways
  | 0, _, _, ws => ws
  | _ + 1, [], _, ws => ws
  | fuel + 1, w :: more, seen, ws =>
    if seen.getD w.next true then spread steps place before after fuel more seen ws
    else
      let go (more : List Way) (ws : Ways) : Ways :=
        spread steps place before after fuel more (seen.setIfInBounds w.next true) ws
      match steps[w.next]? with
      | none => go more { ws with complete := ws.complete.or (some w) }
      | some (.take _) => go more { ws with ready := w :: ws.ready }
      | some (.check s) =>
        if s.isAt before after then go ({ w with next := w.next + 1 } :: more) ws else go more ws
      | some (.fork a b) => go ({ w with next := a } :: { w with next := b } :: more) ws
      | some (.jump a) => go ({ w with next := a } :: more) ws
      | some (.save n) =>
        go ({ w with next := w.next + 1, saved := (n, place) :: w.saved } :: more) ws

def Way.take? (steps : Array Step) (fold : Bool) (c : Char) (w : Way) : Option Way :=
  match steps[w.next]? with
  | some (.take s) => if s.accepts fold c then some { w with next := w.next + 1 } else none
  | _ => none

def better (found : Option (Way × Nat)) (w : Option Way) (place : Nat) : Option (Way × Nat) :=
  match found, w with
  | some (b, stop), some w => if w.start ≤ b.start then some (w, place) else some (b, stop)
  | none, some w => some (w, place)
  | found, none => found

def follow (steps : Array Step) (fold anchored : Bool) :
    (before : Option Char) → (rest : Chars) → (place : Nat) → List Way →
      (found : Option (Way × Nat)) → Option (Way × Nat)
  | before, rest, place, ways, found =>
    let begun := if found.isNone && !(anchored && before.isSome) then [⟨0, place, []⟩] else []
    let seen := Array.replicate (steps.size + 1) false
    let ws := spread steps place before rest.head? (2 * steps.size + ways.length + 2) (ways ++ begun)
      seen ⟨[], none⟩
    let found := better found ws.complete place
    let ready : List Way := match found with
      | some (b, _) => ws.ready.filter fun (w : Way) => decide (w.start ≤ b.start)
      | none => ws.ready
    match rest with
    | [] => found
    | c :: r =>
      let ways := ready.reverse.filterMap (Way.take? steps fold c)
      if ways.isEmpty && (found.isSome || anchored) then found
      else follow steps fold anchored (some c) r (place + 1) ways found

def groupsOf (groups : Nat) (saved : List (Nat × Nat)) : List (Nat × Nat × Nat) :=
  (List.range groups).filterMap fun i =>
    match saved.lookup (2 * i + 2), saved.lookup (2 * i + 3) with
    | some a, some b => some (i + 1, a, b)
    | _, _ => none

inductive Item where
  | expression (a : Regular)
  | groupEnd (n begun : Nat)
  | beyond (place : Nat)

abbrev Groups := List (Nat × Nat × Nat)

def longer (a b : Option (Nat × Groups)) : Option (Nat × Groups) :=
  match a, b with
  | some (m, g), some (n, h) => if m < n then some (n, h) else some (m, g)
  | none, b => b
  | a, none => a

def fitItems (fold : Bool) (whole : Chars) : Nat → List Item → (before : Option Char) →
    (place : Nat) → Chars → Groups → Option (Nat × Groups)
  | 0, _, _, _, _, _ => none
  | _ + 1, [], _, place, _, groups => some (place, groups)
  | fuel + 1, item :: items, before, place, rest, groups =>
    let stay (items : List Item) (groups : Groups) : Option (Nat × Groups) :=
      fitItems fold whole fuel items before place rest groups
    match item with
    | .groupEnd n begun => stay items ((n, begun, place) :: groups)
    | .beyond p => if p < place then stay items groups else none
    | .expression .empty => stay items groups
    | .expression (.one s) =>
      match rest with
      | [] => none
      | c :: r =>
        if s.accepts fold c then fitItems fold whole fuel items (some c) (place + 1) r groups else none
    | .expression (.spot s) => if s.isAt before rest.head? then stay items groups else none
    | .expression (.sequence a b) => stay (.expression a :: .expression b :: items) groups
    | .expression (.either a b) =>
      longer (stay (.expression a :: items) groups) (stay (.expression b :: items) groups)
    | .expression (.star a) =>
      longer (stay (.expression a :: .beyond place :: .expression (.star a) :: items) groups)
        (stay items groups)
    | .expression (.group n a) => stay (.expression a :: .groupEnd n place :: items) groups
    | .expression (.back n) =>
      match groups.lookup n with
      | none => none
      | some (a, b) =>
        let piece := (whole.drop a).take (b - a)
        let here := rest.take piece.length
        let same := here = piece || (fold && here.map Char.toLower = piece.map Char.toLower)
        if same then
          fitItems fold whole fuel items (piece.getLast?.or before) (place + piece.length)
            (rest.drop piece.length) groups
        else none

def maxItems : Nat := 1000000

def search (a : Regular) (fold anchored : Bool) (whole : Chars) :
    (before : Option Char) → (rest : Chars) → (place : Nat) → Option Match
  | before, rest, place =>
    match fitItems fold whole maxItems [.expression a] before place rest [] with
    | some (stop, groups) => some ⟨place, stop, groups⟩
    | none =>
      match rest with
      | [] => none
      | c :: r => if anchored then none else search a fold anchored whole (some c) r (place + 1)

end Regular

structure Matcher where
  expression : Regular
  steps : Array Regular.Step
  fold : Bool
  groups : Nat
  refersBack : Bool

namespace Matcher

def ofRegular (fold : Bool) (groups : Nat) (a : Regular) : Matcher :=
  ⟨a, a.emit #[], fold, groups, a.refersBack⟩

def findFrom (m : Matcher) (anchored : Bool) (whole : Chars) (before : Option Char) (place : Nat)
    (rest : Chars) : Option Match :=
  if m.refersBack then m.expression.search m.fold anchored whole before rest place
  else
    (Regular.follow m.steps m.fold anchored before rest place [] none).map fun (w, stop) =>
      ⟨w.start, stop, Regular.groupsOf m.groups w.saved⟩

def find? (m : Matcher) (text : Chars) : Option Match := m.findFrom false text none 0 text

def isIn (m : Matcher) (text : Chars) : Bool := (m.find? text).isSome

def atFront? (m : Matcher) (text : Chars) : Option Match := m.findFrom true text none 0 text

end Matcher

namespace Match

def piece (m : Match) (text : Chars) (n : Nat) : Chars :=
  if n = 0 then (text.drop m.start).take (m.stop - m.start)
  else match m.groups.lookup n with
    | some (a, b) => (text.drop a).take (b - a)
    | none => []

end Match

end TreePipeline.Tools
