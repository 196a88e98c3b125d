import Std.Data.HashMap
import TreePipeline.Text.Difference
import TreePipeline.Tools.Dates
import TreePipeline.Tools.Regular.Reader

/-!
The shapes in which the differences between two texts are shown: changes line by line, hunks with the
lines around them, commands of an editor, and both texts side by side.
-/

namespace TreePipeline.Tools

open Shell Host

inductive DiffShape where
  | normal
  | unified
  | context
  | script
  | forward
  | counted
  | columns
  | brief
  deriving DecidableEq

structure DiffStyle where
  shape : DiffShape := .normal
  margin : Nat := 0
  fold : Bool := false
  ignoreSpace : Bool := false
  ignoreSpaceChange : Bool := false
  ignoreEndSpace : Bool := false
  evenTabs : Bool := false
  expandTabs : Bool := false
  ignoreBlank : Bool := false
  dropReturn : Bool := false
  initialTab : Bool := false
  asText : Bool := false
  newFile : Bool := false
  newFirst : Bool := false
  recursive : Bool := false
  same : Bool := false
  labels : List Chars := []
  ignored : Option Matcher := none
  heading : Option Matcher := none
  excluded : List Chars := []
  switches : Chars := []
  zone : Zone := .universal
  width : Nat := 130
  leftColumn : Bool := false
  onlyChanges : Bool := false

structure TextLine where
  text : Chars
  complete : Bool

structure Edit where
  change : Difference.Change
  ignored : Bool

namespace DiffStyle

def isSpace (c : Char) : Bool := c = ' ' || ('\t' ≤ c && c ≤ '\r')

def withoutTabs : (column : Nat) → Chars → Chars
  | _, [] => []
  | n, '\t' :: r => List.replicate (8 - n % 8) ' ' ++ withoutTabs (n + (8 - n % 8)) r
  | n, c :: r => c :: withoutTabs (n + 1) r

def oneSpace : Chars → Chars
  | [] => []
  | c :: r =>
    if isSpace c then
      match oneSpace r with
      | [] => []
      | ' ' :: s => ' ' :: s
      | s => ' ' :: s
    else c :: oneSpace r

def key (s : DiffStyle) (l : TextLine) : Octets × Bool :=
  let t := if s.dropReturn ∧ l.text.getLast? = some '\r' then l.text.dropLast else l.text
  let t := if s.fold then t.map Char.toLower else t
  let t := if s.evenTabs then withoutTabs 0 t else t
  let t := if s.ignoreSpace then t.filter fun c => !isSpace c
    else if s.ignoreSpaceChange then oneSpace t
    else if s.ignoreEndSpace then (t.reverse.dropWhile isSpace).reverse
    else t
  (toOctets t, l.complete || s.ignoreSpace || s.ignoreSpaceChange || s.ignoreEndSpace ||
    s.shape = .script || s.shape = .forward)

def classes (s : DiffStyle) (a b : List TextLine) : Array Nat × Array Nat :=
  let add (state : Std.HashMap (Octets × Bool) Nat × Array Nat) (l : TextLine) :
      Std.HashMap (Octets × Bool) Nat × Array Nat :=
    let k := s.key l
    match state.1[k]? with
    | some n => (state.1, state.2.push n)
    | none => (state.1.insert k state.1.size, state.2.push state.1.size)
  let (known, xs) := a.foldl add (∅, #[])
  let (_, ys) := b.foldl add (known, #[])
  (xs, ys)

def linesOfText (bs : Octets) : List TextLine :=
  (linesOf bs).map fun l =>
    if l.getLast? = some newline then ⟨ofOctets l.dropLast, true⟩ else ⟨ofOctets l, false⟩

def isIgnored (s : DiffStyle) (a b : Array TextLine) (c : Difference.Change) : Bool :=
  let lines := (a.extract c.first (c.first + c.removed)).toList ++
    (b.extract c.second (c.second + c.added)).toList
  let boring (l : TextLine) : Bool :=
    (s.ignoreBlank && (if s.ignoreSpace || s.ignoreSpaceChange || s.ignoreEndSpace
      then l.text.all isSpace else l.text.isEmpty)) ||
      s.ignored.any fun m => m.isIn l.text
  (s.ignoreBlank || s.ignored.isSome) && lines.all boring

def edits (s : DiffStyle) (a b : Array TextLine) : List Edit :=
  let (xs, ys) := s.classes a.toList b.toList
  (Difference.changes xs ys s.margin).map fun c => ⟨c, s.isIgnored a b c⟩

def rangeText (mark : Char) (start count : Nat) : Chars :=
  if count ≤ 1 then (toString (start + count)).toList
  else (toString (start + 1)).toList ++ mark :: (toString (start + count)).toList

def lineText (s : DiffStyle) (front : Chars) (l : TextLine) : Chars :=
  front ++ (if s.expandTabs then withoutTabs 0 l.text else l.text) ++ ['\n'] ++
    (if l.complete then [] else "\\ No newline at end of file\n".toList)

def normalText (s : DiffStyle) (a b : Array TextLine) (es : List Edit) : Chars :=
  let gap := if s.initialTab then '\t' else ' '
  (es.filter (!·.ignored)).flatMap fun e =>
    let c := e.change
    let letter := if c.removed = 0 then 'a' else if c.added = 0 then 'd' else 'c'
    rangeText ',' c.first c.removed ++ letter :: rangeText ',' c.second c.added ++ ['\n'] ++
      ((a.extract c.first (c.first + c.removed)).toList.flatMap (s.lineText ['<', gap])) ++
      (if letter = 'c' then "---\n".toList else []) ++
      ((b.extract c.second (c.second + c.added)).toList.flatMap (s.lineText ['>', gap]))

def hunks (s : DiffStyle) : List Edit → List (List Edit)
  | [] => []
  | e :: r =>
    match hunks s r with
    | [] => [[e]]
    | [] :: hs => [e] :: hs
    | (f :: fs) :: hs =>
      let limit := if e.ignored || f.ignored then s.margin else 2 * s.margin + 1
      if f.change.first - (e.change.first + e.change.removed) < limit then (e :: f :: fs) :: hs
      else [e] :: (f :: fs) :: hs

structure Piece where
  start₁ : Nat
  stop₁ : Nat
  start₂ : Nat
  stop₂ : Nat

def pieceOf (s : DiffStyle) (a b : Array TextLine) (h : List Edit) : Piece :=
  let first := (h.head?.map Edit.change).getD ⟨0, 0, 0, 0⟩
  let last := (h.getLast?.map Edit.change).getD ⟨0, 0, 0, 0⟩
  ⟨first.first - s.margin, min a.size (last.first + last.removed + s.margin),
    first.second - min s.margin first.first, min b.size (last.second + last.added + s.margin)⟩

def headingText (s : DiffStyle) (a : Array TextLine) (start : Nat) : Chars :=
  match s.heading with
  | none => []
  | some m =>
    match ((a.extract 0 start).toList.reverse).find? fun l => m.isIn l.text with
    | none => []
    | some l =>
      let t := (l.text.dropWhile isSpace).take 40
      ' ' :: (t.reverse.dropWhile isSpace).reverse

def walk (s : DiffStyle) (a b : Array TextLine) : List Edit → (place stop : Nat) → Chars
  | [], place, stop => (a.extract place stop).toList.flatMap (s.lineText (front ' '))
  | e :: r, place, stop =>
    let c := e.change
    (a.extract place c.first).toList.flatMap (s.lineText (front ' ')) ++
      (a.extract c.first (c.first + c.removed)).toList.flatMap (s.lineText (front '-')) ++
      (b.extract c.second (c.second + c.added)).toList.flatMap (s.lineText (front '+')) ++
      walk s a b r (c.first + c.removed) stop
where
  front (c : Char) : Chars := if s.initialTab then (if c = ' ' then ['\t'] else [c, '\t']) else [c]

def unifiedRange (start stop : Nat) : Chars :=
  if stop = start + 1 then (toString stop).toList
  else if stop = start then (toString start).toList ++ ",0".toList
  else (toString (start + 1)).toList ++ ',' :: (toString (stop - start)).toList

def unifiedText (s : DiffStyle) (a b : Array TextLine) (es : List Edit) : Chars :=
  (s.hunks es).flatMap fun h =>
    if h.all Edit.ignored then []
    else
      let p := s.pieceOf a b h
      "@@ -".toList ++ unifiedRange p.start₁ p.stop₁ ++ " +".toList ++ unifiedRange p.start₂ p.stop₂ ++
        " @@".toList ++ s.headingText a p.start₁ ++ '\n' :: s.walk a b h p.start₁ p.stop₁

def contextRange (start stop : Nat) : Chars :=
  if stop ≤ start + 1 then (toString stop).toList
  else (toString (start + 1)).toList ++ ',' :: (toString stop).toList

def contextText (s : DiffStyle) (a b : Array TextLine) (es : List Edit) : Chars :=
  let gap := if s.initialTab then '\t' else ' '
  (s.hunks es).flatMap fun h =>
    if h.all Edit.ignored then []
    else
      let p := s.pieceOf a b h
      let side (ls : Array TextLine) (start stop : Nat) (own : Edit → Nat × Nat) (other : Edit → Nat)
          (mark : Char) : Chars :=
        (List.range (stop - start)).flatMap fun i =>
          let n := start + i
          let flag : Char := match h.find? fun e => (own e).1 ≤ n ∧ n < (own e).1 + (own e).2 with
            | some e => if other e = 0 then mark else '!'
            | none => ' '
          match ls[n]? with
          | some l => s.lineText [flag, gap] l
          | none => []
      let removes := h.any fun e => e.change.removed ≠ 0
      let adds := h.any fun e => e.change.added ≠ 0
      "***************".toList ++ s.headingText a p.start₁ ++ "\n*** ".toList ++
        contextRange p.start₁ p.stop₁ ++ " ****\n".toList ++
        (if removes then side a p.start₁ p.stop₁ (fun e => (e.change.first, e.change.removed))
          (fun e => e.change.added) '-' else []) ++
        "--- ".toList ++ contextRange p.start₂ p.stop₂ ++ " ----\n".toList ++
        (if adds then side b p.start₂ p.stop₂ (fun e => (e.change.second, e.change.added))
          (fun e => e.change.removed) '+' else [])

def scriptText (b : Array TextLine) (es : List Edit) : Chars :=
  (es.filter (!·.ignored)).reverse.flatMap fun e =>
    let c := e.change
    let letter := if c.removed = 0 then 'a' else if c.added = 0 then 'd' else 'c'
    let lines := (b.extract c.second (c.second + c.added)).toList
    -- A line that is a point alone would end the text.
    let rec body : List TextLine → (again : Bool) → Chars
      | [], _ => ".\n".toList
      | l :: r, again =>
        (if again then "a\n".toList else []) ++
          (if l.text = ['.'] then "..\n.\ns/.//\n".toList ++ (match r with
              | [] => []
              | r => body r true)
            else l.text ++ '\n' :: body r false)
    rangeText ',' c.first c.removed ++ [letter, '\n'] ++ (if letter = 'd' then [] else body lines false)

def forwardText (b : Array TextLine) (es : List Edit) : Chars :=
  (es.filter (!·.ignored)).flatMap fun e =>
    let c := e.change
    let letter := if c.removed = 0 then 'a' else if c.added = 0 then 'd' else 'c'
    letter :: rangeText ' ' c.first c.removed ++ ['\n'] ++ (if letter = 'd' then [] else
      ((b.extract c.second (c.second + c.added)).toList.flatMap fun l => l.text ++ ['\n']) ++ ".\n".toList)

def countedText (b : Array TextLine) (es : List Edit) : Chars :=
  (es.filter (!·.ignored)).flatMap fun e =>
    let c := e.change
    let number (n : Nat) : Chars := (toString n).toList
    (if c.removed = 0 then [] else 'd' :: number (c.first + 1) ++ ' ' :: number c.removed ++ ['\n']) ++
      (if c.added = 0 then [] else
        'a' :: number (c.first + c.removed) ++ ' ' :: number c.added ++ '\n' ::
          (b.extract c.second (c.second + c.added)).toList.flatMap fun l =>
            l.text ++ if l.complete then ['\n'] else [])

/-! Both texts side by side. -/

def fill (s : DiffStyle) (start stop : Nat) : Chars :=
  if s.expandTabs then List.replicate (stop - start) ' '
  else
    let tabs := stop / 8 - start / 8
    List.replicate tabs '\t' ++ List.replicate (stop - max start (if tabs = 0 then 0 else stop / 8 * 8)) ' '

def halfLine (s : DiffStyle) (bound : Nat) : (seen out : Nat) → Chars → Chars × Nat
  | _, out, [] => ([], out)
  | seen, out, '\t' :: r =>
    let step := 8 - seen % 8
    let stop := out + step
    let (text, reached) :=
      if seen ≠ out then ([], out)
      else if s.expandTabs then (List.replicate (min bound stop - out) ' ', max out (min bound stop))
      else if stop < bound then (['\t'], stop)
      else ([], out)
    let (more, last) := halfLine s bound (seen + step) reached r
    (text ++ more, last)
  | seen, out, c :: r =>
    if c < ' ' ∨ '~' < c then
      let (more, last) := halfLine s bound seen out r
      (if seen < bound then c :: more else more, last)
    else if seen < bound then
      let (more, last) := halfLine s bound (seen + 1) (seen + 1) r
      (c :: more, last)
    else halfLine s bound (seen + 1) out r

def halves (s : DiffStyle) : Nat × Nat :=
  let unit := if s.expandTabs then 1 else 8
  let gutter := unit + 3
  let middle := s.width / 2 + gutter / 2 + (if s.width % 2 = 1 ∧ gutter % 2 = 1 then 1 else 0)
  let start := middle - middle % unit
  let half := min (start - 3) (s.width - start)
  (half, if half = 0 then s.width else start)

def rowText (s : DiffStyle) (left : Option TextLine) (mark : Char) (right : Option TextLine) : Chars :=
  let (half, second) := s.halves
  let ends (l : Option TextLine) : Bool := l.any TextLine.complete
  let (first, column) := match left with
    | some l => s.halfLine half 0 0 l.text
    | none => ([], 0)
  let mark := if mark = '|' ∧ ends left ≠ ends right then (if ends left then '/' else '\\') else mark
  let place := (half + second - 1) / 2
  let (middle, column) :=
    if mark = ' ' then ([], column) else (s.fill column place ++ [mark], place + 1)
  let last := match right with
    | some l => if l.complete ∧ l.text.isEmpty then [] else s.fill column second ++ (s.halfLine half 0 0 l.text).1
    | none => []
  first ++ middle ++ last ++ (if ends left || ends right then ['\n'] else [])

def alikeText (s : DiffStyle) (ls rs : List TextLine) : Chars :=
  if s.onlyChanges then []
  else if s.leftColumn then ls.flatMap fun l => s.rowText (some l) '(' none
  else (ls.zip rs).flatMap fun (l, r) => s.rowText (some l) ' ' (some r)

def columnsText (s : DiffStyle) (a b : Array TextLine) (es : List Edit) : Chars :=
  go 0 0 (es.filter (!·.ignored))
where
  go (i j : Nat) : List Edit → Chars
    | [] => s.alikeText (a.extract i a.size).toList (b.extract j b.size).toList
    | e :: r =>
      let c := e.change
      let ls := (a.extract c.first (c.first + c.removed)).toList
      let rs := (b.extract c.second (c.second + c.added)).toList
      s.alikeText (a.extract i c.first).toList (b.extract j c.second).toList ++
        ((ls.zip rs).flatMap fun (l, r) => s.rowText (some l) '|' (some r)) ++
        ((rs.drop ls.length).flatMap fun r => s.rowText none '>' (some r)) ++
        ((ls.drop rs.length).flatMap fun l => s.rowText (some l) '<' none) ++
        go (c.first + c.removed) (c.second + c.added) r

end DiffStyle

structure DiffSide where
  name : Chars
  content : Octets
  modified : Int

namespace DiffStyle

def sampleSize : Nat := 4096

def isBinary (s : DiffStyle) (f : DiffSide) : Bool := !s.asText && (f.content.take sampleSize).contains 0

def headText (s : DiffStyle) (marks : String × String) (a b : DiffSide) : Chars :=
  let line (mark : String) (f : DiffSide) (label : Option Chars) : Chars :=
    let (secs, nanos) := instantOf f.modified
    let pattern := if s.shape = .context then "%a %b %e %H:%M:%S %Y" else "%Y-%m-%d %H:%M:%S.%N %z"
    mark.toList ++ ' ' :: (match label with
      | some l => l
      | none => f.name ++ '\t' :: (Civil.ofInstant secs nanos s.zone).written pattern) ++ ['\n']
  line marks.1 a s.labels[0]? ++ line marks.2 b s.labels[1]?

def report (s : DiffStyle) (a b : DiffSide) : Option Chars :=
  if a.content = b.content then none
  else if s.isBinary a || s.isBinary b then
    some ((if s.shape = .brief then "Files " else "Binary files ").toList ++ a.name ++ " and ".toList ++ b.name ++
      " differ\n".toList)
  else
    let la := (linesOfText a.content).toArray
    let lb := (linesOfText b.content).toArray
    let es := s.edits la lb
    if es.all Edit.ignored then none
    else some (match s.shape with
      | .normal => s.normalText la lb es
      | .unified => s.headText ("---", "+++") a b ++ s.unifiedText la lb es
      | .context => s.headText ("***", "---") a b ++ s.contextText la lb es
      | .script => scriptText lb es
      | .forward => forwardText lb es
      | .columns => s.columnsText la lb es
      | .counted => countedText lb es
      | .brief => "Files ".toList ++ a.name ++ " and ".toList ++ b.name ++ " differ\n".toList)

end DiffStyle

end TreePipeline.Tools
