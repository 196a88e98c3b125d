/-!
Differences between two sequences: which items of each are not kept, and the changes that lead from
one to the other. A shortest way is looked for from both ends at once, and the problem is split where
the two searches meet. Items that have no partner are left out before, and runs of changed items are
moved afterwards so that they end as late as they can.
-/

namespace TreePipeline.Difference

structure Change where
  first : Nat
  second : Nat
  removed : Nat
  added : Nat
  deriving DecidableEq

structure Marks where
  first : Array Bool
  second : Array Bool

/-! The middle of a shortest way. -/

structure Search where
  low : Int
  high : Int
  reach : Array Int

structure Problem where
  same : Nat → Nat → Bool
  left : Nat
  right : Nat
  top : Nat
  bottom : Nat

namespace Problem

def least (p : Problem) : Int := (p.left : Int) - p.bottom

def greatest (p : Problem) : Int := (p.right : Int) - p.top

def slot (p : Problem) (d : Int) : Nat := (d - p.least + 1).toNat

def get (p : Problem) (s : Search) (d : Int) : Int := s.reach.getD (p.slot d) 0

def set (p : Problem) (s : Search) (d x : Int) : Search :=
  { s with reach := s.reach.setIfInBounds (p.slot d) x }

def widen (p : Problem) (s : Search) (beyond : Int) : Search :=
  let s := if p.least < s.low then p.set { s with low := s.low - 1 } (s.low - 2) beyond
    else { s with low := s.low + 1 }
  if s.high < p.greatest then p.set { s with high := s.high + 1 } (s.high + 2) beyond
  else { s with high := s.high - 1 }

def forwards (p : Problem) : Nat → (x y : Nat) → Nat
  | 0, x, _ => x
  | fuel + 1, x, y =>
    if x < p.right ∧ y < p.bottom ∧ p.same x y then forwards p fuel (x + 1) (y + 1) else x

def backwards (p : Problem) : Nat → (x y : Nat) → Nat
  | 0, x, _ => x
  | fuel + 1, x, y =>
    if p.left < x ∧ p.top < y ∧ p.same (x - 1) (y - 1) then backwards p fuel (x - 1) (y - 1) else x

def diagonals (s : Search) : List Int :=
  if s.high < s.low then [] else (List.range (((s.high - s.low) / 2).toNat + 1)).map fun (i : Nat) => s.high - 2 * (i : Int)

def stepDown (p : Problem) (odd : Bool) (back : Search) :
    List Int → Search → Search ⊕ (Nat × Nat)
  | [], s => .inl s
  | d :: ds, s =>
    let low := p.get s (d - 1)
    let high := p.get s (d + 1)
    let start := if low < high then high else low + 1
    let x := p.forwards (p.right + 1) start.toNat (start - d).toNat
    let s := p.set s d x
    if odd ∧ back.low ≤ d ∧ d ≤ back.high ∧ p.get back d ≤ x then .inr (x, ((x : Int) - d).toNat)
    else stepDown p odd back ds s

def stepUp (p : Problem) (odd : Bool) (front : Search) :
    List Int → Search → Search ⊕ (Nat × Nat)
  | [], s => .inl s
  | d :: ds, s =>
    let low := p.get s (d - 1)
    let high := p.get s (d + 1)
    let start := if low < high then low else high - 1
    let x := p.backwards (p.right + 1) start.toNat (start - d).toNat
    let s := p.set s d x
    if !odd ∧ front.low ≤ d ∧ d ≤ front.high ∧ (x : Int) ≤ p.get front d then .inr (x, ((x : Int) - d).toNat)
    else stepUp p odd front ds s

def meet (p : Problem) (odd : Bool) : Nat → (front back : Search) → Nat × Nat
  | 0, _, _ => (p.left, p.top)
  | fuel + 1, front, back =>
    let front := p.widen front (-1)
    match p.stepDown odd back (diagonals front) front with
    | .inr found => found
    | .inl front =>
      let back := p.widen back (p.right + p.bottom + 1)
      match p.stepUp odd front (diagonals back) back with
      | .inr found => found
      | .inl back => meet p odd fuel front back

def middle (p : Problem) : Nat × Nat :=
  let front : Int := (p.left : Int) - p.top
  let back : Int := (p.right : Int) - p.bottom
  let size := (p.greatest - p.least).toNat + 3
  let search (d x : Int) : Search := p.set ⟨d, d, Array.replicate size 0⟩ d x
  p.meet ((front - back) % 2 ≠ 0) (size + 1) (search front p.left) (search back p.right)

end Problem

def markRange (marks : Array Bool) (index : Nat → Nat) (start stop : Nat) : Array Bool :=
  (List.range (stop - start)).foldl (fun m i => m.setIfInBounds (index (start + i)) true) marks

def compare (same : Nat → Nat → Bool) (index₁ index₂ : Nat → Nat) :
    Nat → (left right top bottom : Nat) → Marks → Marks
  | 0, _, _, _, _, m => m
  | fuel + 1, left, right, top, bottom, m =>
    let p : Problem := ⟨same, left, right, top, bottom⟩
    let l := p.forwards (right + 1) left top
    let t := top + (l - left)
    let p : Problem := ⟨same, l, right, t, bottom⟩
    let r := p.backwards (right + 1) right bottom
    let b := bottom - (right - r)
    if l = r then { m with second := markRange m.second index₂ t b }
    else if t = b then { m with first := markRange m.first index₁ l r }
    else
      let (x, y) := (⟨same, l, r, t, b⟩ : Problem).middle
      compare same index₁ index₂ fuel x r y b (compare same index₁ index₂ fuel l x t y m)

/-! Items that are left out beforehand. -/

inductive Discard where
  | kept
  | surely
  | perhaps
  deriving DecidableEq

def rootScale : Nat → (start n : Nat) → Nat
  | 0, start, _ => start
  | fuel + 1, start, n => if n / 4 = 0 then start else rootScale fuel (2 * start) (n / 4)

def countOf (xs : Array Nat) (x : Nat) : Nat := xs.foldl (fun n y => if x = y then n + 1 else n) 0

def candidates (xs others : Array Nat) : Array Discard :=
  let many := rootScale 64 5 (xs.size / 64)
  xs.map fun x =>
    let n := countOf others x
    if n = 0 then .surely else if many < n then .perhaps else .kept

def cancelEnd (at_ : Nat → Nat) (length : Nat) : Nat → (j sure : Nat) → Array Discard → Array Discard
  | 0, _, _, ds => ds
  | fuel + 1, j, sure, ds =>
    if length ≤ j then ds
    else
      let d := ds.getD (at_ j) .kept
      if 8 ≤ j ∧ d = .surely then ds
      else
        match d with
        | .perhaps => cancelEnd at_ length fuel (j + 1) 0 (ds.setIfInBounds (at_ j) .kept)
        | .kept => cancelEnd at_ length fuel (j + 1) 0 ds
        | .surely => if sure = 2 then ds else cancelEnd at_ length fuel (j + 1) (sure + 1) ds

def cancelLong (start length least : Nat) : Nat → (j run : Nat) → Array Discard → Array Discard
  | 0, _, _, ds => ds
  | fuel + 1, j, run, ds =>
    if length ≤ j then ds
    else if ds.getD (start + j) .kept ≠ .perhaps then cancelLong start length least fuel (j + 1) 0 ds
    else if run + 1 = least then cancelLong start length least fuel (j + 1 - (run + 1)) (run + 1) ds
    else if least < run + 1 then
      cancelLong start length least fuel (j + 1) (run + 1) (ds.setIfInBounds (start + j) .kept)
    else cancelLong start length least fuel (j + 1) (run + 1) ds

def settleRun (start : Nat) (ds : Array Discard) : Nat × Array Discard :=
  let tail := (ds.toList.drop start).takeWhile (· ≠ .kept)
  let run := (tail.reverse.dropWhile (· = .perhaps)).reverse
  let ds := (List.range (tail.length - run.length)).foldl
    (fun ds i => ds.setIfInBounds (start + run.length + i) .kept) ds
  let length := run.length
  let unsure := run.count .perhaps
  let clear (ds : Array Discard) : Array Discard := (List.range length).foldl (fun ds i =>
    if ds.getD (start + i) .kept = .perhaps then ds.setIfInBounds (start + i) .kept else ds) ds
  if length < unsure * 4 then (start + 1, clear ds)
  else
    let least := rootScale 64 1 (length / 4) + 1
    let ds := cancelLong start length least (4 * length + 4) 0 0 ds
    let ds := cancelEnd (start + ·) length (length + 1) 0 0 ds
    let ds := cancelEnd (fun j => start + length - 1 - j) length (length + 1) 0 0 ds
    (start + length, ds)

def settle : Nat → (i : Nat) → Array Discard → Array Discard
  | 0, _, ds => ds
  | fuel + 1, i, ds =>
    if ds.size ≤ i then ds
    else
      match ds.getD i .kept with
      | .kept => settle fuel (i + 1) ds
      | .perhaps => settle fuel (i + 1) (ds.setIfInBounds i .kept)
      | .surely =>
        let (next, ds) := settleRun i ds
        settle fuel next ds

def remaining (xs others : Array Nat) : Array Nat :=
  let ds := settle (xs.size + 1) 0 (candidates xs others)
  ((List.range xs.size).filter fun i => ds.getD i .kept = .kept).toArray

/-! Moving runs of changes. -/

structure Run where
  start : Nat
  stop : Nat
  other : Nat
  matching : Nat
  own : Array Bool
  others : Array Bool

def isMarked (m : Array Bool) (i : Nat) : Bool := m.getD i false

def runStart (m : Array Bool) : Nat → Nat → Nat
  | 0, j => j
  | fuel + 1, j => if 0 < j ∧ isMarked m (j - 1) then runStart m fuel (j - 1) else j

def skipBack (m : Array Bool) : Nat → Nat → Nat
  | 0, j => j
  | fuel + 1, j => if isMarked m (j - 1) ∧ 0 < j then skipBack m fuel (j - 1) else j - 1

def skipMarked (m : Array Bool) : Nat → Nat → Nat
  | 0, j => j
  | fuel + 1, j => if isMarked m j then skipMarked m fuel (j + 1) else j

def moveBack (xs : Array Nat) : Nat → Run → Run
  | 0, r => r
  | fuel + 1, r =>
    if 0 < r.start ∧ xs[r.start - 1]? = xs[r.stop - 1]? then
      let own := (r.own.setIfInBounds (r.start - 1) true).setIfInBounds (r.stop - 1) false
      moveBack xs fuel { r with
        own := own, start := runStart own (r.start + 1) (r.start - 1), stop := r.stop - 1
        other := skipBack r.others (r.other + 1) r.other }
    else r

def moveForward (xs : Array Nat) : Nat → Run → Run
  | 0, r => r
  | fuel + 1, r =>
    if r.stop < xs.size ∧ xs[r.start]? = xs[r.stop]? then
      let own := (r.own.setIfInBounds r.start false).setIfInBounds r.stop true
      let stop := skipMarked own (xs.size + 1) (r.stop + 1)
      let other := r.other + 1
      let beyond := skipMarked r.others (r.others.size + 1) other
      moveForward xs fuel { r with
        own := own, start := r.start + 1, stop := stop, other := beyond
        matching := if other < beyond then stop else r.matching }
    else r

def moveRun (xs : Array Nat) : Nat → Run → Run
  | 0, r => r
  | fuel + 1, r =>
    let length := r.stop - r.start
    let r := moveBack xs (xs.size + 1) r
    let r := { r with
      matching := if isMarked r.others (r.other - 1) ∧ 0 < r.other then r.stop else xs.size }
    let r := moveForward xs (xs.size + 1) r
    if r.stop - r.start = length then r else moveRun xs fuel r

def moveToMatch : Nat → Run → Run
  | 0, r => r
  | fuel + 1, r =>
    if r.matching < r.stop then
      let own := (r.own.setIfInBounds (r.start - 1) true).setIfInBounds (r.stop - 1) false
      moveToMatch fuel { r with
        own := own, start := r.start - 1, stop := r.stop - 1
        other := skipBack r.others (r.other + 1) r.other }
    else r

def moveRuns (xs : Array Nat) : Nat → (i j : Nat) → (own others : Array Bool) → Array Bool × Array Bool
  | 0, _, _, own, others => (own, others)
  | fuel + 1, i, j, own, others =>
    if xs.size ≤ i then (own, others)
    else if !isMarked own i then
      moveRuns xs fuel (i + 1) (skipMarked others (others.size + 1) j + 1) own others
    else
      let stop := skipMarked own (xs.size + 1) i
      let other := skipMarked others (others.size + 1) j
      let r := moveRun xs (xs.size + 1) ⟨i, stop, other, xs.size, own, others⟩
      let r := moveToMatch (xs.size + 1) r
      moveRuns xs fuel r.stop r.other r.own r.others

def shifted (xs ys : Array Nat) (m : Marks) : Marks :=
  let (first, second) := moveRuns xs (2 * xs.size + 2) 0 0 m.first m.second
  let (second, first) := moveRuns ys (2 * ys.size + 2) 0 0 second first
  ⟨first, second⟩

def changesOf (m : Marks) : Nat → (i j : Nat) → List Change
  | 0, _, _ => []
  | fuel + 1, i, j =>
    if m.first.size ≤ i ∧ m.second.size ≤ j then []
    else
      let i' := skipMarked m.first (m.first.size + 1) i
      let j' := skipMarked m.second (m.second.size + 1) j
      if i < i' ∨ j < j' then ⟨i, j, i' - i, j' - j⟩ :: changesOf m fuel i' j'
      else changesOf m fuel (i + 1) (j + 1)

def commonFront : List Nat → List Nat → Nat
  | a :: r, b :: s => if a = b then commonFront r s + 1 else 0
  | _, _ => 0

def changes (xs ys : Array Nat) (margin : Nat) : List Change :=
  let front := commonFront xs.toList ys.toList
  let skip := front - margin
  let tailOf (zs : Array Nat) : List Nat := (zs.toList.drop skip).reverse
  let back := commonFront (tailOf xs) (tailOf ys)
  let cut := back - margin
  let inner (zs : Array Nat) : Array Nat := zs.extract skip (zs.size - cut)
  let a := inner xs
  let b := inner ys
  let i := remaining a b
  let j := remaining b a
  let none_ (zs kept : Array Nat) : Array Bool :=
    kept.foldl (fun m k => m.setIfInBounds k false) (Array.replicate zs.size true)
  let start : Marks := ⟨none_ a i, none_ b j⟩
  let same (x y : Nat) : Bool := a[i.getD x 0]? = b[j.getD y 0]?
  let m := compare same (i.getD · 0) (j.getD · 0) (i.size + j.size + 2) 0 i.size 0 j.size start
  let m := shifted a b m
  (changesOf m (a.size + b.size + 2) 0 0).map fun c =>
    { c with first := c.first + skip, second := c.second + skip }

end TreePipeline.Difference
