import Std.Data.HashMap
import TreePipeline.Tools.Records.Value

/-!
Tables of values. The keys of a table stand in rows, and it is gone through row by row; in a row the
key that was used last comes first. A key that is a whole number has its place in two orders: the row
that its digits belong to, and the row that the number itself belongs to. There are always at least
half as many rows as keys.
-/

namespace TreePipeline.Tools.Records

open Shell

inductive Key where
  | whole (n : Int)
  | text (cs : Chars)
  deriving DecidableEq

namespace Key

def toText : Key → Chars
  | whole n => (toString n).toList
  | text cs => cs

def maxNumber : Int := 0x7fffffff

def ofValue (format : Chars) : Value → Key
  | .number x =>
    let n := wholeOf x
    if ofInt n == x ∧ n.natAbs ≤ maxNumber.natAbs then .whole n else .text (textOfNumber format x)
  | v => .text (v.toText format)

def hash (cs : Chars) : Nat :=
  (cs.foldl (fun (h : UInt32) c => (h ^^^ c.toNat.toUInt32) * 16777619) 2166136261).toNat

end Key

instance : Hashable Chars := ⟨fun cs => (Key.hash cs).toUInt64⟩

structure Table where
  cells : Std.HashMap Chars Value := {}
  texts : Option (Array (List Chars)) := none
  wholes : Array (List Int) := Array.replicate 64 []
  listed : Bool := false

instance : Inhabited Table := ⟨{}⟩

namespace Table

def size (t : Table) : Nat := t.cells.size

def rows (t : Table) : Nat := t.wholes.size

def textRow (t : Table) (cs : Chars) : Nat := Key.hash cs % t.rows

def wholeRow (t : Table) (n : Int) : Nat := (n % (t.rows : Int)).toNat

def toFront {α : Type} [DecidableEq α] (rows : Array (List α)) (row : Nat) (key : α) : Array (List α) :=
  rows.modify row fun keys => key :: keys.filter (· ≠ key)

def halve {α : Type} (rows : Array (List α)) (rowOf : α → Nat) : Array (List α) :=
  let old := rows.size
  let stay := rows.mapIdx fun i keys => keys.filter fun k => rowOf k % (2 * old) = i
  let go := rows.mapIdx fun i keys => keys.filter fun k => rowOf k % (2 * old) ≠ i
  stay ++ go

def double (t : Table) : Table :=
  let rows := 2 * t.rows
  { t with
    texts := t.texts.map fun ts => halve ts Key.hash
    wholes := halve t.wholes fun n => (n % (rows : Int)).toNat }

def rowLength : Nat := 12

def grow (t : Table) : Table := if rowLength * t.rows < t.size + 1 then t.double else t

def rowsFor (keys : Nat) : Nat → Nat → Nat
  | 0, rows => rows
  | fuel + 1, rows => if rowLength * rows < keys then rowsFor keys fuel (2 * rows) else rows

def unlisted (t : Table) : Table :=
  if !t.listed then t
  else
    let rows := rowsFor t.size t.size 64
    let wholes := (List.range t.size).foldl (fun (ws : Array (List Int)) i =>
      ws.modify ((i + 1) % rows) fun keys => ((i + 1 : Nat) : Int) :: keys) (Array.replicate rows [])
    { t with listed := false, wholes := wholes }

def withTexts (t : Table) : Table :=
  let t := t.unlisted
  match t.texts with
  | some _ => t
  | none =>
    let place (ts : Array (List Chars)) (n : Int) : Array (List Chars) :=
      let cs := (toString n).toList
      ts.modify (t.textRow cs) fun keys => cs :: keys
    { t with texts := some (t.wholes.foldl (fun ts row => row.foldl place ts) (Array.replicate t.rows [])) }

def useText (t : Table) (cs : Chars) : Table :=
  let t := t.withTexts
  let t := if t.cells.contains cs then t else t.grow
  let row := t.textRow cs
  { t with texts := t.texts.map fun ts => toFront ts row cs }

def useWhole (t : Table) (n : Int) : Table :=
  if t.listed ∧ 1 ≤ n ∧ n ≤ t.size then t
  else
    let t := t.unlisted
    let isNew := !t.cells.contains (toString n).toList
    let known := ((t.wholes[t.wholeRow n]?).getD []).contains n
    let t := if known then t
      else if t.texts.isSome then t.useText (toString n).toList
      else if isNew then t.grow else t
    let row := t.wholeRow n
    { t with wholes := toFront t.wholes row n }

def use (t : Table) : Key → Table
  | .whole n => t.useWhole n
  | .text cs => t.useText cs

def isKey (t : Table) (k : Key) : Bool := t.cells.contains k.toText

def look (t : Table) (k : Key) : Bool × Table :=
  if t.isKey k then (true, t.use k)
  else (false, match k with
    | .whole _ => t
    | .text _ => if t.size = 0 then t else t.withTexts)

def get (t : Table) (k : Key) : Value × Table :=
  match t.cells[k.toText]? with
  | some v => (v, t.use k)
  | none =>
    let t := t.use k
    (.unset, { t with cells := t.cells.insert k.toText .unset })

def set (t : Table) (k : Key) (v : Value) : Table :=
  let t := t.use k
  { t with cells := t.cells.insert k.toText v }

def erase (t : Table) (k : Key) : Table :=
  if !t.isKey k then (t.look k).2
  else
    let cs := k.toText
    let t := match k with
      | .whole n => (t.unlisted).useWhole n
      | .text cs => t.useText cs
    if t.size = 1 then {}
    else
      let drop (t : Table) (n : Int) : Array (List Int) :=
        t.wholes.modify (t.wholeRow n) fun keys => keys.filter (· ≠ n)
      { t with
        cells := t.cells.erase cs
        texts := t.texts.map fun ts => ts.modify (t.textRow cs) fun keys => keys.filter (· ≠ cs)
        wholes := match (String.ofList cs).toInt? with
          | some n => if (toString n).toList = cs then drop t n else t.wholes
          | none => t.wholes }

def ofList (pieces : List Value) : Table :=
  let cells := pieces.zipIdx.foldl (fun (cells : Std.HashMap Chars Value) (v, i) =>
    cells.insert (toString (i + 1)).toList v) {}
  { cells := cells, listed := !pieces.isEmpty }

def keys (t : Table) : List Chars × Table :=
  if t.size = 0 then ([], t)
  else
    let t := t.withTexts
    (((t.texts.getD #[]).toList).flatten, t)

end Table

end TreePipeline.Tools.Records
