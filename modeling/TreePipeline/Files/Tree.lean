import TreePipeline.Files.Path

/-!
A tree of files. A location is the list of names that leads to an entry from the root; the tree
maps locations to what stands there. `get?_put` and `get?_erase` say what a change does.
-/

namespace TreePipeline

abbrev Location := List Octets

inductive Device where
  | null
  | zero
  | full
  | random
  | terminal
  | pipe (number : Nat)
  deriving DecidableEq

inductive Node where
  | directory
  | file (content : Octets) (mode : Nat) (modified : Int)
  | link (target : Octets)
  | device (kind : Device)
  deriving DecidableEq

namespace Node

def isFile : Node → Bool
  | .file .. => true
  | _ => false

def isDirectory : Node → Bool
  | .directory => true
  | _ => false

end Node

structure Traits where
  mode : Nat
  modified : Option Int

/-- The tree, the clock whose time is put on changed files, in nanoseconds since the beginning of
1970, and the directory from which relative paths start. -/
structure FileSystem where
  nodes : List (Location × Node)
  clock : Int
  directory : Location
  mask : Nat := 0o022
  numbers : List (Location × Nat) := []
  lastNumber : Nat := 0
  traits : List (Location × Traits) := []
  unlisted : List (Location × Node) := []

namespace FileSystem

def putBeside {α : Type} (table : List (Location × α)) (l : Location) (a : α) :
    List (Location × α) :=
  (l, a) :: table.filter fun e => e.1 ≠ l

def movedFrom (a b l : Location) : Location := if a.isPrefixOf l then b ++ l.drop a.length else l

def lookupIn : List (Location × Node) → Location → Option Node
  | [], _ => none
  | (k, n) :: r, l => if k = l then some n else lookupIn r l

/-- What stands at a location; the root is always a directory. -/
def get? (fs : FileSystem) (l : Location) : Option Node :=
  if l = [] then some .directory else (lookupIn fs.nodes l).or (lookupIn fs.unlisted l)

def putIn (l : Location) (n : Node) : List (Location × Node) → List (Location × Node)
  | [] => [(l, n)]
  | (k, m) :: r => if k = l then (l, n) :: r else (k, m) :: putIn l n r

def put (fs : FileSystem) (l : Location) (n : Node) : FileSystem :=
  { fs with nodes := putIn l n fs.nodes }

def erase (fs : FileSystem) (l : Location) : FileSystem :=
  { fs with
    nodes := fs.nodes.filter fun e => e.1 ≠ l
    unlisted := fs.unlisted.filter fun e => e.1 ≠ l
    numbers := fs.numbers.filter fun e => e.1 ≠ l
    traits := fs.traits.filter fun e => e.1 ≠ l }

def eraseBelow (fs : FileSystem) (l : Location) : FileSystem :=
  { fs with
    nodes := fs.nodes.filter fun e => !l.isPrefixOf e.1
    numbers := fs.numbers.filter fun e => !l.isPrefixOf e.1
    traits := fs.traits.filter fun e => !l.isPrefixOf e.1 }

def relocate (fs : FileSystem) (a b : Location) : FileSystem :=
  { fs with
    nodes := fs.nodes.map fun e => (movedFrom a b e.1, e.2)
    numbers := fs.numbers.map fun e => (movedFrom a b e.1, e.2)
    traits := fs.traits.map fun e => (movedFrom a b e.1, e.2) }

/-- The names of the file at a location. -/
def namesOf (fs : FileSystem) (l : Location) : List Location :=
  match fs.numbers.lookup l with
  | none => [l]
  | some n => l :: (fs.numbers.filter fun e => e.2 = n ∧ e.1 ≠ l).map Prod.fst

def putAll (fs : FileSystem) (l : Location) (n : Node) : FileSystem :=
  (fs.namesOf l).foldl (fun fs l => fs.put l n) fs

def numbered (fs : FileSystem) (l : Location) : FileSystem × Nat :=
  match fs.numbers.lookup l with
  | some n => (fs, n)
  | none =>
    let n := fs.lastNumber + 1
    ({ fs with numbers := (l, n) :: fs.numbers, lastNumber := n }, n)

def locationOf? (fs : FileSystem) (number : Nat) : Option Location :=
  (fs.numbers.find? fun e => e.2 = number).map Prod.fst

def modeAt (fs : FileSystem) (l : Location) : Nat :=
  let kept := (fs.traits.lookup l).map Traits.mode
  match fs.get? l with
  | some (.file _ mode _) => mode
  | some (.link _) => 0o777
  | some (.device (.pipe _)) => kept.getD 0o644
  | some (.device _) => kept.getD 0o666
  | _ => kept.getD 0o755

def stampUnit : Int := 4000000

def stamp (fs : FileSystem) : Int := fs.clock.fdiv stampUnit * stampUnit

def modifiedAt (fs : FileSystem) (l : Location) : Int :=
  match fs.get? l with
  | some (.file _ _ time) => time
  | _ => ((fs.traits.lookup l).bind Traits.modified).getD fs.stamp

def childName? (l k : Location) : Option Octets :=
  if l.length + 1 = k.length ∧ l.isPrefixOf k then k.getLast? else none

def childNames (fs : FileSystem) (l : Location) : List Octets :=
  fs.nodes.filterMap fun e => childName? l e.1

def below (fs : FileSystem) (l : Location) : List (Octets × Node) :=
  fs.nodes.filterMap fun e =>
    if l.isPrefixOf e.1 ∧ e.1 ≠ l then some ([Path.slash].intercalate (e.1.drop l.length), e.2)
    else none

def tick (fs : FileSystem) (nanos : Nat) : FileSystem := { fs with clock := fs.clock + nanos }

theorem lookupIn_putIn_self (ns : List (Location × Node)) (l : Location) (n : Node) :
    lookupIn (putIn l n ns) l = some n := by
  induction ns with
  | nil => simp [putIn, lookupIn]
  | cons e r ih =>
    by_cases h : e.1 = l
    · simp [putIn, lookupIn, h]
    · simp [putIn, lookupIn, h, ih]

theorem lookupIn_putIn_ne (ns : List (Location × Node)) {l k : Location} (n : Node) (h : k ≠ l) :
    lookupIn (putIn l n ns) k = lookupIn ns k := by
  induction ns with
  | nil => simp [putIn, lookupIn, Ne.symm h]
  | cons e r ih =>
    by_cases he : e.1 = l
    · simp [putIn, lookupIn, he, Ne.symm h]
    · by_cases hk : e.1 = k
      · simp [putIn, lookupIn, hk, h]
      · simp [putIn, lookupIn, he, hk, ih]

theorem get?_put (fs : FileSystem) {l : Location} (k : Location) (n : Node) (hl : l ≠ []) :
    (fs.put l n).get? k = if k = l then some n else fs.get? k := by
  by_cases h : k = l
  · subst h
    simp [get?, put, hl, lookupIn_putIn_self]
  · simp [get?, put, h, lookupIn_putIn_ne fs.nodes n h]

theorem lookupIn_filter_ne (ns : List (Location × Node)) (l k : Location) :
    lookupIn (ns.filter fun e => e.1 ≠ l) k = if k = l then none else lookupIn ns k := by
  induction ns with
  | nil => simp [lookupIn]
  | cons e r ih =>
    by_cases he : e.1 = l
    · by_cases hk : k = l
      · simpa [List.filter_cons, he, hk] using ih
      · have hn : ¬ l = k := fun h => hk h.symm
        simpa [List.filter_cons, lookupIn, he, hk, hn] using ih
    · by_cases hk : e.1 = k
      · subst hk
        simp [lookupIn, he]
      · simpa [List.filter_cons, lookupIn, he, hk] using ih

theorem get?_erase (fs : FileSystem) {l : Location} (k : Location) (hl : l ≠ []) :
    (fs.erase l).get? k = if k = l then none else fs.get? k := by
  by_cases h : k = []
  · subst h
    simp [get?, Ne.symm hl]
  · simp only [get?, h, if_false, erase, lookupIn_filter_ne]
    by_cases hk : k = l <;> simp [hk]

end FileSystem

end TreePipeline
