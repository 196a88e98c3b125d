import TreePipeline.Tools.Inspection
import TreePipeline.Tools.Sorting.Order
import TreePipeline.Shell.Pattern

/-! Small programs that list what is in directories, and how much space it takes. -/

namespace TreePipeline.Tools

open Shell Host

def roundedSize (base n : Nat) : Chars :=
  let rec climb (unit : Nat) : List Char → Chars
    | [] => (toString n).toList
    | letter :: more =>
      let tenths := (10 * n + unit - 1) / unit
      if tenths < 100 then
        (toString (tenths / 10)).toList ++ '.' :: (toString (tenths % 10)).toList ++ [letter]
      else
        let whole := (n + unit - 1) / unit
        if whole < base ∨ more.isEmpty then (toString whole).toList ++ [letter] else climb (unit * base) more
  if n < base then (toString n).toList
  else climb base (if base = 1000 then "kMGTPE" else "KMGTPE").toList

inductive ListOrder where
  | name
  | time
  | size
  | ending
  | version
  | none
  deriving DecidableEq

inductive ListShape where
  | lines
  | long
  | commas
  | columns (down : Bool)
  deriving DecidableEq

inductive NameStyle where
  | plain
  | doubted
  | quoted
  | escaped
  deriving DecidableEq

structure Listing where
  hidden : Bool := false
  dots : Bool := false
  ignored : List Chars := []
  order : ListOrder := .name
  reversed : Bool := false
  groupDirectories : Bool := false
  shape : ListShape := .lines
  names : NameStyle := .plain
  marks : Chars := []
  follow : Bool := false
  followNamed : Bool := false
  recursive : Bool := false
  selves : Bool := false
  numbers : Bool := false
  spaces : Bool := false
  owner : Bool := true
  group : Bool := true
  numeric : Bool := false
  human : Option Nat := none
  unit : Nat := 1024
  sizeUnit : Nat := 1
  times : Option Chars := none
  width : Nat := 80
  tab : Nat := 8
  ending : Char := '\n'
  zone : Zone := .universal
  now : Int := 0

namespace Listing

def shownName (l : Listing) (cs : Chars) : Chars :=
  match l.names with
  | .plain => cs
  | .doubted => cs.map fun c => if Quoting.isPrintable c then c else '?'
  | .quoted =>
    '"' :: cs.flatMap (fun c =>
      if c = '"' ∨ c = '\\' then ['\\', c] else if Quoting.isPrintable c then [c] else Quoting.escape c) ++ ['"']
  | .escaped =>
    cs.flatMap fun c =>
      if c = ' ' ∨ c = '\\' then ['\\', c] else if Quoting.isPrintable c then [c] else Quoting.escape c

def mark (l : Listing) (f : Facts) : Chars :=
  let m : Char := match f.node with
    | .directory => '/'
    | .link _ => '@'
    | .file .. => if f.mode &&& 0o111 ≠ 0 then '*' else ' '
    | .device (.pipe _) => '|'
    | .device _ => ' '
  if l.marks.contains m then [m] else []

def endingOf (cs : Chars) : Chars :=
  if cs.contains '.' then '.' :: (cs.reverse.takeWhile (· ≠ '.')).reverse else []

def before (l : Listing) (fs : FileSystem) (a b : Facts) : Bool :=
  let byName := Sorting.compareText a.path b.path
  let first : Ordering := match l.order with
    | .name => byName
    | .time => (Sorting.compareInt b.modified a.modified).then byName
    | .size => (Sorting.compareInt b.size a.size).then byName
    | .ending => (Sorting.compareText (endingOf a.path) (endingOf b.path)).then byName
    | .version => (Sorting.compareVersions a.path b.path).then byName
    | .none => .eq
  let first := if l.reversed then first.swap else first
  let isTree (f : Facts) : Bool := match f.node with
    | .link goal => fs.isDirectory (Path.join (FileSystem.pathOf f.location.dropLast) goal)
    | n => n.isDirectory
  if l.groupDirectories ∧ isTree a ≠ isTree b then isTree a
  else first ≠ .gt

def sorted (l : Listing) (fs : FileSystem) (es : List Facts) : List Facts :=
  if l.order = .none ∧ !l.groupDirectories then (if l.reversed then es.reverse else es)
  else es.mergeSort (l.before fs)

def spaceText (l : Listing) (octets : Nat) : Chars :=
  match l.human with
  | some base => roundedSize base octets
  | none => (toString ((octets + l.unit - 1) / l.unit)).toList

def sizeText (l : Listing) (f : Facts) : Chars :=
  match f.node with
  | .device (.pipe _) => ['0']
  | .device _ =>
    let (major, minor) := f.deviceNumbers
    (toString major).toList ++ ", ".toList ++ (toString minor).toList
  | _ => match l.human with
    | some base => roundedSize base f.size
    | none => (toString ((f.size + l.sizeUnit - 1) / l.sizeUnit)).toList

def timeText (l : Listing) (f : Facts) : Chars :=
  let (secs, nanos) := instantOf f.modified
  let c := Civil.ofInstant secs nanos l.zone
  let halfYear := 31556952 / 2
  let recent := l.now - halfYear < secs && secs ≤ l.now
  let pattern := l.times.getD "%b %e  %Y\n%b %e %H:%M".toList
  let old := pattern.takeWhile (· ≠ '\n')
  let new := pattern.drop (old.length + 1)
  let pattern := if recent ∧ !new.isEmpty then new else old
  c.format (pattern.length + 1) pattern

def widest (cs : List Chars) : Nat := (cs.map List.length).foldl max 0

def front (l : Listing) (fs : FileSystem) (es : List Facts) (f : Facts) : Chars :=
  (if l.numbers then padLeft (widest (es.map fun e => (toString (e.number fs)).toList))
      (toString (f.number fs)).toList ++ [' '] else []) ++
    (if l.spaces then padLeft (if l.shape = .commas then 0 else widest (es.map fun e => l.spaceText e.space))
      (l.spaceText f.space) ++ [' '] else [])

def longLine (l : Listing) (fs : FileSystem) (es : List Facts) (f : Facts) : Chars :=
  let user := if l.numeric then ['0'] else "root".toList
  let goal := match f.goal? with
    | some g =>
      let led := Facts.ofPath fs false (ofOctets (Path.join (FileSystem.pathOf f.location.dropLast) (toOctets g)))
      " -> ".toList ++ l.shownName g ++ (match led with
        | .ok e => if l.marks.contains '@' then l.mark e else []
        | .error _ => [])
    | none => l.mark f
  let names (e : Facts) : Chars := (toString e.names).toList
  front l fs es f ++ f.modeText ++ ' ' :: padLeft (widest (es.map names)) (names f) ++ [' '] ++
    (if l.owner then user ++ [' '] else []) ++ (if l.group then user ++ [' '] else []) ++
    padLeft (widest (es.map l.sizeText)) (l.sizeText f) ++ ' ' ::
    padLeft (widest (es.map l.timeText)) (l.timeText f) ++ ' ' :: l.shownName f.path ++ goal

def shortText (l : Listing) (fs : FileSystem) (es : List Facts) (f : Facts) : Chars :=
  front l fs es f ++ l.shownName f.path ++ l.mark f

def indent (tab : Nat) : (fuel first last : Nat) → Chars
  | 0, _, _ => []
  | fuel + 1, a, b =>
    if b ≤ a then []
    else if 0 < tab ∧ (a + 1) / tab < b / tab then '\t' :: indent tab fuel (a + tab - a % tab) b
    else ' ' :: indent tab fuel (a + 1) b

def columnWidths (down : Bool) (lengths : List Nat) (columns : Nat) : List Nat :=
  let rows := (lengths.length + columns - 1) / columns
  let place (i : Nat) : Nat := if down then i / rows else i % columns
  let width (c : Nat) : Nat :=
    ((lengths.zipIdx).foldl (fun w (n, i) =>
      if place i = c then max w (n + if c + 1 = columns then 0 else 2) else w) 3)
  (List.range columns).map width

def fittingWidths (down : Bool) (lengths : List Nat) (line : Nat) : List Nat :=
  let most := min lengths.length (max 1 (line / 3))
  let good := (List.range most).reverse.find? fun n =>
    (columnWidths down lengths (n + 1)).foldl Nat.add 0 < line
  match good with
  | some n => columnWidths down lengths (n + 1)
  | none => [0]

def shownWidth (cs : Chars) : Nat := (cs.filter Quoting.isPrintable).length

def columnsText (l : Listing) (down : Bool) (texts : List Chars) : Chars :=
  let widths := fittingWidths down (texts.map shownWidth) l.width
  let columns := max 1 widths.length
  let rows := (texts.length + columns - 1) / columns
  let cell (row column : Nat) : Option Chars :=
    texts[if down then column * rows + row else row * columns + column]?
  (List.range rows).flatMap fun row =>
    let cells := (List.range columns).filterMap (cell row)
    let rec lay (place position : Nat) : List Nat → List Chars → Chars
      | w :: ws, c :: cs =>
        let gap := indent l.tab (place - position + 1) position place
        gap ++ c ++ lay (place + w) (place + shownWidth c) ws cs
      | _, _ => []
    lay 0 0 widths cells ++ ['\n']

def commasText (width : Nat) : (position : Nat) → List Chars → Chars
  | _, [] => []
  | position, t :: r =>
    if position = 0 then t ++ commasText width t.length r
    else if width ≤ position + 2 + t.length then ",\n".toList ++ t ++ commasText width t.length r
    else ", ".toList ++ t ++ commasText width (position + 2 + t.length) r

def text (l : Listing) (fs : FileSystem) (es : List Facts) : Chars :=
  match l.shape with
  | .lines => es.flatMap fun f => shortText l fs es f ++ [l.ending]
  | .long => es.flatMap fun f => longLine l fs es f ++ [l.ending]
  | .commas =>
    if es.isEmpty then [] else commasText l.width 0 (es.map (shortText l fs es)) ++ ['\n']
  | .columns down => columnsText l down (es.map (shortText l fs es))

def entries (l : Listing) (fs : FileSystem) (dir : Location) : List Facts :=
  let facts (name : Octets) (place : Location) : Facts :=
    let place := if l.follow then (fs.locate false (FileSystem.pathOf place)).toOption.getD place else place
    Facts.ofLocation fs (ofOctets name) place
  let dots := if l.dots then [facts Path.dot dir, facts Path.dotDot dir.dropLast] else []
  let shown := (fs.childNames dir).filter fun n =>
    (l.dots || l.hidden || n.head? ≠ some 0x2e) &&
      !l.ignored.any fun p => Pattern.admits p (ofOctets n)
  sorted l fs (dots ++ shown.map fun n => facts n (dir ++ [n]))

def directory (l : Listing) (tool : String) : Nat → (headed first : Bool) → (path : Chars) →
    (place : Location) → Act Unit
  | 0, _, _, _, _ => return ()
  | fuel + 1, headed, first, path, place => do
    let fs ← Act.tree
    let es := l.entries fs place
    let total := if l.shape = .long ∨ l.spaces then
        "total ".toList ++ l.spaceText ((es.map Facts.space).foldl Nat.add 0) ++ [l.ending]
      else []
    say tool ((if headed then (if first then [] else ['\n']) ++ l.shownName path ++ [':', l.ending] else []) ++
      total ++ l.text fs es)
    if l.recursive then
      let trees := es.filter fun e => e.node.isDirectory ∧ e.path ≠ ['.'] ∧ e.path ≠ ['.', '.']
      trees.foldl (fun before e => do
        before
        directory l tool fuel true false (ofOctets (Path.join (toOctets path) (toOctets e.path))) e.location)
        (return ())

def directories (l : Listing) (tool : String) (headed : Bool) :
    (first : Bool) → List (Chars × Location) → Act Unit
  | _, [] => return ()
  | first, (p, place) :: r => do
    l.directory tool maxDepth headed first p place
    directories l tool headed false r

def found (l : Listing) (tool : String) : List Chars → Act (List Facts)
  | [] => return []
  | p :: r => do
    let fs ← Act.tree
    -- A link to a directory stands for the directory, unless its own traits are shown.
    let through := l.follow || l.followNamed ||
      (l.shape ≠ .long && !l.selves && !l.marks.contains '@' && fs.isDirectory (toOctets p))
    let here ← match Facts.ofPath fs (!through) p with
      | .ok f => pure [f]
      | .error e => do
        complainOf tool "cannot access " p e
        pure []
    let rest ← found l tool r
    return here ++ rest

def styleOf? (cs : Chars) : Option Chars :=
  match cs with
  | '+' :: pattern => some pattern
  | cs => match String.ofList cs with
    | "full-iso" => some "%Y-%m-%d %H:%M:%S.%N %z".toList
    | "long-iso" => some "%Y-%m-%d %H:%M".toList
    | "iso" => some "%Y-%m-%d \n%m-%d %H:%M".toList
    | "locale" => some "%b %e  %Y\n%b %e %H:%M".toList
    | _ => none

def table : String :=
  "a,all A,almost-all author b,escape B,ignore-backups block-size= c C color=? d,directory D,dired f F,classify=? " ++
    "file-type format= full-time g group-directories-first G,no-group h,human-readable si H,dereference-command-line " ++
    "dereference-command-line-symlink-to-dir hide= hyperlink=? indicator-style= i,inode I,ignore= k,kibibytes l " ++
    "L,dereference m n,numeric-uid-gid N,literal o p q,hide-control-chars show-control-chars Q,quote-name " ++
    "quoting-style= r,reverse R,recursive s,size S sort= time= time-style= t T,tabsize= u U v w,width= x X " ++
    "Z,context 1 zero"

def ofOptions (os : Options) (zone : Zone) (now : Int) : Listing :=
  let word (key : String) : String := ((os.value? key).map String.ofList).getD ""
  let order : ListOrder := match os.last? ["t", "S", "X", "U", "v", "f", "sort"] with
    | some "t" => .time
    | some "S" => .size
    | some "X" => .ending
    | some "v" => .version
    | some "U" => .none
    | some "f" => .none
    | some _ => match word "sort" with
      | "time" => .time
      | "size" => .size
      | "extension" => .ending
      | "version" => .version
      | "none" => .none
      | _ => .name
    | none => .name
  let shape : ListShape := match os.last? ["l", "g", "o", "n", "full-time", "C", "x", "m", "1", "format", "zero"] with
    | some "C" => .columns true
    | some "x" => .columns false
    | some "m" => .commas
    | some "1" => if ["l", "g", "o", "n", "full-time"].any os.has then .long else .lines
    | some "zero" => if ["l", "g", "o", "n", "full-time"].any os.has then .long else .lines
    | some "format" => match word "format" with
      | "long" => .long
      | "verbose" => .long
      | "commas" => .commas
      | "vertical" => .columns true
      | "across" => .columns false
      | "horizontal" => .columns false
      | _ => .lines
    | some _ => .long
    | none => .lines
  let marks : Chars := match os.last? ["F", "p", "file-type", "indicator-style"] with
    | some "F" => "/@|=*".toList
    | some "p" => ['/']
    | some "file-type" => "/@|=".toList
    | some _ => match word "indicator-style" with
      | "slash" => ['/']
      | "file-type" => "/@|=".toList
      | "classify" => "/@|=*".toList
      | _ => []
    | none => []
  let names : NameStyle := match os.last? ["b", "Q", "N", "q", "quoting-style", "show-control-chars"] with
    | some "b" => .escaped
    | some "Q" => .quoted
    | some "q" => .doubted
    | some "quoting-style" => match word "quoting-style" with
      | "c" => .quoted
      | "escape" => .escaped
      | _ => .plain
    | _ => .plain
  let unit? : Option Nat := (os.value? "block-size").bind fun v => (Extent.read v).toOption
  { hidden := os.has "A", dots := os.has "a" || os.has "f"
    ignored := os.values "I" ++ (if os.has "a" || os.has "A" then [] else os.values "hide") ++
      (if os.has "B" then ["*~".toList] else [])
    order := order, reversed := os.has "r", groupDirectories := os.has "group-directories-first"
    shape := shape, names := names, marks := marks
    follow := os.has "L", followNamed := os.has "H", recursive := os.has "R" && !os.has "d", selves := os.has "d"
    numbers := os.has "i", spaces := os.has "s", owner := !os.has "g", group := !(os.has "G" || os.has "o")
    numeric := os.has "n"
    human := if os.has "h" then some 1024 else if os.has "si" then some 1000 else none
    unit := unit?.getD 1024, sizeUnit := unit?.getD 1
    times := if os.has "full-time" then styleOf? "full-iso".toList else (os.value? "time-style").bind styleOf?
    width := match (os.value? "w").bind number? with
      | some 0 => 0x10000
      | some n => n
      | none => 80
    tab := ((os.value? "T").bind number?).getD 8
    ending := if os.has "zero" then '\x00' else '\n', zone := zone, now := now }

end Listing

open Listing in
def ls : Tool := fun tool args env => withTableElse 2 true tool table args fun os paths => do
  let sorts := ["none", "time", "size", "extension", "version", "width", "name"]
  match (os.value? "sort").filter fun v => (Dates.chooseWord? sorts v).isNone with
  | some v => Dates.refuseWord tool "--sort" (sorts.dropLast.map ([·])) v
  | none =>
  let colors := [["always", "yes", "force"], ["never", "no", "none"], ["auto", "tty", "if-tty"]]
  match (os.value? "color").filter fun v => (Dates.chooseWord? colors.flatten v).isNone with
  | some v => Dates.refuseWord tool "--color" colors v
  | none =>
  let (now, _) := instantOf (← presentNanos)
  let l := Listing.ofOptions os (zoneOf env) now
  let paths := if paths.isEmpty then [['.']] else paths
  let facts ← l.found tool paths
  let fs ← Act.tree
  let (trees, plain) := (sorted l fs facts).partition fun f => f.node.isDirectory ∧ !l.selves
  if !plain.isEmpty then say tool (l.text fs plain)
  l.directories tool (1 < paths.length || l.recursive) plain.isEmpty
    (trees.map fun f => (f.path, f.location))
  return if facts.length = paths.length then 0 else 2

/-! Space. -/

structure SpaceCount where
  all : Bool
  apparent : Bool
  separate : Bool
  follow : Bool
  depth : Option Nat
  show_ : Nat → Chars
  ending : Char

namespace SpaceCount

def count (s : SpaceCount) (fs : FileSystem) : Nat → (level : Nat) → (path : Chars) → Location →
    (seen : List Location) → Nat × Chars × List Location
  | 0, _, _, _, seen => (0, [], seen)
  | fuel + 1, level, path, place, seen =>
    let place := if s.follow then (fs.locate false (FileSystem.pathOf place)).toOption.getD place else place
    let f := Facts.ofLocation fs path place
    let own := if s.apparent then f.size else f.space
    let known := seen.any fun k => fs.isSame k place
    let line (n : Nat) : Chars := s.show_ n ++ '\t' :: path ++ [s.ending]
    let within := s.depth.all fun d => level ≤ d
    if known then (0, [], seen)
    else
      match f.node with
      | .directory =>
        let (below, nested, text, seen) := (fs.childNames place).foldl (fun (sum, nested, text, seen) n =>
          let isTree := (Facts.ofLocation fs [] (place ++ [n])).node.isDirectory
          let (m, t, seen) := count s fs fuel (level + 1) (ofOctets (Path.join (toOctets path) n)) (place ++ [n]) seen
          (sum + m, nested + (if isTree then m else 0), text ++ t, seen)) (0, 0, [], place :: seen)
        let total := own + below
        let shown := if s.separate then total - nested else total
        (total, text ++ (if within then line shown else []), seen)
      | _ => (own, if within ∧ (s.all ∨ level = 0) then line own else [], place :: seen)

def each (s : SpaceCount) (tool : String) : List Chars → (total status : Nat) → List Location →
    Act (Nat × Nat)
  | [], total, status, _ => return (total, status)
  | p :: r, total, status, seen => do
    let fs ← Act.tree
    match fs.locate (!s.follow) (toOctets p) with
    | .error e =>
      complainOf tool "cannot access " p e
      each s tool r total 1 seen
    | .ok l =>
      let (n, text, seen) := s.count fs maxDepth 0 p l seen
      say tool text
      each s tool r (total + n) status seen

end SpaceCount

def du : Tool := fun tool args _ => do
  let table := "a,all apparent-size b,bytes B,block-size= c,total D,H,dereference-args d,max-depth= h,human-readable " ++
    "k m L,dereference l,count-links P,no-dereference S,separate-dirs s,summarize si t,threshold= time=? " ++
    "x,one-file-system X,exclude-from= exclude= 0,null"
  withTable tool table args fun os paths => do
    let unit : Nat := match os.last? ["b", "B", "k", "m"] with
      | some "b" => 1
      | some "m" => 1048576
      | some "B" => ((Extent.read ((os.value? "B").getD [])).toOption).getD 1024
      | _ => 1024
    let depth? := os.value? "d"
    match depth?.filter fun v => (number? v).isNone with
    | some v => misuse tool ("invalid maximum depth ".toList ++ inQuotes v)
    | none =>
    if os.has "a" ∧ os.has "s" then
      return ← misuse tool "cannot both summarize and show all entries".toList
    let human : Option Nat := match os.last? ["h", "si", "b", "B", "k", "m"] with
      | some "h" => some 1024
      | some "si" => some 1000
      | _ => none
    let show_ (n : Nat) : Chars := match human with
      | some base => roundedSize base n
      | none => (toString ((n + unit - 1) / unit)).toList
    let s : SpaceCount := {
      all := os.has "a", apparent := os.has "b" || os.has "apparent-size", separate := os.has "S"
      follow := os.has "L", depth := if os.has "s" then some 0 else depth?.bind number?
      show_ := show_, ending := if os.has "0" then '\x00' else '\n' }
    let (total, status) ← s.each tool (if paths.isEmpty then [['.']] else paths) 0 0 []
    if os.has "c" then say tool (show_ total ++ "\ttotal".toList ++ [s.ending])
    return status

end TreePipeline.Tools
