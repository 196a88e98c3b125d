import TreePipeline.Files.Relation
import TreePipeline.Tools.Dates
import TreePipeline.Tools.Entries
import TreePipeline.Tools.Format

/-! What there is to know about single entries of the tree, and the small program that tells it. -/

namespace TreePipeline.Tools

open Shell Host

structure Facts where
  path : Chars
  location : Location
  node : Node
  mode : Nat
  names : Nat
  size : Nat
  modified : Int

namespace Facts

def unitSize : Nat := 4096

def ofLocation (fs : FileSystem) (path : Chars) (l : Location) : Facts :=
  let node := (fs.get? l).getD .directory
  let size := match node with
    | .file content _ _ => content.length
    | .link goal => goal.length
    | .directory => unitSize
    | .device _ => 0
  ⟨path, l, node, fs.modeAt l, fs.nameCount l, size, fs.modifiedAt l⟩

def ofPath (fs : FileSystem) (keepLink : Bool) (path : Chars) : Except SystemError Facts := do
  let l ← fs.locate keepLink (toOctets path)
  match fs.get? l with
  | some _ => return ofLocation fs path l
  | none => throw (.os .noEntry)

def space (f : Facts) : Nat :=
  match f.node with
  | .file content _ _ => (content.length + unitSize - 1) / unitSize * unitSize
  | .directory => unitSize
  | _ => 0

def kindLetter (f : Facts) : Char :=
  match f.node with
  | .directory => 'd'
  | .link _ => 'l'
  | .file .. => '-'
  | .device (.pipe _) => 'p'
  | .device _ => 'c'

def kindBits (f : Facts) : Nat :=
  match f.node with
  | .directory => 0o040000
  | .link _ => 0o120000
  | .file .. => 0o100000
  | .device (.pipe _) => 0o010000
  | .device _ => 0o020000

def modeText (f : Facts) : Chars := f.kindLetter :: Mode.text f.mode

def deviceNumbers (f : Facts) : Nat × Nat :=
  match f.node with
  | .device .null => (1, 3)
  | .device .zero => (1, 5)
  | .device .full => (1, 7)
  | .device .random => (1, 9)
  | .device .terminal => (5, 0)
  | _ => (0, 0)

def number (fs : FileSystem) (f : Facts) : Nat :=
  match fs.numbers.lookup f.location with
  | some n => 2000000 + n
  | none => 1000000 + (f.location.flatten.foldl (fun v b => (31 * v + b.toNat) % 900000) 7)

def goal? (f : Facts) : Option Chars :=
  match f.node with
  | .link goal => some (ofOctets goal)
  | _ => none

def momentText (f : Facts) (zone : Zone) : Chars :=
  let (secs, nanos) := instantOf f.modified
  (Civil.ofInstant secs nanos zone).written "%Y-%m-%d %H:%M:%S.%N %z"

def secondsText (f : Facts) (places : Option Nat) : Chars :=
  let (secs, nanos) := instantOf f.modified
  (toString secs).toList ++ (match places with
    | none => []
    | some 0 => []
    | some n => '.' :: (Timestamp.padded 9 nanos).take n ++ List.replicate (n - 9) '0')

end Facts

namespace Inspection

def directive (fs : FileSystem) (zone : Zone) (f : Facts) (v : Format.Conversion) (k : Char) : Chars :=
  let text (cs : Chars) : Chars := Format.pad v (match v.precision with
    | some p => cs.take p
    | none => cs)
  let number (n : Nat) : Chars := Format.padNumber v [] (Nat.toDigits 10 n)
  let hex (n : Nat) : Chars := Format.padNumber v (if v.alternate then ['0', 'x'] else []) (Nat.toDigits 16 n)
  match k with
  | 'n' => text f.path
  | 'N' => text (inQuotes f.path ++ (match f.goal? with
      | some g => " -> ".toList ++ inQuotes g
      | none => []))
  | 'd' => number 65024
  | 'D' => hex 65024
  | 'i' => number (f.number fs)
  | 'a' => Format.padNumber v (if v.alternate then ['0'] else []) (Nat.toDigits 8 f.mode)
  | 'A' => text f.modeText
  | 'f' => hex (f.kindBits + f.mode)
  | 'F' => text (kindName f.node)
  | 'h' => number f.names
  | 'u' => number 0
  | 'U' => text "root".toList
  | 'g' => number 0
  | 'G' => text "root".toList
  | 'r' => number (256 * f.deviceNumbers.1 + f.deviceNumbers.2)
  | 'R' => hex (256 * f.deviceNumbers.1 + f.deviceNumbers.2)
  | 't' => hex f.deviceNumbers.1
  | 'T' => hex f.deviceNumbers.2
  | 's' => number f.size
  | 'B' => number 512
  | 'b' => number (f.space / 512)
  | 'o' => number Facts.unitSize
  | 'm' => text ['/']
  | 'x' | 'y' | 'z' | 'w' => text (f.momentText zone)
  | 'X' | 'Y' | 'Z' | 'W' => Format.pad { v with precision := none } (f.secondsText v.precision)
  | 'C' => text ['?']
  | _ => ['?']

def render (fs : FileSystem) (zone : Zone) (escapes : Bool) (f : Facts) :
    Nat → Chars → Chars × List (Nat × Chars)
  | 0, _ => ([], [])
  | _ + 1, [] => ([], [])
  | fuel + 1, '%' :: r =>
    let (v, r') := Format.readFlags r {}
    let (w, r') := Format.readNat r'
    let (precision, r') : Option Nat × Chars := match r' with
      | '.' :: r' =>
        let ds := r'.takeWhile Char.isDigit
        (some (if ds.isEmpty then 9 else (number? ds).getD 0), r'.drop ds.length)
      | r' => (none, r')
    let v := { v with width := w, precision := precision }
    let before (cs : Chars) (more : Chars × List (Nat × Chars)) : Chars × List (Nat × Chars) :=
      (cs ++ more.1, more.2.map fun (n, c) => (n + cs.length, c))
    match r' with
    | [] => (if r.isEmpty then ['%'] else [], [])
    | '%' :: r' => before ['%'] (render fs zone escapes f fuel r')
    | k :: r' =>
      let (v, k, r') := match k, r' with
        | 'H', m :: r'' => if m = 'd' ∨ m = 'r' then (v, 'H', r'') else (v, k, r')
        | 'L', m :: r'' => if m = 'd' ∨ m = 'r' then (v, 'L', r'') else (v, k, r')
        | _, _ => (v, k, r')
      before (directive fs zone f v k) (render fs zone escapes f fuel r')
  | fuel + 1, '\\' :: r =>
    let before (cs : Chars) (more : Chars × List (Nat × Chars)) : Chars × List (Nat × Chars) :=
      (cs ++ more.1, more.2.map fun (n, c) => (n + cs.length, c))
    if !escapes then before ['\\'] (render fs zone escapes f fuel r)
    else
      match r with
      | [] => (['\\'], [(0, "warning: backslash at end of format".toList)])
      | c :: r' =>
        if '0' ≤ c ∧ c ≤ '7' then
          let (n, r') := Format.octal 3 (c :: r')
          before [Format.octet n] (render fs zone escapes f fuel r')
        else
          match if c = 'x' then Format.hexadecimal? r' else none with
          | some (n, r') => before [Format.octet n] (render fs zone escapes f fuel r')
          | none =>
            match Format.simpleEscape? c with
            | some e => before [e] (render fs zone escapes f fuel r')
            | none =>
              let (t, cs) := before [c] (render fs zone escapes f fuel r')
              let known := c = '"'
              (t, if known then cs
                else (0, "warning: unrecognized escape '\\".toList ++ [c, '\'']) :: cs)
  | fuel + 1, c :: r =>
    let (t, cs) := render fs zone escapes f fuel r
    (c :: t, cs.map fun (n, e) => (n + 1, e))

def usual (fs : FileSystem) (zone : Zone) (f : Facts) : Chars :=
  let padRight (width : Nat) (cs : Chars) : Chars := cs ++ List.replicate (width - cs.length) ' '
  let number (n : Nat) : Chars := (toString n).toList
  let moment := f.momentText zone
  let name := asWord f.path ++ (match f.goal? with
    | some g => " -> ".toList ++ asWord g
    | none => [])
  let isDevice := match f.node with
    | .device (.pipe _) => false
    | .device _ => true
    | _ => false
  let (major, minor) := f.deviceNumbers
  "  File: ".toList ++ name ++ "\n  Size: ".toList ++ padRight 10 (number f.size) ++
    "\tBlocks: ".toList ++ padRight 10 (number (f.space / 512)) ++ " IO Block: ".toList ++
    padRight 6 (number Facts.unitSize) ++ ' ' :: kindName f.node ++ "\nDevice: 254,0\tInode: ".toList ++
    padRight 11 (number (f.number fs)) ++ " Links: ".toList ++
    (if isDevice then padRight 5 (number f.names) ++ " Device type: ".toList ++ number major ++ ',' :: number minor
      else number f.names) ++
    "\nAccess: (".toList ++ Mode.octalText f.mode ++ '/' :: f.modeText ++
    ")  Uid: (    0/    root)   Gid: (    0/    root)\n".toList ++
    "Access: ".toList ++ moment ++ "\nModify: ".toList ++ moment ++ "\nChange: ".toList ++ moment ++
    "\n Birth: ".toList ++ moment ++ ['\n']

def each (tool : String) (follow : Bool) (show_ : FileSystem → Facts → Act Unit) :
    List Chars → (status : Nat) → Act Nat
  | [], status => return status
  | p :: r, status => do
    let fs ← Act.tree
    match Facts.ofPath fs (!follow) (if p = ['-'] then "/dev/stdin".toList else p) with
    | .error e =>
      complainOf tool "cannot statx " p e
      each tool follow show_ r 1
    | .ok f =>
      show_ fs { f with path := p }
      each tool follow show_ r status

end Inspection

open Inspection in
def stat : Tool := fun tool args env => do
  let table := "c,format= f,file-system L,dereference printf= t,terse cached="
  withTable tool table args fun os paths => do
    if paths.isEmpty then return ← missingOperand tool
    let zone := zoneOf env
    let pattern := (os.filter fun o => o.1 = "c" ∨ o.1 = "printf").getLast?
    let rec parts (text : Chars) : Nat → List (Nat × Chars) → Act Unit
      | _, [] => say tool text
      | shown, (n, e) :: r => do
        say tool (text.take (n - shown))
        complain tool e
        parts (text.drop (n - shown)) n r
    let show_ (fs : FileSystem) (f : Facts) : Act Unit :=
      match pattern with
      | some (kind, some p) =>
        let escapes := kind = "printf"
        let (text, warnings) := render fs zone escapes f (p.length + 1) p
        parts (text ++ if escapes then [] else ['\n']) 0 warnings
      | _ =>
        if os.has "t" then
          let p := "%n %s %b %f %u %g %D %i %h %t %T %X %Y %Z %W %o".toList
          say tool ((render fs zone false f (p.length + 1) p).1 ++ ['\n'])
        else say tool (usual fs zone f)
    each tool (os.has "L") show_ paths 0

end TreePipeline.Tools
