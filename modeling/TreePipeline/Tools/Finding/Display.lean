import TreePipeline.Tools.Finding.Query

/-! What is shown of the entries that were found: pieces of a format, or one long line. -/

namespace TreePipeline.Tools

open Shell Host

namespace Finding

/-! Reading a format. -/

def readEscape : Chars → Option (Piece × Chars)
  | 'c' :: r => some (.stop, r)
  | c :: r =>
    if Mode.isOctal c then
      let ds := (c :: r).takeWhile Mode.isOctal |>.take 3
      some (.text [Char.ofNat (Mode.ofOctal ds % 256)], (c :: r).drop ds.length)
    else if c = 'e' then none
    else (Format.simpleEscape? c).map fun e => (.text [e], r)
  | [] => none

def timeLetters : Chars := "@aAbBcCdDFhHIjklmMprsSTUwWxXyYzZ+".toList

def fieldLetters : Chars := "abcdDfFgGhHiklmMnpPstuUyYSZ".toList

inductive FormatFault where
  | percentAtEnd
  | unknownField (c : Char)
  | unknownEscape (c : Char)
  | lacksLetter (c : Char)

def FormatFault.message : FormatFault → Chars
  | .percentAtEnd => "error: % at end of format string".toList
  | .unknownField c => "warning: unrecognized format directive \x60%".toList ++ [c, '\'']
  | .lacksLetter c =>
    "warning: format directive \x60%".toList ++ c :: "' should be followed by another character".toList
  | .unknownEscape c => "warning: unrecognized escape \x60\\".toList ++ [c, '\'']

def readFormat : (fuel : Nat) → Chars → Except FormatFault (List Piece × List FormatFault)
  | 0, _ => .ok ([], [])
  | _, [] => .ok ([], [])
  | fuel + 1, '\\' :: r =>
    match readEscape r, r with
    | some (p, r), _ => (readFormat fuel r).map fun (ps, fs) => (p :: ps, fs)
    | none, c :: r => (readFormat fuel r).map fun (ps, fs) => (.text ['\\', c] :: ps, .unknownEscape c :: fs)
    | none, [] => .ok ([.text ['\\']], [])
  | fuel + 1, '%' :: r =>
    match r with
    | [] => .error .percentAtEnd
    | '%' :: r => (readFormat fuel r).map fun (ps, fs) => (.text ['%'] :: ps, fs)
    | r =>
      let (v, rest) := Format.readFlags r {}
      let (width, rest) := Format.readNat rest
      let (precision, rest) := match rest with
        | '.' :: r =>
          let (n, r) := Format.readNat r
          (some n, r)
        | r => (none, r)
      let v := { v with width := width, precision := precision }
      match rest with
      | [] => .error .percentAtEnd
      | k :: rest =>
        if "ACTB".toList.contains k then
          match rest with
          | [] => .ok ([.text ['%', k]], [.lacksLetter k])
          | l :: rest =>
            (readFormat fuel rest).map fun (ps, fs) =>
              ((if timeLetters.contains l then .time v (some l) else .text ['%', l]) :: ps, fs)
        else if "act".toList.contains k then (readFormat fuel rest).map fun (ps, fs) => (.time v none :: ps, fs)
        else if fieldLetters.contains k then
          (readFormat fuel rest).map fun (ps, fs) => (.field v k :: ps, fs)
        else
          let shown := '%' :: r.take (r.length - rest.length)
          (readFormat fuel rest).map fun (ps, fs) => (.text shown :: ps, .unknownField k :: fs)
  | fuel + 1, c :: r =>
    (readFormat fuel r).map fun (ps, fs) => match ps with
      | .text cs :: ps => (.text (c :: cs) :: ps, fs)
      | ps => (.text [c] :: ps, fs)

/-! Showing entries. -/

def padded (v : Format.Conversion) (cs : Chars) : Chars :=
  Format.pad v (match v.precision with
    | some n => cs.take n
    | none => cs)

def numbered (v : Format.Conversion) (n : Nat) : Chars := Format.padNumber v [] (Nat.toDigits 10 n)

def fraction (nanos : Nat) : Chars := '.' :: Timestamp.padded 9 nanos ++ ['0']

def timeText (zone : Zone) (e : Entry) (k : Option Char) : Chars :=
  let (secs, nanos) := instantOf e.facts.modified
  let c := Civil.ofInstant secs nanos zone
  match k with
  | none => c.written "%a %b %e %H:%M:%S" ++ fraction nanos ++ c.written " %Y"
  | some '@' => (toString secs).toList ++ fraction nanos
  | some '+' => c.written "%Y-%m-%d+%H:%M:%S" ++ fraction nanos
  | some 'S' => c.written "%S" ++ fraction nanos
  | some 'T' => c.written "%H:%M:%S" ++ fraction nanos
  | some 'X' => c.written "%H:%M:%S" ++ fraction nanos
  | some k => c.format 3 ['%', k]

def pathBelow (e : Entry) : Chars :=
  let r := e.path.drop e.start.length
  if r.head? = some '/' then r.drop 1 else r

def lastName (path : Chars) : Chars :=
  let front := (path.reverse.dropWhile (· = '/')).reverse
  if front.isEmpty then path else path.drop ((front.reverse.dropWhile (· ≠ '/')).length)

def leading (path : Chars) : Chars :=
  let front := path.take (path.length - (lastName path).length)
  if !front.isEmpty then front.dropLast
  else if path.contains '/' then path.take (path.length - (path.reverse.takeWhile (· ≠ '/')).length - 1)
  else ['.']

def fieldText (fs : FileSystem) (e : Entry) (v : Format.Conversion) (k : Char) : Chars :=
  let text := padded v
  let number := numbered v
  match k with
  | 'b' => number ((e.facts.space + 511) / 512)
  | 'k' => number ((e.facts.space + 1023) / 1024)
  | 'd' => number e.depth
  | 'D' => number 65024
  | 'f' => text (lastName e.path)
  | 'F' => text "overlay".toList
  | 'g' => text "root".toList
  | 'u' => text "root".toList
  | 'G' => number 0
  | 'U' => number 0
  | 'h' => text (leading e.path)
  | 'H' => text e.start
  | 'i' => number (e.facts.number fs)
  | 'l' => text (e.facts.goal?.getD [])
  | 'm' => Format.padNumber v (if v.alternate then ['0'] else []) (Nat.toDigits 8 e.facts.mode)
  | 'M' => text e.facts.modeText
  | 'n' => number e.facts.names
  | 'p' => text e.path
  | 'P' => text (pathBelow e)
  | 's' => number e.facts.size
  | 'S' => text ['1']
  | 'y' => text [e.kindLetter]
  | 'Y' =>
    text (match e.facts.node with
      | .link _ => match fs.stat (toOctets e.path) with
        | .ok n => [Entry.letterOf n]
        | .error (.os n) => [if n = Errno.linkLoop then 'L' else 'N']
        | .error _ => ['N']
      | _ => [e.kindLetter])
  | _ => []

def shown (fs : FileSystem) (zone : Zone) (e : Entry) : List Piece → Chars
  | [] => []
  | .stop :: _ => []
  | .text cs :: ps => cs ++ shown fs zone e ps
  | .field v k :: ps => fieldText fs e v k ++ shown fs zone e ps
  | .time v k :: ps => padded v (timeText zone e k) ++ shown fs zone e ps

def listedName (cs : Chars) : Chars :=
  cs.flatMap fun c =>
    if c = '\\' ∨ c = ' ' ∨ c = '"' then ['\\', c]
    else if Quoting.isPrintable c then [c]
    else Quoting.escape c

def longLine (fs : FileSystem) (zone : Zone) (now : Int) (e : Entry) : Chars :=
  let f := e.facts
  let number (n : Nat) : Chars := (toString n).toList
  let right (width : Nat) (cs : Chars) : Chars := cs ++ List.replicate (width - cs.length) ' '
  let (secs, nanos) := instantOf f.modified
  let (present, _) := instantOf now
  let recent := present - 182 * 86400 < secs && secs < present + 3600
  let c := Civil.ofInstant secs nanos zone
  let size := match f.node with
    | .device (.pipe _) => ['0']
    | .device _ => padLeft 3 (number f.deviceNumbers.1) ++ ", ".toList ++ padLeft 3 (number f.deviceNumbers.2)
    | _ => number f.size
  padLeft 9 (number (f.number fs)) ++ ' ' :: padLeft 6 (number ((f.space + 1023) / 1024)) ++ ' ' :: f.modeText ++
    ' ' :: padLeft 3 (number f.names) ++ ' ' :: right 8 "root".toList ++ ' ' :: right 8 "root".toList ++
    ' ' :: padLeft 8 size ++ ' ' :: c.written (if recent then "%b %e %H:%M" else "%b %e  %Y") ++
    ' ' :: listedName e.path ++ (match f.goal? with
      | some g => " -> ".toList ++ listedName g
      | none => []) ++ ['\n']

end Finding

end TreePipeline.Tools
