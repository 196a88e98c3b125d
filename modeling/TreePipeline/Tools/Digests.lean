import TreePipeline.Hash.Blake2b
import TreePipeline.Hash.Md5
import TreePipeline.Hash.Sha
import TreePipeline.Tools.Extent

/-! Small programs that write digests of files, or compare files with digests that were written. -/

namespace TreePipeline.Tools

open Shell Host

structure Digest where
  label : String
  size : Nat
  flexible : Bool
  make : (size : Nat) → Octets → Octets

namespace Digest

def fixed (label : String) (size : Nat) (make : Octets → Octets) : Digest := ⟨label, size, false, fun _ => make⟩

def md5 : Digest := fixed "MD5" 16 Md5.hash

def sha1 : Digest := fixed "SHA1" 20 Sha1.hash

def sha224 : Digest := fixed "SHA224" 28 Sha256.shortHash

def sha256 : Digest := fixed "SHA256" 32 Sha256.hash

def sha384 : Digest := fixed "SHA384" 48 Sha512.shortHash

def sha512 : Digest := fixed "SHA512" 64 Sha512.hash

def blake2b : Digest := ⟨"BLAKE2b", 64, true, Blake2b.hash⟩

def all : List Digest := [md5, sha1, sha224, sha256, sha384, sha512, blake2b]

def text (d : Digest) (size : Nat) (content : Octets) : Chars := (Octets.toHex (d.make size content)).toList

/-! Lines. -/

structure LineStyle where
  tagged : Bool
  binary : Bool
  zero : Bool

def escapedName (name : Chars) : Chars × Bool :=
  let step (c : Char) : Chars :=
    if c = '\n' then ['\\', 'n'] else if c = '\r' then ['\\', 'r'] else if c = '\\' then ['\\', '\\'] else [c]
  (name.flatMap step, name.any fun c => c = '\n' ∨ c = '\r' ∨ c = '\\')

def plainName : Chars → Option Chars
  | [] => some []
  | '\\' :: 'n' :: r => (plainName r).map ('\n' :: ·)
  | '\\' :: 'r' :: r => (plainName r).map ('\r' :: ·)
  | '\\' :: '\\' :: r => (plainName r).map ('\\' :: ·)
  | '\\' :: _ => none
  | c :: r => (plainName r).map (c :: ·)

def labelText (d : Digest) (size : Nat) : Chars :=
  d.label.toList ++ if d.flexible ∧ size ≠ d.size then '-' :: (toString (8 * size)).toList else []

def line (d : Digest) (s : LineStyle) (size : Nat) (name : Chars) (content : Octets) : Chars :=
  let (shown, changed) := if s.zero then (name, false) else escapedName name
  let digest := d.text size content
  (if changed then ['\\'] else []) ++
    (if s.tagged then d.labelText size ++ " (".toList ++ shown ++ ") = ".toList ++ digest
    else digest ++ [' ', if s.binary then '*' else ' '] ++ shown) ++
    [if s.zero then '\x00' else '\n']

structure Entry where
  digest : Digest
  size : Nat
  expected : Chars
  name : Chars

def isHex (c : Char) : Bool := c.isDigit || ('a' ≤ c.toLower && c.toLower ≤ 'f')

def readTagged (ds : List Digest) (cs : Chars) : Option Entry :=
  ds.findSome? fun d => do
    let rest ← if d.label.toList.isPrefixOf cs then some (cs.drop d.label.length) else none
    let (size, rest) ← match rest with
      | '-' :: r =>
        let ds := r.takeWhile Char.isDigit
        if !d.flexible then none
        else (number? ds).bind fun n => if n % 8 = 0 ∧ 0 < n ∧ n ≤ 8 * d.size then some (n / 8, r.drop ds.length) else none
      | r => some (d.size, r)
    let rest := if rest.head? = some ' ' then rest.drop 1 else rest
    let rest ← match rest with
      | '(' :: r => some r
      | _ => none
    let back := rest.reverse.dropWhile (· ≠ ')')
    let name ← match back with
      | ')' :: n => some n.reverse
      | _ => none
    let tail := (rest.drop (name.length + 1)).dropWhile fun c => c = ' ' ∨ c = '\t'
    let tail ← match tail with
      | '=' :: r => some (r.dropWhile fun c => c = ' ' ∨ c = '\t')
      | _ => none
    if tail.length = 2 * size ∧ tail.all isHex then some ⟨d, size, tail, name⟩ else none

def readPlain (d : Digest) (cs : Chars) : Option Entry :=
  let digits := cs.takeWhile isHex
  let size := digits.length / 2
  if digits.length % 2 = 1 ∨ size = 0 ∨ d.size < size ∨ (!d.flexible ∧ size ≠ d.size) then none
  else
    match cs.drop digits.length with
    | ' ' :: m :: name => if (m = ' ' ∨ m = '*') ∧ !name.isEmpty then some ⟨d, size, digits, name⟩ else none
    | _ => none

def readLine (given : Option Digest) (cs : Chars) : Option Entry := do
  let cs := cs.dropWhile fun c => c = ' ' ∨ c = '\t'
  let (escaped, cs) := if cs.head? = some '\\' then (true, cs.drop 1) else (false, cs)
  let e ← match readTagged (given.elim all fun d => [d]) cs with
    | some e => some e
    | none => given.bind fun d => readPlain d cs
  if escaped then (plainName e.name).map fun n => { e with name := n } else some e

/-! Checking. -/

structure CheckStyle where
  quiet : Bool
  silent : Bool
  warn : Bool
  strict : Bool
  ignoreMissing : Bool

structure Tally where
  formatted : Nat := 0
  misformatted : Nat := 0
  misread : Nat := 0
  mismatched : Nat := 0
  matched : Bool := false

def checkEntry (tool : String) (s : CheckStyle) (e : Entry) : Act (Tally → Tally) := do
  let shown := (escapedName e.name)
  let name := (if shown.2 then ['\\'] else []) ++ shown.1
  let failed (fault : SystemError) : Act (Tally → Tally) := do
    if s.ignoreMissing ∧ fault.isNotFound then return id
    complain tool (asWord e.name ++ ": ".toList ++ faultText fault)
    if !s.silent then say tool (name ++ ": FAILED open or read\n".toList)
    return fun t => { t with misread := t.misread + 1 }
  match ← openInput e.name with
  | .error fault => failed fault
  | .ok fd =>
    let content ← Act.readAll fd maxReads []
    if fd ≠ 0 then Act.close fd
    match content with
    | .error fault => failed fault
    | .ok content =>
      if e.digest.text e.size content = e.expected.map Char.toLower then
        if !s.silent ∧ !s.quiet then say tool (name ++ ": OK\n".toList)
        return fun t => { t with matched := true }
      else
        if !s.silent then say tool (name ++ ": FAILED\n".toList)
        return fun t => { t with mismatched := t.mismatched + 1 }

def checkLines (tool : String) (s : CheckStyle) (given : Option Digest) (shown : Chars) :
    List Chars → (place : Nat) → Tally → Act Tally
  | [], _, t => return t
  | l :: ls, n, t => do
    if l.head? = some '#' ∨ l.isEmpty then return ← checkLines tool s given shown ls (n + 1) t
    match (readLine given l).filter fun e => !(shown = "'standard input'".toList ∧ e.name = ['-']) with
    | none =>
      if s.warn then
        let label := given.elim "CRC" Digest.label
        complain tool (shown ++ ": ".toList ++ (toString n).toList ++ ": improperly formatted ".toList ++ label.toList ++
          " checksum line".toList)
      checkLines tool s given shown ls (n + 1) { t with misformatted := t.misformatted + 1 }
    | some e =>
      let change ← checkEntry tool s e
      checkLines tool s given shown ls (n + 1) (change { t with formatted := t.formatted + 1 })

def checkList (tool : String) (s : CheckStyle) (given : Option Digest) (path : Chars) : Act Bool := do
  let shown := if path = ['-'] then "'standard input'".toList else asWord path
  match ← openInput path with
  | .error e =>
    complain tool (asWord path ++ ": ".toList ++ faultText e)
    return false
  | .ok fd =>
    let content ← Act.readAll fd maxReads []
    if fd ≠ 0 then Act.close fd
    match content with
    | .error e =>
      complain tool (shown ++ ": ".toList ++ faultText e)
      return false
    | .ok content =>
      let bare (l : Octets) : Chars :=
        let l := ofOctets (if l.getLast? = some newline then l.dropLast else l)
        if l.getLast? = some '\r' then l.dropLast else l
      let t ← checkLines tool s given shown ((linesOf content).map bare) 1 {}
      if t.formatted = 0 then
        complain tool (shown ++ ": no properly formatted checksum lines found".toList)
      else if !s.silent then
        let warn (n : Nat) (one many : String) : Act Unit := do
          if 0 < n then
            complain tool ("WARNING: ".toList ++ (toString n).toList ++ ' ' :: (if n = 1 then one else many).toList)
        warn t.misformatted "line is improperly formatted" "lines are improperly formatted"
        warn t.misread "listed file could not be read" "listed files could not be read"
        warn t.mismatched "computed checksum did NOT match" "computed checksums did NOT match"
        if s.ignoreMissing ∧ !t.matched then
          complain tool (shown ++ ": no file was verified".toList)
      return t.formatted ≠ 0 ∧ t.misread = 0 ∧ t.mismatched = 0 ∧ !(s.strict ∧ t.misformatted ≠ 0) ∧
        !(s.ignoreMissing ∧ !t.matched)

/-! The programs. -/

def checkTable : String := "c,check quiet status w,warn strict ignore-missing z,zero"

def optionFault (os : Options) (check : Bool) : Option String :=
  let onlyChecking := ["ignore-missing", "status", "w", "quiet", "strict"]
  if check then
    if os.has "tag" then some "the --tag option is meaningless when verifying checksums"
    else if os.has "z" then some "the --zero option is not supported when verifying checksums"
    else if os.has "b" ∨ os.has "t" then
      some "the --binary and --text options are meaningless when verifying checksums"
    else none
  else
    ((onlyChecking.filter os.has).head?).map fun o =>
      "the --" ++ (if o = "w" then "warn" else o) ++ " option is meaningful only when verifying checksums"

def checkStyle (os : Options) : CheckStyle :=
  ⟨os.last? ["quiet", "status", "w"] = some "quiet", os.last? ["quiet", "status", "w"] = some "status",
    os.last? ["quiet", "status", "w"] = some "w", os.has "strict", os.has "ignore-missing"⟩

def checkAll (tool : String) (s : CheckStyle) (given : Option Digest) (paths : List Chars) : Act Nat := do
  let mut status := 0
  for p in inputsOr paths do
    if !(← checkList tool s given p) then status := 1
  return status

def writeAll (tool : String) (paths : List Chars) (text : Chars → Octets → Chars) : Act Nat := do
  let mut status := 0
  for p in inputsOr paths do
    match ← contentOf tool p with
    | some content => say tool (text p content)
    | none => status := 1
  return status

def sizeOf? (tool : String) (d : Digest) (os : Options) : Act (Option Nat) := do
  match os.value? "l" with
  | none => return some d.size
  | some v =>
    let invalid (text : Chars) : Act (Option Nat) := do
      complain tool ("invalid length: ".toList ++ inQuotes v)
      if !text.isEmpty then complain tool text
      return none
    match number? v with
    | none => invalid []
    | some n =>
      if 8 * d.size < n then
        invalid ("maximum digest length for ".toList ++ inQuotes d.label.toList ++ " is ".toList ++
          (toString (8 * d.size)).toList ++ " bits".toList)
      else if n % 8 ≠ 0 then invalid "length is not a multiple of 8".toList
      else return some (if n = 0 then d.size else n / 8)

def tool_ (d : Digest) : Tool := fun tool args _ =>
  withTable tool (checkTable ++ " b,binary t,text tag" ++ if d.flexible then " l,length=" else "") args
    fun os paths => do
      match ← d.sizeOf? tool os with
      | none => return 1
      | some size =>
        let last := os.last? ["b", "t"]
        if os.has "tag" ∧ last = some "t" then
          return ← misuse tool "--tag does not support --text mode".toList
        match optionFault os (os.has "c") with
        | some text => misuse tool text.toList
        | none =>
          if os.has "c" then checkAll tool (checkStyle os) (some d) paths
          else
            writeAll tool paths (d.line ⟨os.has "tag", last = some "b", os.has "z"⟩ size)

end Digest

def md5sum : Tool := Digest.md5.tool_

def sha1sum : Tool := Digest.sha1.tool_

def sha224sum : Tool := Digest.sha224.tool_

def sha256sum : Tool := Digest.sha256.tool_

def sha384sum : Tool := Digest.sha384.tool_

def sha512sum : Tool := Digest.sha512.tool_

def b2sum : Tool := Digest.blake2b.tool_

namespace Digest

def rotatingText (content : Octets) : Chars :=
  let digits := (toString (Checksum.rotating content)).toList
  List.replicate (5 - digits.length) '0' ++ digits ++ ' ' ::
    padLeft 5 (toString ((content.length + 1023) / 1024)).toList

def foldedText (content : Octets) : Chars :=
  (toString (Checksum.folded content)).toList ++ ' ' :: (toString ((content.length + 511) / 512)).toList

def cyclicText (content : Octets) : Chars :=
  (toString (Checksum.cyclic content).toNat).toList ++ ' ' :: (toString content.length).toList

def plainSums : List (String × (Octets → Chars)) :=
  [("bsd", rotatingText), ("sysv", foldedText), ("crc", cyclicText)]

def writeSums (tool : String) (zero : Bool) (paths : List Chars) (sum : Octets → Chars) : Act Nat :=
  writeAll tool paths fun name content =>
    sum content ++ (if paths.isEmpty then [] else ' ' :: name) ++ [if zero then '\x00' else '\n']

end Digest

open Digest in
def sum : Tool := fun tool args _ =>
  withTable tool "r s,sysv" args fun os paths =>
    writeSums tool false paths (if os.last? ["r", "s"] = some "s" then foldedText else rotatingText)

open Digest in
def cksum : Tool := fun tool args _ =>
  withTable tool (checkTable ++ " a,algorithm= l,length= tag untagged base64 raw debug b,binary t,text") args
    fun os paths => do
      let name := ((os.value? "a").map String.ofList).getD "crc"
      let digest := all.find? fun d => d.label.toLower = name
      if digest.isNone ∧ (plainSums.lookup name).isNone then
        complain tool ("invalid argument ".toList ++ inQuotes name.toList ++ " for '--algorithm'".toList)
        let _ ← Act.write 2 (toOctets ("Valid arguments are:\n".toList ++
          (plainSums.map Prod.fst ++ all.map fun d => d.label.toLower).flatMap fun n =>
            "  - '".toList ++ n.toList ++ "'\n".toList))
        return ← pointToHelp 1 tool
      if os.has "l" ∧ name ≠ "blake2b" then
        complain tool "--length is only supported with --algorithm=blake2b".toList
        return 1
      match optionFault (os.filter fun o => !(["tag", "b", "t"].contains o.1)) (os.has "c") with
      | some text => misuse tool text.toList
      | none =>
        if os.has "c" then checkAll tool (checkStyle os) digest paths
        else
          match digest with
          | some d =>
            match ← d.sizeOf? tool os with
            | none => return 1
            | some size =>
              let tagged := os.last? ["tag", "untagged"] ≠ some "untagged"
              writeAll tool paths (d.line ⟨tagged, os.last? ["b", "t"] = some "b", os.has "z"⟩ size)
          | none => writeSums tool (os.has "z") paths ((plainSums.lookup name).getD cyclicText)

end TreePipeline.Tools
