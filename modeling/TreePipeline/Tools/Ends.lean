import TreePipeline.Tools.Extent

/-! Small programs that show the beginning or the end of files. -/

namespace TreePipeline.Tools

open Shell Host

namespace Ends

structure Part where
  octets : Bool := false
  count : Nat := 10
  allBut : Bool := false
  onwards : Bool := false

structure Style where
  part : Part
  titled : Bool
  ending : UInt8
  follow : Bool := false

def nameOf (path : Chars) : Chars := if path = ['-'] then "standard input".toList else path

def piecesOf (ending : UInt8) : Octets → List Octets
  | [] => []
  | b :: r =>
    if b = ending then [b] :: piecesOf ending r
    else match piecesOf ending r with
      | [] => [[b]]
      | l :: ls => (b :: l) :: ls

def copyOctets (tool : String) (fd : Nat) : Nat → (count : Nat) → Act (Except SystemError Unit)
  | 0, _ => return .ok ()
  | _ + 1, 0 => return .ok ()
  | fuel + 1, count => do
    match ← Act.read fd (min count 8192) with
    | .ok [] => return .ok ()
    | .error e => return .error e
    | .ok bs =>
      put tool bs
      copyOctets tool fd fuel (count - bs.length)

def copyLines (tool : String) (fd : Nat) (ending : UInt8) :
    Nat → (count : Nat) → Act (Except SystemError Unit)
  | 0, _ => return .ok ()
  | _ + 1, 0 => return .ok ()
  | fuel + 1, count => do
    match ← Act.read fd 8192 with
    | .ok [] => return .ok ()
    | .error e => return .error e
    | .ok bs =>
      let ls := piecesOf ending bs
      let taken := (ls.take count).flatten
      let whole := (ls.take count).filter fun l => l.getLast? = some ending
      put tool taken
      if whole.length = count ∧ taken.length < bs.length then
        let _ ← Act.call (.seek fd (-((bs.length - taken.length : Nat) : Int)) .current)
      copyLines tool fd ending fuel (count - whole.length)

def copyAllBut (tool : String) (fd : Nat) (s : Style) : Act (Except SystemError Unit) := do
  match ← Act.readAll fd maxReads [] with
  | .error err => return .error err
  | .ok bs =>
    let ls := piecesOf s.ending bs
    put tool (if s.part.octets then bs.take (bs.length - s.part.count)
      else (ls.take (ls.length - s.part.count)).flatten)
    return .ok ()

def title (tool : String) (path : Chars) (first : Bool) : Act Unit :=
  say tool ((if first then [] else ['\n']) ++ "==> ".toList ++ nameOf path ++ " <==\n".toList)

def headEach (tool : String) (s : Style) : List Chars → (first : Bool) → (status : Nat) → Act Nat
  | [], _, status => return status
  | p :: r, first, status => do
    match ← openInput p with
    | .error err => do
      complain tool ("cannot open ".toList ++ inQuotes p ++ " for reading: ".toList ++ faultText err)
      headEach tool s r first 1
    | .ok fd => do
      if s.titled then title tool p first
      let result ←
        if s.part.allBut then copyAllBut tool fd s
        else if s.part.octets then copyOctets tool fd maxReads s.part.count
        else copyLines tool fd s.ending maxReads s.part.count
      if fd ≠ 0 then Act.close fd
      match result with
      | .ok () => headEach tool s r false status
      | .error err => do
        complain tool ("error reading ".toList ++ inQuotes (nameOf p) ++ ": ".toList ++ faultText err)
        if p = ['-'] ∧ err = .os .badDescriptor then complain tool ("-: ".toList ++ faultText err)
        headEach tool s r false 1

def lastPart (s : Style) (content : Octets) : Octets :=
  let keep (length : Nat) : Nat := if s.part.onwards then s.part.count - 1 else length - s.part.count
  if s.part.octets then content.drop (keep content.length)
  else
    let ls := piecesOf s.ending content
    (ls.drop (keep ls.length)).flatten

def lookAgain : Nat := 100000000

def followAll (tool : String) (titled : Bool) : Nat → (shown : Nat) → List (Chars × Nat) → Act Nat
  | 0, _, _ => return 0
  | fuel + 1, shown, files => do
    let _ ← Act.call (.sleep lookAgain)
    let mut now := shown
    for (p, fd) in files do
      match ← Act.readAll fd maxReads [] with
      | .ok (b :: bs) =>
        if titled ∧ now ≠ fd then title tool p false
        now := fd
        put tool (b :: bs)
      | _ => pure ()
    followAll tool titled fuel now files

def tailEach (tool : String) (s : Style) :
    List Chars → (first : Bool) → (status : Nat) → Act (List (Chars × Nat) × Nat)
  | [], _, status => return ([], status)
  | p :: r, first, status => do
    match ← openInput p with
    | .error err => do
      complain tool ("cannot open ".toList ++ inQuotes p ++ " for reading: ".toList ++ faultText err)
      tailEach tool s r first 1
    | .ok fd => do
      if s.titled then title tool p first
      let content ← Act.readAll fd maxReads []
      if fd ≠ 0 ∧ !s.follow then Act.close fd
      match content with
      | .ok bs => do
        put tool (lastPart s bs)
        let (files, status) ← tailEach tool s r false status
        return ((p, fd) :: files, status)
      | .error err => do
        complain tool ("error reading ".toList ++ inQuotes (nameOf p) ++ ": ".toList ++ faultText err)
        tailEach tool s r false 1

def spelledOut (args : List Chars) : Except Chars (List Chars) :=
  match args with
  | ('-' :: d :: cs) :: r =>
    if d.isDigit then
      let ds := (d :: cs).takeWhile Char.isDigit
      let letters := (d :: cs).drop ds.length
      match letters.find? fun c => !"cbkmlqvz".toList.contains c with
      | some c => .error ("invalid trailing option -- ".toList ++ [c])
      | none =>
        let unit := (letters.filter "bkm".toList.contains).getLast?.toList
        let octets := letters.any "cbkm".toList.contains
        let others := (letters.filter "qvz".toList.contains).map fun c => ['-', c]
        .ok (((if octets then ['-', 'c'] else ['-', 'n']) ++ ds ++ unit) :: others ++ r)
    else .ok args
  | args => .ok args

def tailSpelledOut (args : List Chars) : List Chars :=
  match args with
  | (sign :: cs) :: r =>
    let isSign := sign = '+' || (sign = '-' && (cs.head?.map Char.isDigit).getD false)
    let few := r.length ≤ 1 && !(r.any fun a => a.head? = some '-' && a ≠ ['-'])
    if isSign ∧ few then
      let ds := cs.takeWhile Char.isDigit
      let rest := cs.drop ds.length
      let (kind, rest) := match rest with
        | 'c' :: t => ('c', t)
        | 'l' :: t => ('n', t)
        | 'b' :: t => ('b', t)
        | t => ('n', t)
      let follow : List Chars := if rest = ['f'] then [['-', 'f']] else []
      if rest.isEmpty ∨ rest = ['f'] then
        let ds := if ds.isEmpty then ['1', '0'] else ds
        let count := (if sign = '+' then ['+'] else []) ++ ds ++ (if kind = 'b' then ['b'] else [])
        ('-' :: (if kind = 'n' then 'n' else 'c') :: count) :: follow ++ r
      else args
    else args
  | args => args

def partOf (os : Options) : Except Chars Part :=
  let step (part : Part) (o : String × Option Chars) : Except Chars Part :=
    let value := o.2.getD []
    let octets : Bool := o.1 = "c"
    if o.1 ≠ "c" ∧ o.1 ≠ "n" then .ok part
    else
      let body := if value.head? = some '-' ∨ value.head? = some '+' then value.drop 1 else value
      match Extent.read body with
      | .ok n =>
        .ok { octets := octets, count := n, allBut := value.head? = some '-'
              onwards := value.head? = some '+' }
      | .error e =>
        let kind := if octets then "invalid number of bytes: " else "invalid number of lines: "
        .error (kind.toList ++ inQuotes body ++ e.ending)
  os.foldlM step {}

def styleOf (os : Options) (paths : List Chars) : Except Chars Style := do
  let part ← partOf os
  let titles := os.last? ["q", "v"]
  return {
    part := part
    titled := titles = some "v" || (titles.isNone && 1 < paths.length)
    ending := if os.has "z" then 0 else newline
    follow := os.has "f" || os.has "F" }

end Ends

open Ends in
def head : Tool := fun tool args _ => do
  match spelledOut args with
  | .error e => misuse tool e
  | .ok args =>
    withTable tool "c,bytes= n,lines= q,quiet,silent v,verbose z,zero-terminated" args fun os paths => do
      match styleOf os paths with
      | .error e =>
        complain tool e
        return 1
      | .ok s => headEach tool s (inputsOr paths) true 0

open Ends in
def tail : Tool := fun tool args _ => do
  let table := "c,bytes= n,lines= q,quiet,silent v,verbose z,zero-terminated f,follow=? F retry " ++
    "s,sleep-interval= pid= max-unchanged-stats="
  withTable tool table (tailSpelledOut args) fun os paths => do
    match styleOf os paths with
    | .error e =>
      complain tool e
      return 1
    | .ok s =>
      let (files, status) ← tailEach tool s (inputsOr paths) true 0
      let kept := files.filter fun f => f.2 ≠ 0 || f.1 ≠ ['-'] || !paths.isEmpty
      if s.follow ∧ !kept.isEmpty then
        followAll tool s.titled maxReads ((files.getLast?.map Prod.snd).getD 0) kept
      else return status

end TreePipeline.Tools
