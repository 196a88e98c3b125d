import TreePipeline.Shell.Arithmetic
import TreePipeline.Shell.Pattern
import TreePipeline.Shell.Reader
import TreePipeline.Shell.State

/-!
Expanding words into fields: parameters, commands and arithmetic are replaced by their values, what
was not quoted is split at blanks, and patterns are replaced by the names they match.
-/

namespace TreePipeline.Shell

open Host

inductive Fragment where
  | char (c : Char) (quoted splits : Bool)
  | anchor
  | boundary
  deriving DecidableEq

namespace Expansion

def fragments (cs : Chars) (quoted splits : Bool) : List Fragment :=
  (if quoted then [Fragment.anchor] else []) ++ cs.map fun c => .char c quoted splits

def marked (fs : List Fragment) : Marked :=
  fs.filterMap fun
    | .char c q _ => some (c, q)
    | _ => none

def ofReading (result : Except ReadFailure Word) : Sh Word :=
  match result with
  | .ok w => return w
  | .error e => Sh.fatal e.cause.message.toList 2

def positional (inQuotes joined : Bool) : Sh (List Fragment) := do
  let args := (← get).args
  if inQuotes ∧ joined then
    let ifs := ((← Sh.getVar "IFS").getD [' ']).take 1
    return fragments (ifs.intercalate args) true false
  else
    let parts := args.map fun a => fragments a inQuotes true
    return ([Fragment.boundary].intercalate parts)

def homes : List (String × String) :=
  [("root", "/root"), ("daemon", "/usr/sbin"), ("bin", "/bin"), ("sys", "/dev"), ("sync", "/bin"),
    ("games", "/usr/games"), ("man", "/var/cache/man"), ("lp", "/var/spool/lpd"),
    ("mail", "/var/mail"), ("news", "/var/spool/news"), ("uucp", "/var/spool/uucp"),
    ("proxy", "/bin"), ("www-data", "/var/www"), ("backup", "/var/backups"), ("list", "/var/list"),
    ("irc", "/run/ircd"), ("_apt", "/nonexistent"), ("nobody", "/nonexistent")]

def home? (name : Chars) : Sh (Option Chars) := do
  if name.isEmpty then Sh.getVar "HOME"
  else return (homes.lookup (String.ofList name)).map String.toList

def tildes (setting whole : Bool) : Nat → (start : Bool) → Chars → Sh Word
  | 0, _, t => return [.plain t]
  | _ + 1, _, [] => return []
  | fuel + 1, start, c :: t => do
    let name := t.takeWhile fun c => c ≠ '/' && !(setting && c = ':')
    let after := t.drop name.length
    let found ←
      if start && c = '~' && (whole || !after.isEmpty) then home? name else pure none
    match found with
    | some d => do
      let rest ← tildes setting whole fuel false after
      return (if d.isEmpty then rest else .quoted d :: rest)
    | none => do
      let n := if setting then ((c :: t).takeWhile (· ≠ ':')).length + 1 else t.length + 1
      let rest ← tildes setting whole fuel true ((c :: t).drop n)
      return .plain ((c :: t).take n) :: rest

def tilde (setting : Bool) (w : Word) : Sh Word :=
  from_ true w
where
  from_ (start : Bool) : Word → Sh Word
    | [] => return []
    | .plain t :: r => do
      let here ← tildes setting r.isEmpty (t.length + 1) start t
      let rest ← if setting then from_ (t.getLast? = some ':') r else pure r
      return here ++ rest
    | p :: r => do
      let rest ← if setting then from_ false r else pure r
      return p :: rest

def operandWord (inQuotes : Bool) (source : Source) : Sh Word := do
  let w ← ofReading (Reader.operandText inQuotes source)
  if inQuotes then return w else tilde false w

def parts (run : Source → Sh Chars) : Nat → (inside : Bool) → Word → Sh (List Fragment)
  | 0, _, _ => return []
  | _ + 1, _, [] => return []
  | fuel + 1, inside, p :: ps => do
    let here ← match p with
      | .plain t => pure (fragments t false inside)
      | .quoted t => pure (fragments t true false)
      | .command source q => do
        let out ← run source
        pure (fragments out q true)
      | .arithmetic source q => do
        let w ← ofReading (Reader.quotedText source)
        let inner := marked (← parts run fuel false w)
        let expr := inner.map Prod.fst
        match Arithmetic.evaluate (← get).vars (← get).fixed expr with
        | .ok (n, vars) => do
          modify fun s => { s with vars := vars }
          pure (fragments (toString n).toList q true)
        | .error e => Sh.fatal (Sh.octetChars (e.message expr)) 2
      | .parameter name form operand q => parameter fuel name form operand q
    let rest ← parts run fuel inside ps
    return here ++ rest
where
  parameter (fuel : Nat) (name : String) (form : Form) (operand : Source) (q : Bool) :
      Sh (List Fragment) := do
    if form = .bad then Sh.fatal "Bad substitution".toList 2
    else if form = .plain ∧ (name = "@" ∨ name = "*") then positional q (name = "*")
    else
      let value ← if name = "@" ∨ name = "*" then do
          let args := (← get).args
          pure (if args.isEmpty then none else some ([' '].intercalate args))
        else Sh.parameter name
      let present (colon : Bool) : Bool := match value with
        | none => false
        | some v => !(colon && v.isEmpty)
      let substitute (w : Word) : Sh (List Fragment) := do
        match fuel with
        | 0 => return []
        | fuel + 1 => return (if q then [.anchor] else []) ++ (← parts run fuel true w)
      let show_ (v : Chars) : List Fragment := fragments v q true
      match form with
      | .plain =>
        match value with
        | some v => return show_ v
        | none =>
          if (← get).refuseUnset then
            Sh.fatal (name.toList ++ ": parameter not set".toList) 2
          else return show_ []
      | .bad => return []
      | .length => return show_ (toString (value.getD []).length).toList
      | .orElse colon =>
        if present colon then return show_ (value.getD [])
        else substitute (← operandWord q operand)
      | .instead colon =>
        if present colon then substitute (← operandWord q operand) else return show_ []
      | .assign colon =>
        if present colon then return show_ (value.getD [])
        else
          let fs ← substitute (← operandWord q operand)
          let v := (marked fs).map Prod.fst
          Sh.setVar name v
          return show_ v
      | .complain colon =>
        if present colon then return show_ (value.getD [])
        else
          let fs ← substitute (← operandWord q operand)
          let text := (marked fs).map Prod.fst
          let text :=
            if !operand.text.isEmpty then text
            else if colon then "parameter not set or null".toList
            else "parameter not set".toList
          Sh.fatal (name.toList ++ ": ".toList ++ text) 2
      | .trimFront longest => do
        let fs ← substitute (← operandWord false operand)
        return show_ (Pattern.trimFront (marked fs) longest (value.getD []))
      | .trimBack longest => do
        let fs ← substitute (← operandWord false operand)
        return show_ (Pattern.trimBack (marked fs) longest (value.getD []))

def maxDepth : Nat := 10000

def word (run : Source → Sh Chars) (w : Word) : Sh (List Fragment) := do
  parts run maxDepth false (← tilde false w)

def text (run : Source → Sh Chars) (w : Word) : Sh Chars := do
  return (marked (← word run w)).map Prod.fst

def setting (run : Source → Sh Chars) (w : Word) : Sh Chars := do
  return (marked (← parts run maxDepth false (← tilde true w))).map Prod.fst

def pattern (run : Source → Sh Chars) (w : Word) : Sh Marked := do
  return marked (← word run w)

def split (ifs : Chars) : List Fragment → (here : Option Marked) → (spaced : Bool) → List Marked
  | [], none, _ => []
  | [], some m, _ => [m.reverse]
  | .anchor :: r, here, _ => split ifs r (some (here.getD [])) false
  | .boundary :: r, here, _ => here.toList.map List.reverse ++ split ifs r none false
  | .char c q splits :: r, here, spaced =>
    if splits ∧ !q ∧ ifs.contains c then
      if Arithmetic.isSpace c then
        here.toList.map List.reverse ++ split ifs r none (spaced || here.isSome)
      else if spaced ∧ here.isNone then split ifs r none false
      else (here.getD []).reverse :: split ifs r none false
    else split ifs r (some ((c, q) :: here.getD [])) false

def components : Marked → List Marked
  | [] => [[]]
  | (c, q) :: r =>
    if c = '/' then [] :: components r
    else match components r with
      | [] => [[(c, q)]]
      | m :: ms => ((c, q) :: m) :: ms

def directoryOf (front : Chars) : Octets := if front.isEmpty then Path.dot else toOctets front

def matches_ (fs : FileSystem) : List Marked → (front : Chars) → List Chars
  | [], front => [front]
  | m :: rest, front =>
    let literal := m.map Prod.fst
    if Pattern.hasSpecial m then
      let names := match fs.listDirectory (directoryOf front) with
        | .ok (_, ns) => ((Path.dot :: Path.dotDot :: ns).mergeSort Octets.le).map ofOctets
        | .error _ => []
      let dotted := literal.head? = some '.'
      let hits := names.filter fun n =>
        Pattern.accepts m n && (dotted || n.head? ≠ some '.')
      if rest.isEmpty then hits.map (front ++ ·)
      else hits.flatMap fun n =>
        if fs.isDirectory (toOctets (front ++ n)) then matches_ fs rest (front ++ n ++ ['/']) else []
    else if rest.isEmpty then
      let path := front ++ literal
      match fs.lstat (toOctets path) with
      | .ok _ => [path]
      | .error _ => []
    else matches_ fs rest (front ++ literal ++ ['/'])

def glob (m : Marked) : Sh (List Chars) := do
  let literal := m.map Prod.fst
  if !Pattern.hasSpecial m || (← get).noGlob then return [literal]
  let found ← Sh.act (Act.askNames fun fs => (matches_ fs (components m) []).map toOctets)
  if found.isEmpty then return [literal] else return found.map ofOctets

def globAll : List Marked → Sh (List Chars)
  | [] => return []
  | m :: ms => do
    let here ← glob m
    let rest ← globAll ms
    return here ++ rest

def defaultSeparators : Chars := [' ', '\t', '\n']

def fields (run : Source → Sh Chars) (w : Word) : Sh (List Chars) := do
  let fs ← word run w
  let ifs := (← Sh.getVar "IFS").getD defaultSeparators
  globAll (split ifs fs none false)

def allFields (run : Source → Sh Chars) : List Word → Sh (List Chars)
  | [] => return []
  | w :: ws => do
    let here ← fields run w
    let rest ← allFields run ws
    return here ++ rest

inductive Role where
  | name
  | settings
  | plain
  deriving DecidableEq

def Role.after (role : Role) (field : Chars) : Role :=
  match role with
  | .name =>
    if ["command", "-p", "--"].contains (String.ofList field) then .name
    else if ["export", "readonly", "local"].contains (String.ofList field) then .settings
    else .plain
  | role => role

def cutSetting? : Word → Option (Chars × Word)
  | .plain t :: r =>
    let name := t.takeWhile (· ≠ '=')
    if name.length < t.length && Reader.isGoodName name then
      some (name ++ ['='], .plain (t.drop (name.length + 1)) :: r)
    else none
  | _ => none

def commandFields (run : Source → Sh Chars) : Role → List Word → Sh (List Chars)
  | _, [] => return []
  | role, w :: ws => do
    let here ← match if role = .settings then cutSetting? w else none with
      | some (front, value) => do pure [front ++ (← setting run value)]
      | none => fields run w
    let rest ← commandFields run (here.foldl Role.after role) ws
    return here ++ rest

end Expansion

end TreePipeline.Shell
