import TreePipeline.Shell.Command

/-!
Where enclosed text ends. What stands between brackets, braces or double quotes may hold other such
text, comments and here-documents, in which a character that closes counts for nothing.
-/

namespace TreePipeline.Shell

inductive Enclosure where
  | commands
  | cases
  | expression
  | brackets
  | operand (inQuotes : Bool)
  | quotes
  deriving DecidableEq

namespace Enclosure

def isMeta (c : Char) : Bool := " \t\n|&;<>()".toList.contains c

def cutLine (cs : Chars) : Chars × Chars :=
  let l := cs.takeWhile (· ≠ '\n')
  (l, cs.drop (l.length + 1))

def hereLines (mark : Chars) (stripTabs : Bool) : Nat → Chars → Chars × Chars
  | 0, cs => ([], cs)
  | fuel + 1, cs =>
    if cs.isEmpty then ([], [])
    else
      let (l, r) := cutLine cs
      let ending := if l.length < cs.length then ['\n'] else []
      let l := if stripTabs then l.dropWhile (· = '\t') else l
      if l = mark then ([], r)
      else
        let (body, rest) := hereLines mark stripTabs fuel r
        (l ++ ending ++ body, rest)

def afterHere : List (Chars × Bool) → Chars → Chars
  | [], cs => cs
  | (mark, stripTabs) :: r, cs => afterHere r (hereLines mark stripTabs (cs.length + 1) cs).2

def markOf (cs : Chars) : Chars × Nat :=
  match cs with
  | '\'' :: r =>
    let t := r.takeWhile (· ≠ '\'')
    (t, t.length + 2)
  | '"' :: r =>
    let t := r.takeWhile (· ≠ '"')
    (t, t.length + 2)
  | cs =>
    let t := cs.takeWhile fun c => !isMeta c
    (t.filter fun c => !("\\'\"".toList.contains c), t.length)

def backQuoteSpan : Chars → Nat
  | [] => 0
  | '\\' :: _ :: r => backQuoteSpan r + 2
  | c :: r => if c = '\x60' then 0 else backQuoteSpan r + 1

structure Scan where
  stack : List Enclosure
  start : Bool
  fresh : Bool
  marks : List (Chars × Bool)

def Scan.push (s : Scan) (e : Enclosure) : Scan :=
  { s with stack := e :: s.stack, start := true, fresh := true }

def Scan.pop (s : Scan) : Scan := { s with stack := s.stack.drop 1, start := false, fresh := false }

def closer : Enclosure → Option Chars
  | .commands => some [')']
  | .cases => none
  | .expression => some [')', ')']
  | .brackets => some [')']
  | .operand _ => some ['\x7d']
  | .quotes => some ['"']

def closes (e : Enclosure) (cs : Chars) : Option Nat :=
  (closer e).bind fun t => if t.isPrefixOf cs then some t.length else none

def isQuoted : Enclosure → Bool
  | .quotes => true
  | .expression => true
  | .brackets => true
  | .operand q => q
  | _ => false

def openers : List String := ["if", "then", "else", "elif", "do", "while", "until", "!", "\x7b", "in"]

def commandStep (s : Scan) (c : Char) (r : Chars) : Scan × Nat :=
  let word := (c :: r).takeWhile fun c => !isMeta c && !("\\'\"$\x60".toList.contains c)
  if c = '\n' then
    ({ s with start := true, fresh := true, marks := [] },
      (r.length - (afterHere s.marks r).length) + 1)
  else if c = '#' ∧ s.fresh then (s, (r.takeWhile (· ≠ '\n')).length + 1)
  else if c = '(' then (s.push .commands, 1)
  else if c = ')' then ({ s with start := true, fresh := true }, 1)
  else if c = ' ' ∨ c = '\t' then ({ s with fresh := true }, 1)
  else if c = '<' ∧ r.head? = some '<' then
    let stripTabs : Bool := (r.drop 1).head? = some '-'
    let front := if stripTabs then 3 else 2
    let after := (c :: r).drop front
    let blanks := (after.takeWhile fun c => c = ' ' || c = '\t').length
    let (mark, n) := markOf (after.drop blanks)
    ({ s with start := false, fresh := false, marks := s.marks ++ [(mark, stripTabs)] },
      front + blanks + n)
  else if isMeta c then ({ s with start := c ≠ '<' && c ≠ '>', fresh := true }, 1)
  else if s.fresh ∧ !word.isEmpty then
    let name := String.ofList word
    let after := { s with fresh := false, start := s.start && openers.contains name }
    if s.start ∧ name = "case" then ({ after with stack := .cases :: s.stack }, word.length)
    else if s.start ∧ name = "esac" ∧ s.stack.head? = some .cases then (s.pop, word.length)
    else if name = "in" ∧ s.stack.head? = some .cases then
      ({ after with start := true }, word.length)
    else (after, word.length)
  else ({ s with start := false, fresh := false }, 1)

def step (s : Scan) (top : Enclosure) (c : Char) (r : Chars) : Scan × Nat :=
  let plain := { s with start := false, fresh := false }
  match c, r with
  | '\\', _ => (plain, 2)
  | '$', '(' :: '(' :: _ => (s.push .expression, 3)
  | '$', '(' :: _ => (s.push .commands, 2)
  | '$', '\x7b' :: _ => (s.push (.operand (isQuoted top)), 2)
  | '$', _ => (plain, 1)
  | '"', _ => if top = .quotes then (s.pop, 1) else ({ plain with stack := .quotes :: s.stack }, 1)
  | c, r =>
    if c = '\x60' then (plain, backQuoteSpan r + 2)
    else if c = '\'' ∧ !isQuoted top then
      let text := r.takeWhile (· ≠ '\'')
      if text.length < r.length then (plain, text.length + 2)
      else ({ plain with stack := .quotes :: s.stack }, r.length + 1)
    else
      match closes top (c :: r) with
      | some n => (s.pop, n)
      | none =>
        match top with
        | .commands => commandStep s c r
        | .cases => commandStep s c r
        | .expression => (if c = '(' then s.push .brackets else s, 1)
        | .brackets => (if c = '(' then s.push .brackets else s, 1)
        | _ => (s, 1)

def spanFrom : Nat → Scan → (taken : Nat) → Chars → Except Enclosure Nat
  | 0, s, _, _ => .error (s.stack.headD .quotes)
  | _ + 1, s, _, [] => .error (s.stack.headD .quotes)
  | fuel + 1, s, taken, c :: r =>
    match s.stack with
    | [] => .ok taken
    | top :: below =>
      if below.isEmpty ∧ (closes top (c :: r)).isSome then .ok taken
      else
        let (s, n) := step s top c r
        spanFrom fuel s (taken + n) ((c :: r).drop n)

def span (e : Enclosure) (cs : Chars) : Except Enclosure Nat :=
  spanFrom (cs.length + 1) ⟨[e], true, true, []⟩ 0 cs

end Enclosure

end TreePipeline.Shell
