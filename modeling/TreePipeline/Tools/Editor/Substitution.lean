import TreePipeline.Tools.Editor.Script

/-! What the stream editor does to the text of a line: it puts new pieces in place of matches, replaces
letters, and spells a text so that all of it can be seen. -/

namespace TreePipeline.Tools.Editor

open Shell

structure CaseState where
  raised : Option Bool := none
  next : Option Bool := none

def inCase (raised : Option Bool) (c : Char) : Char :=
  match raised with
  | none => c
  | some true => c.toUpper
  | some false => c.toLower

def addInCase (s : CaseState) (cs acc : Chars) : CaseState × Chars :=
  match cs with
  | [] => (s, acc)
  | c :: r =>
    let first := inCase (s.next.or s.raised) c
    ({ s with next := none }, (r.map (inCase s.raised)).reverse ++ first :: acc)

def CaseState.change (s : CaseState) : CaseMark → CaseState
  | .upper => { s with raised := some true }
  | .lower => { s with raised := some false }
  | .upperNext => { s with next := some true }
  | .lowerNext => { s with next := some false }
  | .stop => {}

def replacement (pieces : List Piece) (m : Match) (text : Chars) : Chars :=
  let step (r : CaseState × Chars) (p : Piece) : CaseState × Chars :=
    match p with
    | .text cs => addInCase r.1 cs r.2
    | .group n => addInCase r.1 (m.piece text n) r.2
    | .mark c => (r.1.change c, r.2)
  (pieces.foldl step ({}, [])).2.reverse

structure Cursor where
  place : Nat
  before : Option Char
  rest : Chars

def Cursor.advance (k : Cursor) (n : Nat) : Cursor :=
  ⟨k.place + n, if n = 0 then k.before else (k.rest.take n).getLast?, k.rest.drop n⟩

def replaceFrom (m : Matcher) (s : Substitution) (text : Chars) :
    Nat → Cursor → (ended : Option Nat) → (count : Nat) → (done : Bool) → (acc : Chars) → Bool × Chars
  | 0, k, _, _, done, acc => (done, acc.reverse ++ k.rest)
  | fuel + 1, k, ended, count, done, acc =>
    match m.findFrom false text k.before k.place k.rest with
    | none => (done, acc.reverse ++ k.rest)
    | some found =>
      let skipped := k.rest.take (found.start - k.place)
      let k := k.advance (found.start - k.place)
      let matched := k.rest.take (found.stop - found.start)
      let acc := skipped.reverse ++ acc
      let after := k.advance matched.length
      let goOn (count : Nat) (done : Bool) (acc : Chars) : Bool × Chars :=
        match matched, after.rest with
        | [], [] => (done, acc.reverse)
        | [], c :: _ =>
          replaceFrom m s text fuel (after.advance 1) (some found.stop) count done (c :: acc)
        | _, _ => replaceFrom m s text fuel after (some found.stop) count done acc
      if matched.isEmpty ∧ ended = some found.start then goOn count done acc
      else if count + 1 < s.from_ then goOn (count + 1) done (matched.reverse ++ acc)
      else
        let acc := (replacement s.pieces found text).reverse ++ acc
        if s.everywhere then goOn (count + 1) true acc else (true, acc.reverse ++ after.rest)

def substituted? (m : Matcher) (s : Substitution) (text : Chars) : Option Chars :=
  match replaceFrom m s text (text.length + 2) ⟨0, none, text⟩ none 0 false [] with
  | (true, r) => some r
  | (false, _) => none

def exchanged (source target : Chars) (c : Char) : Char :=
  ((source.zip target).lookup c).getD c

def spelled (c : Char) : Chars :=
  match c with
  | '\\' => ['\\', '\\']
  | '\x07' => ['\\', 'a']
  | '\x08' => ['\\', 'b']
  | '\x0c' => ['\\', 'f']
  | '\n' => ['\\', 'n']
  | '\r' => ['\\', 'r']
  | '\t' => ['\\', 't']
  | '\x0b' => ['\\', 'v']
  | c =>
    if ' ' ≤ c ∧ c ≤ '~' then [c]
    else
      let digit (n : Nat) : Char := Char.ofNat (48 + n % 8)
      ['\\', digit (c.toNat / 64), digit (c.toNat / 8), digit c.toNat]

def spelledLines (width : Nat) : Chars → (used : Nat) → Chars
  | [], _ => ['$', '\n']
  | c :: r, used =>
    let sign := spelled c
    if 0 < width ∧ width - 1 < used + sign.length then
      ['\\', '\n'] ++ sign ++ spelledLines width r sign.length
    else sign ++ spelledLines width r (used + sign.length)

end TreePipeline.Tools.Editor
