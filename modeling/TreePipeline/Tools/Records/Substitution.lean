import TreePipeline.Tools.Records.Separation

/-!
Replacing what is found in a text. In a replacement an ampersand stands for what was found, unless a
backslash is in front of it; in front of an ampersand two backslashes stand for one.
-/

namespace TreePipeline.Tools.Records

open Shell

inductive Piece where
  | plain (cs : Chars)
  | found

namespace Piece

def ofText : Nat → Chars → List Piece
  | 0, _ => []
  | _ + 1, [] => []
  | fuel + 1, '&' :: r => found :: ofText fuel r
  | fuel + 1, '\\' :: r =>
    let slashes := '\\' :: r.takeWhile (· = '\\')
    let n := slashes.length
    match r.drop (n - 1) with
    | '&' :: r =>
      plain (List.replicate (n / 2) '\\') :: (if n % 2 = 1 then plain ['&'] else found) :: ofText fuel r
    | r => plain slashes :: ofText fuel r
  | fuel + 1, c :: r => plain [c] :: ofText fuel r

def text (match_ : Chars) : Piece → Chars
  | plain cs => cs
  | found => match_

end Piece

namespace Substitution

def all (m : Matcher) (pieces : List Piece) : Nat → (before : Option Char) → (after : Bool) → Chars →
    Chars × Nat
  | 0, _, _, cs => (cs, 0)
  | fuel + 1, before, after, cs =>
    match m.findFrom false cs before 0 cs with
    | none => (cs, 0)
    | some f =>
      if f.stop = 0 ∧ after then
        match cs with
        | [] => ([], 0)
        | c :: r =>
          let (t, n) := all m pieces fuel (some c) false r
          (c :: t, n)
      else
        let match_ := (cs.drop f.start).take (f.stop - f.start)
        let done := cs.take f.start ++ pieces.flatMap (Piece.text match_)
        if f.start < f.stop then
          let (t, n) := all m pieces fuel match_.getLast? true (cs.drop f.stop)
          (done ++ t, n + 1)
        else
          match cs.drop f.stop with
          | [] => (done, 1)
          | c :: r =>
            let (t, n) := all m pieces fuel (some c) false r
            (done ++ c :: t, n + 1)

def first (m : Matcher) (pieces : List Piece) (cs : Chars) : Chars × Nat :=
  match m.find? cs with
  | none => (cs, 0)
  | some f => (cs.take f.start ++ pieces.flatMap (Piece.text (f.piece cs 0)) ++ cs.drop f.stop, 1)

end Substitution

end TreePipeline.Tools.Records
