import TreePipeline.Shell.Command

/-! Patterns for names and texts. A character that was quoted stands for itself. -/

namespace TreePipeline.Shell

abbrev Marked := List (Char × Bool)

namespace Pattern

inductive Item where
  | one (c : Char)
  | any
  | many
  | set (negated : Bool) (ranges : List (Char × Char))
  deriving DecidableEq

def hasSpecial : Marked → Bool
  | [] => false
  | (c, q) :: r =>
    !q && (c = '*' || c = '?' || (c = '[' && r.any fun e => e.1 = ']')) || hasSpecial r

def classRanges (name : String) : List (Char × Char) :=
  match name with
  | "alpha" => [('A', 'Z'), ('a', 'z')]
  | "digit" => [('0', '9')]
  | "alnum" => [('A', 'Z'), ('a', 'z'), ('0', '9')]
  | "upper" => [('A', 'Z')]
  | "lower" => [('a', 'z')]
  | "space" => [(' ', ' '), ('\t', '\r')]
  | "blank" => [(' ', ' '), ('\t', '\t')]
  | "xdigit" => [('0', '9'), ('A', 'F'), ('a', 'f')]
  | "punct" => [('!', '/'), (':', '@'), ('[', '\x60'), ('\x7b', '~')]
  | "cntrl" => [('\x00', '\x1f'), ('\x7f', '\x7f')]
  | "print" => [(' ', '~')]
  | "graph" => [('!', '~')]
  | _ => []

def className? (m : Marked) : Option (String × Marked) :=
  match m with
  | ('[', false) :: (':', _) :: r =>
    let name := (r.takeWhile fun e => e.1.isAlpha).map Prod.fst
    match r.drop name.length with
    | (':', _) :: (']', _) :: r => some (String.ofList name, r)
    | _ => none
  | _ => none

def ranges : Nat → Marked → List (Char × Char) → Option (List (Char × Char) × Marked)
  | 0, _, _ => none
  | fuel + 1, m, acc =>
    match className? m, m with
    | some (name, r), _ => ranges fuel r (classRanges name ++ acc)
    | none, [] => none
    | none, (a, qa) :: r =>
      if a = ']' ∧ !qa ∧ acc ≠ [] then some (acc, r)
      else
        match r with
        | ('-', false) :: (b, qb) :: r' =>
          if b = ']' ∧ !qb then ranges fuel r ((a, a) :: acc)
          else ranges fuel r' ((a, b) :: acc)
        | _ => ranges fuel r ((a, a) :: acc)

def compileWith : Nat → Marked → List Item
  | 0, _ => []
  | fuel + 1, m =>
    match m with
    | [] => []
    | ('*', false) :: r => .many :: compileWith fuel r
    | ('?', false) :: r => .any :: compileWith fuel r
    | ('[', false) :: r =>
      let (negated, inside) := match r with
        | ('!', false) :: r' => (true, r')
        | r => (false, r)
      match ranges (inside.length + 1) inside [] with
      | some (rs, r') => .set negated rs :: compileWith fuel r'
      | none => .one '[' :: compileWith fuel r
    | (c, _) :: r => .one c :: compileWith fuel r

def compile (m : Marked) : List Item := compileWith (m.length + 1) m

def someSuffix (test : Chars → Bool) : Chars → Bool
  | [] => test []
  | c :: r => test (c :: r) || someSuffix test r

def matchItems : List Item → Chars → Bool
  | [], cs => cs.isEmpty
  | .many :: ps, cs => someSuffix (matchItems ps) cs
  | .any :: ps, cs =>
    match cs with
    | [] => false
    | _ :: r => matchItems ps r
  | .one d :: ps, cs =>
    match cs with
    | [] => false
    | c :: r => c = d && matchItems ps r
  | .set negated rs :: ps, cs =>
    match cs with
    | [] => false
    | c :: r => (rs.any fun (a, b) => a ≤ c && c ≤ b) != negated && matchItems ps r

def accepts (m : Marked) (cs : Chars) : Bool := matchItems (compile m) cs

def marked : Chars → Marked
  | '\\' :: c :: r => (c, true) :: marked r
  | c :: r => (c, false) :: marked r
  | [] => []

def admits (pattern cs : Chars) : Bool := accepts (marked pattern) cs

def trimFront (m : Marked) (longest : Bool) (cs : Chars) : Chars :=
  let items := compile m
  let cuts := (List.range (cs.length + 1)).filter fun n => matchItems items (cs.take n)
  match if longest then cuts.getLast? else cuts.head? with
  | some n => cs.drop n
  | none => cs

def trimBack (m : Marked) (longest : Bool) (cs : Chars) : Chars :=
  let items := compile m
  let cuts := (List.range (cs.length + 1)).filter fun n => matchItems items (cs.drop n)
  match if longest then cuts.head? else cuts.getLast? with
  | some n => cs.take n
  | none => cs

end Pattern

end TreePipeline.Shell
