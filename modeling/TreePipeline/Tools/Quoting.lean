import TreePipeline.Shell.Arithmetic

/-!
How file names and other words are shown in messages: as a shell would have to be given them, either
always in quotes or only where it is needed, or with escapes in quotes that are the same on both sides.
-/

namespace TreePipeline.Tools

open Shell

namespace Quoting

def isSpecial (c : Char) : Bool := "!\"$&()*;<=>?[^\x60|\\".toList.contains c

def isPrintable (c : Char) : Bool := ' ' ≤ c && c ≤ '~'

def escapeLetter? (c : Char) : Option Char :=
  match c with
  | '\x07' => some 'a'
  | '\x08' => some 'b'
  | '\x0c' => some 'f'
  | '\n' => some 'n'
  | '\r' => some 'r'
  | '\t' => some 't'
  | '\x0b' => some 'v'
  | _ => none

def octalDigit (n : Nat) : Char := Char.ofNat (48 + n % 8)

def escape (c : Char) : Chars :=
  match escapeLetter? c with
  | some l => ['\\', l]
  | none => ['\\', octalDigit (c.toNat / 64), octalDigit (c.toNat / 8), octalDigit c.toNat]

def needed (colons : Bool) (cs : Chars) : Bool :=
  match cs with
  | [] => true
  | ['\x7b'] => true
  | ['\x7d'] => true
  | c :: r =>
    c = '#' || c = '~' || (c :: r).any fun c =>
      isSpecial c || c = ' ' || c = '\'' || !isPrintable c || (colons && c = ':')

def inside : (escaped : Bool) → Chars → Chars
  | _, [] => []
  | escaped, c :: r =>
    if isPrintable c then
      (if escaped then ['\'', '\''] else []) ++
        (if c = '\'' then ['\'', '\\', '\'', '\''] else [c]) ++ inside false r
    else (if escaped then [] else ['\'', '$', '\'']) ++ escape c ++ inside true r

end Quoting

def inQuotes (cs : Chars) : Chars :=
  if cs.contains '\'' && !cs.any fun c => Quoting.isSpecial c || !Quoting.isPrintable c then
    '"' :: cs ++ ['"']
  else '\'' :: Quoting.inside false cs ++ ['\'']

def asWord (cs : Chars) : Chars := if Quoting.needed true cs then inQuotes cs else cs

def inPlainQuotes (cs : Chars) : Chars :=
  '\'' :: cs.flatMap (fun c =>
    if c = '\'' ∨ c = '\\' then ['\\', c] else if Quoting.isPrintable c then [c] else Quoting.escape c) ++
    ['\'']

end TreePipeline.Tools
