import TreePipeline.Json.Value
import TreePipeline.Number.Shortest

/-! Writing JSON text, on one line or with each item on a line of its own. -/

namespace TreePipeline.Json

def escapeChar (c : Char) : List Char :=
  match c with
  | '"' => ['\\', '"']
  | '\\' => ['\\', '\\']
  | '\x08' => ['\\', 'b']
  | '\x0c' => ['\\', 'f']
  | '\n' => ['\\', 'n']
  | '\r' => ['\\', 'r']
  | '\t' => ['\\', 't']
  | c =>
    if c.toNat < 32 then
      let ds := Nat.toDigits 16 c.toNat
      ['\\', 'u'] ++ List.replicate (4 - ds.length) '0' ++ ds
    else [c]

def stringText (s : String) : List Char := '"' :: s.toList.flatMap escapeChar ++ ['"']

def scalarText : Json → List Char
  | .null => "null".toList
  | .bool true => "true".toList
  | .bool false => "false".toList
  | .integer n => (toString n).toList
  | .float x => if x.isFinite then x.toText.toList else "null".toList
  | .string s => stringText s
  | .array _ => []
  | .object _ => []

structure Layout where
  afterName : List Char
  beforeItem : Nat → List Char

def Layout.compact : Layout := ⟨[':'], fun _ => []⟩

def Layout.indented : Layout := ⟨[':', ' '], fun depth => '\n' :: List.replicate (2 * depth) ' '⟩

mutual

def textAt (l : Layout) (depth : Nat) : Json → List Char
  | .array [] => ['[', ']']
  | .array (v :: vs) =>
    '[' :: l.beforeItem (depth + 1) ++ textAt l (depth + 1) v ++ itemsText l depth vs
  | .object [] => ['\x7b', '\x7d']
  | .object ((k, v) :: ms) =>
    '\x7b' :: l.beforeItem (depth + 1) ++ stringText k ++ l.afterName ++ textAt l (depth + 1) v ++
      membersText l depth ms
  | v => scalarText v

def itemsText (l : Layout) (depth : Nat) : List Json → List Char
  | [] => l.beforeItem depth ++ [']']
  | v :: vs => ',' :: l.beforeItem (depth + 1) ++ textAt l (depth + 1) v ++ itemsText l depth vs

def membersText (l : Layout) (depth : Nat) : List (String × Json) → List Char
  | [] => l.beforeItem depth ++ ['\x7d']
  | (k, v) :: ms =>
    ',' :: l.beforeItem (depth + 1) ++ stringText k ++ l.afterName ++ textAt l (depth + 1) v ++
      membersText l depth ms

end

def compact (v : Json) : String := String.ofList (textAt .compact 0 v)

def pretty (v : Json) : String := String.ofList (textAt .indented 0 v)

end TreePipeline.Json
