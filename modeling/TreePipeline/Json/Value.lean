import TreePipeline.Number.Binary64

/-!
JSON values. An object keeps its members in the order in which they were given; integers and
floating point numbers are apart, so `1` and `1.0` differ.
-/

namespace TreePipeline

inductive Json where
  | null
  | bool (b : Bool)
  | integer (n : Int)
  | float (x : Binary64)
  | string (s : String)
  | array (items : List Json)
  | object (members : List (String × Json))

namespace Json

abbrev Members := List (String × Json)

def Members.get? (ms : Members) (name : String) : Option Json :=
  ms.foldl (fun found (k, v) => if k = name then some v else found) none

def Members.put (name : String) (value : Json) : Members → Members
  | [] => [(name, value)]
  | (k, v) :: r => if k = name then (name, value) :: r else (k, v) :: Members.put name value r

def Members.erase (ms : Members) (name : String) : Members := ms.filter fun (k, _) => k ≠ name

def Members.sorted (ms : Members) : Members := ms.mergeSort fun a b => a.1 ≤ b.1

def overlay (base upper : Members) : Members :=
  upper.foldl (fun ms (k, v) => Members.put k v ms) base

def ofNat (n : Nat) : Json := .integer n

def strings (ss : List String) : Json := .array (ss.map .string)

def member? (name : String) : Json → Option Json
  | .object ms => Members.get? ms name
  | _ => none

end Json

end TreePipeline
