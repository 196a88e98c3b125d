import TreePipeline.Text.Utf8

/-!
Bounded capture of a tool's output. A stream is read to its end but only its first octets are kept;
what is kept of the two streams is joined and cut once more.
-/

namespace TreePipeline.Capture

def readSize : Nat := 8192

structure Kept where
  octets : Octets
  truncated : Bool
  deriving DecidableEq

def Kept.empty : Kept := ⟨[], false⟩

def Kept.add (limit : Nat) (k : Kept) (chunk : Octets) : Kept :=
  let room := limit - k.octets.length
  ⟨k.octets ++ chunk.take room, k.truncated || decide (room < chunk.length)⟩

def readsOf : Nat → Octets → List Octets
  | 0, chunk => [chunk]
  | n + 1, chunk =>
    if chunk.length ≤ readSize then [chunk]
    else chunk.take readSize :: readsOf n (chunk.drop readSize)

/-- Takes in the reads of a stream up to an empty one, which is its end. -/
def readChunks (limit : Nat) (k : Kept) : List Octets → Kept × Bool
  | [] => (k, false)
  | chunk :: r =>
    if chunk.isEmpty then (k, true)
    else readChunks limit ((readsOf chunk.length chunk).foldl (Kept.add limit) k) r

/-- Reads a stream of chunks to its end. An error after the chunks is met only if none of them is
the end. -/
def readBounded {ε : Type} (chunks : List Octets) (after : Option ε) (limit : Nat) : Except ε Kept :=
  match readChunks limit .empty chunks with
  | (k, true) => .ok k
  | (k, false) =>
    match after with
    | none => .ok k
    | some e => .error e

/-- The text of both streams, standard output first, and whether it was cut. -/
def combine (out err : Octets) (limit : Nat) : String × Bool :=
  let both := out ++ err
  (Utf8.decodeLossy (both.take limit), decide (limit < both.length))

end TreePipeline.Capture
