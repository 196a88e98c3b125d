import TreePipeline.Hash.Md5
import TreePipeline.Hash.Sha

/-! The hash function BLAKE2b without a key, whose results have from one to 64 octets. -/

namespace TreePipeline.Blake2b

def orders : List (List Nat) :=
  [[0, 1, 2, 3, 4, 5, 6, 7, 8, 9, 10, 11, 12, 13, 14, 15],
    [14, 10, 4, 8, 9, 15, 13, 6, 1, 12, 0, 2, 11, 7, 5, 3],
    [11, 8, 12, 0, 5, 2, 15, 13, 10, 14, 3, 6, 7, 1, 9, 4],
    [7, 9, 3, 1, 13, 12, 11, 14, 2, 6, 5, 10, 4, 0, 15, 8],
    [9, 0, 5, 7, 2, 4, 10, 15, 14, 1, 11, 12, 6, 8, 3, 13],
    [2, 12, 6, 10, 0, 11, 8, 3, 4, 13, 7, 5, 15, 14, 1, 9],
    [12, 5, 1, 15, 14, 13, 4, 10, 0, 7, 6, 3, 9, 2, 8, 11],
    [13, 11, 7, 14, 12, 1, 3, 9, 5, 0, 15, 4, 8, 6, 2, 10],
    [6, 15, 14, 9, 11, 3, 0, 8, 12, 2, 13, 7, 1, 4, 10, 5],
    [10, 2, 8, 4, 7, 6, 1, 5, 15, 11, 9, 14, 3, 12, 13, 0]]

def places : List (Nat × Nat × Nat × Nat) :=
  [(0, 4, 8, 12), (1, 5, 9, 13), (2, 6, 10, 14), (3, 7, 11, 15),
    (0, 5, 10, 15), (1, 6, 11, 12), (2, 7, 8, 13), (3, 4, 9, 14)]

def mix (v : Array UInt64) (p : Nat × Nat × Nat × Nat) (x y : UInt64) : Array UInt64 :=
  let (i, j, k, l) := p
  let half (v : Array UInt64) (m r s : UInt64) : Array UInt64 :=
    let a := v.getD i 0 + v.getD j 0 + m
    let d := Sha512.rotate (v.getD l 0 ^^^ a) r
    let c := v.getD k 0 + d
    let b := Sha512.rotate (v.getD j 0 ^^^ c) s
    (((v.setIfInBounds i a).setIfInBounds j b).setIfInBounds k c).setIfInBounds l d
  half (half v x 32 24) y 16 63

def word (bs : Octets) : UInt64 := bs.foldr (fun b acc => (acc <<< 8) ||| b.toUInt64) 0

def compress (h : List UInt64) (block : Octets) (count : Nat) (last : Bool) : List UInt64 :=
  let full := block ++ List.replicate (128 - block.length) 0
  let words := (List.range 16).map fun i => word ((full.drop (8 * i)).take 8)
  let start := Sha512.Chain.initial.words
  let low := start.getD 4 0 ^^^ count.toUInt64
  let high := start.getD 5 0 ^^^ (count / Nat.pow 2 64).toUInt64
  let final := if last then ~~~ start.getD 6 0 else start.getD 6 0
  let v := (h ++ start.take 4 ++ [low, high, final, start.getD 7 0]).toArray
  let round (v : Array UInt64) (r : Nat) : Array UInt64 :=
    let order := orders.getD (r % 10) []
    let m (i : Nat) : UInt64 := words.getD (order.getD i 0) 0
    places.zipIdx.foldl (fun v (p, i) => mix v p (m (2 * i)) (m (2 * i + 1))) v
  let v := (List.range 12).foldl round v
  h.zipIdx.map fun (x, i) => x ^^^ v.getD i 0 ^^^ v.getD (i + 8) 0

def absorb (h : List UInt64) : (fuel count : Nat) → Octets → List UInt64
  | 0, _, _ => h
  | fuel + 1, count, bs =>
    if bs.length ≤ 128 then compress h bs (count + bs.length) true
    else absorb (compress h (bs.take 128) (count + 128) false) fuel (count + 128) (bs.drop 128)

def hash (size : Nat) (message : Octets) : Octets :=
  let start := match Sha512.Chain.initial.words with
    | w :: ws => (w ^^^ 0x01010000 ^^^ size.toUInt64) :: ws
    | [] => []
  ((absorb start (message.length / 128 + 1) 0 message).flatMap fun w => Md5.littleEndian 8 w.toNat).take size

end TreePipeline.Blake2b
