import TreePipeline.Text.Octets

/-! The hash function MD5 on octet sequences. -/

namespace TreePipeline.Md5

def roundConstants : List UInt32 :=
  [0xd76aa478, 0xe8c7b756, 0x242070db, 0xc1bdceee, 0xf57c0faf, 0x4787c62a, 0xa8304613, 0xfd469501,
    0x698098d8, 0x8b44f7af, 0xffff5bb1, 0x895cd7be, 0x6b901122, 0xfd987193, 0xa679438e, 0x49b40821,
    0xf61e2562, 0xc040b340, 0x265e5a51, 0xe9b6c7aa, 0xd62f105d, 0x02441453, 0xd8a1e681, 0xe7d3fbc8,
    0x21e1cde6, 0xc33707d6, 0xf4d50d87, 0x455a14ed, 0xa9e3e905, 0xfcefa3f8, 0x676f02d9, 0x8d2a4c8a,
    0xfffa3942, 0x8771f681, 0x6d9d6122, 0xfde5380c, 0xa4beea44, 0x4bdecfa9, 0xf6bb4b60, 0xbebfbc70,
    0x289b7ec6, 0xeaa127fa, 0xd4ef3085, 0x04881d05, 0xd9d4d039, 0xe6db99e5, 0x1fa27cf8, 0xc4ac5665,
    0xf4292244, 0x432aff97, 0xab9423a7, 0xfc93a039, 0x655b59c3, 0x8f0ccc92, 0xffeff47d, 0x85845dd1,
    0x6fa87e4f, 0xfe2ce6e0, 0xa3014314, 0x4e0811a1, 0xf7537e82, 0xbd3af235, 0x2ad7d2bb, 0xeb86d391]

def shifts : List (List UInt32) := [[7, 12, 17, 22], [5, 9, 14, 20], [4, 11, 16, 23], [6, 10, 15, 21]]

structure Chain where
  a : UInt32
  b : UInt32
  c : UInt32
  d : UInt32

def Chain.initial : Chain := ⟨0x67452301, 0xefcdab89, 0x98badcfe, 0x10325476⟩

def Chain.add (s t : Chain) : Chain := ⟨s.a + t.a, s.b + t.b, s.c + t.c, s.d + t.d⟩

def Chain.words (s : Chain) : List UInt32 := [s.a, s.b, s.c, s.d]

def rotate (x n : UInt32) : UInt32 := (x <<< n) ||| (x >>> (32 - n))

def mix (s : Chain) (i : Nat) : UInt32 × Nat :=
  if i < 16 then ((s.b &&& s.c) ||| (~~~ s.b &&& s.d), i)
  else if i < 32 then ((s.d &&& s.b) ||| (~~~ s.d &&& s.c), 5 * i + 1)
  else if i < 48 then (s.b ^^^ s.c ^^^ s.d, 3 * i + 5)
  else (s.c ^^^ (s.b ||| ~~~ s.d), 7 * i)

def round (words : List UInt32) (s : Chain) (i : Nat) (k : UInt32) : Chain :=
  let (f, place) := mix s i
  let sum := s.a + f + k + words.getD (place % 16) 0
  ⟨s.d, s.b + rotate sum ((shifts.getD (i / 16) []).getD (i % 4) 0), s.b, s.c⟩

def word (bs : Octets) : UInt32 := bs.foldr (fun b acc => (acc <<< 8) ||| b.toUInt32) 0

def compress (s : Chain) (block : Octets) : Chain :=
  let words := (List.range 16).map fun i => word ((block.drop (4 * i)).take 4)
  s.add ((roundConstants.zipIdx).foldl (fun s (k, i) => round words s i k) s)

def littleEndian (width n : Nat) : Octets := (List.range width).map fun i => (n / Nat.pow 256 i).toUInt8

def pad (message : Octets) : Octets :=
  let n := message.length
  message ++ 0x80 :: List.replicate ((119 - n % 64) % 64) 0 ++ littleEndian 8 (8 * n)

def absorb (s : Chain) : Nat → Octets → Chain
  | 0, _ => s
  | n + 1, bs => absorb (compress s (bs.take 64)) n (bs.drop 64)

def hash (message : Octets) : Octets :=
  let padded := pad message
  (absorb Chain.initial (padded.length / 64) padded).words.flatMap fun w => littleEndian 4 w.toNat

end TreePipeline.Md5

/-! Short checksums of octet sequences: the remainder of a division of polynomials, and two plain sums. -/

namespace TreePipeline.Checksum

def divisor : UInt32 := 0x04c11db7

def shiftOnce (r : UInt32) : UInt32 :=
  if r &&& 0x80000000 = 0 then r <<< 1 else (r <<< 1) ^^^ divisor

def step (r : UInt32) (b : UInt8) : UInt32 :=
  Nat.repeat shiftOnce 8 (r ^^^ (b.toUInt32 <<< 24))

def lowFirst : (fuel n : Nat) → Octets
  | 0, _ => []
  | fuel + 1, n => if n = 0 then [] else n.toUInt8 :: lowFirst fuel (n / 256)

def cyclic (bs : Octets) : UInt32 := ~~~ (bs ++ lowFirst 8 bs.length).foldl step 0

def rotating (bs : Octets) : Nat :=
  bs.foldl (fun sum b => (sum / 2 + sum % 2 * 32768 + b.toNat) % 65536) 0

def folded (bs : Octets) : Nat :=
  let total := (bs.foldl (fun sum b => sum + b.toNat) 0) % Nat.pow 2 32
  let once := total % 65536 + total / 65536
  once % 65536 + once / 65536

end TreePipeline.Checksum
