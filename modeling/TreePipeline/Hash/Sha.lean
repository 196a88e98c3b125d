import TreePipeline.Text.Octets

/-! The hash functions SHA-1 and SHA-2 on octet sequences. -/

/-! The hash function SHA-256 on octet sequences, and SHA-224, which starts elsewhere and keeps less. -/

namespace TreePipeline.Sha256

def roundConstants : List UInt32 :=
  [0x428a2f98, 0x71374491, 0xb5c0fbcf, 0xe9b5dba5, 0x3956c25b, 0x59f111f1, 0x923f82a4, 0xab1c5ed5,
    0xd807aa98, 0x12835b01, 0x243185be, 0x550c7dc3, 0x72be5d74, 0x80deb1fe, 0x9bdc06a7, 0xc19bf174,
    0xe49b69c1, 0xefbe4786, 0x0fc19dc6, 0x240ca1cc, 0x2de92c6f, 0x4a7484aa, 0x5cb0a9dc, 0x76f988da,
    0x983e5152, 0xa831c66d, 0xb00327c8, 0xbf597fc7, 0xc6e00bf3, 0xd5a79147, 0x06ca6351, 0x14292967,
    0x27b70a85, 0x2e1b2138, 0x4d2c6dfc, 0x53380d13, 0x650a7354, 0x766a0abb, 0x81c2c92e, 0x92722c85,
    0xa2bfe8a1, 0xa81a664b, 0xc24b8b70, 0xc76c51a3, 0xd192e819, 0xd6990624, 0xf40e3585, 0x106aa070,
    0x19a4c116, 0x1e376c08, 0x2748774c, 0x34b0bcb5, 0x391c0cb3, 0x4ed8aa4a, 0x5b9cca4f, 0x682e6ff3,
    0x748f82ee, 0x78a5636f, 0x84c87814, 0x8cc70208, 0x90befffa, 0xa4506ceb, 0xbef9a3f7, 0xc67178f2]

structure Chain where
  a : UInt32
  b : UInt32
  c : UInt32
  d : UInt32
  e : UInt32
  f : UInt32
  g : UInt32
  h : UInt32

def Chain.initial : Chain :=
  ⟨0x6a09e667, 0xbb67ae85, 0x3c6ef372, 0xa54ff53a, 0x510e527f, 0x9b05688c, 0x1f83d9ab, 0x5be0cd19⟩

def Chain.add (s t : Chain) : Chain :=
  ⟨s.a + t.a, s.b + t.b, s.c + t.c, s.d + t.d, s.e + t.e, s.f + t.f, s.g + t.g, s.h + t.h⟩

def Chain.words (s : Chain) : List UInt32 := [s.a, s.b, s.c, s.d, s.e, s.f, s.g, s.h]

def rotate (x : UInt32) (n : UInt32) : UInt32 := (x >>> n) ||| (x <<< (32 - n))

def round (s : Chain) (k w : UInt32) : Chain :=
  let choice := (s.e &&& s.f) ^^^ ((~~~ s.e) &&& s.g)
  let majority := (s.a &&& s.b) ^^^ (s.a &&& s.c) ^^^ (s.b &&& s.c)
  let t := s.h + (rotate s.e 6 ^^^ rotate s.e 11 ^^^ rotate s.e 25) + choice + k + w
  let u := (rotate s.a 2 ^^^ rotate s.a 13 ^^^ rotate s.a 22) + majority
  ⟨t + u, s.a, s.b, s.c, s.d + t, s.e, s.f, s.g⟩

def mixLow (x : UInt32) : UInt32 := rotate x 7 ^^^ rotate x 18 ^^^ (x >>> 3)

def mixHigh (x : UInt32) : UInt32 := rotate x 17 ^^^ rotate x 19 ^^^ (x >>> 10)

def rounds : List UInt32 → List UInt32 → Chain → Chain
  | k :: ks, w :: rest, s =>
    let next := mixHigh (rest.getD 13 0) + rest.getD 8 0 + mixLow (rest.getD 0 0) + w
    rounds ks (rest ++ [next]) (round s k w)
  | _, _, s => s

def word (bs : Octets) : UInt32 := bs.foldl (fun acc b => (acc <<< 8) ||| b.toUInt32) 0

def blockWords (block : Octets) : List UInt32 :=
  (List.range 16).map fun i => word ((block.drop (4 * i)).take 4)

def compress (s : Chain) (block : Octets) : Chain :=
  s.add (rounds roundConstants (blockWords block) s)

def bigEndian (width n : Nat) : Octets :=
  (List.range width).map fun i => (n / Nat.pow 256 (width - 1 - i)).toUInt8

def pad (message : Octets) : Octets :=
  let n := message.length
  message ++ 0x80 :: List.replicate ((119 - n % 64) % 64) 0 ++ bigEndian 8 (8 * n)

def absorb (s : Chain) : Nat → Octets → Chain
  | 0, _ => s
  | n + 1, bs => absorb (compress s (bs.take 64)) n (bs.drop 64)

def hashFrom (start : Chain) (message : Octets) : Octets :=
  let padded := pad message
  (absorb start (padded.length / 64) padded).words.flatMap fun w => bigEndian 4 w.toNat

def hash (message : Octets) : Octets := hashFrom Chain.initial message

def shortStart : Chain :=
  ⟨0xc1059ed8, 0x367cd507, 0x3070dd17, 0xf70e5939, 0xffc00b31, 0x68581511, 0x64f98fa7, 0xbefa4fa4⟩

def shortHash (message : Octets) : Octets := (hashFrom shortStart message).take 28

end TreePipeline.Sha256

namespace TreePipeline

def shortDigest (bs : Octets) : String := Octets.toHex ((Sha256.hash bs).take 8)

end TreePipeline

/-! The hash function SHA-1 on octet sequences. -/

namespace TreePipeline.Sha1

structure Chain where
  a : UInt32
  b : UInt32
  c : UInt32
  d : UInt32
  e : UInt32

def Chain.initial : Chain := ⟨0x67452301, 0xefcdab89, 0x98badcfe, 0x10325476, 0xc3d2e1f0⟩

def Chain.add (s t : Chain) : Chain := ⟨s.a + t.a, s.b + t.b, s.c + t.c, s.d + t.d, s.e + t.e⟩

def Chain.words (s : Chain) : List UInt32 := [s.a, s.b, s.c, s.d, s.e]

def rotate (x n : UInt32) : UInt32 := (x <<< n) ||| (x >>> (32 - n))

def mix (s : Chain) (i : Nat) : UInt32 × UInt32 :=
  if i < 20 then ((s.b &&& s.c) ||| (~~~ s.b &&& s.d), 0x5a827999)
  else if i < 40 then (s.b ^^^ s.c ^^^ s.d, 0x6ed9eba1)
  else if i < 60 then ((s.b &&& s.c) ||| (s.b &&& s.d) ||| (s.c &&& s.d), 0x8f1bbcdc)
  else (s.b ^^^ s.c ^^^ s.d, 0xca62c1d6)

def rounds : (left i : Nat) → (window : List UInt32) → Chain → Chain
  | left + 1, i, w :: rest, s =>
    let (f, k) := mix s i
    let next := rotate (rest.getD 12 0 ^^^ rest.getD 7 0 ^^^ rest.getD 1 0 ^^^ w) 1
    rounds left (i + 1) (rest ++ [next]) ⟨rotate s.a 5 + f + s.e + k + w, s.a, rotate s.b 30, s.c, s.d⟩
  | _, _, _, s => s

def compress (s : Chain) (block : Octets) : Chain := s.add (rounds 80 0 (Sha256.blockWords block) s)

def absorb (s : Chain) : Nat → Octets → Chain
  | 0, _ => s
  | n + 1, bs => absorb (compress s (bs.take 64)) n (bs.drop 64)

def hash (message : Octets) : Octets :=
  let padded := Sha256.pad message
  (absorb Chain.initial (padded.length / 64) padded).words.flatMap fun w => Sha256.bigEndian 4 w.toNat

end TreePipeline.Sha1

/-! The hash function SHA-512 on octet sequences, and SHA-384, which starts elsewhere and keeps less. -/

namespace TreePipeline.Sha512

def roundConstants : List UInt64 :=
  [0x428a2f98d728ae22, 0x7137449123ef65cd, 0xb5c0fbcfec4d3b2f, 0xe9b5dba58189dbbc,
    0x3956c25bf348b538, 0x59f111f1b605d019, 0x923f82a4af194f9b, 0xab1c5ed5da6d8118,
    0xd807aa98a3030242, 0x12835b0145706fbe, 0x243185be4ee4b28c, 0x550c7dc3d5ffb4e2,
    0x72be5d74f27b896f, 0x80deb1fe3b1696b1, 0x9bdc06a725c71235, 0xc19bf174cf692694,
    0xe49b69c19ef14ad2, 0xefbe4786384f25e3, 0x0fc19dc68b8cd5b5, 0x240ca1cc77ac9c65,
    0x2de92c6f592b0275, 0x4a7484aa6ea6e483, 0x5cb0a9dcbd41fbd4, 0x76f988da831153b5,
    0x983e5152ee66dfab, 0xa831c66d2db43210, 0xb00327c898fb213f, 0xbf597fc7beef0ee4,
    0xc6e00bf33da88fc2, 0xd5a79147930aa725, 0x06ca6351e003826f, 0x142929670a0e6e70,
    0x27b70a8546d22ffc, 0x2e1b21385c26c926, 0x4d2c6dfc5ac42aed, 0x53380d139d95b3df,
    0x650a73548baf63de, 0x766a0abb3c77b2a8, 0x81c2c92e47edaee6, 0x92722c851482353b,
    0xa2bfe8a14cf10364, 0xa81a664bbc423001, 0xc24b8b70d0f89791, 0xc76c51a30654be30,
    0xd192e819d6ef5218, 0xd69906245565a910, 0xf40e35855771202a, 0x106aa07032bbd1b8,
    0x19a4c116b8d2d0c8, 0x1e376c085141ab53, 0x2748774cdf8eeb99, 0x34b0bcb5e19b48a8,
    0x391c0cb3c5c95a63, 0x4ed8aa4ae3418acb, 0x5b9cca4f7763e373, 0x682e6ff3d6b2b8a3,
    0x748f82ee5defb2fc, 0x78a5636f43172f60, 0x84c87814a1f0ab72, 0x8cc702081a6439ec,
    0x90befffa23631e28, 0xa4506cebde82bde9, 0xbef9a3f7b2c67915, 0xc67178f2e372532b,
    0xca273eceea26619c, 0xd186b8c721c0c207, 0xeada7dd6cde0eb1e, 0xf57d4f7fee6ed178,
    0x06f067aa72176fba, 0x0a637dc5a2c898a6, 0x113f9804bef90dae, 0x1b710b35131c471b,
    0x28db77f523047d84, 0x32caab7b40c72493, 0x3c9ebe0a15c9bebc, 0x431d67c49c100d4c,
    0x4cc5d4becb3e42b6, 0x597f299cfc657e2a, 0x5fcb6fab3ad6faec, 0x6c44198c4a475817]

structure Chain where
  a : UInt64
  b : UInt64
  c : UInt64
  d : UInt64
  e : UInt64
  f : UInt64
  g : UInt64
  h : UInt64

def Chain.initial : Chain :=
  ⟨0x6a09e667f3bcc908, 0xbb67ae8584caa73b, 0x3c6ef372fe94f82b, 0xa54ff53a5f1d36f1,
    0x510e527fade682d1, 0x9b05688c2b3e6c1f, 0x1f83d9abfb41bd6b, 0x5be0cd19137e2179⟩

def Chain.shortStart : Chain :=
  ⟨0xcbbb9d5dc1059ed8, 0x629a292a367cd507, 0x9159015a3070dd17, 0x152fecd8f70e5939,
    0x67332667ffc00b31, 0x8eb44a8768581511, 0xdb0c2e0d64f98fa7, 0x47b5481dbefa4fa4⟩

def Chain.add (s t : Chain) : Chain :=
  ⟨s.a + t.a, s.b + t.b, s.c + t.c, s.d + t.d, s.e + t.e, s.f + t.f, s.g + t.g, s.h + t.h⟩

def Chain.words (s : Chain) : List UInt64 := [s.a, s.b, s.c, s.d, s.e, s.f, s.g, s.h]

def rotate (x n : UInt64) : UInt64 := (x >>> n) ||| (x <<< (64 - n))

def round (s : Chain) (k w : UInt64) : Chain :=
  let choice := (s.e &&& s.f) ^^^ ((~~~ s.e) &&& s.g)
  let majority := (s.a &&& s.b) ^^^ (s.a &&& s.c) ^^^ (s.b &&& s.c)
  let t := s.h + (rotate s.e 14 ^^^ rotate s.e 18 ^^^ rotate s.e 41) + choice + k + w
  let u := (rotate s.a 28 ^^^ rotate s.a 34 ^^^ rotate s.a 39) + majority
  ⟨t + u, s.a, s.b, s.c, s.d + t, s.e, s.f, s.g⟩

def mixLow (x : UInt64) : UInt64 := rotate x 1 ^^^ rotate x 8 ^^^ (x >>> 7)

def mixHigh (x : UInt64) : UInt64 := rotate x 19 ^^^ rotate x 61 ^^^ (x >>> 6)

def rounds : List UInt64 → (window : List UInt64) → Chain → Chain
  | k :: ks, w :: rest, s =>
    let next := mixHigh (rest.getD 13 0) + rest.getD 8 0 + mixLow (rest.getD 0 0) + w
    rounds ks (rest ++ [next]) (round s k w)
  | _, _, s => s

def word (bs : Octets) : UInt64 := bs.foldl (fun acc b => (acc <<< 8) ||| b.toUInt64) 0

def compress (s : Chain) (block : Octets) : Chain :=
  s.add (rounds roundConstants ((List.range 16).map fun i => word ((block.drop (8 * i)).take 8)) s)

def pad (message : Octets) : Octets :=
  let n := message.length
  message ++ 0x80 :: List.replicate ((239 - n % 128) % 128) 0 ++ Sha256.bigEndian 16 (8 * n)

def absorb (s : Chain) : Nat → Octets → Chain
  | 0, _ => s
  | n + 1, bs => absorb (compress s (bs.take 128)) n (bs.drop 128)

def hashFrom (start : Chain) (message : Octets) : Octets :=
  let padded := pad message
  (absorb start (padded.length / 128) padded).words.flatMap fun w => Sha256.bigEndian 8 w.toNat

def hash (message : Octets) : Octets := hashFrom Chain.initial message

def shortHash (message : Octets) : Octets := (hashFrom Chain.shortStart message).take 48

end TreePipeline.Sha512
