import ArtifactPipeline.Text.Quoted
import ArtifactPipeline.Text.Utf8

/-!
# The secure hash algorithms

The digest of a file's octets records exactly which file a configuration was read from. A message is
padded to whole blocks, each block is expanded to a schedule of words, and each word mixes one round
into a state.

* `Sha256` : blocks of sixty-four octets, sixty-four words, and a state of eight words;
* `Sha1` : digests of twenty octets, of eighty words to a block and a state of five words; blocks are
  padded as for the longer digest;
* `Sha512` : digests of sixty-four and of forty-eight octets, with words of sixty-four bits and blocks of
  a hundred and twenty-eight octets;
* `Sha256.length_pad`, `Sha512.length_pad` : the padded message consists of whole blocks.
-/

/-! ### Thirty-two octets -/

namespace ArtifactPipeline.Digest.Sha256

/-- The round constants. -/
def constants : List UInt32 :=
  [0x428a2f98, 0x71374491, 0xb5c0fbcf, 0xe9b5dba5, 0x3956c25b, 0x59f111f1, 0x923f82a4, 0xab1c5ed5,
    0xd807aa98, 0x12835b01, 0x243185be, 0x550c7dc3, 0x72be5d74, 0x80deb1fe, 0x9bdc06a7, 0xc19bf174,
    0xe49b69c1, 0xefbe4786, 0x0fc19dc6, 0x240ca1cc, 0x2de92c6f, 0x4a7484aa, 0x5cb0a9dc, 0x76f988da,
    0x983e5152, 0xa831c66d, 0xb00327c8, 0xbf597fc7, 0xc6e00bf3, 0xd5a79147, 0x06ca6351, 0x14292967,
    0x27b70a85, 0x2e1b2138, 0x4d2c6dfc, 0x53380d13, 0x650a7354, 0x766a0abb, 0x81c2c92e, 0x92722c85,
    0xa2bfe8a1, 0xa81a664b, 0xc24b8b70, 0xc76c51a3, 0xd192e819, 0xd6990624, 0xf40e3585, 0x106aa070,
    0x19a4c116, 0x1e376c08, 0x2748774c, 0x34b0bcb5, 0x391c0cb3, 0x4ed8aa4a, 0x5b9cca4f, 0x682e6ff3,
    0x748f82ee, 0x78a5636f, 0x84c87814, 0x8cc70208, 0x90befffa, 0xa4506ceb, 0xbef9a3f7, 0xc67178f2]

/-- The eight words that a digest is made of. -/
structure State where
  a : UInt32
  b : UInt32
  c : UInt32
  d : UInt32
  e : UInt32
  f : UInt32
  g : UInt32
  h : UInt32

/-- The state before the first block. -/
def initial : State :=
  ⟨0x6a09e667, 0xbb67ae85, 0x3c6ef372, 0xa54ff53a, 0x510e527f, 0x9b05688c, 0x1f83d9ab, 0x5be0cd19⟩

/-- Turn the bits of a word to the right. -/
def rotate (x n : UInt32) : UInt32 := (x >>> n) ||| (x <<< (32 - n))

/-- One round. -/
def State.step (s : State) (constant word : UInt32) : State :=
  let sum := rotate s.e 6 ^^^ rotate s.e 11 ^^^ rotate s.e 25
  let choice := (s.e &&& s.f) ^^^ (~~~s.e &&& s.g)
  let t := s.h + sum + choice + constant + word
  let turn := rotate s.a 2 ^^^ rotate s.a 13 ^^^ rotate s.a 22
  let majority := (s.a &&& s.b) ^^^ (s.a &&& s.c) ^^^ (s.b &&& s.c)
  ⟨t + turn + majority, s.a, s.b, s.c, s.d + t, s.e, s.f, s.g⟩

/-- The wordwise sum of two states. -/
def State.add (s t : State) : State :=
  ⟨s.a + t.a, s.b + t.b, s.c + t.c, s.d + t.d, s.e + t.e, s.f + t.f, s.g + t.g, s.h + t.h⟩

/-- The octets of a word, the highest first. -/
def wordBytes (w : UInt32) : Bytes :=
  [(w >>> 24).toUInt8, (w >>> 16).toUInt8, (w >>> 8).toUInt8, w.toUInt8]

/-- The words that octets spell, four to a word. -/
def words : Bytes → List UInt32
  | a :: b :: c :: d :: rest =>
    ((a.toUInt32 <<< 24) ||| (b.toUInt32 <<< 16) ||| (c.toUInt32 <<< 8) ||| d.toUInt32)
      :: words rest
  | _ => []

/-- The next word of a schedule whose last sixteen words are given, the latest first. -/
def nextWord (latest : List UInt32) : UInt32 :=
  let w2 := latest.getD 1 0
  let w7 := latest.getD 6 0
  let w15 := latest.getD 14 0
  let w16 := latest.getD 15 0
  let low := rotate w15 7 ^^^ rotate w15 18 ^^^ (w15 >>> 3)
  let high := rotate w2 17 ^^^ rotate w2 19 ^^^ (w2 >>> 10)
  w16 + low + w7 + high

/-- A schedule, the latest word first, with `n` more words. -/
def extend : Nat → List UInt32 → List UInt32
  | 0, latest => latest
  | n + 1, latest => extend n (nextWord latest :: latest)

/-- Mix a block of sixteen words into the state. -/
def compress (s : State) (block : List UInt32) : State :=
  let schedule := (extend 48 block.reverse).reverse
  s.add ((constants.zip schedule).foldl (fun s (constant, word) => s.step constant word) s)

/-- The octets that fill up a message of a given length: a one bit, zeros, and the length in bits
in eight octets. -/
def padding (length : Nat) : Bytes :=
  let bits := length * 8
  let zeros : Bytes := List.replicate ((119 - length % 64) % 64) 0
  let count : Bytes := (List.range 8).map fun i => UInt8.ofNat (bits >>> (8 * (7 - i)))
  0x80 :: zeros ++ count

/-- A message filled up to whole blocks. -/
def pad (message : Bytes) : Bytes := message ++ padding message.length

theorem length_pad (message : Bytes) : (pad message).length % 64 = 0 := by
  simp [pad, padding]
  omega

/-- Mix the first `n` blocks of the words into the state. -/
def absorb : Nat → State → List UInt32 → State
  | 0, s, _ => s
  | n + 1, s, ws => absorb n (compress s (ws.take 16)) (ws.drop 16)

/-- The octets of the state after a message, from a state before it. -/
def digestFrom (start : State) (message : Bytes) : Bytes :=
  let padded := pad message
  let s := absorb (padded.length / 64) start (words padded)
  [s.a, s.b, s.c, s.d, s.e, s.f, s.g, s.h].flatMap wordBytes

/-- The digest of a message: thirty-two octets. -/
def digest (message : Bytes) : Bytes := digestFrom initial message

/-- The state before the first block of a short digest. -/
def shortInitial : State :=
  ⟨0xc1059ed8, 0x367cd507, 0x3070dd17, 0xf70e5939, 0xffc00b31, 0x68581511, 0x64f98fa7, 0xbefa4fa4⟩

/-- The short digest of a message: twenty-eight octets. -/
def shortDigest (message : Bytes) : Bytes := (digestFrom shortInitial message).take 28

/-- Octets in hexadecimal digits, two to an octet. -/
def hexText (bytes : Bytes) : String :=
  String.ofList (bytes.flatMap fun b =>
    [Text.hexDigit (b.toNat / 16), Text.hexDigit (b.toNat % 16)])

/-- The octets that hexadecimal digits name, two digits to an octet. An odd digit at the end names
nothing, and neither does a pair with anything else in it. -/
def octetsOfHex : List Char → Bytes
  | a :: b :: rest =>
    match Text.hexValue? a, Text.hexValue? b with
    | some high, some low => UInt8.ofNat (high * 16 + low) :: octetsOfHex rest
    | _, _ => octetsOfHex rest
  | _ => []

end ArtifactPipeline.Digest.Sha256

/-! ### Twenty octets -/

namespace ArtifactPipeline.Digest.Sha1

/-- The five words that a digest is made of. -/
structure State where
  a : UInt32
  b : UInt32
  c : UInt32
  d : UInt32
  e : UInt32

/-- The state before the first block. -/
def initial : State := ⟨0x67452301, 0xefcdab89, 0x98badcfe, 0x10325476, 0xc3d2e1f0⟩

/-- Turn the bits of a word to the left. -/
def rotate (x n : UInt32) : UInt32 := (x <<< n) ||| (x >>> (32 - n))

/-- What step `i` mixes out of the state, and its constant. -/
def mixture (s : State) (i : Nat) : UInt32 × UInt32 :=
  match i / 20 with
  | 0 => ((s.b &&& s.c) ||| (~~~s.b &&& s.d), 0x5a827999)
  | 1 => (s.b ^^^ s.c ^^^ s.d, 0x6ed9eba1)
  | 2 => ((s.b &&& s.c) ||| (s.b &&& s.d) ||| (s.c &&& s.d), 0x8f1bbcdc)
  | _ => (s.b ^^^ s.c ^^^ s.d, 0xca62c1d6)

/-- Step `i` with its word. -/
def State.step (s : State) (i : Nat) (word : UInt32) : State :=
  let (mixed, constant) := mixture s i
  ⟨rotate s.a 5 + mixed + s.e + constant + word, s.a, rotate s.b 30, s.c, s.d⟩

/-- A schedule, the latest word first, with `n` more words. -/
def extend : Nat → List UInt32 → List UInt32
  | 0, latest => latest
  | n + 1, latest =>
    let mixed := latest.getD 2 0 ^^^ latest.getD 7 0 ^^^ latest.getD 13 0 ^^^ latest.getD 15 0
    extend n (rotate mixed 1 :: latest)

/-- Mix a block of sixteen words into the state. -/
def compress (s : State) (block : List UInt32) : State :=
  let schedule := (extend 64 block.reverse).reverse
  let t := schedule.zipIdx.foldl (fun s (word, i) => s.step i word) s
  ⟨s.a + t.a, s.b + t.b, s.c + t.c, s.d + t.d, s.e + t.e⟩

/-- Mix the first `n` blocks of the words into the state. -/
def absorb : Nat → State → List UInt32 → State
  | 0, s, _ => s
  | n + 1, s, ws => absorb n (compress s (ws.take 16)) (ws.drop 16)

/-- The digest of a message: twenty octets. -/
def digest (message : Bytes) : Bytes :=
  let padded := Sha256.pad message
  let s := absorb (padded.length / 64) initial (Sha256.words padded)
  [s.a, s.b, s.c, s.d, s.e].flatMap Sha256.wordBytes

end ArtifactPipeline.Digest.Sha1

/-! ### Sixty-four octets -/

namespace ArtifactPipeline.Digest.Sha512

/-- The round constants. -/
def constants : List UInt64 :=
  [0x428a2f98d728ae22, 0x7137449123ef65cd, 0xb5c0fbcfec4d3b2f, 0xe9b5dba58189dbbc,
    0x3956c25bf348b538, 0x59f111f1b605d019, 0x923f82a4af194f9b, 0xab1c5ed5da6d8118,
    0xd807aa98a3030242, 0x12835b0145706fbe, 0x243185be4ee4b28c, 0x550c7dc3d5ffb4e2,
    0x72be5d74f27b896f, 0x80deb1fe3b1696b1, 0x9bdc06a725c71235, 0xc19bf174cf692694,
    0xe49b69c19ef14ad2, 0xefbe4786384f25e3, 0x0fc19dc68b8cd5b5, 0x240ca1cc77ac9c65,
    0x2de92c6f592b0275, 0x4a7484aa6ea6e483, 0x5cb0a9dcbd41fbd4, 0x76f988da831153b5,
    0x983e5152ee66dfab, 0xa831c66d2db43210, 0xb00327c898fb213f, 0xbf597fc7beef0ee4,
    0xc6e00bf33da88fc2, 0xd5a79147930aa725, 0x06ca6351e003826f, 0x142929670a0e6e70,
    0x27b70a8546d22ffc, 0x2e1b21385c26c926, 0x4d2c6dfc5ac42aed, 0x53380d139d95b3df,
    0x650a73548baf63de, 0x766a0abb3c77b2a8, 0x81c2c92e47edaee6, 0x92722c851482353b,
    0xa2bfe8a14cf10364, 0xa81a664bbc423001, 0xc24b8b70d0f89791, 0xc76c51a30654be30,
    0xd192e819d6ef5218, 0xd69906245565a910, 0xf40e35855771202a, 0x106aa07032bbd1b8,
    0x19a4c116b8d2d0c8, 0x1e376c085141ab53, 0x2748774cdf8eeb99, 0x34b0bcb5e19b48a8,
    0x391c0cb3c5c95a63, 0x4ed8aa4ae3418acb, 0x5b9cca4f7763e373, 0x682e6ff3d6b2b8a3,
    0x748f82ee5defb2fc, 0x78a5636f43172f60, 0x84c87814a1f0ab72, 0x8cc702081a6439ec,
    0x90befffa23631e28, 0xa4506cebde82bde9, 0xbef9a3f7b2c67915, 0xc67178f2e372532b,
    0xca273eceea26619c, 0xd186b8c721c0c207, 0xeada7dd6cde0eb1e, 0xf57d4f7fee6ed178,
    0x06f067aa72176fba, 0x0a637dc5a2c898a6, 0x113f9804bef90dae, 0x1b710b35131c471b,
    0x28db77f523047d84, 0x32caab7b40c72493, 0x3c9ebe0a15c9bebc, 0x431d67c49c100d4c,
    0x4cc5d4becb3e42b6, 0x597f299cfc657e2a, 0x5fcb6fab3ad6faec, 0x6c44198c4a475817]

/-- The eight words that a digest is made of. -/
structure State where
  a : UInt64
  b : UInt64
  c : UInt64
  d : UInt64
  e : UInt64
  f : UInt64
  g : UInt64
  h : UInt64

/-- The state before the first block. -/
def initial : State :=
  ⟨0x6a09e667f3bcc908, 0xbb67ae8584caa73b, 0x3c6ef372fe94f82b, 0xa54ff53a5f1d36f1,
    0x510e527fade682d1, 0x9b05688c2b3e6c1f, 0x1f83d9abfb41bd6b, 0x5be0cd19137e2179⟩

/-- The state before the first block of a short digest. -/
def shortInitial : State :=
  ⟨0xcbbb9d5dc1059ed8, 0x629a292a367cd507, 0x9159015a3070dd17, 0x152fecd8f70e5939,
    0x67332667ffc00b31, 0x8eb44a8768581511, 0xdb0c2e0d64f98fa7, 0x47b5481dbefa4fa4⟩

/-- Turn the bits of a word to the right. -/
def rotate (x n : UInt64) : UInt64 := (x >>> n) ||| (x <<< (64 - n))

/-- One round. -/
def State.step (s : State) (constant word : UInt64) : State :=
  let sum := rotate s.e 14 ^^^ rotate s.e 18 ^^^ rotate s.e 41
  let choice := (s.e &&& s.f) ^^^ (~~~s.e &&& s.g)
  let t := s.h + sum + choice + constant + word
  let turn := rotate s.a 28 ^^^ rotate s.a 34 ^^^ rotate s.a 39
  let majority := (s.a &&& s.b) ^^^ (s.a &&& s.c) ^^^ (s.b &&& s.c)
  ⟨t + turn + majority, s.a, s.b, s.c, s.d + t, s.e, s.f, s.g⟩

/-- The wordwise sum of two states. -/
def State.add (s t : State) : State :=
  ⟨s.a + t.a, s.b + t.b, s.c + t.c, s.d + t.d, s.e + t.e, s.f + t.f, s.g + t.g, s.h + t.h⟩

/-- The octets of a number, the highest first. -/
def octetsOf (count n : Nat) : Bytes :=
  (List.range count).map fun i => UInt8.ofNat (n >>> (8 * (count - 1 - i)))

/-- The first `n` words that octets spell, eight to a word. -/
def words : Nat → Bytes → List UInt64
  | 0, _ => []
  | n + 1, bytes =>
    (bytes.take 8).foldl (fun w b => (w <<< 8) ||| b.toUInt64) 0 :: words n (bytes.drop 8)

/-- A schedule, the latest word first, with `n` more words. -/
def extend : Nat → List UInt64 → List UInt64
  | 0, latest => latest
  | n + 1, latest =>
    let w2 := latest.getD 1 0
    let w15 := latest.getD 14 0
    let low := rotate w15 1 ^^^ rotate w15 8 ^^^ (w15 >>> 7)
    let high := rotate w2 19 ^^^ rotate w2 61 ^^^ (w2 >>> 6)
    extend n ((latest.getD 15 0 + low + latest.getD 6 0 + high) :: latest)

/-- Mix a block of sixteen words into the state. -/
def compress (s : State) (block : List UInt64) : State :=
  let schedule := (extend 64 block.reverse).reverse
  s.add ((constants.zip schedule).foldl (fun s (constant, word) => s.step constant word) s)

/-- A message filled up to whole blocks: a one bit, zeros, and the length in bits in sixteen octets. -/
def pad (message : Bytes) : Bytes :=
  let zeros : Bytes := List.replicate ((239 - message.length % 128) % 128) 0
  message ++ 0x80 :: zeros ++ octetsOf 16 (message.length * 8)

theorem length_pad (message : Bytes) : (pad message).length % 128 = 0 := by
  simp [pad, octetsOf]
  omega

/-- Mix the first `n` blocks of the words into the state. -/
def absorb : Nat → State → List UInt64 → State
  | 0, s, _ => s
  | n + 1, s, ws => absorb n (compress s (ws.take 16)) (ws.drop 16)

/-- The octets of the state after a message, from a state before it. -/
def digestFrom (start : State) (message : Bytes) : Bytes :=
  let padded := pad message
  let s := absorb (padded.length / 128) start (words (padded.length / 8) padded)
  [s.a, s.b, s.c, s.d, s.e, s.f, s.g, s.h].flatMap fun w => octetsOf 8 w.toNat

/-- The digest of a message: sixty-four octets. -/
def digest (message : Bytes) : Bytes := digestFrom initial message

/-- The short digest of a message: forty-eight octets. -/
def shortDigest (message : Bytes) : Bytes := (digestFrom shortInitial message).take 48

end ArtifactPipeline.Digest.Sha512
