import ArtifactPipeline.Digest.Sha

/-!
# MD5

A digest of sixteen octets. The message is padded to whole blocks of sixty-four octets, and each block is
mixed into a state of four words in sixty-four steps. Words have their lowest octet first.

* `length_pad` : the padded message consists of whole blocks.
-/

namespace ArtifactPipeline.Digest.Md5

/-- The constants of the steps. -/
def constants : List UInt32 :=
  [0xd76aa478, 0xe8c7b756, 0x242070db, 0xc1bdceee, 0xf57c0faf, 0x4787c62a, 0xa8304613, 0xfd469501,
    0x698098d8, 0x8b44f7af, 0xffff5bb1, 0x895cd7be, 0x6b901122, 0xfd987193, 0xa679438e, 0x49b40821,
    0xf61e2562, 0xc040b340, 0x265e5a51, 0xe9b6c7aa, 0xd62f105d, 0x02441453, 0xd8a1e681, 0xe7d3fbc8,
    0x21e1cde6, 0xc33707d6, 0xf4d50d87, 0x455a14ed, 0xa9e3e905, 0xfcefa3f8, 0x676f02d9, 0x8d2a4c8a,
    0xfffa3942, 0x8771f681, 0x6d9d6122, 0xfde5380c, 0xa4beea44, 0x4bdecfa9, 0xf6bb4b60, 0xbebfbc70,
    0x289b7ec6, 0xeaa127fa, 0xd4ef3085, 0x04881d05, 0xd9d4d039, 0xe6db99e5, 0x1fa27cf8, 0xc4ac5665,
    0xf4292244, 0x432aff97, 0xab9423a7, 0xfc93a039, 0x655b59c3, 0x8f0ccc92, 0xffeff47d, 0x85845dd1,
    0x6fa87e4f, 0xfe2ce6e0, 0xa3014314, 0x4e0811a1, 0xf7537e82, 0xbd3af235, 0x2ad7d2bb, 0xeb86d391]

/-- The turns of the steps in each quarter. -/
def turns : List (List UInt32) := [[7, 12, 17, 22], [5, 9, 14, 20], [4, 11, 16, 23], [6, 10, 15, 21]]

/-- The four words that a digest is made of. -/
structure State where
  a : UInt32
  b : UInt32
  c : UInt32
  d : UInt32

/-- The state before the first block. -/
def initial : State := ⟨0x67452301, 0xefcdab89, 0x98badcfe, 0x10325476⟩

/-- Turn the bits of a word to the left. -/
def rotate (x n : UInt32) : UInt32 := (x <<< n) ||| (x >>> (32 - n))

/-- What step `i` mixes out of the state, and the place of the word that it takes. -/
def mixture (s : State) (i : Nat) : UInt32 × Nat :=
  match i / 16 with
  | 0 => ((s.b &&& s.c) ||| (~~~s.b &&& s.d), i)
  | 1 => ((s.d &&& s.b) ||| (~~~s.d &&& s.c), (5 * i + 1) % 16)
  | 2 => (s.b ^^^ s.c ^^^ s.d, (3 * i + 5) % 16)
  | _ => (s.c ^^^ (s.b ||| ~~~s.d), 7 * i % 16)

/-- Step `i` with its constant. -/
def State.step (block : Array UInt32) (s : State) (i : Nat) (constant : UInt32) : State :=
  let (mixed, place) := mixture s i
  let turn := (turns.getD (i / 16) []).getD (i % 4) 0
  ⟨s.d, s.b + rotate (s.a + mixed + constant + block.getD place 0) turn, s.b, s.c⟩

/-- Mix a block of sixteen words into the state. -/
def compress (s : State) (block : Array UInt32) : State :=
  let t := constants.zipIdx.foldl (fun s (constant, i) => s.step block i constant) s
  ⟨s.a + t.a, s.b + t.b, s.c + t.c, s.d + t.d⟩

/-- The words that octets spell, the lowest octet first. -/
def words : Bytes → List UInt32
  | a :: b :: c :: d :: rest =>
    (a.toUInt32 ||| (b.toUInt32 <<< 8) ||| (c.toUInt32 <<< 16) ||| (d.toUInt32 <<< 24)) :: words rest
  | _ => []

/-- The octets of a word, the lowest first. -/
def wordBytes (w : UInt32) : Bytes := (Sha256.wordBytes w).reverse

/-- A message filled up to whole blocks; the length stands at the end, its lowest octet first. -/
def pad (message : Bytes) : Bytes :=
  let filling := Sha256.padding message.length
  message ++ filling.take (filling.length - 8) ++ (filling.drop (filling.length - 8)).reverse

theorem length_pad (message : Bytes) : (pad message).length % 64 = 0 := by
  have h := Sha256.length_pad message
  simp only [Sha256.pad, List.length_append] at h
  simp only [pad, List.length_append, List.length_take, List.length_reverse, List.length_drop]
  omega

/-- Mix the first `n` blocks of the words into the state. -/
def absorb : Nat → State → List UInt32 → State
  | 0, s, _ => s
  | n + 1, s, ws => absorb n (compress s (ws.take 16).toArray) (ws.drop 16)

/-- The digest of a message: sixteen octets. -/
def digest (message : Bytes) : Bytes :=
  let padded := pad message
  let s := absorb (padded.length / 64) initial (words padded)
  [s.a, s.b, s.c, s.d].flatMap wordBytes

end ArtifactPipeline.Digest.Md5
