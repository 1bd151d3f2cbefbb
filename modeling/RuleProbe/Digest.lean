import RuleProbe.Charset.Bytes

/-!
# Digests

Digests are computed on signed words of thirty-two bits, integers from `-2 ^ 31` to below `2 ^ 31`.
A sum may leave that range; `wrap` brings it back.  The operations on bits go through the unsigned
number with the same bits.
-/

namespace RuleProbe

namespace Digest

/-- The word that is congruent to an integer. -/
def wrap (n : Int) : Int := n.bmod (Nat.pow 2 32)

/-- The unsigned number with the bits of a word. -/
def unsigned (word : Int) : Nat := (word % Int.pow 2 32).toNat

/-- The word with the bits of an unsigned number. -/
def signed (bits : Nat) : Int := wrap bits

namespace Word

/-- The bits set in both words. -/
def and (a b : Int) : Int := signed (unsigned a &&& unsigned b)

/-- The bits set in one of the words. -/
def or (a b : Int) : Int := signed (unsigned a ||| unsigned b)

/-- The bits set in exactly one of the words. -/
def xor (a b : Int) : Int := signed (unsigned a ^^^ unsigned b)

/-- The bits not set. -/
def not (a : Int) : Int := -a - 1

/-- The bits moved up; those that leave the word are lost. -/
def shiftUp (a : Int) (count : Nat) : Int := signed (unsigned a <<< count)

/-- The bits moved down, zeros coming in. -/
def shiftDown (a : Int) (count : Nat) : Int := signed (unsigned a >>> count)

/-- The bits moved up; those that leave the word come in below. -/
def rotateUp (a : Int) (count : Nat) : Int := or (shiftUp a count) (shiftDown a (32 - count))

/-- The bits moved down; those that leave the word come in above. -/
def rotateDown (a : Int) (count : Nat) : Int := or (shiftDown a count) (shiftUp a (32 - count))

end Word

/-- The digits of a word's bits, eight of them in base sixteen. -/
def hexOfWord (word : Int) : Text :=
  let digits := Nat.toDigits 16 (unsigned word)
  List.replicate (8 - digits.length) '0' ++ digits

/-- Two digits in base sixteen. -/
def hexOfByte (byte : UInt8) : Text :=
  let digits := Nat.toDigits 16 byte.toNat
  List.replicate (2 - digits.length) '0' ++ digits

/-- The bytes of a number below `2 ^ 64`, the lowest first. -/
def lengthBytes (n : Nat) : Bytes :=
  (List.range 8).map fun i => UInt8.ofNat (n / Nat.pow 256 i)

/-- A message followed by a one bit, as few zeros as possible, and its length in bits, so
that it fills blocks of sixty-four bytes. -/
def pad (highFirst : Bool) (message : Bytes) : Bytes :=
  let bits := lengthBytes (8 * message.length)
  message ++ 0x80 :: List.replicate ((119 - message.length % 64) % 64) 0 ++
    (if highFirst then bits.reverse else bits)

/-- A word from four bytes, the lowest first. -/
def wordOfBytes (a b c d : UInt8) : Int :=
  signed (a.toNat + 256 * b.toNat + 65536 * c.toNat + 16777216 * d.toNat)

/-- The words of bytes, four at a time. -/
def words (highFirst : Bool) : Bytes → List Int
  | a :: b :: c :: d :: rest =>
      (if highFirst then wordOfBytes d c b a else wordOfBytes a b c d) :: words highFirst rest
  | _ => []

/-- Words in blocks of sixteen; `count` bounds the number of blocks. -/
def blocks : Nat → List Int → List (List Int)
  | 0, _ => []
  | count + 1, rest =>
      if rest.isEmpty then [] else rest.take 16 :: blocks count (rest.drop 16)

/-- The blocks of a padded message. -/
def blocksOf (highFirst : Bool) (message : Bytes) : List (List Int) :=
  let found := words highFirst (pad highFirst message)
  blocks found.length found

/-- The item at a position of a table. -/
def entry (table : List Int) (i : Nat) : Int := table[i]?.getD 0

end Digest

/-!
## The digest MD5

Four words are mixed with every block of a message, which is read lowest byte first.
-/

namespace Digest

namespace Md5

/-- The constants that are added, one in every step. -/
def constants : List Int :=
  List.map signed
  [0xd76aa478, 0xe8c7b756, 0x242070db, 0xc1bdceee, 0xf57c0faf, 0x4787c62a, 0xa8304613,
   0xfd469501, 0x698098d8, 0x8b44f7af, 0xffff5bb1, 0x895cd7be, 0x6b901122, 0xfd987193,
   0xa679438e, 0x49b40821, 0xf61e2562, 0xc040b340, 0x265e5a51, 0xe9b6c7aa, 0xd62f105d,
   0x02441453, 0xd8a1e681, 0xe7d3fbc8, 0x21e1cde6, 0xc33707d6, 0xf4d50d87, 0x455a14ed,
   0xa9e3e905, 0xfcefa3f8, 0x676f02d9, 0x8d2a4c8a, 0xfffa3942, 0x8771f681, 0x6d9d6122,
   0xfde5380c, 0xa4beea44, 0x4bdecfa9, 0xf6bb4b60, 0xbebfbc70, 0x289b7ec6, 0xeaa127fa,
   0xd4ef3085, 0x04881d05, 0xd9d4d039, 0xe6db99e5, 0x1fa27cf8, 0xc4ac5665, 0xf4292244,
   0x432aff97, 0xab9423a7, 0xfc93a039, 0x655b59c3, 0x8f0ccc92, 0xffeff47d, 0x85845dd1,
   0x6fa87e4f, 0xfe2ce6e0, 0xa3014314, 0x4e0811a1, 0xf7537e82, 0xbd3af235, 0x2ad7d2bb,
   0xeb86d391]

/-- How far words are rotated, four amounts for every sixteen steps. -/
def rotations : List (List Nat) :=
  [[7, 12, 17, 22], [5, 9, 14, 20], [4, 11, 16, 23], [6, 10, 15, 21]]

/-- The four words between two steps. -/
structure State where
  a : Int
  b : Int
  c : Int
  d : Int
  deriving DecidableEq, Inhabited

/-- The words before the first block. -/
def start : State :=
  ⟨signed 0x67452301, signed 0xefcdab89, signed 0x98badcfe, signed 0x10325476⟩

/-- What a step mixes of three words, and the word of the block that it uses. -/
def mix (i : Nat) (b c d : Int) : Int × Nat :=
  if i < 16 then (Word.or (Word.and b c) (Word.and (Word.not b) d), i)
  else if i < 32 then (Word.or (Word.and d b) (Word.and (Word.not d) c), (5 * i + 1) % 16)
  else if i < 48 then (Word.xor (Word.xor b c) d, (3 * i + 5) % 16)
  else (Word.xor c (Word.or b (Word.not d)), (7 * i) % 16)

/-- The sum that a step rotates, before it is brought back to a word. -/
def stepSum (block : List Int) (state : State) (i : Nat) : Int :=
  let (mixed, g) := mix i state.b state.c state.d
  mixed + state.a + entry constants i + entry block g

/-- One step. -/
def step (block : List Int) (state : State) (i : Nat) : State :=
  let amount := ((rotations[i / 16]?.getD [])[i % 4]?).getD 0
  let sum := wrap (stepSum block state i)
  { a := state.d
    b := wrap (state.b + Word.rotateUp sum amount)
    c := state.b
    d := state.c }

/-- The words after a block. -/
def absorb (state : State) (block : List Int) : State :=
  let mixed := (List.range 64).foldl (step block) state
  ⟨wrap (state.a + mixed.a), wrap (state.b + mixed.b), wrap (state.c + mixed.c),
    wrap (state.d + mixed.d)⟩

/-- The bytes of a word, the lowest first, as digits. -/
def writeWord (word : Int) : Text :=
  (List.range 4).flatMap fun i => hexOfByte (UInt8.ofNat (unsigned word / Nat.pow 256 i))

end Md5

/-- The digest of a message in digits of base sixteen. -/
def md5 (message : Bytes) : Text :=
  let state := (blocksOf false message).foldl Md5.absorb Md5.start
  [state.a, state.b, state.c, state.d].flatMap Md5.writeWord

end Digest

/-!
## The digest SHA-1

Five words are mixed with eighty words that every block of a message is stretched to.
-/

namespace Digest

namespace Sha1

/-- The five words between two steps. -/
structure State where
  a : Int
  b : Int
  c : Int
  d : Int
  e : Int
  deriving DecidableEq, Inhabited

/-- The words before the first block. -/
def start : State :=
  ⟨signed 0x67452301, signed 0xefcdab89, signed 0x98badcfe, signed 0x10325476,
    signed 0xc3d2e1f0⟩

/-- The next word of a stretched block, from those before it, last first. -/
def nextWord (read : List Int) : Int :=
  Word.rotateUp
    (Word.xor (Word.xor (Word.xor (entry read 2) (entry read 7)) (entry read 13))
      (entry read 15)) 1

/-- Words, last first, with `count` more. -/
def stretch : Nat → List Int → List Int
  | 0, read => read
  | count + 1, read => stretch count (nextWord read :: read)

/-- The eighty words of a block. -/
def schedule (block : List Int) : List Int := (stretch 64 block.reverse).reverse

/-- What a step mixes of three words, and the constant that it adds. -/
def mix (i : Nat) (b c d : Int) : Int × Int :=
  if i < 20 then (Word.or (Word.and b c) (Word.and (Word.not b) d), signed 0x5a827999)
  else if i < 40 then (Word.xor (Word.xor b c) d, signed 0x6ed9eba1)
  else if i < 60 then
    (Word.or (Word.or (Word.and b c) (Word.and b d)) (Word.and c d), signed 0x8f1bbcdc)
  else (Word.xor (Word.xor b c) d, signed 0xca62c1d6)

/-- The sum that a step makes, before it is brought back to a word. -/
def stepSum (state : State) (i : Nat) (word : Int) : Int :=
  let (mixed, constant) := mix i state.b state.c state.d
  Word.rotateUp state.a 5 + mixed + state.e + constant + word

/-- One step, with its number and its word. -/
def step (state : State) (turn : Nat × Int) : State :=
  { a := wrap (stepSum state turn.1 turn.2)
    b := state.a
    c := Word.rotateUp state.b 30
    d := state.c
    e := state.d }

/-- The words after a block. -/
def absorb (state : State) (block : List Int) : State :=
  let mixed := ((List.range 80).zip (schedule block)).foldl step state
  ⟨wrap (state.a + mixed.a), wrap (state.b + mixed.b), wrap (state.c + mixed.c),
    wrap (state.d + mixed.d), wrap (state.e + mixed.e)⟩

end Sha1

/-- The digest of a message in digits of base sixteen. -/
def sha1 (message : Bytes) : Text :=
  let state := (blocksOf true message).foldl Sha1.absorb Sha1.start
  [state.a, state.b, state.c, state.d, state.e].flatMap hexOfWord

end Digest

/-!
## The digest SHA-256

Eight words are mixed with sixty-four words that every block of a message is stretched
to.
-/

namespace Digest

namespace Sha256

/-- The constants that are added, one in every step. -/
def constants : List Int :=
  List.map signed
  [0x428a2f98, 0x71374491, 0xb5c0fbcf, 0xe9b5dba5, 0x3956c25b, 0x59f111f1, 0x923f82a4,
   0xab1c5ed5, 0xd807aa98, 0x12835b01, 0x243185be, 0x550c7dc3, 0x72be5d74, 0x80deb1fe,
   0x9bdc06a7, 0xc19bf174, 0xe49b69c1, 0xefbe4786, 0x0fc19dc6, 0x240ca1cc, 0x2de92c6f,
   0x4a7484aa, 0x5cb0a9dc, 0x76f988da, 0x983e5152, 0xa831c66d, 0xb00327c8, 0xbf597fc7,
   0xc6e00bf3, 0xd5a79147, 0x06ca6351, 0x14292967, 0x27b70a85, 0x2e1b2138, 0x4d2c6dfc,
   0x53380d13, 0x650a7354, 0x766a0abb, 0x81c2c92e, 0x92722c85, 0xa2bfe8a1, 0xa81a664b,
   0xc24b8b70, 0xc76c51a3, 0xd192e819, 0xd6990624, 0xf40e3585, 0x106aa070, 0x19a4c116,
   0x1e376c08, 0x2748774c, 0x34b0bcb5, 0x391c0cb3, 0x4ed8aa4a, 0x5b9cca4f, 0x682e6ff3,
   0x748f82ee, 0x78a5636f, 0x84c87814, 0x8cc70208, 0x90befffa, 0xa4506ceb, 0xbef9a3f7,
   0xc67178f2]

/-- The eight words between two steps. -/
structure State where
  a : Int
  b : Int
  c : Int
  d : Int
  e : Int
  f : Int
  g : Int
  h : Int
  deriving DecidableEq, Inhabited

/-- The words before the first block. -/
def start : State :=
  ⟨signed 0x6a09e667, signed 0xbb67ae85, signed 0x3c6ef372, signed 0xa54ff53a,
    signed 0x510e527f, signed 0x9b05688c, signed 0x1f83d9ab, signed 0x5be0cd19⟩

/-- The next word of a stretched block, from those before it, last first. -/
def nextWord (read : List Int) : Int :=
  let near := entry read 14
  let far := entry read 1
  let small := Word.xor (Word.xor (Word.rotateDown near 7) (Word.rotateDown near 18))
    (Word.shiftDown near 3)
  let large := Word.xor (Word.xor (Word.rotateDown far 17) (Word.rotateDown far 19))
    (Word.shiftDown far 10)
  wrap (entry read 15 + small + entry read 6 + large)

/-- Words, last first, with `count` more. -/
def stretch : Nat → List Int → List Int
  | 0, read => read
  | count + 1, read => stretch count (nextWord read :: read)

/-- The sixty-four words of a block. -/
def schedule (block : List Int) : List Int := (stretch 48 block.reverse).reverse

/-- The first of the two sums of a step, before it is brought back to a word. -/
def firstSum (state : State) (i : Nat) (word : Int) : Int :=
  let e := state.e
  let turned := Word.xor (Word.xor (Word.rotateDown e 6) (Word.rotateDown e 11))
    (Word.rotateDown e 25)
  let chosen := Word.xor (Word.and e state.f) (Word.and (Word.not e) state.g)
  state.h + turned + chosen + entry constants i + word

/-- The second of the two sums of a step, before it is brought back to a word. -/
def secondSum (state : State) : Int :=
  let a := state.a
  let turned := Word.xor (Word.xor (Word.rotateDown a 2) (Word.rotateDown a 13))
    (Word.rotateDown a 22)
  let majority := Word.xor (Word.xor (Word.and a state.b) (Word.and a state.c))
    (Word.and state.b state.c)
  turned + majority

/-- One step, with its number and its word. -/
def step (state : State) (turn : Nat × Int) : State :=
  let first := wrap (firstSum state turn.1 turn.2)
  let second := wrap (secondSum state)
  { a := wrap (first + second)
    b := state.a
    c := state.b
    d := state.c
    e := wrap (state.d + first)
    f := state.e
    g := state.f
    h := state.g }

/-- The words after a block. -/
def absorb (state : State) (block : List Int) : State :=
  let mixed := ((List.range 64).zip (schedule block)).foldl step state
  ⟨wrap (state.a + mixed.a), wrap (state.b + mixed.b), wrap (state.c + mixed.c),
    wrap (state.d + mixed.d), wrap (state.e + mixed.e), wrap (state.f + mixed.f),
    wrap (state.g + mixed.g), wrap (state.h + mixed.h)⟩

end Sha256

/-- The digest of a message in digits of base sixteen. -/
def sha256 (message : Bytes) : Text :=
  let s := (blocksOf true message).foldl Sha256.absorb Sha256.start
  [s.a, s.b, s.c, s.d, s.e, s.f, s.g, s.h].flatMap hexOfWord

end Digest

end RuleProbe
