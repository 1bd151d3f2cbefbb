import Mathlib.Data.BitVec
import Mathlib.Data.List.Forall2
import Mathlib.Data.Nat.Digits.Defs
import RuleProbe.Digest

/-!
# Standard digests

Digests are computed on signed integers, which have the bits of words.  Beside this arithmetic stand
the standard digests, and the blocks of a padded message, which both arithmetics read alike.
-/

namespace RuleProbe

/-!
## Signed words and their bits

Digests compute on signed integers.  A sum of words is an integer too, which may leave the range of
the words and is brought back before its bits are used.  The bits of all these integers are those
of arithmetic on thirty-two bits, whether the integers are in range or not.
-/

namespace Digest

/-! ### Bits -/

/-- The thirty-two bits of an integer. -/
def bits (n : Int) : BitVec 32 := BitVec.ofInt 32 n

variable {a b : Int} {count : Nat}

/-- Bringing an integer back into range keeps its bits. -/
@[simp] theorem bits_wrap (n : Int) : bits (wrap n) = bits n := by
  apply BitVec.eq_of_toNat_eq
  rw [bits, bits, BitVec.toNat_ofInt, BitVec.toNat_ofInt, wrap]
  exact congrArg Int.toNat Int.bmod_emod

@[simp] theorem bits_add (a b : Int) : bits (a + b) = bits a + bits b := BitVec.ofInt_add a b

theorem bits_sum (numbers : List Int) : bits numbers.sum = (numbers.map bits).sum := by
  induction numbers with
  | nil => rfl
  | cons n rest hypothesis => rw [List.sum_cons, bits_add, hypothesis, List.map_cons, List.sum_cons]

theorem unsigned_eq (n : Int) : unsigned n = (bits n).toNat := by
  rw [bits, BitVec.toNat_ofInt, unsigned]
  rfl

@[simp] theorem bits_signed (n : Nat) : bits (signed n) = BitVec.ofNat 32 n := by
  rw [signed, bits_wrap, bits, BitVec.ofInt_natCast]

namespace Word

@[simp] theorem bits_and (a b : Int) : bits (and a b) = bits a &&& bits b := by
  rw [and, bits_signed, unsigned_eq, unsigned_eq, ← BitVec.toNat_and, BitVec.ofNat_toNat,
    BitVec.setWidth_eq]

@[simp] theorem bits_or (a b : Int) : bits (or a b) = bits a ||| bits b := by
  rw [or, bits_signed, unsigned_eq, unsigned_eq, ← BitVec.toNat_or, BitVec.ofNat_toNat,
    BitVec.setWidth_eq]

@[simp] theorem bits_xor (a b : Int) : bits (xor a b) = bits a ^^^ bits b := by
  rw [xor, bits_signed, unsigned_eq, unsigned_eq, ← BitVec.toNat_xor, BitVec.ofNat_toNat,
    BitVec.setWidth_eq]

@[simp] theorem bits_not (a : Int) : bits (not a) = ~~~bits a := by
  have one : bits (-1) = -1#32 := by decide
  have negated : bits (-a) = -bits a := BitVec.ofInt_neg
  rw [BitVec.not_eq_neg_add, not, Int.sub_eq_add_neg, bits_add, one, negated,
    BitVec.sub_eq_add_neg]

@[simp] theorem bits_shiftUp (a : Int) (count : Nat) :
    bits (shiftUp a count) = bits a <<< count := by
  apply BitVec.eq_of_toNat_eq
  rw [shiftUp, bits_signed, unsigned_eq, BitVec.toNat_ofNat, BitVec.toNat_shiftLeft]

@[simp] theorem bits_shiftDown (a : Int) (count : Nat) :
    bits (shiftDown a count) = bits a >>> count := by
  rw [shiftDown, bits_signed, unsigned_eq, ← BitVec.toNat_ushiftRight, BitVec.ofNat_toNat,
    BitVec.setWidth_eq]

theorem bits_rotateUp (inside : count < 32) (a : Int) :
    bits (rotateUp a count) = (bits a).rotateLeft count := by
  rw [rotateUp, bits_or, bits_shiftUp, bits_shiftDown, BitVec.rotateLeft_def,
    Nat.mod_eq_of_lt inside]

theorem bits_rotateDown (inside : count < 32) (a : Int) :
    bits (rotateDown a count) = (bits a).rotateRight count := by
  rw [rotateDown, bits_or, bits_shiftUp, bits_shiftDown, BitVec.rotateRight_def,
    Nat.mod_eq_of_lt inside]

end Word

/-! ### Ranges -/

/-- An integer that is a word. -/
def IsWord (n : Int) : Prop := -2147483648 ≤ n ∧ n < 2147483648

/-- What is brought back into range is a word. -/
@[simp] theorem isWord_wrap (n : Int) : IsWord (wrap n) := by
  have positive : 0 < Nat.pow 2 32 := by decide
  exact ⟨Int.le_bmod positive, Int.bmod_lt positive⟩

@[simp] theorem isWord_signed (n : Nat) : IsWord (signed n) := isWord_wrap n

@[simp] theorem Word.isWord_and (a b : Int) : IsWord (Word.and a b) := isWord_signed _

@[simp] theorem Word.isWord_or (a b : Int) : IsWord (Word.or a b) := isWord_signed _

@[simp] theorem Word.isWord_xor (a b : Int) : IsWord (Word.xor a b) := isWord_signed _

@[simp] theorem Word.isWord_rotateUp (a : Int) (count : Nat) : IsWord (Word.rotateUp a count) :=
  Word.isWord_or _ _

theorem isWord_zero : IsWord 0 := by
  unfold IsWord
  decide

theorem isWord_entry {table : List Int} (words : ∀ n ∈ table, IsWord n) (i : Nat) :
    IsWord (entry table i) := by
  unfold entry
  cases found : table[i]? with
  | none => exact isWord_zero
  | some n => exact words n (List.mem_of_getElem? found)

/-! ### Sums -/

/-- The sums that come up when integers are added to a total, one after the other. -/
def runningSums : Int → List Int → List Int
  | _, [] => []
  | total, n :: rest => (total + n) :: runningSums (total + n) rest

/-- Integers that doubles hold exactly. -/
def AllExact (numbers : List Int) : Prop := ∀ n ∈ numbers, n.natAbs < 2 ^ 53

theorem natAbs_le_of_mem_runningSums
    {total : Int}
    {summed : Nat}
    {numbers : List Int}
    (small : total.natAbs ≤ summed * 2 ^ 31)
    (words : ∀ n ∈ numbers, IsWord n) :
    ∀ sum ∈ runningSums total numbers, sum.natAbs ≤ (summed + numbers.length) * 2 ^ 31 := by
  induction numbers generalizing total summed with
  | nil => nofun
  | cons n rest hypothesis =>
      obtain ⟨⟨low, high⟩, others⟩ := List.forall_mem_cons.mp words
      have next : (total + n).natAbs ≤ (summed + 1) * 2 ^ 31 := by omega
      have later := hypothesis next others
      rw [Nat.add_assoc, Nat.add_comm 1] at later
      rw [runningSums, List.length_cons]
      exact List.forall_mem_cons.mpr ⟨Nat.le_trans next (Nat.mul_le_mul_right _ (by omega)), later⟩

/-- The sums of a few words are exact. -/
theorem allExact_runningSums
    {numbers : List Int}
    (few : numbers.length ≤ 8)
    (words : ∀ n ∈ numbers, IsWord n) :
    AllExact (runningSums 0 numbers) := by
  intro sum member
  have none_ : (0 : Int).natAbs ≤ 0 * 2 ^ 31 := by decide
  have bound := natAbs_le_of_mem_runningSums none_ words sum member
  omega

/-- A sum of two words is exact. -/
theorem natAbs_add_lt (left : IsWord a) (right : IsWord b) : (a + b).natAbs < 2 ^ 53 := by
  obtain ⟨leftLow, leftHigh⟩ := left
  obtain ⟨rightLow, rightHigh⟩ := right
  omega

theorem allExact_append {first second : List Int} (left : AllExact first)
    (right : AllExact second) :
    AllExact (first ++ second) :=
  List.forall_mem_append.mpr ⟨left, right⟩

theorem allExact_flatMap {α : Type} {items : List α} {sums : α → List Int}
    (each : ∀ item ∈ items, AllExact (sums item)) :
    AllExact (items.flatMap sums) := by
  intro n member
  obtain ⟨item, listed, inSums⟩ := List.mem_flatMap.mp member
  exact each item listed n inSums

/-- The states and items that a run comes upon. -/
def visits {State Item : Type} (turn : State → Item → State) :
    State → List Item → List (State × Item)
  | _, [] => []
  | state, item :: rest => (state, item) :: visits turn (turn state item) rest

/-- What every turn keeps holds wherever a run comes. -/
theorem forall_mem_visits
    {State Item : Type}
    {turn : State → Item → State}
    {Good : State → Prop}
    {items : List Item}
    (kept : ∀ item ∈ items, ∀ state, Good state → Good (turn state item))
    {state : State}
    (begun : Good state) :
    ∀ visit ∈ visits turn state items, Good visit.1 ∧ visit.2 ∈ items := by
  induction items generalizing state with
  | nil => nofun
  | cons item rest hypothesis =>
      obtain ⟨here, later⟩ := List.forall_mem_cons.mp kept
      rw [visits]
      refine List.forall_mem_cons.mpr ⟨⟨begun, List.mem_cons_self⟩, fun visit member => ?_⟩
      obtain ⟨good, listed⟩ := hypothesis later (here state begun) visit member
      exact ⟨good, List.mem_cons_of_mem item listed⟩

/-- The sums of a run are exact if those of every turn are. -/
theorem allExact_visits
    {State Item : Type}
    {turn : State → Item → State}
    {Good : State → Prop}
    {items : List Item}
    {sums : State → Item → List Int}
    (kept : ∀ item ∈ items, ∀ state, Good state → Good (turn state item))
    {state : State}
    (begun : Good state)
    (exact_ : ∀ state item, Good state → item ∈ items → AllExact (sums state item)) :
    AllExact ((visits turn state items).flatMap fun visit => sums visit.1 visit.2) := by
  refine allExact_flatMap fun visit member => ?_
  obtain ⟨good, listed⟩ := forall_mem_visits kept begun visit member
  exact exact_ visit.1 visit.2 good listed

end Digest

/-!
## The standard digests

MD5, SHA-1 and SHA-256 in arithmetic on thirty-two bits.  A message is padded to blocks of sixteen
words, the blocks are mixed into a state one after the other, and the words of the last state are
the digest.  MD5 has the lowest byte of a word first, the other two the highest.  Of the tables only
the constants that MD5 and SHA-256 add in every step are taken from the digests of the library.
-/

namespace Digest

namespace Standard

/-- A word. -/
abbrev Word := BitVec 32

/-! ### Messages as blocks of words -/

/-- The number that bytes stand for. -/
def number (highFirst : Bool) (bytes : Bytes) : Nat :=
  Nat.ofDigits 256 ((if highFirst then bytes.reverse else bytes).map UInt8.toNat)

/-- A message is padded by a one bit, the least number of zeros, and its length in bits as a number
of sixty-four bits, so that it fills blocks of sixty-four bytes. -/
structure IsPadding (highFirst : Bool) (message padded : Bytes) : Prop where
  /-- What stands behind the message. -/
  parts : ∃ zeros field,
    padded = message ++ 0x80 :: (List.replicate zeros 0 ++ field) ∧
      field.length = 8 ∧ number highFirst field = 8 * message.length ∧
        ∀ fewer < zeros, (message.length + 1 + fewer + 8) % 64 ≠ 0
  /-- The blocks are full. -/
  filled : padded.length % 64 = 0

/-- The word at a position of a padded message. -/
def wordAt (highFirst : Bool) (padded : Bytes) (i : Nat) : Word :=
  BitVec.ofNat 32 (number highFirst ((padded.drop (4 * i)).take 4))

/-- The words of a block. -/
def blockAt (highFirst : Bool) (padded : Bytes) (n i : Nat) : Word :=
  wordAt highFirst padded (16 * n + i)

/-- The state after all blocks of a padded message. -/
def lastState
    {State : Type}
    (highFirst : Bool)
    (compress : State → (Nat → Word) → State)
    (start : State)
    (padded : Bytes) :
    State :=
  (List.range (padded.length / 64)).foldl
    (fun state n => compress state (blockAt highFirst padded n)) start

/-- The four bytes of a word. -/
def bytesOf (highFirst : Bool) (word : Word) : Bytes :=
  let bytes := (List.range 4).map fun i => UInt8.ofNat (word.toNat / 256 ^ i)
  if highFirst then bytes.reverse else bytes

/-- The digits in base sixteen. -/
def hexDigits : Text := "0123456789abcdef".toList

/-- Bytes in base sixteen, two digits each. -/
def hex (bytes : Bytes) : Text :=
  bytes.flatMap fun b => [hexDigits.getD (b.toNat / 16) '0', hexDigits.getD (b.toNat % 16) '0']

/-! ### MD5 -/

namespace Md5

/-- The four words of a state. -/
@[ext] structure State where
  a : Word
  b : Word
  c : Word
  d : Word

/-- What is the same for the sixteen operations of a round. -/
structure Round where
  /-- How three words are mixed. -/
  mix : Word → Word → Word → Word
  /-- The words of the block in the order in which they are added. -/
  order : List Nat
  /-- How far sums are rotated, in turn. -/
  amounts : List Nat

/-- The four rounds. -/
def round : Nat → Round
  | 0 =>
      { mix := fun x y z => x &&& y ||| ~~~x &&& z
        order := [0, 1, 2, 3, 4, 5, 6, 7, 8, 9, 10, 11, 12, 13, 14, 15]
        amounts := [7, 12, 17, 22] }
  | 1 =>
      { mix := fun x y z => x &&& z ||| y &&& ~~~z
        order := [1, 6, 11, 0, 5, 10, 15, 4, 9, 14, 3, 8, 13, 2, 7, 12]
        amounts := [5, 9, 14, 20] }
  | 2 =>
      { mix := fun x y z => x ^^^ y ^^^ z
        order := [5, 8, 11, 14, 1, 4, 7, 10, 13, 0, 3, 6, 9, 12, 15, 2]
        amounts := [4, 11, 16, 23] }
  | _ =>
      { mix := fun x y z => y ^^^ (x ||| ~~~z)
        order := [0, 7, 14, 5, 12, 3, 10, 1, 8, 15, 6, 13, 4, 11, 2, 9]
        amounts := [6, 10, 15, 21] }

/-- The constant of an operation. -/
def constant (n : Nat) : Word := bits (entry Digest.Md5.constants n)

/-- The new value of the first of four words. -/
def operation (block : Nat → Word) (n : Nat) (a b c d : Word) : Word :=
  let round := round (n / 16)
  b + (a + round.mix b c d + block (round.order.getD (n % 16) 0) + constant n).rotateLeft
    (round.amounts.getD (n % 4) 0)

/-- Four operations, each on another word. -/
def quartet (block : Nat → Word) (state : State) (n : Nat) : State :=
  let a := operation block (4 * n) state.a state.b state.c state.d
  let d := operation block (4 * n + 1) state.d a state.b state.c
  let c := operation block (4 * n + 2) state.c d a state.b
  let b := operation block (4 * n + 3) state.b c d a
  ⟨a, b, c, d⟩

/-- The state after a block. -/
def compress (state : State) (block : Nat → Word) : State :=
  let mixed := (List.range 16).foldl (quartet block) state
  ⟨state.a + mixed.a, state.b + mixed.b, state.c + mixed.c, state.d + mixed.d⟩

/-- The state before the first block. -/
def start : State := ⟨0x67452301, 0xefcdab89, 0x98badcfe, 0x10325476⟩

/-- The digest of a padded message. -/
def digest (padded : Bytes) : Bytes :=
  let state := lastState false compress start padded
  [state.a, state.b, state.c, state.d].flatMap (bytesOf false)

end Md5

/-! ### The two SHA digests -/

/-- The word that has more bits of the second and third by the bits of the first. -/
def choose (x y z : Word) : Word := x &&& y ^^^ ~~~x &&& z

/-- The bits that most of three words have. -/
def majority (x y z : Word) : Word := x &&& y ^^^ x &&& z ^^^ y &&& z

namespace Sha1

/-- The five words of a state. -/
@[ext] structure State where
  a : Word
  b : Word
  c : Word
  d : Word
  e : Word

/-- The words that a block is stretched to. -/
def schedule (block : Nat → Word) (t : Nat) : Word :=
  if t < 16 then block t
  else
    (schedule block (t - 3) ^^^ schedule block (t - 8) ^^^ schedule block (t - 14) ^^^
      schedule block (t - 16)).rotateLeft 1
termination_by t

/-- How a step mixes three words. -/
def mix (t : Nat) (x y z : Word) : Word :=
  if t < 20 then choose x y z
  else if t < 40 then x ^^^ y ^^^ z
  else if t < 60 then majority x y z
  else x ^^^ y ^^^ z

/-- The constant of a step. -/
def constant (t : Nat) : Word :=
  if t < 20 then 0x5a827999
  else if t < 40 then 0x6ed9eba1
  else if t < 60 then 0x8f1bbcdc
  else 0xca62c1d6

/-- One step. -/
def step (block : Nat → Word) (state : State) (t : Nat) : State where
  a := state.a.rotateLeft 5 + mix t state.b state.c state.d + state.e + constant t +
    schedule block t
  b := state.a
  c := state.b.rotateLeft 30
  d := state.c
  e := state.d

/-- The state after a block. -/
def compress (state : State) (block : Nat → Word) : State :=
  let mixed := (List.range 80).foldl (step block) state
  ⟨state.a + mixed.a, state.b + mixed.b, state.c + mixed.c, state.d + mixed.d,
    state.e + mixed.e⟩

/-- The state before the first block. -/
def start : State := ⟨0x67452301, 0xefcdab89, 0x98badcfe, 0x10325476, 0xc3d2e1f0⟩

/-- The digest of a padded message. -/
def digest (padded : Bytes) : Bytes :=
  let state := lastState true compress start padded
  [state.a, state.b, state.c, state.d, state.e].flatMap (bytesOf true)

end Sha1

namespace Sha256

/-- The eight words of a state. -/
@[ext] structure State where
  a : Word
  b : Word
  c : Word
  d : Word
  e : Word
  f : Word
  g : Word
  h : Word

/-- What the schedule makes of the word fifteen places before. -/
def smallNear (x : Word) : Word := x.rotateRight 7 ^^^ x.rotateRight 18 ^^^ x >>> 3

/-- What the schedule makes of the word two places before. -/
def smallFar (x : Word) : Word := x.rotateRight 17 ^^^ x.rotateRight 19 ^^^ x >>> 10

/-- What a step makes of its first word. -/
def largeFirst (x : Word) : Word := x.rotateRight 2 ^^^ x.rotateRight 13 ^^^ x.rotateRight 22

/-- What a step makes of its fifth word. -/
def largeFifth (x : Word) : Word := x.rotateRight 6 ^^^ x.rotateRight 11 ^^^ x.rotateRight 25

/-- The words that a block is stretched to. -/
def schedule (block : Nat → Word) (t : Nat) : Word :=
  if t < 16 then block t
  else
    smallFar (schedule block (t - 2)) + schedule block (t - 7) +
      smallNear (schedule block (t - 15)) + schedule block (t - 16)
termination_by t

/-- The constant of a step. -/
def constant (t : Nat) : Word := bits (entry Digest.Sha256.constants t)

/-- One step. -/
def step (block : Nat → Word) (state : State) (t : Nat) : State :=
  let first := state.h + largeFifth state.e + choose state.e state.f state.g + constant t +
    schedule block t
  let second := largeFirst state.a + majority state.a state.b state.c
  { a := first + second
    b := state.a
    c := state.b
    d := state.c
    e := state.d + first
    f := state.e
    g := state.f
    h := state.g }

/-- The state after a block. -/
def compress (state : State) (block : Nat → Word) : State :=
  let mixed := (List.range 64).foldl (step block) state
  ⟨state.a + mixed.a, state.b + mixed.b, state.c + mixed.c, state.d + mixed.d,
    state.e + mixed.e, state.f + mixed.f, state.g + mixed.g, state.h + mixed.h⟩

/-- The state before the first block. -/
def start : State :=
  ⟨0x6a09e667, 0xbb67ae85, 0x3c6ef372, 0xa54ff53a, 0x510e527f, 0x9b05688c, 0x1f83d9ab,
    0x5be0cd19⟩

/-- The digest of a padded message. -/
def digest (padded : Bytes) : Bytes :=
  let state := lastState true compress start padded
  [state.a, state.b, state.c, state.d, state.e, state.f, state.g, state.h].flatMap
    (bytesOf true)

end Sha256

end Standard

/-! ### Digests by their names -/

/-- The digests. -/
inductive Algorithm where
  /-- The digest MD5. -/
  | md5
  /-- The digest SHA-1. -/
  | sha1
  /-- The digest SHA-256. -/
  | sha256
  deriving DecidableEq

namespace Algorithm

/-- The name, in lower case and without hyphens. -/
def name : Algorithm → Text
  | md5 => ['m', 'd', '5']
  | sha1 => ['s', 'h', 'a', '1']
  | sha256 => ['s', 'h', 'a', '2', '5', '6']

/-- Words have their highest byte first. -/
def highFirst : Algorithm → Bool
  | md5 => false
  | sha1 | sha256 => true

/-- The standard digest of a padded message. -/
def standard : Algorithm → Bytes → Bytes
  | md5 => Standard.Md5.digest
  | sha1 => Standard.Sha1.digest
  | sha256 => Standard.Sha256.digest

end Algorithm

end Digest

/-!
## Padded messages and their blocks

A message is padded as the standard says, and the words that are read from the padded message are
the words of its blocks.  So whatever is done with one block after the other is done with the
blocks of the standard.
-/

namespace Digest

open Standard

/-! ### Padding -/

variable {message : Bytes} {highFirst : Bool}

/-- The digits of a number in base 256, as many as are asked for, stand for its remainder. -/
theorem ofDigits_range (n count : Nat) :
    Nat.ofDigits 256 ((List.range count).map fun i => n / 256 ^ i % 256) = n % 256 ^ count := by
  induction count with
  | zero => rw [Nat.pow_zero, Nat.mod_one]; rfl
  | succ count hypothesis =>
      rw [List.range_succ, List.map_append, Nat.ofDigits_append, hypothesis, List.map_singleton,
        Nat.ofDigits_singleton, List.length_map, List.length_range, Nat.mod_pow_succ]

/-- The bytes of a length stand for it. -/
theorem number_lengthBytes {n : Nat} (small : n < 256 ^ 8) (highFirst : Bool) :
    number highFirst (if highFirst then (lengthBytes n).reverse else lengthBytes n) = n := by
  have lowFirst : (if highFirst then (if highFirst then (lengthBytes n).reverse else
      lengthBytes n).reverse else (if highFirst then (lengthBytes n).reverse else lengthBytes n)) =
      lengthBytes n := by
    cases highFirst
    · rfl
    · exact List.reverse_reverse _
  have digits : (lengthBytes n).map UInt8.toNat =
      (List.range 8).map fun i => n / 256 ^ i % 256 := by
    rw [lengthBytes, List.map_map]
    exact List.map_congr_left fun i _ => UInt8.toNat_ofNat'
  rw [number, lowFirst, digits, ofDigits_range, Nat.mod_eq_of_lt small]

@[simp] theorem length_lengthBytes (n : Nat) : (lengthBytes n).length = 8 := by
  rw [lengthBytes, List.length_map, List.length_range]

/-- A message is padded as the standard says, if its length in bits is a number of sixty-four
bits. -/
theorem isPadding_pad (short : message.length < 2 ^ 61) (highFirst : Bool) :
    IsPadding highFirst message (pad highFirst message) := by
  have field : (if highFirst then (lengthBytes (8 * message.length)).reverse
      else lengthBytes (8 * message.length)).length = 8 := by
    cases highFirst <;> simp
  constructor
  · refine ⟨(119 - message.length % 64) % 64, _, ?_, field, number_lengthBytes ?_ highFirst, ?_⟩
    · rw [pad, List.append_assoc, List.cons_append]
    · omega
    · intro fewer least
      omega
  · rw [pad, List.length_append, List.length_append, List.length_cons, List.length_replicate,
      field]
    omega

/-- As many bytes that stand for the same number are the same. -/
theorem number_injective {first second : Bytes} (length : first.length = second.length)
    (same : number highFirst first = number highFirst second) :
    first = second := by
  have inBase (bytes : Bytes) : ∀ digit ∈ bytes.map UInt8.toNat, digit < 256 := by
    rw [List.forall_mem_map]
    exact fun b _ => b.toNat_lt
  have digits := Nat.ofDigits_inj_of_len_eq (by decide) (by cases highFirst <;> simp [length])
    (inBase _) (inBase _) same
  have bytes := List.map_injective_iff.mpr (fun _ _ => UInt8.toNat_inj.mp) digits
  cases highFirst
  · exact bytes
  · exact List.reverse_injective bytes

/-- A message is padded in one way only. -/
theorem Standard.IsPadding.unique
    {padded other : Bytes}
    (first : IsPadding highFirst message padded)
    (second : IsPadding highFirst message other) :
    padded = other := by
  obtain ⟨⟨zeros, field, rfl, length, stands, least⟩, filled⟩ := first
  obtain ⟨⟨zeros', field', rfl, length', stands', least'⟩, filled'⟩ := second
  have sameField : field = field' :=
    number_injective (length.trans length'.symm) (stands.trans stands'.symm)
  have sameZeros : zeros = zeros' := by
    have notFewer := least' zeros
    have notMore := least zeros'
    simp only [List.length_append, List.length_cons, List.length_replicate, length,
      length'] at filled filled'
    omega
  rw [sameField, sameZeros]

/-! ### Words -/

theorem isWord_words (highFirst : Bool) (bytes : Bytes) :
    ∀ n ∈ words highFirst bytes, IsWord n := by
  induction bytes using words.induct with
  | case1 a b c d rest hypothesis =>
      rw [words]
      refine List.forall_mem_cons.mpr ⟨?_, hypothesis⟩
      split <;> exact isWord_signed _
  | case2 bytes short =>
      rw [words.eq_2 highFirst bytes short]
      nofun

theorem length_words (highFirst : Bool) (bytes : Bytes) :
    (words highFirst bytes).length = bytes.length / 4 := by
  induction bytes using words.induct with
  | case1 a b c d rest hypothesis =>
      rw [words, List.length_cons, hypothesis]
      simp only [List.length_cons]
      omega
  | case2 bytes short =>
      have few : bytes.length < 4 := by
        match bytes, short with
        | a :: b :: c :: d :: rest, short => exact (short a b c d rest rfl).elim
        | [], _ | [_], _ | [_, _], _ | [_, _, _], _ => simp
      rw [words.eq_2 highFirst bytes short, Nat.div_eq_of_lt few, List.length_nil]

/-- Four bytes make up a word, from either end. -/
theorem bits_wordOfBytes (highFirst : Bool) (a b c d : UInt8) :
    bits (if highFirst then wordOfBytes d c b a else wordOfBytes a b c d) =
      BitVec.ofNat 32 (number highFirst [a, b, c, d]) := by
  cases highFirst
  · rw [if_neg Bool.false_ne_true, wordOfBytes, bits_signed]
    congr 1
    simp [number, Nat.ofDigits_cons]
    omega
  · rw [if_pos rfl, wordOfBytes, bits_signed]
    congr 1
    simp [number, Nat.ofDigits_cons]
    omega

theorem bits_entry_words {bytes : Bytes} {i : Nat} (inside : i < bytes.length / 4) :
    bits (entry (words highFirst bytes) i) = wordAt highFirst bytes i := by
  induction bytes using words.induct generalizing i with
  | case1 a b c d rest hypothesis =>
      rw [words]
      cases i with
      | zero => exact bits_wordOfBytes highFirst a b c d
      | succ i =>
          have further : i < rest.length / 4 := by
            simp only [List.length_cons] at inside
            omega
          have later : wordAt highFirst (a :: b :: c :: d :: rest) (i + 1) =
              wordAt highFirst rest i := rfl
          rw [later, ← hypothesis further]
          rfl
  | case2 bytes short =>
      rw [← length_words highFirst bytes, words.eq_2 highFirst bytes short] at inside
      exact absurd inside (Nat.not_lt_zero i)

/-! ### Blocks -/

theorem blocks_eq {list : List Int} {n count : Nat} (full : list.length = 16 * n)
    (enough : n ≤ count) :
    blocks count list = (List.range n).map fun k => (list.drop (16 * k)).take 16 := by
  induction n generalizing count list with
  | zero =>
      obtain rfl : list = [] := List.eq_nil_of_length_eq_zero full
      cases count <;> rfl
  | succ n hypothesis =>
      obtain ⟨count, rfl⟩ : ∃ fewer, count = fewer + 1 := ⟨count - 1, by omega⟩
      have given : list.isEmpty = false := by
        rw [Bool.eq_false_iff, ne_eq, List.isEmpty_iff]
        rintro rfl
        simp at full
      have shorter : (list.drop 16).length = 16 * n := by
        rw [List.length_drop]
        omega
      rw [blocks, given, if_neg Bool.false_ne_true, hypothesis shorter (by omega),
        List.range_succ_eq_map, List.map_cons, List.map_map]
      congr 1
      refine List.map_congr_left fun k _ => ?_
      rw [List.drop_drop, Function.comp_apply, Nat.mul_succ, Nat.add_comm]

/-- A block of signed words has the bits of the words of a block. -/
structure Shows (block : List Int) (shown : Nat → Word) : Prop where
  /-- There are sixteen words. -/
  length : block.length = 16
  /-- The words have these bits. -/
  bits : ∀ i < 16, bits (entry block i) = shown i

/-- The blocks of a message are those of the padded message, one after the other. -/
theorem blocksOf_shows (highFirst : Bool) (message : Bytes) :
    List.Forall₂ (fun block n => Shows block (blockAt highFirst (pad highFirst message) n))
      (blocksOf highFirst message) (List.range ((pad highFirst message).length / 64)) := by
  have filled : (pad highFirst message).length % 64 = 0 := by
    cases highFirst <;> simp [pad] <;> omega
  have bitsAt (i : Nat) (inside : i < (pad highFirst message).length / 4) :
      bits (entry (words highFirst (pad highFirst message)) i) =
        wordAt highFirst (pad highFirst message) i := bits_entry_words inside
  have length := length_words highFirst (pad highFirst message)
  unfold blocksOf blockAt
  generalize pad highFirst message = padded at *
  rw [blocks_eq (n := padded.length / 64) (by omega) (by omega), List.forall₂_map_left_iff,
    List.forall₂_same]
  intro n member
  have within := List.mem_range.mp member
  constructor
  · rw [List.length_take, List.length_drop]
    omega
  · intro i inside
    rw [← bitsAt (16 * n + i) (by omega), entry, entry, List.getElem?_take_of_lt inside,
      List.getElem?_drop]

theorem isWord_of_mem_blocksOf {block : List Int} (member : block ∈ blocksOf highFirst message) :
    ∀ n ∈ block, IsWord n := by
  have fromWords (count : Nat) (list : List Int) (inRange : ∀ n ∈ list, IsWord n) :
      ∀ block ∈ blocks count list, ∀ n ∈ block, IsWord n := by
    induction count generalizing list with
    | zero => nofun
    | succ count hypothesis =>
        rw [blocks]
        split
        · nofun
        · refine List.forall_mem_cons.mpr
            ⟨fun n listed => inRange n (List.mem_of_mem_take listed), hypothesis _ ?_⟩
          exact fun n listed => inRange n (List.mem_of_mem_drop listed)
  exact fromWords _ _ (isWord_words highFirst _) block member

/-- A view of a state that is kept by related turns is kept by related runs. -/
theorem foldl_view
    {Signed State Turn Shown : Type}
    {view : Signed → State}
    {turn : Signed → Turn → Signed}
    {shownTurn : State → Shown → State}
    {Related : Turn → Shown → Prop}
    (follows : ∀ state item shown, Related item shown →
      view (turn state item) = shownTurn (view state) shown)
    {items : List Turn}
    {allShown : List Shown}
    (related : List.Forall₂ Related items allShown)
    (state : Signed) :
    view (items.foldl turn state) = allShown.foldl shownTurn (view state) := by
  induction related generalizing state with
  | nil => rfl
  | cons first _ hypothesis =>
      rw [List.foldl_cons, List.foldl_cons, hypothesis, follows _ _ _ first]

/-- A state that follows the standard over every block follows it over a whole message. -/
theorem foldl_absorb
    {Signed State : Type}
    {view : Signed → State}
    {absorb : Signed → List Int → Signed}
    {compress : State → (Nat → Word) → State}
    (follows : ∀ state block shown, Shows block shown →
      view (absorb state block) = compress (view state) shown)
    (begun : Signed)
    (message : Bytes) :
    view ((blocksOf highFirst message).foldl absorb begun) =
      lastState highFirst compress (view begun) (pad highFirst message) := by
  refine foldl_view ?_ (blocksOf_shows highFirst message) begun
  exact fun state block n shows => follows state block _ shows

end Digest

end RuleProbe
