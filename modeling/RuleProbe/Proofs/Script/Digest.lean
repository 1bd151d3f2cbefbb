import Mathlib.Logic.Function.Iterate
import Mathlib.Tactic.Ring
import RuleProbe.Proofs.Digest
import RuleProbe.Proofs.Http
import RuleProbe.Proofs.Script.TextCodec

/-!
# Digests of strings

A script has a string digested by the name of a digest, in any case and with hyphens anywhere.  The
answer is the standard digest of the bytes of the string in UTF-8, and all sums on the way there are
integers that the numbers of scripts hold exactly.
-/

namespace RuleProbe

/-!
## The digest MD5

The steps of the digest hand the four words of a state around, so that each step has the same form;
four of them are four operations of the standard, each on another word.
-/

namespace Digest

namespace Md5

open Standard (Word)

/-- The bits of a state. -/
def State.view (state : State) : Standard.Md5.State :=
  ⟨bits state.a, bits state.b, bits state.c, bits state.d⟩

/-! ### Steps -/

variable {block : List Int} {shown : Nat → Word} {state : State} {i : Nat}

/-- How far a step rotates its sum. -/
def amount (i : Nat) : Nat := ((rotations[i / 16]?.getD [])[i % 4]?).getD 0

theorem amount_eq :
    ∀ i < 64, amount i = (Standard.Md5.round (i / 16)).amounts.getD (i % 4) 0 ∧ amount i < 32 := by
  decide

theorem order_eq (inside : i < 64) (b c d : Int) :
    (mix i b c d).2 = (Standard.Md5.round (i / 16)).order.getD (i % 16) 0 ∧
      (mix i b c d).2 < 16 := by
  have all : ∀ i < 64, (mix i 0 0 0).2 = (Standard.Md5.round (i / 16)).order.getD (i % 16) 0 ∧
      (mix i 0 0 0).2 < 16 := by
    decide
  have same : (mix i b c d).2 = (mix i 0 0 0).2 := by
    unfold mix
    split_ifs <;> rfl
  rw [same]
  exact all i inside

theorem bits_mix (inside : i < 64) (b c d : Int) :
    bits (mix i b c d).1 = (Standard.Md5.round (i / 16)).mix (bits b) (bits c) (bits d) := by
  unfold mix
  split_ifs with first second third
  · have round : i / 16 = 0 := by omega
    simp [round, Standard.Md5.round]
  · have round : i / 16 = 1 := by omega
    simp [round, Standard.Md5.round, BitVec.and_comm]
  · have round : i / 16 = 2 := by omega
    simp [round, Standard.Md5.round]
  · have round : i / 16 = 3 := by omega
    simp [round, Standard.Md5.round]

/-- What a step adds up before it rotates the sum. -/
def summands (block : List Int) (state : State) (i : Nat) : List Int :=
  [(mix i state.b state.c state.d).1, state.a, entry constants i,
    entry block (mix i state.b state.c state.d).2]

theorem stepSum_eq (block : List Int) (state : State) (i : Nat) :
    stepSum block state i = (summands block state i).sum := by
  simp only [stepSum, summands, List.sum_cons, List.sum_nil]
  ring

/-- A step makes the new word of an operation. -/
theorem bits_step (shows : Shows block shown) (state : State) (inside : i < 64) :
    bits (step block state i).b =
      Standard.Md5.operation shown i (bits state.a) (bits state.b) (bits state.c)
        (bits state.d) := by
  obtain ⟨amounts, small⟩ := amount_eq i inside
  obtain ⟨order, few⟩ := order_eq inside state.b state.c state.d
  have made : (step block state i).b =
      wrap (state.b + Word.rotateUp (wrap (stepSum block state i)) (amount i)) := rfl
  have added := shows.bits _ few
  rw [order] at added
  rw [made, bits_wrap, bits_add, Word.bits_rotateUp small, bits_wrap, stepSum_eq, bits_sum,
    summands, amounts, Standard.Md5.operation]
  simp only [List.map_cons, List.map_nil, List.sum_cons, List.sum_nil, bits_mix inside,
    order, added]
  congr 2
  rw [Standard.Md5.constant]
  ring

/-- Four steps are four operations. -/
theorem view_quartet (shows : Shows block shown) (state : State) {n : Nat} (inside : n < 16) :
    State.view ([4 * n, 4 * n + 1, 4 * n + 2, 4 * n + 3].foldl (step block) state) =
      Standard.Md5.quartet shown state.view n := by
  have first := bits_step shows state (i := 4 * n) (by omega)
  have second := bits_step shows (step block state (4 * n)) (i := 4 * n + 1) (by omega)
  have third := bits_step shows (step block (step block state (4 * n)) (4 * n + 1))
    (i := 4 * n + 2) (by omega)
  have fourth := bits_step shows
    (step block (step block (step block state (4 * n)) (4 * n + 1)) (4 * n + 2))
    (i := 4 * n + 3) (by omega)
  -- The other three words only change their places.
  have kept (state : State) (i : Nat) : (step block state i).a = state.d ∧
      (step block state i).c = state.b ∧ (step block state i).d = state.c := ⟨rfl, rfl, rfl⟩
  simp only [kept] at first second third fourth
  simp only [List.foldl_cons, List.foldl_nil, State.view, Standard.Md5.quartet, kept]
  rw [fourth, third, second, first]

/-! ### Blocks -/

theorem range_quartets :
    List.range 64 =
      (List.range 16).flatMap fun n => [4 * n, 4 * n + 1, 4 * n + 2, 4 * n + 3] := by
  decide

theorem view_mixed (shows : Shows block shown) (state : State) :
    State.view ((List.range 64).foldl (step block) state) =
      (List.range 16).foldl (Standard.Md5.quartet shown) state.view := by
  rw [range_quartets, List.foldl_flatMap]
  have same : List.Forall₂ (fun m n => m = n ∧ n < 16) (List.range 16) (List.range 16) :=
    List.forall₂_same.mpr fun n member => ⟨rfl, List.mem_range.mp member⟩
  refine foldl_view ?_ same state
  rintro state n _ ⟨rfl, inside⟩
  exact view_quartet shows state inside

theorem view_absorb (state : State) (block : List Int) (shown : Nat → Word)
    (shows : Shows block shown) :
    State.view (absorb state block) = Standard.Md5.compress state.view shown := by
  rw [Standard.Md5.compress, ← view_mixed shows state]
  simp [absorb, State.view]

/-! ### Sums -/

/-- The words of a state are in range. -/
structure State.InRange (state : State) : Prop where
  a : IsWord state.a
  b : IsWord state.b
  c : IsWord state.c
  d : IsWord state.d

/-- The sums of a step. -/
def stepSums (block : List Int) (state : State) (i : Nat) : List Int :=
  runningSums 0 (summands block state i) ++
    [state.b + Word.rotateUp (wrap (stepSum block state i)) (amount i)]

/-- The sums that are made of a block: those of the steps, and those that add the mixed words to
the words before. -/
def blockSums (state : State) (block : List Int) : List Int :=
  let mixed := (List.range 64).foldl (step block) state
  (visits (step block) state (List.range 64)).flatMap (fun visit => stepSums block visit.1 visit.2)
    ++ [state.a + mixed.a, state.b + mixed.b, state.c + mixed.c, state.d + mixed.d]

/-- All sums that are made for the digest of a message. -/
def sums (message : Bytes) : List Int :=
  (visits absorb start (blocksOf false message)).flatMap fun visit => blockSums visit.1 visit.2

theorem isWord_constants : ∀ n ∈ constants, IsWord n := by
  rw [constants, List.forall_mem_map]
  exact fun n _ => isWord_signed n

theorem isWord_mix (i : Nat) (b c d : Int) : IsWord (mix i b c d).1 := by
  unfold mix
  split_ifs <;> simp

theorem inRange_step (block : List Int) (i : Nat) (state : State) (inRange : state.InRange) :
    (step block state i).InRange :=
  ⟨inRange.d, isWord_wrap _, inRange.b, inRange.c⟩

theorem inRange_start : start.InRange := by
  constructor <;> simp [start]

theorem inRange_absorb (block : List Int) (state : State) (_ : state.InRange) :
    (absorb state block).InRange :=
  ⟨isWord_wrap _, isWord_wrap _, isWord_wrap _, isWord_wrap _⟩

theorem allExact_stepSums (words : ∀ n ∈ block, IsWord n) (inRange : state.InRange) (i : Nat) :
    AllExact (stepSums block state i) := by
  refine allExact_append (allExact_runningSums (by simp [summands]) ?_) ?_
  · simp only [summands, List.forall_mem_cons]
    exact ⟨isWord_mix _ _ _ _, inRange.a, isWord_entry isWord_constants i, isWord_entry words _,
      nofun⟩
  · exact List.forall_mem_singleton.mpr (natAbs_add_lt inRange.b (Word.isWord_rotateUp _ _))

theorem allExact_blockSums (words : ∀ n ∈ block, IsWord n) (inRange : state.InRange) :
    AllExact (blockSums state block) := by
  refine allExact_append ?_ ?_
  · refine allExact_visits (fun i _ => inRange_step block i) inRange ?_
    exact fun state i inRange _ => allExact_stepSums words inRange i
  · have mixed : ((List.range 64).foldl (step block) state).InRange :=
      List.foldlRecOn _ _ inRange fun state inRange i _ => inRange_step block i state inRange
    simp only [List.forall_mem_cons, AllExact]
    exact ⟨natAbs_add_lt inRange.a mixed.a, natAbs_add_lt inRange.b mixed.b,
      natAbs_add_lt inRange.c mixed.c, natAbs_add_lt inRange.d mixed.d, nofun⟩

/-- All sums for a digest are exact. -/
theorem allExact_sums (message : Bytes) : AllExact (sums message) := by
  refine allExact_visits (fun block _ => inRange_absorb block) inRange_start ?_
  exact fun state block inRange listed => allExact_blockSums (isWord_of_mem_blocksOf listed) inRange

theorem view_start : State.view start = Standard.Md5.start := by
  simp [State.view, start, Standard.Md5.start]

end Md5

end Digest

/-!
## The digests SHA-1 and SHA-256

Both digests stretch a block by words that are made of the words before, and take one of these words
in every step.  The words are held with the last one first, so that the words before are found at
fixed places.
-/

namespace Digest

open Standard (Word)

/-! ### Stretched blocks -/

variable {block : List Int} {shown : Nat → Word}

/-- Words, the last of them first, have the bits of the beginning of a schedule. -/
def ShowsSchedule (sequence : Nat → Word) (read : List Int) : Prop :=
  ∀ i < read.length, bits (entry read i) = sequence (read.length - 1 - i)

variable {sequence : Nat → Word} {read : List Int}

theorem ShowsSchedule.cons
    (shows : ShowsSchedule sequence read)
    {n : Int}
    (next : bits n = sequence read.length) :
    ShowsSchedule sequence (n :: read) := by
  intro i inside
  cases i with
  | zero => exact next
  | succ i =>
      rw [List.length_cons] at inside
      have before := shows i (by omega)
      have place : (n :: read).length - 1 - (i + 1) = read.length - 1 - i := by
        rw [List.length_cons]
        omega
      rw [place, ← before]
      rfl

/-- The words of a block begin its schedule. -/
theorem Shows.schedule
    (shows : Shows block shown)
    (begins : ∀ t < 16, sequence t = shown t) :
    ShowsSchedule sequence block.reverse := by
  intro i inside
  rw [List.length_reverse, shows.length] at inside ⊢
  rw [begins _ (by omega), ← shows.bits _ (by omega), entry, entry,
    List.getElem?_reverse (by rw [shows.length]; exact inside), shows.length]

/-- A block is stretched as its schedule says, if every new word is the one of the schedule. -/
theorem ShowsSchedule.iterate
    {next : List Int → Int}
    (follows : ∀ read, 16 ≤ read.length → ShowsSchedule sequence read →
      bits (next read) = sequence read.length)
    (enough : 16 ≤ read.length)
    (shows : ShowsSchedule sequence read)
    (count : Nat) :
    ShowsSchedule sequence ((fun read => next read :: read)^[count] read) ∧
      ((fun read => next read :: read)^[count] read).length = read.length + count := by
  induction count generalizing read with
  | zero => exact ⟨shows, rfl⟩
  | succ count hypothesis =>
      have more : 16 ≤ (next read :: read).length := Nat.le_succ_of_le enough
      obtain ⟨further, length⟩ := hypothesis more (shows.cons (follows read enough shows))
      rw [List.length_cons] at length
      exact ⟨further, by rw [Function.iterate_succ_apply, length]; omega⟩

/-- The numbers of the steps with the words of a schedule, first word first. -/
theorem ShowsSchedule.turns {count : Nat} (shows : ShowsSchedule sequence read)
    (length : read.length = count) :
    List.Forall₂ (fun turn t => turn.1 = t ∧ t < count ∧ bits turn.2 = sequence t)
      ((List.range count).zip read.reverse) (List.range count) := by
  have zipped : (List.range count).zip read.reverse =
      (List.range count).map fun t => (t, entry read (count - 1 - t)) := by
    refine List.ext_getElem (by simp [length]) fun t first second => ?_
    have inside : count - 1 - t < read.length := by
      simp at second
      omega
    have found : read[count - 1 - t]? = some read[count - 1 - t] := List.getElem?_eq_getElem inside
    simp [entry, length, found]
  rw [zipped, List.forall₂_map_left_iff, List.forall₂_same]
  intro t member
  have inside := List.mem_range.mp member
  refine ⟨rfl, inside, ?_⟩
  rw [shows _ (by omega), length]
  congr 1
  omega

/-- A word before is found at its place from the end. -/
theorem ShowsSchedule.back (shows : ShowsSchedule sequence read) (enough : 16 ≤ read.length)
    (i : Nat) (inside : i < 16) :
    bits (entry read i) = sequence (read.length - (i + 1)) := by
  rw [shows i (by omega), Nat.sub_sub, Nat.add_comm]

/-- The steps take the words of the schedule that the block begins. -/
theorem turns_of_shows
    {next : List Int → Int}
    (shows : Shows block shown)
    (begins : ∀ t < 16, sequence t = shown t)
    (follows : ∀ read, 16 ≤ read.length → ShowsSchedule sequence read →
      bits (next read) = sequence read.length)
    (count : Nat) :
    List.Forall₂ (fun turn t => turn.1 = t ∧ t < 16 + count ∧ bits turn.2 = sequence t)
      ((List.range (16 + count)).zip
        ((fun read => next read :: read)^[count] block.reverse).reverse)
      (List.range (16 + count)) := by
  have length : block.reverse.length = 16 := by rw [List.length_reverse, shows.length]
  obtain ⟨stretched, full⟩ := (shows.schedule begins).iterate follows (by omega) count
  exact stretched.turns (by rw [full, length])

theorem forall_isWord_iterate
    {next : List Int → Int}
    (word : ∀ read, IsWord (next read))
    (words : ∀ n ∈ read, IsWord n)
    (count : Nat) :
    ∀ n ∈ (fun read => next read :: read)^[count] read, IsWord n := by
  induction count generalizing read with
  | zero => exact words
  | succ count hypothesis =>
      exact hypothesis (List.forall_mem_cons.mpr ⟨word read, words⟩)

/-- A step that has one of two bits by a third may also take exactly one of them. -/
theorem bits_choose (b c d : Int) :
    bits (Word.or (Word.and b c) (Word.and (Word.not b) d)) =
      Standard.choose (bits b) (bits c) (bits d) := by
  rw [Word.bits_or, Word.bits_and, Word.bits_and, Word.bits_not, Standard.choose]
  ext i
  simp
  cases (bits b)[i] <;> simp

theorem bits_majority (b c d : Int) :
    bits (Word.or (Word.or (Word.and b c) (Word.and b d)) (Word.and c d)) =
      Standard.majority (bits b) (bits c) (bits d) := by
  simp only [Word.bits_or, Word.bits_and, Standard.majority]
  ext i
  simp
  cases (bits b)[i] <;> cases (bits c)[i] <;> simp

/-- The sum of five numbers, added one after the other. -/
theorem sum_five (a b c d e : Int) : [a, b, c, d, e].sum = a + b + c + d + e := by
  simp only [List.sum_cons, List.sum_nil, Int.add_zero, Int.add_assoc]

/-! ### SHA-1 -/

namespace Sha1

/-- The bits of a state. -/
def State.view (state : State) : Standard.Sha1.State :=
  ⟨bits state.a, bits state.b, bits state.c, bits state.d, bits state.e⟩

theorem stretch_eq (count : Nat) (read : List Int) :
    stretch count read = (fun read => nextWord read :: read)^[count] read := by
  induction count generalizing read with
  | zero => rfl
  | succ count hypothesis => rw [stretch, hypothesis, Function.iterate_succ_apply]

theorem bits_nextWord (enough : 16 ≤ read.length)
    (shows : ShowsSchedule (Standard.Sha1.schedule shown) read) :
    bits (nextWord read) = Standard.Sha1.schedule shown read.length := by
  have back := shows.back enough
  rw [nextWord, Word.bits_rotateUp (by decide), Word.bits_xor, Word.bits_xor, Word.bits_xor,
    back 2 (by decide), back 7 (by decide), back 13 (by decide), back 15 (by decide),
    Standard.Sha1.schedule.eq_def _ read.length, if_neg (by omega)]

theorem schedule_turns (shows : Shows block shown) :
    List.Forall₂ (fun turn t => turn.1 = t ∧ t < 80 ∧
        bits turn.2 = Standard.Sha1.schedule shown t)
      ((List.range 80).zip (schedule block)) (List.range 80) := by
  have begins : ∀ t < 16, Standard.Sha1.schedule shown t = shown t := fun t small => by
    rw [Standard.Sha1.schedule, if_pos small]
  rw [schedule, stretch_eq]
  exact turns_of_shows shows begins (fun read enough => bits_nextWord enough) 64

theorem bits_mix (i : Nat) (b c d : Int) :
    bits (mix i b c d).1 = Standard.Sha1.mix i (bits b) (bits c) (bits d) := by
  unfold mix Standard.Sha1.mix
  split_ifs <;> dsimp only
  · exact bits_choose b c d
  · simp
  · exact bits_majority b c d
  · simp

theorem bits_constant (i : Nat) (b c d : Int) :
    bits (mix i b c d).2 = Standard.Sha1.constant i := by
  unfold mix Standard.Sha1.constant
  split_ifs <;> simp

/-- What a step adds up. -/
def summands (state : State) (turn : Nat × Int) : List Int :=
  [Word.rotateUp state.a 5, (mix turn.1 state.b state.c state.d).1, state.e,
    (mix turn.1 state.b state.c state.d).2, turn.2]

theorem stepSum_eq (state : State) (turn : Nat × Int) :
    stepSum state turn.1 turn.2 = (summands state turn).sum := by
  have parts (i : Nat) (word : Int) : stepSum state i word =
      Word.rotateUp state.a 5 + (mix i state.b state.c state.d).1 + state.e +
        (mix i state.b state.c state.d).2 + word := by
    rw [stepSum]
  rw [parts, summands, sum_five]

theorem view_step (state : State) (turn : Nat × Int)
    (word : bits turn.2 = Standard.Sha1.schedule shown turn.1) :
    State.view (step state turn) = Standard.Sha1.step shown state.view turn.1 := by
  have five : bits (Word.rotateUp state.a 5) = (bits state.a).rotateLeft 5 :=
    Word.bits_rotateUp (by decide) _
  have thirty : bits (Word.rotateUp state.b 30) = (bits state.b).rotateLeft 30 :=
    Word.bits_rotateUp (by decide) _
  have sum : bits (wrap (stepSum state turn.1 turn.2)) = (Standard.Sha1.step shown state.view
      turn.1).a := by
    rw [bits_wrap, stepSum_eq, bits_sum, summands]
    simp only [List.map_cons, List.map_nil, List.sum_cons, List.sum_nil, five, bits_mix,
      bits_constant, word, Standard.Sha1.step, State.view]
    ring
  rw [State.view, step, sum, thirty]
  rfl

theorem view_absorb (state : State) (block : List Int) (shown : Nat → Word)
    (shows : Shows block shown) :
    State.view (absorb state block) = Standard.Sha1.compress state.view shown := by
  have mixed : State.view (((List.range 80).zip (schedule block)).foldl step state) =
      (List.range 80).foldl (Standard.Sha1.step shown) state.view := by
    refine foldl_view ?_ (schedule_turns shows) state
    rintro state turn _ ⟨rfl, -, word⟩
    exact view_step state turn word
  rw [Standard.Sha1.compress, ← mixed]
  simp [absorb, State.view]

theorem view_start : State.view start = Standard.Sha1.start := by
  simp [State.view, start, Standard.Sha1.start]

/-! #### Sums -/

/-- The words of a state are in range. -/
structure State.InRange (state : State) : Prop where
  a : IsWord state.a
  b : IsWord state.b
  c : IsWord state.c
  d : IsWord state.d
  e : IsWord state.e

/-- The sums that are made of a block: those of the steps, and those that add the mixed words to
the words before. -/
def blockSums (state : State) (block : List Int) : List Int :=
  let turns := (List.range 80).zip (schedule block)
  let mixed := turns.foldl step state
  (visits step state turns).flatMap (fun visit => runningSums 0 (summands visit.1 visit.2)) ++
    [state.a + mixed.a, state.b + mixed.b, state.c + mixed.c, state.d + mixed.d,
      state.e + mixed.e]

/-- All sums that are made for the digest of a message. -/
def sums (message : Bytes) : List Int :=
  (visits absorb start (blocksOf true message)).flatMap fun visit => blockSums visit.1 visit.2

theorem isWord_mix (i : Nat) (b c d : Int) :
    IsWord (mix i b c d).1 ∧ IsWord (mix i b c d).2 := by
  unfold mix
  split_ifs <;> simp

theorem isWord_schedule (words : ∀ n ∈ block, IsWord n) : ∀ n ∈ schedule block, IsWord n := by
  intro n member
  rw [schedule, List.mem_reverse, stretch_eq] at member
  refine forall_isWord_iterate (fun read => Word.isWord_rotateUp _ _) ?_ 64 n member
  exact fun n listed => words n (List.mem_reverse.mp listed)

theorem allExact_stepSums {state : State} {turn : Nat × Int} (inRange : state.InRange)
    (word : IsWord turn.2) :
    AllExact (runningSums 0 (summands state turn)) := by
  obtain ⟨mixed, constant⟩ := isWord_mix turn.1 state.b state.c state.d
  refine allExact_runningSums (by simp [summands]) ?_
  simp only [summands, List.forall_mem_cons]
  exact ⟨Word.isWord_rotateUp _ _, mixed, inRange.e, constant, word, nofun⟩

theorem inRange_step (turn : Nat × Int) (state : State) (inRange : state.InRange) :
    (step state turn).InRange := by
  constructor <;> simp only [step]
  · exact isWord_wrap _
  · exact inRange.a
  · exact Word.isWord_rotateUp _ _
  · exact inRange.c
  · exact inRange.d

theorem inRange_start : start.InRange := by
  constructor <;> simp [start]

theorem inRange_absorb (block : List Int) (state : State) (_ : state.InRange) :
    (absorb state block).InRange :=
  ⟨isWord_wrap _, isWord_wrap _, isWord_wrap _, isWord_wrap _, isWord_wrap _⟩

theorem allExact_blockSums {state : State} (words : ∀ n ∈ block, IsWord n)
    (inRange : state.InRange) :
    AllExact (blockSums state block) := by
  refine allExact_append ?_ ?_
  · exact allExact_visits (fun turn _ => inRange_step turn) inRange fun state turn good listed =>
      allExact_stepSums good (isWord_schedule words _ (List.of_mem_zip listed).2)
  · have mixed : (((List.range 80).zip (schedule block)).foldl step state).InRange :=
      List.foldlRecOn _ _ inRange fun state inRange turn _ => inRange_step turn state inRange
    simp only [List.forall_mem_cons, AllExact]
    exact ⟨natAbs_add_lt inRange.a mixed.a, natAbs_add_lt inRange.b mixed.b,
      natAbs_add_lt inRange.c mixed.c, natAbs_add_lt inRange.d mixed.d,
      natAbs_add_lt inRange.e mixed.e, nofun⟩

/-- All sums for a digest are exact. -/
theorem allExact_sums (message : Bytes) : AllExact (sums message) := by
  refine allExact_visits (fun block _ => inRange_absorb block) inRange_start ?_
  exact fun state block inRange listed => allExact_blockSums (isWord_of_mem_blocksOf listed) inRange

end Sha1

/-! ### SHA-256 -/

namespace Sha256

/-- The bits of a state. -/
def State.view (state : State) : Standard.Sha256.State :=
  ⟨bits state.a, bits state.b, bits state.c, bits state.d, bits state.e, bits state.f,
    bits state.g, bits state.h⟩

/-- What the schedule makes of the word fifteen places before. -/
def smallNear (near : Int) : Int :=
  Word.xor (Word.xor (Word.rotateDown near 7) (Word.rotateDown near 18)) (Word.shiftDown near 3)

/-- What the schedule makes of the word two places before. -/
def smallFar (far : Int) : Int :=
  Word.xor (Word.xor (Word.rotateDown far 17) (Word.rotateDown far 19)) (Word.shiftDown far 10)

/-- What a step makes of its first word. -/
def largeFirst (a : Int) : Int :=
  Word.xor (Word.xor (Word.rotateDown a 2) (Word.rotateDown a 13)) (Word.rotateDown a 22)

/-- What a step makes of its fifth word. -/
def largeFifth (e : Int) : Int :=
  Word.xor (Word.xor (Word.rotateDown e 6) (Word.rotateDown e 11)) (Word.rotateDown e 25)

theorem bits_smallNear (near : Int) :
    bits (smallNear near) = Standard.Sha256.smallNear (bits near) := by
  rw [smallNear, Word.bits_xor, Word.bits_xor, Word.bits_rotateDown (by decide),
    Word.bits_rotateDown (by decide), Word.bits_shiftDown, Standard.Sha256.smallNear]

theorem bits_smallFar (far : Int) :
    bits (smallFar far) = Standard.Sha256.smallFar (bits far) := by
  rw [smallFar, Word.bits_xor, Word.bits_xor, Word.bits_rotateDown (by decide),
    Word.bits_rotateDown (by decide), Word.bits_shiftDown, Standard.Sha256.smallFar]

theorem bits_largeFirst (a : Int) :
    bits (largeFirst a) = Standard.Sha256.largeFirst (bits a) := by
  rw [largeFirst, Word.bits_xor, Word.bits_xor, Word.bits_rotateDown (by decide),
    Word.bits_rotateDown (by decide), Word.bits_rotateDown (by decide),
    Standard.Sha256.largeFirst]

theorem bits_largeFifth (e : Int) :
    bits (largeFifth e) = Standard.Sha256.largeFifth (bits e) := by
  rw [largeFifth, Word.bits_xor, Word.bits_xor, Word.bits_rotateDown (by decide),
    Word.bits_rotateDown (by decide), Word.bits_rotateDown (by decide),
    Standard.Sha256.largeFifth]

/-! #### Schedules -/

/-- What is added up to a new word of a stretched block. -/
def wordSummands (read : List Int) : List Int :=
  [entry read 15, smallNear (entry read 14), entry read 6, smallFar (entry read 1)]

theorem nextWord_eq (read : List Int) : nextWord read = wrap (wordSummands read).sum := by
  have sum (a b c d : Int) : [a, b, c, d].sum = a + b + c + d := by
    simp only [List.sum_cons, List.sum_nil, Int.add_zero, Int.add_assoc]
  rw [wordSummands, sum, smallNear, smallFar, nextWord]

theorem stretch_eq (count : Nat) (read : List Int) :
    stretch count read = (fun read => nextWord read :: read)^[count] read := by
  induction count generalizing read with
  | zero => rfl
  | succ count hypothesis => rw [stretch, hypothesis, Function.iterate_succ_apply]

theorem bits_nextWord (enough : 16 ≤ read.length)
    (shows : ShowsSchedule (Standard.Sha256.schedule shown) read) :
    bits (nextWord read) = Standard.Sha256.schedule shown read.length := by
  have back := shows.back enough
  rw [nextWord_eq, bits_wrap, bits_sum, wordSummands,
    Standard.Sha256.schedule.eq_def _ read.length, if_neg (by omega)]
  simp only [List.map_cons, List.map_nil, List.sum_cons, List.sum_nil, bits_smallNear,
    bits_smallFar, back 1 (by decide), back 6 (by decide), back 14 (by decide),
    back 15 (by decide)]
  ring

theorem schedule_turns (shows : Shows block shown) :
    List.Forall₂ (fun turn t => turn.1 = t ∧ t < 64 ∧
        bits turn.2 = Standard.Sha256.schedule shown t)
      ((List.range 64).zip (schedule block)) (List.range 64) := by
  have begins : ∀ t < 16, Standard.Sha256.schedule shown t = shown t := fun t small => by
    rw [Standard.Sha256.schedule, if_pos small]
  rw [schedule, stretch_eq]
  exact turns_of_shows shows begins (fun read enough => bits_nextWord enough) 48

/-! #### Steps -/

/-- What is added up to the first sum of a step. -/
def firstSummands (state : State) (turn : Nat × Int) : List Int :=
  [state.h, largeFifth state.e,
    Word.xor (Word.and state.e state.f) (Word.and (Word.not state.e) state.g),
    entry constants turn.1, turn.2]

/-- What is added up to the second sum of a step. -/
def secondSummands (state : State) : List Int :=
  [largeFirst state.a,
    Word.xor (Word.xor (Word.and state.a state.b) (Word.and state.a state.c))
      (Word.and state.b state.c)]

theorem firstSum_eq (state : State) (turn : Nat × Int) :
    firstSum state turn.1 turn.2 = (firstSummands state turn).sum := by
  rw [firstSummands, sum_five, firstSum, largeFifth]

theorem secondSum_eq (state : State) : secondSum state = (secondSummands state).sum := by
  rw [secondSummands, List.sum_cons, List.sum_cons, List.sum_nil, Int.add_zero, secondSum,
    largeFirst]

theorem view_step (state : State) (turn : Nat × Int)
    (word : bits turn.2 = Standard.Sha256.schedule shown turn.1) :
    State.view (step state turn) = Standard.Sha256.step shown state.view turn.1 := by
  have first : bits (firstSum state turn.1 turn.2) =
      bits state.h + Standard.Sha256.largeFifth (bits state.e) +
        Standard.choose (bits state.e) (bits state.f) (bits state.g) +
          Standard.Sha256.constant turn.1 + Standard.Sha256.schedule shown turn.1 := by
    rw [firstSum_eq, firstSummands, sum_five, bits_add, bits_add, bits_add, bits_add,
      bits_largeFifth, Word.bits_xor, Word.bits_and, Word.bits_and, Word.bits_not, word,
      Standard.choose, Standard.Sha256.constant]
  have second : bits (secondSum state) =
      Standard.Sha256.largeFirst (bits state.a) +
        Standard.majority (bits state.a) (bits state.b) (bits state.c) := by
    rw [secondSum_eq, secondSummands, List.sum_cons, List.sum_cons, List.sum_nil, Int.add_zero,
      bits_add, bits_largeFirst, Word.bits_xor, Word.bits_xor, Word.bits_and, Word.bits_and,
      Word.bits_and, Standard.majority]
  simp only [State.view, step, bits_wrap, bits_add, first, second, Standard.Sha256.step]

theorem view_absorb (state : State) (block : List Int) (shown : Nat → Word)
    (shows : Shows block shown) :
    State.view (absorb state block) = Standard.Sha256.compress state.view shown := by
  have mixed : State.view (((List.range 64).zip (schedule block)).foldl step state) =
      (List.range 64).foldl (Standard.Sha256.step shown) state.view := by
    refine foldl_view ?_ (schedule_turns shows) state
    rintro state turn _ ⟨rfl, -, word⟩
    exact view_step state turn word
  rw [Standard.Sha256.compress, ← mixed]
  simp [absorb, State.view]

theorem view_start : State.view start = Standard.Sha256.start := by
  simp [State.view, start, Standard.Sha256.start]

/-! #### Sums -/

/-- The words of a state are in range. -/
structure State.InRange (state : State) : Prop where
  a : IsWord state.a
  b : IsWord state.b
  c : IsWord state.c
  d : IsWord state.d
  e : IsWord state.e
  f : IsWord state.f
  g : IsWord state.g
  h : IsWord state.h

/-- The sums of a step. -/
def stepSums (state : State) (turn : Nat × Int) : List Int :=
  let first := wrap (firstSum state turn.1 turn.2)
  let second := wrap (secondSum state)
  runningSums 0 (firstSummands state turn) ++ runningSums 0 (secondSummands state) ++
    [state.d + first, first + second]

/-- The sums that are made of a block: those that stretch it, those of the steps, and those that
add the mixed words to the words before. -/
def blockSums (state : State) (block : List Int) : List Int :=
  let turns := (List.range 64).zip (schedule block)
  let mixed := turns.foldl step state
  (List.range 48).flatMap (fun i => runningSums 0 (wordSummands (stretch i block.reverse))) ++
    (visits step state turns).flatMap (fun visit => stepSums visit.1 visit.2) ++
      [state.a + mixed.a, state.b + mixed.b, state.c + mixed.c, state.d + mixed.d,
        state.e + mixed.e, state.f + mixed.f, state.g + mixed.g, state.h + mixed.h]

/-- All sums that are made for the digest of a message. -/
def sums (message : Bytes) : List Int :=
  (visits absorb start (blocksOf true message)).flatMap fun visit => blockSums visit.1 visit.2

theorem isWord_constants : ∀ n ∈ constants, IsWord n := by
  rw [constants, List.forall_mem_map]
  exact fun n _ => isWord_signed n

theorem isWord_stretch (words : ∀ n ∈ block, IsWord n) (count : Nat) :
    ∀ n ∈ stretch count block.reverse, IsWord n := by
  intro n member
  rw [stretch_eq] at member
  refine forall_isWord_iterate (fun read => isWord_wrap _) ?_ count n member
  exact fun n listed => words n (List.mem_reverse.mp listed)

theorem allExact_wordSums (words : ∀ n ∈ read, IsWord n) :
    AllExact (runningSums 0 (wordSummands read)) := by
  refine allExact_runningSums (by simp [wordSummands]) ?_
  simp only [wordSummands, List.forall_mem_cons]
  exact ⟨isWord_entry words _, Word.isWord_xor _ _, isWord_entry words _, Word.isWord_xor _ _,
    nofun⟩

theorem allExact_stepSums {state : State} {turn : Nat × Int} (inRange : state.InRange)
    (word : IsWord turn.2) :
    AllExact (stepSums state turn) := by
  refine allExact_append (allExact_append ?_ ?_) ?_
  · refine allExact_runningSums (by simp [firstSummands]) ?_
    simp only [firstSummands, List.forall_mem_cons]
    exact ⟨inRange.h, Word.isWord_xor _ _, Word.isWord_xor _ _, isWord_entry isWord_constants _,
      word, nofun⟩
  · refine allExact_runningSums (by simp [secondSummands]) ?_
    simp only [secondSummands, List.forall_mem_cons]
    exact ⟨Word.isWord_xor _ _, Word.isWord_xor _ _, nofun⟩
  · simp only [List.forall_mem_cons, AllExact]
    exact ⟨natAbs_add_lt inRange.d (isWord_wrap _),
      natAbs_add_lt (isWord_wrap _) (isWord_wrap _), nofun⟩

theorem inRange_step (turn : Nat × Int) (state : State) (inRange : state.InRange) :
    (step state turn).InRange :=
  ⟨isWord_wrap _, inRange.a, inRange.b, inRange.c, isWord_wrap _, inRange.e, inRange.f,
    inRange.g⟩

theorem inRange_start : start.InRange := by
  constructor <;> simp [start]

theorem inRange_absorb (block : List Int) (state : State) (_ : state.InRange) :
    (absorb state block).InRange :=
  ⟨isWord_wrap _, isWord_wrap _, isWord_wrap _, isWord_wrap _, isWord_wrap _, isWord_wrap _,
    isWord_wrap _, isWord_wrap _⟩

theorem allExact_blockSums {state : State} (words : ∀ n ∈ block, IsWord n)
    (inRange : state.InRange) :
    AllExact (blockSums state block) := by
  refine allExact_append (allExact_append ?_ ?_) ?_
  · exact allExact_flatMap fun i _ => allExact_wordSums (isWord_stretch words i)
  · refine allExact_visits (fun turn _ => inRange_step turn) inRange ?_
    intro state turn inRange listed
    have word := (List.of_mem_zip listed).2
    rw [schedule, List.mem_reverse] at word
    exact allExact_stepSums inRange (isWord_stretch words 48 _ word)
  · have mixed : (((List.range 64).zip (schedule block)).foldl step state).InRange :=
      List.foldlRecOn _ _ inRange fun state inRange turn _ => inRange_step turn state inRange
    simp only [List.forall_mem_cons, AllExact]
    exact ⟨natAbs_add_lt inRange.a mixed.a, natAbs_add_lt inRange.b mixed.b,
      natAbs_add_lt inRange.c mixed.c, natAbs_add_lt inRange.d mixed.d,
      natAbs_add_lt inRange.e mixed.e, natAbs_add_lt inRange.f mixed.f,
      natAbs_add_lt inRange.g mixed.g, natAbs_add_lt inRange.h mixed.h, nofun⟩

/-- All sums for a digest are exact. -/
theorem allExact_sums (message : Bytes) : AllExact (sums message) := by
  refine allExact_visits (fun block _ => inRange_absorb block) inRange_start ?_
  exact fun state block inRange listed => allExact_blockSums (isWord_of_mem_blocksOf listed) inRange

end Sha256

end Digest

namespace Digest

/-! ## Written digests -/

/-- A number in base sixteen, with zeros in front up to a width. -/
def digitsOf (width n : Nat) : Text :=
  let digits := Nat.toDigits 16 n
  List.replicate (width - digits.length) '0' ++ digits

theorem digitsOf_succ {width : Nat} (given : 0 < width) (n : Nat) :
    digitsOf (width + 1) n = digitsOf width (n / 16) ++ [Nat.digitChar (n % 16)] := by
  unfold digitsOf
  by_cases small : n < 16
  · have none_ : Nat.toDigits 16 0 = ['0'] := rfl
    obtain ⟨fewer, rfl⟩ : ∃ fewer, width = fewer + 1 := ⟨width - 1, by omega⟩
    rw [Nat.toDigits_of_lt_base small, Nat.div_eq_of_lt small, none_, Nat.mod_eq_of_lt small]
    simp [List.replicate_succ']
  · rw [Nat.toDigits_of_base_le (by decide) (Nat.not_lt.mp small)]
    simp

/-- The last two digits are those of the lowest byte. -/
theorem digitsOf_add_two {width : Nat} (given : 0 < width) (n : Nat) :
    digitsOf (width + 2) n = digitsOf width (n / 256) ++ hexOfByte (UInt8.ofNat n) := by
  rw [TextCodec.hexOfByte_eq, UInt8.toNat_ofNat', digitsOf_succ (Nat.succ_pos width),
    digitsOf_succ given, List.append_assoc, List.singleton_append, Nat.div_div_eq_div_mul]
  congr 4 <;> omega

theorem hex_eq (bytes : Bytes) : Standard.hex bytes = bytes.flatMap hexOfByte := by
  have digit : ∀ n < 16, Standard.hexDigits.getD n '0' = Nat.digitChar n := by decide
  unfold Standard.hex
  congr 1
  funext b
  have bound := b.toNat_lt
  rw [TextCodec.hexOfByte_eq, digit _ (by omega), digit _ (by omega)]

/-- A word is written by its bytes, the highest first. -/
theorem hexOfWord_eq (word : Int) :
    hexOfWord word = Standard.hex (Standard.bytesOf true (bits word)) := by
  have written : hexOfWord word = digitsOf 8 (unsigned word) := rfl
  have bound := (bits word).isLt
  rw [written, hex_eq, unsigned_eq, digitsOf_add_two (by decide), digitsOf_add_two (by decide),
    digitsOf_add_two (by decide), Standard.bytesOf]
  generalize (bits word).toNat = n at *
  have highest : digitsOf 2 (n / 16777216) = hexOfByte (UInt8.ofNat (n / 16777216)) := by
    have small : n / 16777216 < 256 := by omega
    rw [hexOfByte, UInt8.toNat_ofNat', Nat.mod_eq_of_lt small, digitsOf]
  simp [highest, List.range_succ, Nat.div_div_eq_div_mul]

/-- A word is written by its bytes, the lowest first. -/
theorem writeWord_eq (word : Int) :
    Md5.writeWord word = Standard.hex (Standard.bytesOf false (bits word)) := by
  rw [Md5.writeWord, hex_eq, Standard.bytesOf, if_neg Bool.false_ne_true, List.flatMap_map,
    unsigned_eq]
  rfl

theorem hex_flatMap {α : Type} (items : List α) (bytes : α → Bytes) :
    Standard.hex (items.flatMap bytes) = items.flatMap fun item => Standard.hex (bytes item) := by
  simp only [hex_eq, List.flatMap_assoc]

/-! ## The standard digests -/

theorem md5_eq (message : Bytes) :
    md5 message = Standard.hex (Standard.Md5.digest (pad false message)) := by
  rw [md5, Standard.Md5.digest, ← Md5.view_start, ← foldl_absorb Md5.view_absorb, hex_flatMap]
  simp only [List.flatMap_cons, List.flatMap_nil, writeWord_eq, Md5.State.view]

theorem sha1_eq (message : Bytes) :
    sha1 message = Standard.hex (Standard.Sha1.digest (pad true message)) := by
  rw [sha1, Standard.Sha1.digest, ← Sha1.view_start, ← foldl_absorb Sha1.view_absorb, hex_flatMap]
  simp only [List.flatMap_cons, List.flatMap_nil, hexOfWord_eq, Sha1.State.view]

theorem sha256_eq (message : Bytes) :
    sha256 message = Standard.hex (Standard.Sha256.digest (pad true message)) := by
  rw [sha256, Standard.Sha256.digest, ← Sha256.view_start, ← foldl_absorb Sha256.view_absorb,
    hex_flatMap]
  simp only [List.flatMap_cons, List.flatMap_nil, hexOfWord_eq, Sha256.State.view]

namespace Algorithm

/-- The sums that are made for the digest of a message. -/
def sums : Algorithm → Bytes → List Int
  | md5 => Md5.sums
  | sha1 => Sha1.sums
  | sha256 => Sha256.sums

theorem allExact_sums (algorithm : Algorithm) (message : Bytes) :
    AllExact (algorithm.sums message) := by
  cases algorithm with
  | md5 => exact Md5.allExact_sums message
  | sha1 => exact Sha1.allExact_sums message
  | sha256 => exact Sha256.allExact_sums message

end Algorithm

end Digest

namespace Script

namespace Library

open RuleProbe.Digest
open RuleProbe.Script.Units

/-! ## Digests by their names -/

theorem digest?_eq (algorithm : Algorithm) (message : Bytes) :
    digest? algorithm.name message =
      some (Standard.hex (algorithm.standard (pad algorithm.highFirst message))) := by
  cases algorithm with
  | md5 => exact congrArg some (md5_eq message)
  | sha1 => exact congrArg some (sha1_eq message)
  | sha256 => exact congrArg some (sha256_eq message)

/-- A letter is lowered by the distance of the two cases, and nothing else is changed. -/
theorem toLower_cases (c : Char) :
    c.toLower = c ∨ 65 ≤ c.toNat ∧ c.toNat ≤ 90 ∧ c.toLower.toNat = c.toNat + 32 := by
  unfold Char.toLower
  split_ifs with upper
  · have low : 65 ≤ c.toNat := upper.1
    have high : c.toNat ≤ 90 := upper.2
    have lowered : (c.val + 32).toNat = c.val.toNat + 32 := by
      have code : c.val.toNat = c.toNat := rfl
      rw [UInt32.toNat_add, code]
      exact Nat.mod_eq_of_lt (show c.toNat + 32 < 2 ^ 32 by omega)
    exact .inr ⟨low, high, lowered⟩
  · exact .inl rfl

/-- The name of a digest is found in any case and with hyphens anywhere. -/
theorem digestName_eq {algorithm : Algorithm} {spelled : Text}
    (named : (spelled.filter (· != '-')).map Char.toLower = algorithm.name) :
    digestName (ofText spelled) = algorithm.name := by
  have letters : algorithm.name.all (fun c => c.toNat < 128) = true := by cases algorithm <;> rfl
  have ascii : ∀ c ∈ spelled, c.toNat < 128 := by
    intro c member
    by_cases hyphen : c = '-'
    · rw [hyphen]
      decide
    · have lowered : c.toLower.toNat < 128 := by
        refine of_decide_eq_true (List.all_eq_true.mp letters _ ?_)
        rw [← named]
        exact List.mem_map_of_mem (List.mem_filter.mpr ⟨member, by simpa using hyphen⟩)
      rcases toLower_cases c with same | ⟨-, high, -⟩
      · rwa [same] at lowered
      · omega
  have kept (c : Char) : (c.toLower != '-') = (c != '-') := by
    rcases toLower_cases c with same | ⟨low, -, code⟩
    · rw [same]
    · have different (d : Char) (beyond : 65 ≤ d.toNat) : (d != '-') = true := by
        rw [bne_iff_ne]
        rintro rfl
        exact absurd beyond (by decide)
      rw [different c low, different c.toLower (by omega)]
  rw [digestName, Units.toText_ofText, Text.lower_of_ascii ascii, ← named, List.filter_map]
  simp only [Function.comp_def, kept]

variable (host : Caller) (machine : Machine)

theorem returns_digestHex {algorithm : Algorithm} {spelled : Text}
    (named : (spelled.filter (· != '-')).map Char.toLower = algorithm.name) (text : Text) :
    Returns (callHost host "digestHex" #[.string (ofText text), .string (ofText spelled)]) machine
      (Value.ofText (Standard.hex
        (algorithm.standard (pad algorithm.highFirst (Utf8.encode text))))) machine := by
  have run : callHost host "digestHex" #[.string (ofText text), .string (ofText spelled)] = (do
      let digest ← digestValue host (.string (ofText text)) (.string (ofText spelled))
      return Value.ofText digest) := rfl
  have given : (Value.string (ofText spelled)).isTruthy = true := by
    rw [Value.isTruthy, Bool.not_eq_true', Bool.eq_false_iff, ne_eq, Array.isEmpty_iff]
    intro empty
    rw [ofText_injective (empty.trans ofText_nil.symm)] at named
    cases algorithm <;> nomatch named
  rw [run, digestValue, given, if_pos rfl]
  simp [Convert.toUnits, Convert.plainText, wholeText, digestName_eq named, digest?_eq]

/-- The digest of a string without lone halves of pairs is the standard one of its bytes in UTF-8,
padded in the only way there is. -/
theorem digestHex_standard
    (algorithm : Algorithm)
    {units : Units}
    (whole : IsWhole units.toList)
    {spelled : Text}
    (named : (spelled.filter (· != '-')).map Char.toLower = algorithm.name) :
    ∃ text, units = ofText text ∧
      ∀ message, message = text.flatMap String.utf8EncodeChar → message.length < 2 ^ 50 →
        (∃! padded, Standard.IsPadding algorithm.highFirst message padded) ∧
        (∀ padded, Standard.IsPadding algorithm.highFirst message padded →
          Returns (callHost host "digestHex" #[.string units, .string (ofText spelled)]) machine
            (.string (ofText (Standard.hex (algorithm.standard padded)))) machine) ∧
        AllExact (algorithm.sums message) := by
  obtain ⟨text, rfl⟩ := whole.exists_ofText
  refine ⟨text, rfl, ?_⟩
  rintro message rfl short
  rw [← Utf8.encode_eq] at short ⊢
  have isPadding := isPadding_pad (Nat.lt_trans short (by decide)) algorithm.highFirst
  refine ⟨⟨_, isPadding, fun other padding => padding.unique isPadding⟩, ?_,
    algorithm.allExact_sums _⟩
  intro padded padding
  rw [padding.unique isPadding]
  exact returns_digestHex host machine named text

/-- A string of three letters. -/
def threeLetters : Units := ofText ['a', 'b', 'c']

/-- The letters are digested as is well known, under two spellings of names. -/
theorem digestHex_standard_letters :
    IsWhole threeLetters.toList ∧
      Returns (callHost idleCaller "digestHex"
        #[.string threeLetters, Value.ofText ['M', 'd', '-', '5']]) default
        (Value.ofText "900150983cd24fb0d6963f7d28e17f72".toList) default ∧
      Returns (callHost idleCaller "digestHex"
        #[.string threeLetters, Value.ofText ['S', 'H', 'A', '-', '2', '5', '6']]) default
        (Value.ofText
          "ba7816bf8f01cfea414140de5dae2223b00361a396177a9cb410ff61f20015ad".toList) default := by
  have whole : IsWhole threeLetters.toList :=
    .single (by decide) (by decide) (.single (by decide) (by decide) (.single (by decide)
      (by decide) .nil))
  have spelled : (['M', 'd', '-', '5'].filter (· != '-')).map Char.toLower =
      Algorithm.md5.name := by decide
  have spelled' : (['S', 'H', 'A', '-', '2', '5', '6'].filter (· != '-')).map Char.toLower =
      Algorithm.sha256.name := by decide
  obtain ⟨text, same, digested⟩ := digestHex_standard idleCaller default .md5 whole spelled
  obtain ⟨text', same', digested'⟩ := digestHex_standard idleCaller default .sha256 whole spelled'
  obtain rfl := ofText_injective same
  obtain rfl := ofText_injective same'
  have message : [97, 98, 99] = ['a', 'b', 'c'].flatMap String.utf8EncodeChar := by decide
  have padded (highFirst : Bool) : Standard.IsPadding highFirst [97, 98, 99]
      (pad highFirst [97, 98, 99]) := isPadding_pad (by decide) highFirst
  have known : md5 [97, 98, 99] = "900150983cd24fb0d6963f7d28e17f72".toList := by
    decide +kernel
  have known' : sha256 [97, 98, 99] =
      "ba7816bf8f01cfea414140de5dae2223b00361a396177a9cb410ff61f20015ad".toList := by
    decide +kernel
  rw [← known, ← known', md5_eq, sha256_eq]
  exact ⟨whole, (digested _ message (by decide)).2.1 _ (padded false),
    (digested' _ message (by decide)).2.1 _ (padded true)⟩

end Library

end Script

end RuleProbe
