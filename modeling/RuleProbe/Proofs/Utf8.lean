import Mathlib.Algebra.Group.Nat.Defs
import RuleProbe.Charset.Bytes
import RuleProbe.Proofs.Script.Units

/-!
# Texts as bytes

A text is written in the bytes that UTF-8 has for its characters, one character after another, and
these bytes are read as that text again.

Bytes need not be those of a text.  They are read as a text all the same: where no character stands,
the longest beginning of a character is read as a replacement character, or one byte where none
begins.
-/

namespace RuleProbe

namespace Utf8

/-! ## Characters as bytes -/

/-- The bytes of a character, by the number of its bits. -/
theorem encodeChar_cases (c : Char) :
    (c.toNat < 0x80 ∧ encodeChar c = [UInt8.ofNat c.toNat]) ∨
      (0x80 ≤ c.toNat ∧ c.toNat < 0x800 ∧
        encodeChar c = [UInt8.ofNat (0xc0 + c.toNat / 64), UInt8.ofNat (0x80 + c.toNat % 64)]) ∨
      (0x800 ≤ c.toNat ∧ c.toNat < 0x10000 ∧
        encodeChar c = [UInt8.ofNat (0xe0 + c.toNat / 4096),
          UInt8.ofNat (0x80 + c.toNat / 64 % 64), UInt8.ofNat (0x80 + c.toNat % 64)]) ∨
      (0x10000 ≤ c.toNat ∧
        encodeChar c = [UInt8.ofNat (0xf0 + c.toNat / 262144),
          UInt8.ofNat (0x80 + c.toNat / 4096 % 64), UInt8.ofNat (0x80 + c.toNat / 64 % 64),
          UInt8.ofNat (0x80 + c.toNat % 64)]) := by
  have shifts : Nat.pow 2 0 = 1 ∧ Nat.pow 2 6 = 64 ∧ Nat.pow 2 12 = 4096 := by decide
  obtain ⟨unshifted, one, two⟩ := shifts
  simp only [encodeChar, unshifted, one, two, Nat.div_one]
  by_cases ascii : c.toNat < 0x80
  · exact .inl ⟨ascii, if_pos ascii⟩
  · rw [if_neg ascii]
    by_cases short : c.toNat < 0x800
    · exact .inr (.inl ⟨by omega, short, if_pos short⟩)
    · rw [if_neg short]
      by_cases basic : c.toNat < 0x10000
      · exact .inr (.inr (.inl ⟨by omega, basic, if_pos basic⟩))
      · exact .inr (.inr (.inr ⟨by omega, if_neg basic⟩))

/-- A character is written in its bytes in UTF-8. -/
theorem encodeChar_eq (c : Char) : encodeChar c = String.utf8EncodeChar c := by
  have bound : c.toNat < 0x110000 := Script.Units.toNat_lt c
  have value : c.val.toNat = c.toNat := rfl
  unfold String.utf8EncodeChar
  simp only [value]
  rcases encodeChar_cases c with ⟨ascii, bytes⟩ | ⟨two, short, bytes⟩ | ⟨three, basic, bytes⟩ |
    ⟨four, bytes⟩
  · rw [bytes, if_pos (show c.toNat ≤ 127 by omega)]
  · have lead : c.toNat / 64 % 32 + 192 = 0xc0 + c.toNat / 64 := by omega
    rw [bytes, if_neg (show ¬c.toNat ≤ 127 by omega), if_pos (show c.toNat ≤ 2047 by omega), lead,
      Nat.add_comm 0x80]
  · have lead : c.toNat / 4096 % 16 + 224 = 0xe0 + c.toNat / 4096 := by omega
    rw [bytes, if_neg (show ¬c.toNat ≤ 127 by omega), if_neg (show ¬c.toNat ≤ 2047 by omega),
      if_pos (show c.toNat ≤ 65535 by omega), lead, Nat.add_comm 0x80, Nat.add_comm 0x80]
  · have lead : c.toNat / 262144 % 8 + 240 = 0xf0 + c.toNat / 262144 := by omega
    rw [bytes, if_neg (show ¬c.toNat ≤ 127 by omega), if_neg (show ¬c.toNat ≤ 2047 by omega),
      if_neg (show ¬c.toNat ≤ 65535 by omega), lead, Nat.add_comm 0x80, Nat.add_comm 0x80,
      Nat.add_comm 0x80]

theorem encode_eq (text : Text) : encode text = text.flatMap String.utf8EncodeChar := by
  unfold encode
  rw [funext encodeChar_eq]

/-! ## Bytes as characters -/

variable {b : UInt8} {n bits : Nat} {low high : UInt8}

theorem toNat_ofNat (byte : n < 256) : (UInt8.ofNat n).toNat = n := by
  rw [UInt8.toNat_ofNat', Nat.mod_eq_of_lt byte]

theorem start_ascii (ascii : b.toNat < 0x80) :
    start b = ([some (Char.ofNat b.toNat)], .ready) := by
  simp [start, UInt8.lt_iff_toNat_lt, ascii]

/-- The first of two bytes. -/
theorem start_two (lead : b.toNat = 0xc0 + n) (least : 2 ≤ n) (most : n < 32) :
    start b = ([], .within 1 n 0x80 0xbf) := by
  have beyond : ¬192 + n < 128 ∧ ¬192 + n < 194 ∧ 192 + n < 224 := by omega
  simp [start, UInt8.lt_iff_toNat_lt, lead, beyond]

/-- The first of three bytes: the next one is bounded where fewer would do, and where half of a
pair would stand. -/
theorem start_three (lead : b.toNat = 0xe0 + n) (most : n < 16) :
    start b = ([], .within 2 n (if n = 0 then 0xa0 else 0x80)
      (if n = 13 then 0x9f else 0xbf)) := by
  have beyond : ¬224 + n < 128 ∧ ¬224 + n < 194 ∧ ¬224 + n < 224 ∧ 224 + n < 240 := by omega
  have first : (b == 0xe0) = decide (n = 0) := by
    rw [Bool.eq_iff_iff, beq_iff_eq, decide_eq_true_eq, UInt8.toNat_inj.symm, lead]
    simp
  have last : (b == 0xed) = decide (n = 13) := by
    rw [Bool.eq_iff_iff, beq_iff_eq, decide_eq_true_eq, UInt8.toNat_inj.symm, lead]
    simp
    omega
  simp [start, UInt8.lt_iff_toNat_lt, lead, beyond, first, last]

/-- The first of four bytes: the next one is bounded where fewer would do, and where the last
character is. -/
theorem start_four (lead : b.toNat = 0xf0 + n) (most : n < 5) :
    start b = ([], .within 3 n (if n = 0 then 0x90 else 0x80)
      (if n = 4 then 0x8f else 0xbf)) := by
  have beyond : ¬240 + n < 128 ∧ ¬240 + n < 194 ∧ ¬240 + n < 224 ∧ ¬240 + n < 240 ∧
      240 + n < 245 := by omega
  have first : (b == 0xf0) = decide (n = 0) := by
    rw [Bool.eq_iff_iff, beq_iff_eq, decide_eq_true_eq, UInt8.toNat_inj.symm, lead]
    simp
  have last : (b == 0xf4) = decide (n = 4) := by
    rw [Bool.eq_iff_iff, beq_iff_eq, decide_eq_true_eq, UInt8.toNat_inj.symm, lead]
    simp
    omega
  simp [start, UInt8.lt_iff_toNat_lt, lead, beyond, first, last]

theorem unitsFrom_cons
    {state next : State}
    {found : List (Option Char)}
    {rest : Bytes}
    (stepped : step state b = (found, next)) :
    unitsFrom state (b :: rest) = found ++ unitsFrom next rest := by
  cases state <;> simp [unitsFrom, stepped]

/-- The last byte of a character adds six bits to it, and completes it. -/
theorem unitsFrom_last (small : n < 64) (rest : Bytes) :
    unitsFrom (.within 1 bits 0x80 0xbf) (UInt8.ofNat (0x80 + n) :: rest) =
      some (Char.ofNat (bits * 64 + n)) :: unitsFrom .ready rest := by
  have code := toNat_ofNat (show 0x80 + n < 256 by omega)
  have below : 128 + n ≤ 191 := by omega
  generalize UInt8.ofNat (0x80 + n) = b at code ⊢
  have stepped : step (.within 1 bits 0x80 0xbf) b =
      ([some (Char.ofNat (bits * 64 + n))], .ready) := by
    simp [step, UInt8.le_iff_toNat_le, code, below]
  exact unitsFrom_cons stepped

/-- Another byte within its bounds adds six bits to a character. -/
theorem unitsFrom_next
    (above : low.toNat ≤ 0x80 + n)
    (below : 0x80 + n ≤ high.toNat)
    (missing : Nat)
    (rest : Bytes) :
    unitsFrom (.within (missing + 2) bits low high) (UInt8.ofNat (0x80 + n) :: rest) =
      unitsFrom (.within (missing + 1) (bits * 64 + n) 0x80 0xbf) rest := by
  have code := toNat_ofNat (show 0x80 + n < 256 from Nat.lt_of_le_of_lt below high.toNat_lt)
  generalize UInt8.ofNat (0x80 + n) = b at code ⊢
  have stepped : step (.within (missing + 2) bits low high) b =
      ([], .within (missing + 1) (bits * 64 + n) 0x80 0xbf) := by
    simp [step, UInt8.le_iff_toNat_le, code, above, below]
  exact unitsFrom_cons stepped

/-- A character is read before what follows its bytes. -/
theorem unitsFrom_encodeChar (c : Char) (rest : Bytes) :
    unitsFrom .ready (encodeChar c ++ rest) = some c :: unitsFrom .ready rest := by
  have bound : c.toNat < 0x110000 := Script.Units.toNat_lt c
  have whole := Script.Units.isHalf_toNat c
  simp only [Script.Units.isHalf, Bool.and_eq_false_iff, decide_eq_false_iff_not] at whole
  rcases encodeChar_cases c with ⟨ascii, bytes⟩ | ⟨two, short, bytes⟩ | ⟨three, basic, bytes⟩ |
    ⟨four, bytes⟩
  · have code := toNat_ofNat (show c.toNat < 256 by omega)
    have begun : step .ready (UInt8.ofNat c.toNat) = _ := start_ascii (code.symm ▸ ascii)
    rw [bytes, List.singleton_append, unitsFrom_cons begun, code, Char.ofNat_toNat]
    rfl
  · have lead := toNat_ofNat (show 0xc0 + c.toNat / 64 < 256 by omega)
    have begun : step .ready _ = _ := start_two lead (by omega) (by omega)
    have all : c.toNat / 64 * 64 + c.toNat % 64 = c.toNat := by omega
    rw [bytes, List.cons_append, unitsFrom_cons begun, List.nil_append, List.singleton_append,
      unitsFrom_last (by omega), all, Char.ofNat_toNat]
  · have lead := toNat_ofNat (show 0xe0 + c.toNat / 4096 < 256 by omega)
    have begun : step .ready _ = _ := start_three lead (by omega)
    have above : (if c.toNat / 4096 = 0 then 0xa0 else 0x80 : UInt8).toNat ≤
        0x80 + c.toNat / 64 % 64 := by
      rw [apply_ite UInt8.toNat]
      split
      · simp
        omega
      · simp
    have below : 0x80 + c.toNat / 64 % 64 ≤
        (if c.toNat / 4096 = 13 then 0x9f else 0xbf : UInt8).toNat := by
      rw [apply_ite UInt8.toNat]
      split <;> simp <;> omega
    have all : (c.toNat / 4096 * 64 + c.toNat / 64 % 64) * 64 + c.toNat % 64 = c.toNat := by omega
    rw [bytes, List.cons_append, unitsFrom_cons begun, List.nil_append, List.cons_append,
      unitsFrom_next above below, List.singleton_append, unitsFrom_last (by omega), all,
      Char.ofNat_toNat]
  · have lead := toNat_ofNat (show 0xf0 + c.toNat / 262144 < 256 by omega)
    have begun : step .ready _ = _ := start_four lead (by omega)
    have above : (if c.toNat / 262144 = 0 then 0x90 else 0x80 : UInt8).toNat ≤
        0x80 + c.toNat / 4096 % 64 := by
      rw [apply_ite UInt8.toNat]
      split
      · simp
        omega
      · simp
    have below : 0x80 + c.toNat / 4096 % 64 ≤
        (if c.toNat / 262144 = 4 then 0x8f else 0xbf : UInt8).toNat := by
      rw [apply_ite UInt8.toNat]
      split <;> simp <;> omega
    have all : ((c.toNat / 262144 * 64 + c.toNat / 4096 % 64) * 64 + c.toNat / 64 % 64) * 64 +
        c.toNat % 64 = c.toNat := by omega
    rw [bytes, List.cons_append, unitsFrom_cons begun, List.nil_append, List.cons_append,
      unitsFrom_next above below, List.cons_append,
      unitsFrom_next (Nat.le_add_right 0x80 _) (by change _ ≤ 191; omega), List.singleton_append,
      unitsFrom_last (by omega), all, Char.ofNat_toNat]

/-- The bytes of a text are read as this text. -/
theorem decode?_encode (text : Text) : decode? (encode text) = some text := by
  have read : units (encode text) = text.map some := by
    unfold units encode
    induction text with
    | nil => rfl
    | cons c rest hypothesis =>
        rw [List.flatMap_cons, unitsFrom_encodeChar, hypothesis, List.map_cons]
  unfold decode?
  have all : text.mapM (m := Option) (fun c => pure (id c)) = pure (text.map id) := List.mapM_pure
  rw [List.map_id] at all
  rw [read, List.mapM_map]
  exact all

/-! ## Texts with replacements -/

/-- The bytes of a character begin with these bytes. -/
def Begins (part : Bytes) : Prop := ∃ c, part <+: String.utf8EncodeChar c

/-- Where no character stands, bytes are broken off: as many as a character begins with, or one
byte. -/
structure IsBroken (part rest : Bytes) : Prop where
  /-- No character stands there. -/
  noCharacter : ∀ c, ¬String.utf8EncodeChar c <+: part ++ rest
  /-- Some bytes are broken off. -/
  given : part ≠ []
  /-- A character begins with them, or they are one byte. -/
  begun : Begins part ∨ part.length = 1
  /-- No character begins with more of the bytes. -/
  longest : ∀ b ∈ rest.head?, ¬Begins (part ++ [b])

/-- Bytes in UTF-8 are read as a text, with a replacement character wherever bytes are broken
off. -/
inductive Replaces : Bytes → Text → Prop
  /-- No bytes. -/
  | nil : Replaces [] []
  /-- The bytes of a character. -/
  | character
      (c : Char)
      {rest : Bytes}
      {text : Text}
      (others : Replaces rest text) :
      Replaces (String.utf8EncodeChar c ++ rest) (c :: text)
  /-- Bytes that are broken off. -/
  | broken
      {part rest : Bytes}
      {text : Text}
      (isBroken : IsBroken part rest)
      (others : Replaces rest text) :
      Replaces (part ++ rest) ('\uFFFD' :: text)

/-! ## Bytes of a character that is not complete -/

variable {part rest : Bytes} {missing bits : Nat} {low high b : UInt8}

/-- The bytes of the lowest groups of six bits. -/
def tails : Nat → Nat → Bytes
  | 0, _ => []
  | count + 1, code => UInt8.ofNat (0x80 + code / 64 ^ count % 64) :: tails count code

/-- Of a character all bytes but the last `missing + 1` are read: every number that has the bits so
far, and the next ones within bounds, is a character whose bytes begin so. -/
structure Pending (part : Bytes) (missing bits : Nat) (low high : UInt8) : Prop where
  /-- There are bytes within the bounds, and all of them are bytes behind the first one. -/
  bounds : 0x80 ≤ low.toNat ∧ low.toNat ≤ high.toNat ∧ high.toNat < 0xc0
  /-- The bytes of the characters. -/
  completes : ∀ code, code / 64 ^ (missing + 1) = bits →
    low.toNat ≤ 0x80 + code / 64 ^ missing % 64 → 0x80 + code / 64 ^ missing % 64 ≤ high.toNat →
      ∃ c : Char, c.toNat = code ∧ encodeChar c = part ++ tails (missing + 1) code
  /-- The bytes are read to this state. -/
  reads : ∀ rest, unitsFrom .ready (part ++ rest) =
    unitsFrom (.within (missing + 1) bits low high) rest

theorem unitsFrom_start {found : List (Option Char)} {next : State}
    (begun : start b = (found, next)) (rest : Bytes) :
    unitsFrom .ready (b :: rest) = found ++ unitsFrom next rest := by
  have stepped : step .ready b = (found, next) := begun
  exact unitsFrom_cons stepped

theorem exists_char {code : Nat} (valid : code.isValidChar) : ∃ c : Char, c.toNat = code :=
  ⟨Char.ofNat code, by rw [Char.ofNat, dif_pos valid]; rfl⟩

/-- After the first of two bytes. -/
theorem pending_two {n : Nat} (lead : b.toNat = 0xc0 + n) (least : 2 ≤ n) (most : n < 32) :
    Pending [b] 0 n 0x80 0xbf where
  bounds := by decide
  completes := by
    intro code whole _ _
    simp only [Nat.zero_add, Nat.pow_one] at whole
    have valid : code.isValidChar := by unfold Nat.isValidChar; omega
    obtain ⟨c, rfl⟩ := exists_char valid
    have first : b = UInt8.ofNat (0xc0 + c.toNat / 64) := by
      rw [whole, ← lead, UInt8.ofNat_toNat]
    refine ⟨c, rfl, ?_⟩
    rcases encodeChar_cases c with ⟨_, -⟩ | ⟨_, _, bytes⟩ | ⟨_, _, -⟩ | ⟨_, -⟩ <;> try omega
    simp [bytes, first, tails]
  reads := unitsFrom_start (start_two lead least most)

/-- After the first of three bytes. -/
theorem pending_three {n : Nat} (lead : b.toNat = 0xe0 + n) (most : n < 16) :
    Pending [b] 1 n (if n = 0 then 0xa0 else 0x80) (if n = 13 then 0x9f else 0xbf) where
  bounds := by
    rw [apply_ite UInt8.toNat, apply_ite UInt8.toNat]
    split <;> split <;> simp
    omega
  completes := by
    intro code whole above below
    simp only [Nat.reduceAdd, Nat.reducePow, apply_ite UInt8.toNat] at whole above below
    have valid : 0x800 ≤ code ∧ code < 0x10000 ∧ code.isValidChar := by
      unfold Nat.isValidChar
      split at above <;> split at below <;> simp at above below <;> omega
    obtain ⟨c, rfl⟩ := exists_char valid.2.2
    have first : b = UInt8.ofNat (0xe0 + c.toNat / 4096) := by
      rw [whole, ← lead, UInt8.ofNat_toNat]
    refine ⟨c, rfl, ?_⟩
    rcases encodeChar_cases c with ⟨_, -⟩ | ⟨_, _, -⟩ | ⟨_, _, bytes⟩ | ⟨_, -⟩ <;> try omega
    simp [bytes, first, tails]
  reads := unitsFrom_start (start_three lead most)

/-- After the first of four bytes. -/
theorem pending_four {n : Nat} (lead : b.toNat = 0xf0 + n) (most : n < 5) :
    Pending [b] 2 n (if n = 0 then 0x90 else 0x80) (if n = 4 then 0x8f else 0xbf) where
  bounds := by
    rw [apply_ite UInt8.toNat, apply_ite UInt8.toNat]
    split <;> split <;> simp
    omega
  completes := by
    intro code whole above below
    simp only [Nat.reduceAdd, Nat.reducePow, apply_ite UInt8.toNat] at whole above below
    have valid : 0x10000 ≤ code ∧ code.isValidChar := by
      unfold Nat.isValidChar
      split at above <;> split at below <;> simp at above below <;> omega
    obtain ⟨c, rfl⟩ := exists_char valid.2
    have first : b = UInt8.ofNat (0xf0 + c.toNat / 262144) := by
      rw [whole, ← lead, UInt8.ofNat_toNat]
    refine ⟨c, rfl, ?_⟩
    rcases encodeChar_cases c with ⟨_, -⟩ | ⟨_, _, -⟩ | ⟨_, _, -⟩ | ⟨_, bytes⟩ <;> try omega
    simp [bytes, first, tails]
  reads := unitsFrom_start (start_four lead most)

/-! ## The next byte -/

/-- The bounds of the byte after `part`, as numbers. -/
theorem toNat_of_within (within : low ≤ b ∧ b ≤ high) :
    low.toNat ≤ b.toNat ∧ b.toNat ≤ high.toNat :=
  ⟨UInt8.le_iff_toNat_le.mp within.1, UInt8.le_iff_toNat_le.mp within.2⟩

/-- A byte within the bounds is one more of the character. -/
theorem Pending.next (pending : Pending part (missing + 1) bits low high)
    (within : low ≤ b ∧ b ≤ high) :
    Pending (part ++ [b]) missing (bits * 64 + (b.toNat - 0x80)) 0x80 0xbf where
  bounds := by decide
  completes := by
    intro code whole _ _
    obtain ⟨least, -, most⟩ := pending.bounds
    obtain ⟨above, below⟩ := toNat_of_within within
    have higher : code / 64 ^ (missing + 1 + 1) = bits := by
      rw [Nat.pow_succ, ← Nat.div_div_eq_div_mul, whole]
      omega
    have group : 0x80 + code / 64 ^ (missing + 1) % 64 = b.toNat := by omega
    obtain ⟨c, same, bytes⟩ := pending.completes code higher (by omega) (by omega)
    refine ⟨c, same, ?_⟩
    rw [bytes, tails, group, UInt8.ofNat_toNat, List.append_assoc, List.singleton_append]
  reads := by
    intro rest
    have stepped : step (.within (missing + 1 + 1) bits low high) b =
        ([], .within (missing + 1) (bits * 64 + (b.toNat - 0x80)) 0x80 0xbf) := by
      simp [step, within]
    rw [List.append_assoc, List.singleton_append, pending.reads, unitsFrom_cons stepped,
      List.nil_append]

/-- A byte within the bounds completes the character. -/
theorem Pending.last (pending : Pending part 0 bits low high) (within : low ≤ b ∧ b ≤ high) :
    ∃ c, encodeChar c = part ++ [b] ∧ ∀ rest,
      unitsFrom (.within 1 bits low high) (b :: rest) = some c :: unitsFrom .ready rest := by
  obtain ⟨least, -, most⟩ := pending.bounds
  obtain ⟨above, below⟩ := toNat_of_within within
  have group : 0x80 + (bits * 64 + (b.toNat - 0x80)) % 64 = b.toNat := by omega
  obtain ⟨c, same, bytes⟩ := pending.completes (bits * 64 + (b.toNat - 0x80))
    (by rw [Nat.zero_add, Nat.pow_one]; omega) (by rw [Nat.pow_zero, Nat.div_one]; omega)
    (by rw [Nat.pow_zero, Nat.div_one]; omega)
  have stepped : step (.within 1 bits low high) b = ([some c], .ready) := by
    have read : Char.ofNat (bits * 64 + (b.toNat - 0x80)) = c := by rw [← same, Char.ofNat_toNat]
    simp [step, within, read]
  refine ⟨c, ?_, fun rest => unitsFrom_cons stepped⟩
  rw [bytes, tails, tails, Nat.pow_zero, Nat.div_one, group, UInt8.ofNat_toNat]

/-- A byte out of the bounds begins anew. -/
theorem unitsFrom_of_not_within (outside : ¬(low ≤ b ∧ b ≤ high)) (rest : Bytes) :
    unitsFrom (.within (missing + 1) bits low high) (b :: rest) =
      none :: unitsFrom .ready (b :: rest) := by
  have stepped : step (.within (missing + 1) bits low high) b =
      (none :: (start b).1, (start b).2) := by
    rw [step, if_neg (by simpa using outside)]
  rw [unitsFrom_cons stepped, List.cons_append]
  exact congrArg _ (unitsFrom_start rfl rest).symm

/-! ## Bytes that are broken off -/

/-- No character stands where an error is read. -/
theorem not_isPrefix_of_none {bytes : Bytes} {units : List (Option Char)}
    (read : unitsFrom .ready bytes = none :: units) (c : Char) :
    ¬String.utf8EncodeChar c <+: bytes := by
  rintro ⟨rest, rfl⟩
  rw [← encodeChar_eq, unitsFrom_encodeChar] at read
  nomatch read

/-- A character begins with bytes that miss others. -/
theorem Pending.begins (pending : Pending part missing bits low high) : Begins part := by
  obtain ⟨least, order, most⟩ := pending.bounds
  have positive : 0 < 64 ^ missing := Nat.pow_pos (by decide)
  have group : (bits * 64 + (low.toNat - 0x80)) * 64 ^ missing / 64 ^ missing =
      bits * 64 + (low.toNat - 0x80) := Nat.mul_div_cancel _ positive
  obtain ⟨c, -, bytes⟩ := pending.completes ((bits * 64 + (low.toNat - 0x80)) * 64 ^ missing)
    (by rw [Nat.pow_succ, ← Nat.div_div_eq_div_mul, group]; omega) (by rw [group]; omega)
    (by rw [group]; omega)
  exact ⟨c, by rw [← encodeChar_eq, bytes]; exact List.prefix_append _ _⟩

/-- Bytes that miss others are broken off where none of these follows. -/
theorem Pending.isBroken (pending : Pending part missing bits low high)
    (outside : ∀ b ∈ rest.head?, ¬(low ≤ b ∧ b ≤ high)) :
    IsBroken part rest where
  noCharacter := by
    cases rest with
    | nil => exact not_isPrefix_of_none (pending.reads [])
    | cons b rest =>
        have read : unitsFrom .ready (part ++ b :: rest) = none :: unitsFrom .ready (b :: rest) :=
          (pending.reads _).trans (unitsFrom_of_not_within (outside b rfl) rest)
        exact not_isPrefix_of_none read
  given := by
    rintro rfl
    exact absurd (pending.reads []) (by simp [unitsFrom])
  begun := .inl pending.begins
  longest := by
    rintro b first ⟨c, more, bytes⟩
    have read : unitsFrom .ready (part ++ b :: more) = none :: unitsFrom .ready (b :: more) :=
      (pending.reads _).trans (unitsFrom_of_not_within (outside b first) more)
    rw [List.append_assoc, List.singleton_append] at bytes
    exact not_isPrefix_of_none read c (bytes ▸ List.prefix_rfl)

/-- How a first byte is read: it is a character, or begins none, or misses others. -/
theorem start_cases (b : UInt8) :
    (∃ c, encodeChar c = [b] ∧ start b = ([some c], .ready)) ∨
      start b = ([none], .ready) ∨
      ∃ missing bits low high, start b = ([], .within (missing + 1) bits low high) ∧
        Pending [b] missing bits low high := by
  have bound := b.toNat_lt
  by_cases ascii : b.toNat < 0x80
  · have valid : b.toNat.isValidChar := by unfold Nat.isValidChar; omega
    obtain ⟨c, same⟩ := exists_char valid
    refine .inl ⟨c, ?_, by rw [start_ascii ascii, ← same, Char.ofNat_toNat]⟩
    rcases encodeChar_cases c with ⟨_, bytes⟩ | ⟨_, _, -⟩ | ⟨_, _, -⟩ | ⟨_, -⟩ <;> try omega
    rw [bytes, same, UInt8.ofNat_toNat]
  · by_cases two : 0xc2 ≤ b.toNat ∧ b.toNat < 0xe0
    · have lead : b.toNat = 0xc0 + (b.toNat - 0xc0) := by omega
      exact .inr (.inr ⟨_, _, _, _, start_two lead (by omega) (by omega),
        pending_two lead (by omega) (by omega)⟩)
    · by_cases three : 0xe0 ≤ b.toNat ∧ b.toNat < 0xf0
      · have lead : b.toNat = 0xe0 + (b.toNat - 0xe0) := by omega
        exact .inr (.inr ⟨_, _, _, _, start_three lead (by omega),
          pending_three lead (by omega)⟩)
      · by_cases four : 0xf0 ≤ b.toNat ∧ b.toNat < 0xf5
        · have lead : b.toNat = 0xf0 + (b.toNat - 0xf0) := by omega
          exact .inr (.inr ⟨_, _, _, _, start_four lead (by omega), pending_four lead (by omega)⟩)
        · refine .inr (.inl ?_)
          by_cases tail : b.toNat < 0xc2
          · simp [start, UInt8.lt_iff_toNat_lt, ascii, tail]
          · have beyond : ¬b.toNat < 0xe0 ∧ ¬b.toNat < 0xf0 ∧ ¬b.toNat < 0xf5 := by omega
            simp [start, UInt8.lt_iff_toNat_lt, ascii, tail, beyond]

/-! ## Reading -/

/-- The text of bytes from a state on, with a replacement character for each error. -/
def lossyFrom (state : State) (bytes : Bytes) : Text :=
  (unitsFrom state bytes).map fun unit => unit.getD '\uFFFD'

theorem lossyFrom_of_cons
    {state next : State}
    {bytes : Bytes}
    {unit : Option Char}
    (read : unitsFrom state bytes = unit :: unitsFrom next rest) :
    lossyFrom state bytes = unit.getD '\uFFFD' :: lossyFrom next rest := by
  rw [lossyFrom, read, List.map_cons, lossyFrom]

/-- A first byte is read before the others. -/
theorem replaces_of_ready
    (others : Replaces rest (lossyFrom .ready rest))
    (more : ∀ missing bits low high, Pending [b] missing bits low high →
      Replaces ([b] ++ rest) (lossyFrom (.within (missing + 1) bits low high) rest)) :
    Replaces (b :: rest) (lossyFrom .ready (b :: rest)) := by
  rcases start_cases b with
    ⟨c, bytes, begun⟩ | begun | ⟨missing, bits, low, high, begun, pending⟩
  · have read : unitsFrom .ready (b :: rest) = some c :: unitsFrom .ready rest :=
      unitsFrom_start begun rest
    rw [lossyFrom_of_cons read, ← List.singleton_append, ← bytes, encodeChar_eq]
    exact .character c others
  · have read (rest : Bytes) : unitsFrom .ready (b :: rest) = none :: unitsFrom .ready rest :=
      unitsFrom_start begun rest
    have isBroken : IsBroken [b] rest :=
      { noCharacter := not_isPrefix_of_none (read rest)
        given := List.cons_ne_nil b []
        begun := .inr rfl
        longest := fun d _ ⟨c, more, bytes⟩ =>
          not_isPrefix_of_none (read (d :: more)) c (bytes ▸ List.prefix_rfl) }
    rw [lossyFrom_of_cons (read rest)]
    exact .broken isBroken others
  · have read : lossyFrom .ready (b :: rest) =
        lossyFrom (.within (missing + 1) bits low high) rest := by
      rw [lossyFrom, unitsFrom_start begun, List.nil_append, lossyFrom]
    rw [read]
    exact more _ _ _ _ pending

/-- A byte behind others of a character is read before those that follow. -/
theorem replaces_of_pending
    (pending : Pending part missing bits low high)
    (anew : Replaces (b :: rest) (lossyFrom .ready (b :: rest)))
    (others : Replaces rest (lossyFrom .ready rest))
    (more : ∀ part missing bits low high, Pending part missing bits low high →
      Replaces (part ++ rest) (lossyFrom (.within (missing + 1) bits low high) rest)) :
    Replaces (part ++ b :: rest) (lossyFrom (.within (missing + 1) bits low high) (b :: rest)) := by
  by_cases inside : low ≤ b ∧ b ≤ high
  · cases missing with
    | zero =>
        obtain ⟨c, bytes, read⟩ := pending.last inside
        rw [lossyFrom_of_cons (read rest), List.append_cons, ← bytes, encodeChar_eq]
        exact .character c others
    | succ missing =>
        have next := pending.next inside
        have read := next.reads rest
        rw [← List.append_cons, pending.reads] at read
        rw [lossyFrom, read, List.append_cons]
        exact more _ _ _ _ _ next
  · rw [lossyFrom_of_cons (unitsFrom_of_not_within inside rest)]
    refine .broken (pending.isBroken ?_) anew
    rintro d first
    obtain rfl : b = d := Option.some.inj first
    exact inside

/-- What is read is the text of the bytes, also where a character was begun before. -/
theorem replaces_lossyFrom (bytes : Bytes) :
    Replaces bytes (lossyFrom .ready bytes) ∧
      ∀ part missing bits low high, Pending part missing bits low high →
        Replaces (part ++ bytes) (lossyFrom (.within (missing + 1) bits low high) bytes) := by
  induction bytes with
  | nil => exact ⟨.nil, fun _ _ _ _ _ pending => .broken (pending.isBroken nofun) .nil⟩
  | cons b rest hypothesis =>
      obtain ⟨others, more⟩ := hypothesis
      have anew := replaces_of_ready (b := b) others (more [b])
      exact ⟨anew, fun _ _ _ _ _ pending => replaces_of_pending pending anew others more⟩

/-- Any bytes are read as their text. -/
theorem replaces_decodeLossy (bytes : Bytes) : Replaces bytes (decodeLossy bytes) :=
  (replaces_lossyFrom bytes).1

/-- Where nothing is replaced, the text is read as it is. -/
theorem decodeLossy_of_decode? {bytes : Bytes} {text : Text} (read : decode? bytes = some text) :
    decodeLossy bytes = text := by
  have whole (units : List (Option Char)) (text : Text) (all : units.mapM id = some text) :
      units.map (fun unit => unit.getD '\uFFFD') = text := by
    induction units generalizing text with
    | nil =>
        rw [List.mapM_nil] at all
        rw [← Option.some.inj all, List.map_nil]
    | cons unit units hypothesis =>
        rw [List.mapM_cons, Option.bind_eq_bind, Option.bind_eq_some_iff] at all
        obtain ⟨c, rfl, all⟩ := all
        obtain ⟨others, rest, same⟩ := Option.bind_eq_some_iff.mp all
        rw [List.map_cons, hypothesis others rest, ← Option.some.inj same]
        rfl
  exact whole (units bytes) text read

/-! ## Bytes have one text -/

theorem IsBroken.length_le {other otherRest : Bytes} (one : IsBroken part rest)
    (two : IsBroken other otherRest) (same : part ++ rest = other ++ otherRest) :
    other.length ≤ part.length := by
  refine Nat.le_of_not_lt fun longer => ?_
  obtain ⟨more, rfl⟩ : part <+: other :=
    List.prefix_of_prefix_length_le (same ▸ List.prefix_append part rest)
      (List.prefix_append other otherRest) (Nat.le_of_lt longer)
  rw [List.append_assoc, List.append_cancel_left_eq] at same
  cases more with
  | nil => simp at longer
  | cons b more =>
      have first : b ∈ rest.head? := by rw [same]; rfl
      rcases two.begun with ⟨c, begins⟩ | single
      · refine one.longest b first ⟨c, List.IsPrefix.trans ?_ begins⟩
        exact ⟨more, (List.append_cons part b more).symm⟩
      · have given := List.length_pos_iff.mpr one.given
        simp at single
        omega

theorem Replaces.eq_nil {text : Text} (replaces : Replaces [] text) : text = [] := by
  generalize none_ : ([] : Bytes) = bytes at replaces
  cases replaces with
  | nil => rfl
  | character c => exact absurd none_ (by simp [String.utf8EncodeChar_ne_nil])
  | broken isBroken => exact absurd (List.append_eq_nil_iff.mp none_.symm).1 isBroken.given

/-- Characters whose bytes come first are the same, and so is what follows. -/
theorem encodeChar_append_inj {c d : Char} {rest other : Bytes}
    (same : String.utf8EncodeChar c ++ rest = String.utf8EncodeChar d ++ other) :
    c = d ∧ rest = other := by
  have read := unitsFrom_encodeChar c rest
  rw [encodeChar_eq, same, ← encodeChar_eq, unitsFrom_encodeChar] at read
  obtain rfl : d = c := Option.some.inj (List.cons.inj read).1
  exact ⟨rfl, List.append_cancel_left same⟩

/-- Bytes are read in one way only. -/
theorem Replaces.unique {bytes : Bytes} {text other : Text} (first : Replaces bytes text)
    (second : Replaces bytes other) :
    text = other := by
  induction first generalizing other with
  | nil => exact second.eq_nil.symm
  | @character c rest text _ hypothesis =>
      generalize same : String.utf8EncodeChar c ++ rest = bytes at second
      cases second with
      | nil => exact absurd same (by simp [String.utf8EncodeChar_ne_nil])
      | character d others =>
          obtain ⟨rfl, rfl⟩ := encodeChar_append_inj same
          rw [hypothesis others]
      | broken isBroken => exact absurd (same ▸ List.prefix_append _ rest) (isBroken.noCharacter c)
  | @broken part rest text isBroken _ hypothesis =>
      generalize same : part ++ rest = bytes at second
      cases second with
      | nil => exact absurd (List.append_eq_nil_iff.mp same).1 isBroken.given
      | character d => exact absurd (same ▸ List.prefix_append _ _) (isBroken.noCharacter d)
      | broken otherBroken others =>
          have length := Nat.le_antisymm (otherBroken.length_le isBroken same.symm)
            (isBroken.length_le otherBroken same)
          obtain ⟨rfl, rfl⟩ := List.append_inj same length
          rw [hypothesis others]

/-- Bytes have one text, which is the one that is read. -/
theorem replaces_iff {bytes : Bytes} {text : Text} :
    Replaces bytes text ↔ decodeLossy bytes = text :=
  ⟨fun replaces => (replaces_decodeLossy bytes).unique replaces,
    fun same => same ▸ replaces_decodeLossy bytes⟩

end Utf8

end RuleProbe
