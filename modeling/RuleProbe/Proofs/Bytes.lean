import RuleProbe.Charset.TextCodec
import RuleProbe.Proofs.Utf8

/-!
# Bytes as digits

Bytes are written in base sixty-four by their bits.  These are taken six at a time, and every six
are a digit of an alphabet of sixty-four characters.  The last digit is filled up with zeros, and
the digits with padding to a multiple of four.  Digits are read as the bytes that their bits make
up.
-/

namespace RuleProbe

namespace Base64

/-! ## Bits -/

/-- The lowest bits of a number, the highest of them first. -/
def bitsOf : Nat → Nat → List Bool
  | 0, _ => []
  | count + 1, n => n.testBit count :: bitsOf count n

/-- The number that bits stand for, the highest of them first. -/
def numberOf : List Bool → Nat
  | [] => 0
  | bit :: rest => bit.toNat * 2 ^ rest.length + numberOf rest

variable {count n : Nat}

@[simp] theorem length_bitsOf (count n : Nat) : (bitsOf count n).length = count := by
  induction count with
  | zero => rfl
  | succ count hypothesis => rw [bitsOf, List.length_cons, hypothesis]

theorem bitsOf_zero (count : Nat) : bitsOf count 0 = List.replicate count false := by
  induction count with
  | zero => rfl
  | succ count hypothesis => rw [bitsOf, hypothesis, Nat.zero_testBit, List.replicate_succ]

/-- The bits of a number depend on its remainder alone. -/
theorem bitsOf_mod (count n : Nat) : bitsOf count (n % 2 ^ count) = bitsOf count n := by
  have low (taken : Nat) (least : taken ≤ count) :
      bitsOf taken (n % 2 ^ count) = bitsOf taken n := by
    induction taken with
    | zero => rfl
    | succ taken hypothesis =>
        have inside : decide (taken < count) = true := decide_eq_true (by omega)
        rw [bitsOf, bitsOf, Nat.testBit_mod_two_pow, inside, Bool.true_and, hypothesis (by omega)]
  exact low count (Nat.le_refl count)

/-- The higher bits of a number come before the lower ones. -/
theorem bitsOf_add (high low n : Nat) :
    bitsOf (high + low) n = bitsOf high (n / 2 ^ low) ++ bitsOf low n := by
  induction high with
  | zero => rw [Nat.zero_add, bitsOf, List.nil_append]
  | succ high hypothesis =>
      rw [Nat.add_right_comm, bitsOf, bitsOf, Nat.testBit_div_two_pow, hypothesis, List.cons_append]

/-- Bits before others are those of the number that has them all. -/
theorem bitsOf_append {high low m n : Nat} (small : n < 2 ^ low) :
    bitsOf high m ++ bitsOf low n = bitsOf (high + low) (m * 2 ^ low + n) := by
  have above : (m * 2 ^ low + n) / 2 ^ low = m := by
    rw [Nat.mul_comm, Nat.mul_add_div (Nat.two_pow_pos low), Nat.div_eq_of_lt small, Nat.add_zero]
  have below : (m * 2 ^ low + n) % 2 ^ low = n := by
    rw [Nat.mul_comm, Nat.mul_add_mod, Nat.mod_eq_of_lt small]
  rw [bitsOf_add, above, ← bitsOf_mod low (m * 2 ^ low + n), below]

theorem numberOf_lt (bits : List Bool) : numberOf bits < 2 ^ bits.length := by
  induction bits with
  | nil => decide
  | cons bit rest hypothesis =>
      have most : bit.toNat * 2 ^ rest.length ≤ 2 ^ rest.length := by
        cases bit <;> simp
      rw [numberOf, List.length_cons, Nat.pow_succ]
      omega

theorem numberOf_bitsOf (count n : Nat) : numberOf (bitsOf count n) = n % 2 ^ count := by
  induction count with
  | zero => rw [bitsOf, numberOf, Nat.pow_zero, Nat.mod_one]
  | succ count hypothesis =>
      rw [bitsOf, numberOf, length_bitsOf, hypothesis, Nat.mod_pow_succ, Nat.toNat_testBit,
        Nat.mul_comm, Nat.add_comm]

theorem bitsOf_numberOf (bits : List Bool) : bitsOf bits.length (numberOf bits) = bits := by
  induction bits with
  | nil => rfl
  | cons bit rest hypothesis =>
      have single : bitsOf 1 bit.toNat = [bit] := by cases bit <;> rfl
      rw [numberOf, List.length_cons, Nat.add_comm rest.length, ← bitsOf_append (numberOf_lt rest),
        hypothesis, single, List.singleton_append]

/-- The bits of bytes. -/
def bitsOfBytes (bytes : Bytes) : List Bool := bytes.flatMap fun b => bitsOf 8 b.toNat

/-- Bits with zeros behind them, six of them together. -/
def filled (bits : List Bool) : List Bool := bits ++ List.replicate (6 - bits.length) false

/-- The numbers of bits taken six at a time, the last of them filled up. -/
def sextets : List Bool → List Nat
  | a :: b :: c :: d :: e :: f :: rest => numberOf [a, b, c, d, e, f] :: sextets rest
  | [] => []
  | bits => [numberOf (filled bits)]

/-- The bytes of bits taken eight at a time; what is left over makes no byte. -/
def octets : List Bool → Bytes
  | a :: b :: c :: d :: e :: f :: g :: h :: rest =>
      UInt8.ofNat (numberOf [a, b, c, d, e, f, g, h]) :: octets rest
  | _ => []

theorem numberOf_six (n : Nat) : numberOf (bitsOf 6 n) = n % 64 := numberOf_bitsOf 6 n

theorem sextets_bitsOf (n : Nat) (rest : List Bool) :
    sextets (bitsOf 6 n ++ rest) = n % 64 :: sextets rest :=
  congrArg (· :: sextets rest) (numberOf_six n)

theorem octets_bitsOf (n : Nat) (rest : List Bool) :
    octets (bitsOf 8 n ++ rest) = UInt8.ofNat (n % 256) :: octets rest :=
  congrArg (UInt8.ofNat · :: octets rest) (numberOf_bitsOf 8 n)

theorem length_lt_of_short
    {bits : List Bool}
    (short : ∀ a b c d e f rest, bits = a :: b :: c :: d :: e :: f :: rest → False) :
    bits.length < 6 := by
  match bits, short with
  | a :: b :: c :: d :: e :: f :: rest, short => exact (short a b c d e f rest rfl).elim
  | [], _ | [_], _ | [_, _], _ | [_, _, _], _ | [_, _, _, _], _ | [_, _, _, _, _], _ => simp

theorem length_filled {bits : List Bool} (few : bits.length < 6) : (filled bits).length = 6 := by
  rw [filled, List.length_append, List.length_replicate]
  omega

/-- The digits of bits have these bits, with fewer than six zeros behind them. -/
theorem bitsOf_sextets (bits : List Bool) :
    ∃ zeros < 6, (sextets bits).flatMap (bitsOf 6) = bits ++ List.replicate zeros false := by
  induction bits using sextets.induct with
  | case1 a b c d e f rest hypothesis =>
      obtain ⟨zeros, few, same⟩ := hypothesis
      refine ⟨zeros, few, ?_⟩
      rw [sextets, List.flatMap_cons, same, ← List.append_assoc]
      exact congrArg (· ++ rest ++ List.replicate zeros false)
        (bitsOf_numberOf [a, b, c, d, e, f])
  | case2 => exact ⟨0, by decide, rfl⟩
  | case3 bits short given =>
      have few := length_lt_of_short short
      have nonempty : 0 < bits.length := List.length_pos_iff.mpr given
      have same := bitsOf_numberOf (filled bits)
      rw [length_filled few] at same
      refine ⟨6 - bits.length, by omega, ?_⟩
      rw [sextets.eq_3 bits short given, List.flatMap_singleton, same, filled]

theorem octets_of_short {few : List Bool} (short : few.length < 8) : octets few = [] := by
  match few with
  | a :: b :: c :: d :: e :: f :: g :: h :: rest =>
      simp only [List.length_cons] at short
      omega
  | [] | [_] | [_, _] | [_, _, _] | [_, _, _, _] | [_, _, _, _, _] | [_, _, _, _, _, _]
  | [_, _, _, _, _, _, _] => rfl

/-- The bytes of the bits of bytes are these bytes, whatever few bits follow. -/
theorem octets_bitsOfBytes (bytes : Bytes) {few : List Bool} (short : few.length < 8) :
    octets (bitsOfBytes bytes ++ few) = bytes := by
  induction bytes with
  | nil => exact octets_of_short short
  | cons b rest hypothesis =>
      have code : UInt8.ofNat (b.toNat % 256) = b := by
        rw [Nat.mod_eq_of_lt b.toNat_lt, UInt8.ofNat_toNat]
      rw [bitsOfBytes, List.flatMap_cons, List.append_assoc, octets_bitsOf, code]
      exact congrArg (b :: ·) hypothesis

/-! ## Bytes as digits -/

/-- The digits in the order of their numbers. -/
def alphabet : Text :=
  "ABCDEFGHIJKLMNOPQRSTUVWXYZabcdefghijklmnopqrstuvwxyz0123456789+/".toList

/-- Digits with padding to a multiple of four. -/
def padded (digits : Text) : Text :=
  digits ++ List.replicate ((4 - digits.length % 4) % 4) '='

/-- Bytes in base sixty-four, from the alphabet and the bits of the bytes. -/
def written (bytes : Bytes) : Text :=
  padded ((sextets (bitsOfBytes bytes)).map fun n => alphabet.getD n '=')

theorem getD_alphabet : ∀ n < 64, alphabet.getD n '=' = digit n := by decide

theorem sextets_lt (bits : List Bool) : ∀ n ∈ sextets bits, n < 64 := by
  have one (a b c d e f : Bool) : numberOf [a, b, c, d, e, f] < 64 := numberOf_lt _
  induction bits using sextets.induct with
  | case1 a b c d e f rest hypothesis =>
      rw [sextets]
      exact List.forall_mem_cons.mpr ⟨one a b c d e f, hypothesis⟩
  | case2 => nofun
  | case3 bits short given =>
      have small := numberOf_lt (filled bits)
      rw [length_filled (length_lt_of_short short)] at small
      rw [sextets.eq_3 bits short given]
      exact List.forall_mem_singleton.mpr small

theorem written_eq (bytes : Bytes) :
    written bytes = padded ((sextets (bitsOfBytes bytes)).map digit) := by
  unfold written
  congr 1
  exact List.map_congr_left fun n member => getD_alphabet n (sextets_lt _ n member)

theorem ascii_written (bytes : Bytes) : ∀ c ∈ written bytes, c.toNat < 128 := by
  have ascii : ∀ n < 64, (digit n).toNat < 128 := by decide
  intro c member
  rw [written_eq, padded, List.mem_append] at member
  rcases member with listed | padding
  · obtain ⟨n, small, rfl⟩ := List.mem_map.mp listed
    exact ascii n (sextets_lt _ n small)
  · rw [List.eq_of_mem_replicate padding]
    decide

theorem padded_four (a b c d : Char) (rest : Text) :
    padded (a :: b :: c :: d :: rest) = a :: b :: c :: d :: padded rest := by
  have period : (rest.length + 4) % 4 = rest.length % 4 := Nat.add_mod_right _ _
  simp [padded, period]

variable (a b c : UInt8)

/-- The bits of one byte are two digits. -/
theorem sextets_one :
    sextets (bitsOf 8 a.toNat) =
      [a.toNat * 65536 / 262144, a.toNat * 65536 / 4096 % 64] := by
  have first := a.toNat_lt
  have cut : bitsOf 8 a.toNat = bitsOf 6 (a.toNat / 4) ++ bitsOf 2 a.toNat := bitsOf_add 6 2 _
  have four : filled (bitsOf 2 a.toNat) = bitsOf 6 (a.toNat * 16) := by
    change bitsOf 2 a.toNat ++ List.replicate 4 false = _
    rw [← bitsOf_zero, bitsOf_append (by decide)]
    rfl
  have last : sextets (bitsOf 2 a.toNat) = [a.toNat * 16 % 64] := by
    change [numberOf (filled (bitsOf 2 a.toNat))] = _
    rw [four, numberOf_six]
  have high : a.toNat / 4 % 64 = a.toNat * 65536 / 262144 := by omega
  have low : a.toNat * 16 % 64 = a.toNat * 65536 / 4096 % 64 := by omega
  rw [cut, sextets_bitsOf, last, high, low]

/-- The bits of two bytes are three digits. -/
theorem sextets_two :
    sextets (bitsOf 8 a.toNat ++ bitsOf 8 b.toNat) =
      [(a.toNat * 65536 + b.toNat * 256) / 262144,
        (a.toNat * 65536 + b.toNat * 256) / 4096 % 64,
        (a.toNat * 65536 + b.toNat * 256) / 64 % 64] := by
  have first := a.toNat_lt
  have second := b.toNat_lt
  have value : a.toNat * 65536 + b.toNat * 256 = (a.toNat * 2 ^ 8 + b.toNat) * 256 := by omega
  rw [value, bitsOf_append second]
  generalize joined : a.toNat * 2 ^ 8 + b.toNat = n
  have cut : bitsOf (8 + 8) n = bitsOf 6 (n / 1024) ++ (bitsOf 6 (n / 16) ++ bitsOf 4 n) :=
    calc bitsOf 16 n = bitsOf 6 (n / 2 ^ 10) ++ bitsOf 10 n := bitsOf_add 6 10 n
      _ = bitsOf 6 (n / 2 ^ 10) ++ (bitsOf 6 (n / 2 ^ 4) ++ bitsOf 4 n) :=
        congrArg _ (bitsOf_add 6 4 n)
  have two : filled (bitsOf 4 n) = bitsOf 6 (n * 4) := by
    change bitsOf 4 n ++ List.replicate 2 false = _
    rw [← bitsOf_zero, bitsOf_append (by decide)]
    rfl
  have last : sextets (bitsOf 4 n) = [n * 4 % 64] := by
    change [numberOf (filled (bitsOf 4 n))] = _
    rw [two, numberOf_six]
  have high : n / 1024 % 64 = n * 256 / 262144 := by omega
  have middle : n / 16 % 64 = n * 256 / 4096 % 64 := by omega
  have low : n * 4 % 64 = n * 256 / 64 % 64 := by omega
  rw [cut, sextets_bitsOf, sextets_bitsOf, last, high, middle, low]

/-- The bits of three bytes are four digits. -/
theorem sextets_three (rest : List Bool) :
    sextets (bitsOf 8 a.toNat ++ (bitsOf 8 b.toNat ++ (bitsOf 8 c.toNat ++ rest))) =
      (a.toNat * 65536 + b.toNat * 256 + c.toNat) / 262144 ::
        (a.toNat * 65536 + b.toNat * 256 + c.toNat) / 4096 % 64 ::
        (a.toNat * 65536 + b.toNat * 256 + c.toNat) / 64 % 64 ::
        (a.toNat * 65536 + b.toNat * 256 + c.toNat) % 64 :: sextets rest := by
  have first := a.toNat_lt
  have second := b.toNat_lt
  have third := c.toNat_lt
  have value : a.toNat * 2 ^ 16 + (b.toNat * 2 ^ 8 + c.toNat) =
      a.toNat * 65536 + b.toNat * 256 + c.toNat := by omega
  have together : bitsOf 8 a.toNat ++ (bitsOf 8 b.toNat ++ (bitsOf 8 c.toNat ++ rest)) =
      bitsOf 24 (a.toNat * 65536 + b.toNat * 256 + c.toNat) ++ rest := by
    rw [← List.append_assoc (bitsOf 8 b.toNat), ← List.append_assoc, bitsOf_append third,
      bitsOf_append (by omega), value]
  have high : (a.toNat * 65536 + b.toNat * 256 + c.toNat) / 262144 % 64 =
      (a.toNat * 65536 + b.toNat * 256 + c.toNat) / 262144 := by omega
  rw [together, ← high]
  generalize a.toNat * 65536 + b.toNat * 256 + c.toNat = n
  have cut : bitsOf 24 n =
      bitsOf 6 (n / 262144) ++ (bitsOf 6 (n / 4096) ++ (bitsOf 6 (n / 64) ++ bitsOf 6 n)) :=
    calc bitsOf 24 n = bitsOf 6 (n / 2 ^ 18) ++ bitsOf 18 n := bitsOf_add 6 18 n
      _ = bitsOf 6 (n / 2 ^ 18) ++ (bitsOf 6 (n / 2 ^ 12) ++ bitsOf 12 n) :=
        congrArg _ (bitsOf_add 6 12 n)
      _ = bitsOf 6 (n / 2 ^ 18) ++ (bitsOf 6 (n / 2 ^ 12) ++
          (bitsOf 6 (n / 2 ^ 6) ++ bitsOf 6 n)) :=
        congrArg _ (congrArg _ (bitsOf_add 6 6 n))
  rw [cut]
  simp only [List.append_assoc, sextets_bitsOf]

/-- Bytes are written in base sixty-four. -/
theorem encode_eq (bytes : Bytes) : encode bytes = written bytes := by
  rw [written_eq]
  induction bytes using encode.induct with
  | case1 => rfl
  | case2 a =>
      have bits : bitsOfBytes [a] = bitsOf 8 a.toNat := List.flatMap_singleton _ _
      rw [encode, bits, sextets_one]
      rfl
  | case3 a b =>
      have bits : bitsOfBytes [a, b] = bitsOf 8 a.toNat ++ bitsOf 8 b.toNat := rfl
      rw [encode, bits, sextets_two]
      rfl
  | case4 a b c rest hypothesis =>
      have bits : bitsOfBytes (a :: b :: c :: rest) = bitsOf 8 a.toNat ++
          (bitsOf 8 b.toNat ++ (bitsOf 8 c.toNat ++ bitsOfBytes rest)) := rfl
      rw [encode, hypothesis, bits, sextets_three]
      simp only [List.map_cons, padded_four]

/-! ## Digits as bytes -/

theorem value?_digit : ∀ n < 64, digit n ≠ '=' ∧ value? (digit n) = some n := by decide

variable {k l m n : Nat}

/-- Four digits make three bytes. -/
theorem decodeFrom_four (small : k < 64 ∧ l < 64 ∧ m < 64 ∧ n < 64) (rest : Text) :
    decodeFrom ⟨0, 0, 0⟩ (digit k :: digit l :: digit m :: digit n :: rest) =
      (decodeFrom ⟨0, 0, 0⟩ rest).map ([UInt8.ofNat (k * 4 + l / 16),
        UInt8.ofNat (l % 16 * 16 + m / 4), UInt8.ofNat (m % 4 * 64 + n)] ++ ·) := by
  obtain ⟨first, second, third, fourth⟩ := small
  simp [decodeFrom, value?_digit k first, value?_digit l second, value?_digit m third,
    value?_digit n fourth, Function.comp_def]

/-- Three digits and padding make two bytes. -/
theorem decodeFrom_three (small : k < 64 ∧ l < 64 ∧ m < 64) :
    decodeFrom ⟨0, 0, 0⟩ [digit k, digit l, digit m, '='] =
      some [UInt8.ofNat (k * 4 + l / 16), UInt8.ofNat (l % 16 * 16 + m / 4)] := by
  obtain ⟨first, second, third⟩ := small
  simp [decodeFrom, value?_digit k first, value?_digit l second, value?_digit m third]

/-- Two digits and padding make a byte. -/
theorem decodeFrom_two (small : k < 64 ∧ l < 64) :
    decodeFrom ⟨0, 0, 0⟩ [digit k, digit l, '=', '='] = some [UInt8.ofNat (k * 4 + l / 16)] := by
  obtain ⟨first, second⟩ := small
  simp [decodeFrom, value?_digit k first, value?_digit l second]

/-- Bytes are read from what is written of them. -/
theorem decodeFrom_encode (bytes : Bytes) : decodeFrom ⟨0, 0, 0⟩ (encode bytes) = some bytes := by
  have ofNat_of_eq {number : Nat} {b : UInt8} (same : number = b.toNat) :
      UInt8.ofNat number = b := by
    rw [same, UInt8.ofNat_toNat]
  induction bytes using encode.induct with
  | case1 => rfl
  | case2 a =>
      have bound := a.toNat_lt
      rw [encode, decodeFrom_two (by omega), ofNat_of_eq (b := a) (by omega)]
  | case3 a b =>
      have first := a.toNat_lt
      have second := b.toNat_lt
      rw [encode, decodeFrom_three (by omega), ofNat_of_eq (b := a) (by omega),
        ofNat_of_eq (b := b) (by omega)]
  | case4 a b c rest hypothesis =>
      have first := a.toNat_lt
      have second := b.toNat_lt
      have third := c.toNat_lt
      rw [encode, decodeFrom_four (by omega), hypothesis, ofNat_of_eq (b := a) (by omega),
        ofNat_of_eq (b := b) (by omega), ofNat_of_eq (b := c) (by omega)]
      rfl

/-- Padding that was left out is put back. -/
theorem append_padding {bytes : Bytes} {payload : Text} {dropped : Nat}
    (cut : written bytes = payload ++ List.replicate dropped '=') :
    payload ++ List.replicate ((4 - payload.length % 4) % 4) '=' = written bytes := by
  have digits : '=' ∉ (sextets (bitsOfBytes bytes)).map digit := by
    intro member
    obtain ⟨n, listed, same⟩ := List.mem_map.mp member
    exact (value?_digit n (sextets_lt _ n listed)).1 same
  have count := congrArg (List.count '=') cut
  have length := congrArg List.length cut
  rw [written_eq, padded, List.count_append, List.count_eq_zero_of_not_mem digits,
    List.count_append, List.count_replicate_self, List.count_replicate_self] at count
  rw [written_eq, padded, List.length_append, List.length_append, List.length_replicate,
    List.length_replicate] at length
  have same : (4 - payload.length % 4) % 4 = dropped := by omega
  rw [same, cut]

/-- Bytes are read in base sixty-four, with or without padding. -/
theorem decode?_append_padding {bytes : Bytes} {payload : Text} {dropped : Nat}
    (cut : written bytes = payload ++ List.replicate dropped '=') :
    decode? (payload ++ List.replicate ((4 - payload.length % 4) % 4) '=') = some bytes := by
  have ascii : (written bytes).all (fun c => c.toNat < 128) = true := by
    simpa using ascii_written bytes
  rw [append_padding cut, decode?, if_pos ascii, ← encode_eq, decodeFrom_encode]

end Base64

namespace TextCodec

open Base64

/-! ## Digits of scripts as bytes -/

/-- Bits are gathered until they make up a byte: fewer than eight of them are held. -/
theorem gather_eq
    {held count : Nat}
    (few : count < 8)
    (small : held < 2 ^ count)
    {numbers : List Nat}
    (digits : ∀ n ∈ numbers, n < 64) :
    gather held count numbers = octets (bitsOf count held ++ numbers.flatMap (bitsOf 6)) := by
  induction numbers generalizing held count with
  | nil =>
      rw [List.flatMap_nil, List.append_nil, octets_of_short (by rwa [length_bitsOf])]
      rfl
  | cons n rest hypothesis =>
      obtain ⟨digit, others⟩ := List.forall_mem_cons.mp digits
      have joined : bitsOf count held ++ bitsOf 6 n = bitsOf (count + 6) (held * 64 + n) :=
        bitsOf_append digit
      have bound : held * 64 + n < 2 ^ (count + 6) := by
        rw [Nat.pow_add]
        omega
      rw [List.flatMap_cons, ← List.append_assoc, joined]
      simp only [gather]
      generalize held * 64 + n = value at bound ⊢
      split
      · rename_i enough
        obtain ⟨left, kept⟩ : ∃ left, count + 6 = 8 + left := ⟨count + 6 - 8, by omega⟩
        have above : value / 2 ^ left < 256 := by
          rw [kept, Nat.pow_add] at bound
          exact Nat.div_lt_of_lt_mul (Nat.mul_comm _ _ ▸ bound)
        have further := hypothesis (by omega) (Nat.mod_lt value (Nat.two_pow_pos left)) others
        rw [kept, Nat.add_sub_cancel_left, bitsOf_add, List.append_assoc, octets_bitsOf,
          Nat.mod_eq_of_lt above, ← bitsOf_mod left]
        exact congrArg (_ :: ·) further
      · rename_i missing
        exact hypothesis (by omega) bound others

/-! ## Digits -/

theorem base64Value?_digit : ∀ n < 64, base64Value? (digit n) = some n := by decide

/-- Padding has no number. -/
theorem filterMap_padded (digits : Text) :
    (padded digits).filterMap base64Value? = digits.filterMap base64Value? := by
  have none_ : base64Value? '=' = none := by decide
  rw [padded, List.filterMap_append, List.filterMap_replicate_of_none none_, List.append_nil]

/-- The digits of bytes have the numbers of their bits. -/
theorem filterMap_written (bytes : Bytes) :
    (written bytes).filterMap base64Value? = sextets (bitsOfBytes bytes) := by
  have read (numbers : List Nat) (small : ∀ n ∈ numbers, n < 64) :
      (numbers.map digit).filterMap base64Value? = numbers := by
    induction numbers with
    | nil => rfl
    | cons n rest hypothesis =>
        obtain ⟨first, others⟩ := List.forall_mem_cons.mp small
        rw [List.map_cons, List.filterMap_cons_some (base64Value?_digit n first),
          hypothesis others]
  rw [written_eq, filterMap_padded, read _ (sextets_lt _)]

/-- Characters with the numbers of the digits of bytes are read as these bytes. -/
theorem gather_filterMap
    {bytes : Bytes}
    {text : Text}
    (same : text.filterMap base64Value? = (written bytes).filterMap base64Value?) :
    gather 0 0 (text.filterMap base64Value?) = bytes := by
  obtain ⟨zeros, few, bits⟩ := bitsOf_sextets (bitsOfBytes bytes)
  rw [same, filterMap_written, gather_eq (by decide) (by decide) (sextets_lt _), bits]
  refine octets_bitsOfBytes bytes ?_
  rw [List.length_replicate]
  omega

end TextCodec

end RuleProbe
