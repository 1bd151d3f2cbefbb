import RuleProbe.Charset.Codec
import RuleProbe.Charset.Bytes

/-!
# Escaped bytes, and texts in charsets

Bytes of a text behind percent signs can be read again, and what a charset can write depends on the
characters of the text alone.
-/

namespace RuleProbe

/-!
## Bytes behind percent signs

Bytes that are written without safe signs give a text of unreserved characters and escapes,
in which reading finds the same bytes again.  So it does in any other spelling of the bytes.
-/

namespace Percent

/-! ### Escaped texts -/

/-- A text of unreserved characters and percent signs with two digits in base sixteen. -/
inductive Escaped : Text → Prop where
  /-- Nothing is escaped. -/
  | nil : Escaped []
  /-- An unreserved character comes first. -/
  | unreserved {c : Char} {rest : Text} (plain : isUnreserved c = true) (others : Escaped rest) :
      Escaped (c :: rest)
  /-- A percent sign with its digits comes first. -/
  | escape {high low : Nat} {rest : Text} (highBound : high < 16) (lowBound : low < 16)
      (others : Escaped rest) :
      Escaped ('%' :: digit high :: digit low :: rest)

/-- A byte is written as its character when that is unreserved, and else as an escape. -/
theorem encode_cons (b : UInt8) (rest : Bytes) :
    encode [] (b :: rest) =
      (if b < 128 ∧ isUnreserved (Char.ofNat b.toNat) = true then [Char.ofNat b.toNat]
        else escape b) ++ encode [] rest := by
  unfold encode
  rw [List.flatMap_cons]
  simp

theorem digits_of_byte (b : UInt8) : b.toNat / 16 < 16 ∧ b.toNat % 16 < 16 := by
  have bound := b.toNat_lt
  omega

/-- What is written of bytes is escaped. -/
theorem escaped_encode (bytes : Bytes) : Escaped (encode [] bytes) := by
  induction bytes with
  | nil => exact .nil
  | cons b rest hypothesis =>
      rw [encode_cons]
      split
      · rename_i plain
        exact .unreserved plain.2 hypothesis
      · exact .escape (digits_of_byte b).1 (digits_of_byte b).2 hypothesis

/-- Neither braces nor blanks are unreserved. -/
theorem Escaped.not_mem
    {text : Text}
    (escaped : Escaped text)
    {c : Char}
    (foreign : c ≠ '%' ∧ isUnreserved c = false) :
    c ∉ text := by
  have digits : ∀ n < 16, isUnreserved (digit n) = true := by decide
  induction escaped with
  | nil => simp
  | unreserved plain _ hypothesis =>
      rintro (_ | ⟨_, later⟩)
      · exact absurd (foreign.2.symm.trans plain) (by decide)
      · exact hypothesis later
  | escape high low _ hypothesis =>
      rintro (_ | ⟨_, _ | ⟨_, _ | ⟨_, later⟩⟩⟩)
      · exact foreign.1 rfl
      · exact absurd (foreign.2.symm.trans (digits _ high)) (by decide)
      · exact absurd (foreign.2.symm.trans (digits _ low)) (by decide)
      · exact hypothesis later

theorem encode_ne_nil {bytes : Bytes} (given : bytes ≠ []) : encode [] bytes ≠ [] := by
  cases bytes with
  | nil => exact absurd rfl given
  | cons b rest =>
      rw [encode_cons]
      split <;> simp [escape]

/-! ### Reading what was written -/

/-- A byte that is no percent sign stands for itself. -/
theorem decode_cons_of_ne {b : UInt8} (plain : b ≠ 37) (rest : Bytes) :
    decode (b :: rest) = b :: decode rest := by
  rw [decode]
  rintro _ _ _ rfl
  exact absurd rfl plain

theorem encodeChar_ofByte {b : UInt8} (small : b < 128) :
    Utf8.encodeChar (Char.ofNat b.toNat) = [b] := by
  have all : ∀ n < 128, Utf8.encodeChar (Char.ofNat n) = [UInt8.ofNat n] := by decide +kernel
  rw [all _ (UInt8.lt_iff_toNat_lt.mp small), UInt8.ofNat_toNat]

/-- A digit in base sixteen, in either case. -/
def IsDigit (n : Nat) (c : Char) : Prop := c = Nat.digitChar n ∨ c = (Nat.digitChar n).toUpper

/-- A byte is spelled by a percent sign and two digits, or by the character that it stands for if
that is an unreserved one. -/
inductive Spelled : Bytes → Text → Prop
  /-- No bytes. -/
  | nil : Spelled [] []
  /-- An unreserved character as it is. -/
  | plain
      {b : UInt8}
      {bytes : Bytes}
      {text : Text}
      (ascii : b < 128)
      (unreserved : isUnreserved (Char.ofNat b.toNat) = true)
      (others : Spelled bytes text) :
      Spelled (b :: bytes) (Char.ofNat b.toNat :: text)
  /-- A percent sign with two digits. -/
  | escape
      {b : UInt8}
      {bytes : Bytes}
      {text : Text}
      {high low : Char}
      (first : IsDigit (b.toNat / 16) high)
      (second : IsDigit (b.toNat % 16) low)
      (others : Spelled bytes text) :
      Spelled (b :: bytes) ('%' :: high :: low :: text)

/-- A digit of either case is read as its number. -/
theorem IsDigit.encodeChar {n : Nat} {c : Char} (isDigit : IsDigit n c) (small : n < 16) :
    ∃ b, Utf8.encodeChar c = [b] ∧ hexValue? b = some n := by
  have lower : ∀ n < 16, Utf8.encodeChar (Nat.digitChar n) =
      [UInt8.ofNat (Nat.digitChar n).toNat] ∧
        hexValue? (UInt8.ofNat (Nat.digitChar n).toNat) = some n := by decide +kernel
  have upper : ∀ n < 16, Utf8.encodeChar (Nat.digitChar n).toUpper =
      [UInt8.ofNat (Nat.digitChar n).toUpper.toNat] ∧
        hexValue? (UInt8.ofNat (Nat.digitChar n).toUpper.toNat) = some n := by decide +kernel
  rcases isDigit with rfl | rfl
  · exact ⟨_, lower n small⟩
  · exact ⟨_, upper n small⟩

/-- Bytes are read from any spelling of them. -/
theorem Spelled.decode_encode {bytes : Bytes} {text : Text} (spelled : Spelled bytes text) :
    decode (Utf8.encode text) = bytes := by
  induction spelled with
  | nil => rfl
  | @plain b bytes text ascii unreserved _ hypothesis =>
      have sign : b ≠ 37 := by
        rintro rfl
        exact absurd unreserved (by decide)
      rw [Utf8.encode, List.flatMap_cons, encodeChar_ofByte ascii, List.singleton_append,
        decode_cons_of_ne sign]
      exact congrArg (b :: ·) hypothesis
  | @escape b bytes text high low first second _ hypothesis =>
      obtain ⟨highByte, writtenHigh, isHigh⟩ := first.encodeChar (digits_of_byte b).1
      obtain ⟨lowByte, writtenLow, isLow⟩ := second.encodeChar (digits_of_byte b).2
      have sign : Utf8.encodeChar '%' = [37] := by decide
      have whole : b.toNat / 16 * 16 + b.toNat % 16 = b.toNat := by omega
      rw [Utf8.encode] at hypothesis
      simp only [Utf8.encode, List.flatMap_cons, writtenHigh, writtenLow, sign,
        List.cons_append, List.nil_append, decode, isHigh, isLow, whole, UInt8.ofNat_toNat,
        hypothesis]

/-- What is written of bytes spells them. -/
theorem spelled_encode (bytes : Bytes) : Spelled bytes (encode [] bytes) := by
  have upper : ∀ n < 16, digit n = (Nat.digitChar n).toUpper := by decide
  induction bytes with
  | nil => exact .nil
  | cons b rest hypothesis =>
      rw [encode_cons]
      split
      · rename_i plain
        exact .plain plain.1 plain.2 hypothesis
      · exact .escape (.inr (upper _ (digits_of_byte b).1)) (.inr (upper _ (digits_of_byte b).2))
          hypothesis

/-- Reading finds the bytes that were written. -/
theorem decode_encode (bytes : Bytes) : decode (Utf8.encode (encode [] bytes)) = bytes :=
  (spelled_encode bytes).decode_encode

end Percent

/-!
## Texts in a charset

A charset writes a text character by character, so a text can be written when the charset has
each of its characters, and the bytes of a text that is not empty are some.  Only the charset
that refuses everything does not write the empty text either.
-/

namespace Charset

/-! ### The characters of a charset -/

/-- A charset has a character. -/
def HasChar : Charset → Char → Prop
  | .utf8, _ | .markedUtf8, _ | .utf16, _ | .utf16Little, _ | .utf16Big, _ => True
  | .ascii, c | .punycode, c | .hostName, c => c.toNat < 128
  | .latin1, c => c.toNat < 256
  | .byteTable name, c => ∃ b, b < 256 ∧ inBytes? (byteCodes name) b = some c
  | .undefined, _ => False
  | pairs, c => (encodePair? pairs c).isSome

theorem mapM_isSome_iff {α β : Type} (write : α → Option β) (items : List α) :
    (items.mapM write).isSome ↔ ∀ item ∈ items, (write item).isSome := by
  induction items with
  | nil => simp
  | cons item rest hypothesis =>
      rw [List.mapM_cons, List.forall_mem_cons, ← hypothesis]
      cases write item <;> cases rest.mapM write <;> simp

theorem writable_returns_iff (bytes : Option Bytes) :
    (∃ written, writable bytes = .ok written) ↔ bytes.isSome := by
  cases bytes <;> simp [writable]

theorem encodeBelow_isSome_iff (limit : Nat) (text : Text) :
    (encodeBelow limit text).isSome ↔ ∀ c ∈ text, c.toNat < limit := by
  unfold encodeBelow
  split <;> simp_all

/-- A charset of pairs of bytes writes the texts whose characters it has. -/
theorem pairs_returns_iff (charset : Charset) (text : Text) :
    (∃ bytes, writable ((text.mapM (encodePair? charset)).map List.flatten) = .ok bytes) ↔
      ∀ c ∈ text, (encodePair? charset c).isSome := by
  rw [writable_returns_iff, Option.isSome_map, mapM_isSome_iff]

/-- A text can be written in a charset exactly when the charset has its characters, and is not
the one that refuses everything. -/
theorem encode_returns_iff (charset : Charset) (text : Text) :
    (∃ bytes, charset.encode text = .ok bytes) ↔
      charset ≠ .undefined ∧ ∀ c ∈ text, charset.HasChar c := by
  cases charset
  case ascii => simpa [encode, HasChar, writable_returns_iff] using encodeBelow_isSome_iff 128 text
  case latin1 => simpa [encode, HasChar, writable_returns_iff] using encodeBelow_isSome_iff 256 text
  case byteTable name =>
    simp only [encode, HasChar, writable_returns_iff, mapM_isSome_iff, Option.isSome_map]
    simp
  case punycode =>
    simp only [encode, HasChar, ← encodeBelow_isSome_iff]
    cases encodeBelow 128 text <;> simp
  case hostName =>
    simp only [encode, HasChar, ← encodeBelow_isSome_iff]
    cases encodeBelow 128 text <;> simp
  case undefined => simp [encode]
  case gb2312 => simpa [encode, HasChar] using pairs_returns_iff .gb2312 text
  case gbk => simpa [encode, HasChar] using pairs_returns_iff .gbk text
  case gb18030 => simpa [encode, HasChar] using pairs_returns_iff .gb18030 text
  case big5 => simpa [encode, HasChar] using pairs_returns_iff .big5 text
  case korean => simpa [encode, HasChar] using pairs_returns_iff .korean text
  case japanese => simpa [encode, HasChar] using pairs_returns_iff .japanese text
  case shiftedJapanese => simpa [encode, HasChar] using pairs_returns_iff .shiftedJapanese text
  all_goals simp [encode, HasChar]

/-! ### Bytes of a text -/

theorem toUnits_ne_nil (c : Char) : toUnits c ≠ [] := by
  unfold toUnits
  split <;> simp

theorem encodeChar_ne_nil (c : Char) : Utf8.encodeChar c ≠ [] := by
  unfold Utf8.encodeChar
  dsimp only
  repeat' split
  all_goals simp

theorem encodeUnits_ne_nil (little : Bool) {text : Text} (nonempty : text ≠ []) :
    encodeUnits little text ≠ [] := by
  cases text with
  | nil => exact absurd rfl nonempty
  | cons c rest =>
      cases little <;> cases units : toUnits c <;>
        simp_all [encodeUnits, unitBytes, toUnits_ne_nil]

theorem formerBytes?_ne_nil (c : Char) : formerBytes? c ≠ some [] := by
  intro written
  unfold formerBytes? at written
  split at written
  · simp [squareBytes] at written
  · obtain ⟨i, -, found⟩ := Option.bind_eq_some_iff.mp written
    simp [gbkBytes] at found

theorem map_ne_nil
    {index : Option Nat}
    {write : Nat → Bytes}
    (some : ∀ i, write i ≠ []) :
    index.map write ≠ Option.some [] := by
  cases index with
  | none => simp
  | some i => simpa using some i

theorem gbkBytes_ne_nil (i : Nat) : gbkBytes i ≠ [] := by
  simp [gbkBytes]

theorem quadrupleBytes_ne_nil (i : Nat) : quadrupleBytes i ≠ [] := by
  simp [quadrupleBytes]

theorem squareBytes_ne_nil (i : Nat) : squareBytes i ≠ [] := by
  simp [squareBytes]

/-- The bytes of a character in a charset of pairs of bytes are some. -/
theorem encodePair?_ne_nil (charset : Charset) (c : Char) : encodePair? charset c ≠ some [] := by
  unfold encodePair?
  split
  · simp
  · split
    · exact formerBytes?_ne_nil c
    · exact map_ne_nil gbkBytes_ne_nil
    · split
      · simp [quadrupleBytes]
      · rw [ne_eq, Option.or_eq_some_iff]
        rintro (early | ⟨-, late⟩)
        · exact map_ne_nil gbkBytes_ne_nil early
        · exact map_ne_nil quadrupleBytes_ne_nil late
    · exact map_ne_nil fun i => by simp [big5Bytes]
    · exact map_ne_nil squareBytes_ne_nil
    · dsimp only
      split
      · simp
      · exact map_ne_nil squareBytes_ne_nil
    · dsimp only
      split
      · simp
      · exact map_ne_nil fun i => by simp [shiftedBytes]
    · simp

/-- The first item of a list that is written item by item is written. -/
theorem exists_of_mapM_cons
    {α β : Type}
    {write : α → Option β}
    {item : α}
    {rest : List α}
    {found : List β}
    (written : (item :: rest).mapM write = some found) :
    ∃ first others, write item = some first ∧ found = first :: others := by
  rw [List.mapM_cons] at written
  obtain ⟨first, here, later⟩ := Option.bind_eq_some_iff.mp written
  obtain ⟨others, -, same⟩ := Option.bind_eq_some_iff.mp later
  cases same
  exact ⟨first, others, here, rfl⟩

theorem pairs_ne_nil
    {charset : Charset}
    {text : Text}
    {bytes : Bytes}
    (nonempty : text ≠ [])
    (written : writable ((text.mapM (encodePair? charset)).map List.flatten) = .ok bytes) :
    bytes ≠ [] := by
  cases text with
  | nil => exact absurd rfl nonempty
  | cons c rest =>
      cases found : (c :: rest).mapM (encodePair? charset) with
      | none =>
          rw [found] at written
          cases written
      | some parts =>
          rw [found] at written
          cases written
          obtain ⟨first, others, here, rfl⟩ := exists_of_mapM_cons found
          have some : first ≠ [] := by
            rintro rfl
            exact encodePair?_ne_nil charset c here
          simp [some]

theorem encodeBelow_ne_nil
    {limit : Nat}
    {text : Text}
    {bytes : Bytes}
    (nonempty : text ≠ [])
    (written : encodeBelow limit text = some bytes) :
    bytes ≠ [] := by
  unfold encodeBelow at written
  split at written
  · cases written
    simpa using nonempty
  · cases written

theorem of_writable
    {found : Option Bytes}
    {bytes : Bytes}
    (written : writable found = .ok bytes) :
    found = some bytes := by
  cases found <;> cases written
  rfl

/-- The bytes of a text that is not empty are some. -/
theorem encode_ne_nil
    {charset : Charset}
    {text : Text}
    {bytes : Bytes}
    (nonempty : text ≠ [])
    (written : charset.encode text = .ok bytes) :
    bytes ≠ [] := by
  have utf8 : Utf8.encode text ≠ [] := by
    cases text with
    | nil => exact absurd rfl nonempty
    | cons c rest => simp [Utf8.encode, encodeChar_ne_nil]
  cases charset
  case utf8 =>
    cases written
    exact utf8
  case markedUtf8 =>
    cases written
    simp
  case ascii => exact encodeBelow_ne_nil nonempty (of_writable written)
  case latin1 => exact encodeBelow_ne_nil nonempty (of_writable written)
  case utf16 =>
    cases written
    simp
  case utf16Little =>
    cases written
    exact encodeUnits_ne_nil true nonempty
  case utf16Big =>
    cases written
    exact encodeUnits_ne_nil false nonempty
  case byteTable name =>
    simp only [encode] at written
    cases text with
    | nil => exact absurd rfl nonempty
    | cons c rest =>
        obtain ⟨first, others, -, rfl⟩ := exists_of_mapM_cons (of_writable written)
        simp
  case punycode =>
    simp only [encode] at written
    split at written
    · cases written
      simp
    · cases written
  case hostName =>
    simp only [encode] at written
    split at written
    · rename_i found
      cases written
      exact encodeBelow_ne_nil nonempty found
    · cases written
  case undefined => cases written
  case gb2312 =>
    simp only [encode] at written
    exact pairs_ne_nil nonempty written
  case gbk =>
    simp only [encode] at written
    exact pairs_ne_nil nonempty written
  case gb18030 =>
    simp only [encode] at written
    exact pairs_ne_nil nonempty written
  case big5 =>
    simp only [encode] at written
    exact pairs_ne_nil nonempty written
  case korean =>
    simp only [encode] at written
    exact pairs_ne_nil nonempty written
  case japanese =>
    simp only [encode] at written
    exact pairs_ne_nil nonempty written
  case shiftedJapanese =>
    simp only [encode] at written
    exact pairs_ne_nil nonempty written

end Charset

end RuleProbe
