import RuleProbe.Proofs.Bytes
import RuleProbe.Proofs.Script.Returns
import RuleProbe.Script.Library.Host

/-!
# Codecs of scripts

Scripts have strings written in digits, by way of their bytes in UTF-8, and digits read as strings.
A string without lone halves of pairs is read from its digits again, also when these are spelled in
another way: without padding, with other signs for the last two digits, and with anything else
between them.
-/

namespace RuleProbe

namespace Script

namespace Units

/-! ## Strings without lone halves -/

/-- The first halves of pairs stand before second ones, and these behind first ones. -/
inductive IsWhole : List UInt16 → Prop
  /-- No units. -/
  | nil : IsWhole []
  /-- A unit that is half of no pair. -/
  | single
      {unit : UInt16}
      {rest : List UInt16}
      (notHigh : isHigh unit = false)
      (notLow : isLow unit = false)
      (whole : IsWhole rest) :
      IsWhole (unit :: rest)
  /-- Two halves. -/
  | pair
      {high low : UInt16}
      {rest : List UInt16}
      (first : isHigh high = true)
      (second : isLow low = true)
      (whole : IsWhole rest) :
      IsWhole (high :: low :: rest)

theorem toNat_ofNat {code : Nat} (valid : code.isValidChar) : (Char.ofNat code).toNat = code := by
  rw [Char.ofNat, dif_pos valid]
  rfl

theorem ofChar_single
    {unit : UInt16}
    (notHigh : isHigh unit = false)
    (notLow : isLow unit = false) :
    (Char.ofNat unit.toNat).toNat = unit.toNat ∧ ofChar (Char.ofNat unit.toNat) = [unit] := by
  rw [Bool.eq_false_iff, ne_eq, isHigh_iff] at notHigh
  rw [Bool.eq_false_iff, ne_eq, isLow_iff] at notLow
  have bound := unit.toNat_lt
  have code := toNat_ofNat (show unit.toNat.isValidChar by unfold Nat.isValidChar; omega)
  refine ⟨code, ?_⟩
  rw [ofChar, code, if_pos bound, UInt16.ofNat_toNat]

theorem ofChar_pair
    {high low : UInt16}
    (first : isHigh high = true)
    (second : isLow low = true) :
    ofChar (Char.ofNat (joinPair high low)) = [high, low] := by
  rw [isHigh_iff] at first
  rw [isLow_iff] at second
  have joined := toNat_joinPair high low
  have code := toNat_ofNat (show (joinPair high low).isValidChar by unfold Nat.isValidChar; omega)
  have above : 0xd800 + (joinPair high low - 0x10000) / 0x400 = high.toNat := by omega
  have below : 0xdc00 + (joinPair high low - 0x10000) % 0x400 = low.toNat := by omega
  rw [ofChar, code, if_neg (by omega)]
  simp only
  rw [above, below, UInt16.ofNat_toNat, UInt16.ofNat_toNat]

/-- A string without lone halves is that of a text. -/
theorem IsWhole.exists_ofText {units : Units} (whole : IsWhole units.toList) :
    ∃ text, units = ofText text := by
  have each {listed : List UInt16} (whole : IsWhole listed) :
      ∃ text : Text, listed = text.flatMap ofChar := by
    induction whole with
    | nil => exact ⟨[], rfl⟩
    | single notHigh notLow _ hypothesis =>
        obtain ⟨text, same⟩ := hypothesis
        have units := (ofChar_single notHigh notLow).2
        exact ⟨_ :: text, by rw [List.flatMap_cons, units, same, List.singleton_append]⟩
    | pair first second _ hypothesis =>
        obtain ⟨text, same⟩ := hypothesis
        have units := ofChar_pair first second
        exact ⟨_ :: text, by rw [List.flatMap_cons, units, same]; rfl⟩
  obtain ⟨text, same⟩ := each whole
  exact ⟨text, by rw [ofText, ← same]⟩

@[simp] theorem toText?_ofText (text : Text) : (ofText text).toText? = some text := by
  have read : (text.map Char.toNat).map Char.ofNat = text := by
    simp [Function.comp_def, Char.ofNat_toNat]
  have none_ : (text.map Char.toNat).any isHalf = false := by
    simp [isHalf_toNat]
  rw [toText?, codes_ofText, none_, if_neg Bool.false_ne_true, read]

end Units

namespace Library

open RuleProbe.Script.Units

/-! ## Units as characters -/

/-- The character that is read for a unit: one that is no digit for half of a pair. -/
def charOf (unit : UInt16) : Char :=
  if isHigh unit || isLow unit then '\uFFFD' else Char.ofNat unit.toNat

theorem unitText_eq (units : Units) : unitText units = units.toList.map charOf := rfl

theorem charOf_single
    {unit : UInt16}
    (notHigh : isHigh unit = false)
    (notLow : isLow unit = false) :
    (charOf unit).toNat = unit.toNat := by
  rw [charOf, notHigh, notLow, Bool.false_or, if_neg Bool.false_ne_true,
    (ofChar_single notHigh notLow).1]

/-- Characters of the basic alphabet are read one by one. -/
theorem unitText_ofText {text : Text} (ascii : ∀ c ∈ text, c.toNat < 128) :
    unitText (ofText text) = text := by
  rw [unitText_eq]
  unfold ofText
  induction text with
  | nil => rfl
  | cons c rest hypothesis =>
      obtain ⟨small, others⟩ := List.forall_mem_cons.mp ascii
      have single : (ofChar c).map charOf = [c] := by
        rcases ofChar_cases c with
          ⟨unit, units, code, notHigh, notLow⟩ | ⟨high, low, units, joined, -⟩
        · have read : charOf unit = c := by
            rw [charOf, notHigh, notLow, Bool.false_or, if_neg Bool.false_ne_true, code,
              Char.ofNat_toNat]
          rw [units, List.map_singleton, read]
        · have beyond := toNat_joinPair high low
          omega
      rw [List.flatMap_cons, List.map_append, single, hypothesis others, List.singleton_append]

/-! ## Spellings of digits -/

/-- A unit that no digit is spelled with: no letter or digit of the basic alphabet, and none of
plus, hyphen, solidus and low line. -/
def IsForeign (unit : UInt16) : Prop :=
  ¬(48 ≤ unit.toNat ∧ unit.toNat ≤ 57) ∧ ¬(65 ≤ unit.toNat ∧ unit.toNat ≤ 90) ∧
    ¬(97 ≤ unit.toNat ∧ unit.toNat ≤ 122) ∧ unit.toNat ∉ [43, 45, 47, 95]

instance (unit : UInt16) : Decidable (IsForeign unit) := inferInstanceAs (Decidable (_ ∧ _))

/-- Digits are spelled in another way: padding may be left out, a hyphen stand for a plus sign and
a low line for a solidus, and other units anywhere. -/
inductive Respelled : List UInt16 → List UInt16 → Prop
  /-- No digits. -/
  | nil : Respelled [] []
  /-- A unit as it is. -/
  | same
      {digits spelled : List UInt16}
      (unit : UInt16)
      (rest : Respelled digits spelled) :
      Respelled (unit :: digits) (unit :: spelled)
  /-- A sign of equality is left out. -/
  | unpadded {digits spelled : List UInt16} (rest : Respelled digits spelled) :
      Respelled (61 :: digits) spelled
  /-- A hyphen for a plus sign. -/
  | hyphen {digits spelled : List UInt16} (rest : Respelled digits spelled) :
      Respelled (43 :: digits) (45 :: spelled)
  /-- A low line for a solidus. -/
  | lowLine {digits spelled : List UInt16} (rest : Respelled digits spelled) :
      Respelled (47 :: digits) (95 :: spelled)
  /-- A unit that is not of the digits is put in. -/
  | inserted
      {digits spelled : List UInt16}
      {unit : UInt16}
      (foreign : IsForeign unit)
      (rest : Respelled digits spelled) :
      Respelled digits (unit :: spelled)

/-- Digits are spelled as they are. -/
theorem Respelled.refl (digits : List UInt16) : Respelled digits digits := by
  induction digits with
  | nil => exact .nil
  | cons unit rest hypothesis => exact .same unit hypothesis

theorem base64Value?_charOf {unit : UInt16} (foreign : IsForeign unit) :
    TextCodec.base64Value? (charOf unit) = none := by
  by_cases half : (isHigh unit || isLow unit) = true
  · rw [charOf, if_pos half]
    decide
  · rw [Bool.not_eq_true, Bool.or_eq_false_iff] at half
    have code := charOf_single half.1 half.2
    obtain ⟨figure, capital, small, signs⟩ := foreign
    rw [← code] at figure capital small signs
    have other (sign : Char) (listed : sign.toNat ∈ [43, 45, 47, 95]) :
        (charOf unit == sign) = false := by
      rw [beq_eq_false_iff_ne]
      rintro same
      exact signs (same ▸ listed)
    simp [TextCodec.base64Value?, Base64.value?, figure, capital, small, other]

/-- Another spelling has the same digits. -/
theorem Respelled.filterMap {digits spelled : List UInt16} (respelled : Respelled digits spelled) :
    (spelled.map charOf).filterMap TextCodec.base64Value? =
      (digits.map charOf).filterMap TextCodec.base64Value? := by
  induction respelled with
  | nil => rfl
  | same unit _ hypothesis =>
      rw [List.map_cons, List.map_cons, List.filterMap_cons, List.filterMap_cons, hypothesis]
  | unpadded _ hypothesis =>
      have none_ : TextCodec.base64Value? (charOf 61) = none := by decide
      rw [List.map_cons, List.filterMap_cons_none none_, hypothesis]
  | hyphen _ hypothesis =>
      have plus : TextCodec.base64Value? (charOf 43) = some 62 := by decide
      have hyphen : TextCodec.base64Value? (charOf 45) = some 62 := by decide
      rw [List.map_cons, List.map_cons, List.filterMap_cons_some plus,
        List.filterMap_cons_some hyphen, hypothesis]
  | lowLine _ hypothesis =>
      have solidus : TextCodec.base64Value? (charOf 47) = some 63 := by decide
      have lowLine : TextCodec.base64Value? (charOf 95) = some 63 := by decide
      rw [List.map_cons, List.map_cons, List.filterMap_cons_some solidus,
        List.filterMap_cons_some lowLine, hypothesis]
  | inserted foreign _ hypothesis =>
      rw [List.map_cons, List.filterMap_cons_none (base64Value?_charOf foreign), hypothesis]

end Library

end Script

namespace TextCodec

/-! ## Digits in base sixteen -/

theorem textOfBytes_encode (text : Text) : textOfBytes (Utf8.encode text) = text := by
  rw [textOfBytes, Utf8.decode?_encode, Option.getD_some]

/-- A byte has two digits; the bytes are gone through. -/
theorem hexOfByte_eq (b : UInt8) :
    Digest.hexOfByte b = [Nat.digitChar (b.toNat / 16), Nat.digitChar (b.toNat % 16)] := by
  have all : ∀ n < 256, Digest.hexOfByte (UInt8.ofNat n) =
      [Nat.digitChar (n / 16), Nat.digitChar (n % 16)] := by
    decide +kernel
  have listed := all b.toNat b.toNat_lt
  rwa [UInt8.ofNat_toNat] at listed

theorem hexValue?_digitChar :
    ∀ n < 16, hexValue? (Nat.digitChar n) = some n ∧ (Nat.digitChar n).toNat < 128 := by
  decide

theorem pairValues_hexOfByte (isBlank : Char → Bool) (bytes : Bytes) :
    pairValues isBlank (bytes.flatMap Digest.hexOfByte) = bytes.map fun b => (b.toNat : Int) := by
  induction bytes with
  | nil => rfl
  | cons b rest hypothesis =>
      have bound := b.toNat_lt
      have high := (hexValue?_digitChar (b.toNat / 16) (by omega)).1
      have low := (hexValue?_digitChar (b.toNat % 16) (by omega)).1
      have value : 16 * ((b.toNat / 16 : Nat) : Int) + ((b.toNat % 16 : Nat) : Int) = b.toNat := by
        omega
      rw [List.flatMap_cons, hexOfByte_eq, List.cons_append, List.singleton_append, pairValues,
        hypothesis, pairValue, high, low, List.map_cons, ← value]

theorem textOfNumbers_bytes (bytes : Bytes) :
    textOfNumbers (bytes.map fun b => (b.toNat : Int)) = textOfBytes bytes := by
  have within : ((bytes.map fun b => (b.toNat : Int)).all fun n =>
      decide (0 ≤ n) && decide (n < 256)) = true := by
    rw [List.all_map, List.all_eq_true]
    intro b _
    have bound := b.toNat_lt
    simp
    omega
  rw [textOfNumbers, if_pos within, List.map_map]
  congr 1
  conv => rhs; rw [← List.map_id bytes]
  exact List.map_congr_left fun b _ => by simp

theorem ascii_toHex (text : Text) : ∀ c ∈ toHex text, c.toNat < 128 := by
  intro c member
  obtain ⟨b, -, digit⟩ := List.mem_flatMap.mp member
  have bound := b.toNat_lt
  rw [hexOfByte_eq, List.mem_cons, List.mem_singleton] at digit
  rcases digit with rfl | rfl
  · exact (hexValue?_digitChar _ (by omega)).2
  · exact (hexValue?_digitChar _ (by omega)).2

/-- A text is read from its digits in base sixteen. -/
theorem ofHex_toHex (isBlank : Char → Bool) (text : Text) : ofHex isBlank (toHex text) = text := by
  rw [ofHex, toHex, pairValues_hexOfByte, textOfNumbers_bytes, textOfBytes_encode]

end TextCodec

namespace Script

namespace Library

open RuleProbe.Script.Units

/-! ## Round trips -/

variable (host : Caller) (machine : Machine)

theorem returns_base64Encode (text : Text) :
    Returns (callHost host "base64Encode" #[.string (ofText text)]) machine
      (Value.ofText (Base64.written (Utf8.encode text))) machine := by
  have run : callHost host "base64Encode" #[.string (ofText text)] =
      (do return Value.ofText (TextCodec.toBase64
        (← wholeText host (.string (ofText text))))) := rfl
  rw [run, ← Base64.encode_eq]
  simp [wholeText, Convert.toUnits, Convert.plainText, TextCodec.toBase64]

/-- A text is read from the digits of its bytes, however they are spelled. -/
theorem returns_base64Decode
    {text : Text}
    {spelled : Units}
    (respelled : Respelled (ofText (Base64.written (Utf8.encode text))).toList spelled.toList) :
    Returns (callHost host "base64Decode" #[.string spelled]) machine (Value.ofText text)
      machine := by
  have run : callHost host "base64Decode" #[.string spelled] =
      (do return Value.ofText (TextCodec.ofBase64
        (unitText (← Convert.toUnits host (.string spelled))))) := rfl
  have digits : (unitText spelled).filterMap TextCodec.base64Value? =
      (Base64.written (Utf8.encode text)).filterMap TextCodec.base64Value? := by
    rw [unitText_eq, respelled.filterMap, ← unitText_eq,
      unitText_ofText (Base64.ascii_written _)]
  have read : TextCodec.ofBase64 (unitText spelled) = text := by
    rw [TextCodec.ofBase64, TextCodec.gather_filterMap digits, TextCodec.textOfBytes_encode]
  rw [run]
  simp [Convert.toUnits, Convert.plainText, read]

theorem returns_hexEncodeToString (text : Text) :
    Returns (callHost host "hexEncodeToString" #[.string (ofText text)]) machine
      (Value.ofText (TextCodec.toHex text)) machine := by
  have run : callHost host "hexEncodeToString" #[.string (ofText text)] =
      (do return Value.ofText (TextCodec.toHex
        (← wholeText host (.string (ofText text))))) := rfl
  rw [run]
  simp [wholeText, Convert.toUnits, Convert.plainText]

theorem returns_hexDecodeToString (text : Text) :
    Returns (callHost host "hexDecodeToString" #[Value.ofText (TextCodec.toHex text)]) machine
      (Value.ofText text) machine := by
  have run : callHost host "hexDecodeToString" #[Value.ofText (TextCodec.toHex text)] =
      (do
        let text := unitText (← Convert.toUnits host (Value.ofText (TextCodec.toHex text)))
        return Value.ofText (TextCodec.ofHex Number.isBlank text)) := rfl
  have read : TextCodec.ofHex Number.isBlank (unitText (ofText (TextCodec.toHex text))) = text := by
    rw [unitText_ofText (TextCodec.ascii_toHex text), TextCodec.ofHex_toHex]
  rw [run]
  simp [Convert.toUnits, Convert.plainText, Value.ofText, read]

/-- A string without lone halves is written in base sixty-four by way of its bytes in UTF-8, and in
base sixteen.  It is read again from what is written, and from any other spelling of the digits in
base sixty-four. -/
theorem codecs_roundTrip
    {units : Units}
    (whole : IsWhole units.toList) :
    ∃ text encoded,
      units = ofText text ∧
      encoded = ofText (Base64.written (text.flatMap String.utf8EncodeChar)) ∧
      Returns (callHost host "base64Encode" #[.string units]) machine (.string encoded) machine ∧
      Returns (callHost host "base64Decode" #[.string encoded]) machine (.string units) machine ∧
      (∀ spelled : Units, Respelled encoded.toList spelled.toList →
        Returns (callHost host "base64Decode" #[.string spelled]) machine (.string units)
          machine) ∧
      ∃ digits, Returns (callHost host "hexEncodeToString" #[.string units]) machine
          (.string digits) machine ∧
        Returns (callHost host "hexDecodeToString" #[.string digits]) machine (.string units)
          machine := by
  obtain ⟨text, rfl⟩ := whole.exists_ofText
  refine ⟨text, _, rfl, rfl, ?_⟩
  rw [← Utf8.encode_eq]
  exact ⟨returns_base64Encode host machine text,
    returns_base64Decode host machine (Respelled.refl _),
    fun spelled respelled => returns_base64Decode host machine respelled,
    ofText (TextCodec.toHex text), returns_hexEncodeToString host machine text,
    returns_hexDecodeToString host machine text⟩

/-- A host that calls nothing. -/
def idleCaller : Caller where
  call := fun _ _ _ => return .undefined
  construct := fun _ _ => return .undefined

/-- A string with a pair. -/
def pairedUnits : Units := ofText ['中', '😀']

/-- Its digits, spelled without padding, with a hyphen, a space and a lone half of a pair. -/
def pairedDigits : Units :=
  #[53, 76, 105, 116, 32, 56, 74, 45, 89, 0xd800, 103, 65]

/-- The string is written with a plus sign and padding, and read from the other spelling. -/
theorem codecs_roundTrip_pairedUnits :
    IsWhole pairedUnits.toList ∧
      Returns (callHost idleCaller "base64Encode" #[.string pairedUnits]) default
        (Value.ofText "5Lit8J+YgA==".toList) default ∧
      Returns (callHost idleCaller "base64Decode" #[.string pairedDigits]) default
        (.string pairedUnits) default := by
  have whole : IsWhole pairedUnits.toList :=
    .single (by decide) (by decide) (.pair (by decide) (by decide) .nil)
  obtain ⟨text, digits, same, rfl, encoded, -, decoded, -⟩ :=
    codecs_roundTrip idleCaller default whole
  obtain rfl := ofText_injective same
  have written : Base64.written (['中', '😀'].flatMap String.utf8EncodeChar) =
      "5Lit8J+YgA==".toList := by decide
  rw [written] at encoded decoded
  refine ⟨whole, encoded, decoded pairedDigits ?_⟩
  have foreign : IsForeign 32 ∧ IsForeign 0xd800 := by decide
  exact .same 53 (.same 76 (.same 105 (.same 116 (.inserted foreign.1 (.same 56 (.same 74
    (.hyphen (.same 89 (.inserted foreign.2 (.same 103 (.same 65 (.unpadded (.unpadded
      .nil)))))))))))))

end Library

end Script

end RuleProbe
