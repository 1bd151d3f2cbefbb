import RuleProbe.Json.Writer
import RuleProbe.Script.Library.Json

/-!
# Texts as strings of scripts

A text stands in a script as a string, and is the text of that string again.  Scripts write such
a string in JSON as the host writes the text.
-/

namespace RuleProbe

namespace Script

namespace Units

/-! ## Characters -/

theorem toNat_lt (c : Char) : c.toNat < 0x110000 := by
  have valid : c.toNat.isValidChar := c.valid
  rcases valid with low | high
  · omega
  · exact high.2

/-- The code of a character is not half of a pair. -/
theorem isHalf_toNat (c : Char) : isHalf c.toNat = false := by
  have valid : c.toNat.isValidChar := c.valid
  simp only [isHalf, Bool.and_eq_false_iff, decide_eq_false_iff_not]
  rcases valid with low | high
  · left
    omega
  · right
    omega

theorem isHigh_iff (unit : UInt16) :
    isHigh unit = true ↔ 0xd800 ≤ unit.toNat ∧ unit.toNat < 0xdc00 := by
  simp [isHigh, UInt16.le_iff_toNat_le, UInt16.lt_iff_toNat_lt]

theorem isLow_iff (unit : UInt16) :
    isLow unit = true ↔ 0xdc00 ≤ unit.toNat ∧ unit.toNat < 0xe000 := by
  simp [isLow, UInt16.le_iff_toNat_le, UInt16.lt_iff_toNat_lt]

theorem toNat_joinPair (high low : UInt16) :
    joinPair high low = (high.toNat - 0xd800) * 0x400 + (low.toNat - 0xdc00) + 0x10000 := by
  unfold joinPair
  omega

/-- A character of the basic plane is one unit, which is no half of a pair; any other one is a
pair. -/
theorem ofChar_cases (c : Char) :
    (∃ unit, ofChar c = [unit] ∧ unit.toNat = c.toNat ∧
        isHigh unit = false ∧ isLow unit = false) ∨
      ∃ high low, ofChar c = [high, low] ∧ joinPair high low = c.toNat ∧
        isHigh high = true ∧ isLow low = true := by
  have bound := toNat_lt c
  have half := isHalf_toNat c
  simp only [isHalf, Bool.and_eq_false_iff, decide_eq_false_iff_not] at half
  unfold ofChar
  split
  case isTrue basic =>
    have code : (UInt16.ofNat c.toNat).toNat = c.toNat := by
      rw [UInt16.toNat_ofNat']
      omega
    refine .inl ⟨_, rfl, code, ?_, ?_⟩
    · rw [Bool.eq_false_iff, ne_eq, isHigh_iff, code]
      omega
    · rw [Bool.eq_false_iff, ne_eq, isLow_iff, code]
      omega
  case isFalse astral =>
    have high : (UInt16.ofNat (0xd800 + (c.toNat - 0x10000) / 0x400)).toNat =
        0xd800 + (c.toNat - 0x10000) / 0x400 := by
      rw [UInt16.toNat_ofNat']
      omega
    have low : (UInt16.ofNat (0xdc00 + (c.toNat - 0x10000) % 0x400)).toNat =
        0xdc00 + (c.toNat - 0x10000) % 0x400 := by
      rw [UInt16.toNat_ofNat']
      omega
    refine .inr ⟨_, _, rfl, ?_, ?_, ?_⟩
    · rw [toNat_joinPair, high, low]
      omega
    · rw [isHigh_iff, high]
      omega
    · rw [isLow_iff, low]
      omega

/-- The code of a character comes before those of what follows it. -/
theorem codesFrom_ofChar (c : Char) (rest : List UInt16) :
    codesFrom none (ofChar c ++ rest) = c.toNat :: codesFrom none rest := by
  rcases ofChar_cases c with ⟨unit, units, code, plain, -⟩ | ⟨high, low, units, code, first, second⟩
  · simp [units, codesFrom, plain, code]
  · simp [units, codesFrom, first, second, code]

/-! ## Texts -/

theorem ofText_nil : ofText [] = #[] := rfl

theorem ofText_append (one two : Text) : ofText (one ++ two) = ofText one ++ ofText two := by
  simp [ofText]

theorem codes_ofText (text : Text) : (ofText text).codes = text.map Char.toNat := by
  unfold codes ofText
  induction text with
  | nil => rfl
  | cons c rest ih =>
      have split := codesFrom_ofChar c (rest.flatMap ofChar)
      simp only [List.flatMap_cons, List.map_cons] at ih ⊢
      rw [split, ih]

/-- A text is the text of its string. -/
@[simp] theorem toText_ofText (text : Text) : (ofText text).toText = text := by
  simp only [toText, codes_ofText, List.map_map]
  conv => rhs; rw [← List.map_id text]
  refine List.map_congr_left fun c _ => ?_
  simp [isHalf_toNat, Char.ofNat_toNat]

theorem ofText_injective {one two : Text} (same : ofText one = ofText two) : one = two := by
  rw [← toText_ofText one, ← toText_ofText two, same]

@[simp] theorem ofText_inj {one two : Text} : ofText one = ofText two ↔ one = two :=
  ⟨ofText_injective, congrArg ofText⟩

/-! ## JSON strings -/

/-- The characters that JSON escapes are among the first ones, which are gone through. -/
theorem jsonUnit_ascii :
    ((List.range 128).all fun code => decide (Library.jsonUnit (UInt16.ofNat code) =
      (Json.escapeChar (Char.ofNat code)).flatMap ofChar)) = true := by
  decide +kernel

/-- A unit that is neither half of a pair nor one of the first ones stands for itself. -/
theorem jsonUnit_plain
    {unit : UInt16}
    (beyond : 128 ≤ unit.toNat)
    (notHigh : isHigh unit = false)
    (notLow : isLow unit = false) :
    Library.jsonUnit unit = [unit] := by
  have other (code : UInt16) (small : code.toNat < 128) : (unit == code) = false := by
    rw [beq_eq_false_iff_ne]
    rintro rfl
    omega
  have large : ¬unit < 32 := by
    rw [UInt16.lt_iff_toNat_lt]
    simp
    omega
  simp [Library.jsonUnit, other, notHigh, notLow, large]

theorem escapeChar_plain {c : Char} (beyond : 128 ≤ c.toNat) : Json.escapeChar c = [c] := by
  have other (d : Char) (small : d.toNat < 128) : (c == d) = false := by
    rw [beq_eq_false_iff_ne]
    rintro rfl
    omega
  have large : ¬c.toNat < 32 := by omega
  simp [Json.escapeChar, other, large]

/-- What a script writes for the units of a character is what the host writes for it. -/
theorem jsonUnits_ofChar (c : Char) (rest : List UInt16) :
    Library.jsonUnits none (ofChar c ++ rest) =
      (Json.escapeChar c).flatMap ofChar ++ Library.jsonUnits none rest := by
  rcases ofChar_cases c with
    ⟨unit, units, code, notHigh, notLow⟩ | ⟨high, low, units, joined, first, second⟩
  · have written : Library.jsonUnit unit = (Json.escapeChar c).flatMap ofChar := by
      by_cases small : c.toNat < 128
      · have checked := List.all_eq_true.mp jsonUnit_ascii c.toNat (List.mem_range.mpr small)
        have same : UInt16.ofNat c.toNat = unit := by
          rw [← code, UInt16.ofNat_toNat]
        rw [decide_eq_true_eq, same, Char.ofNat_toNat] at checked
        exact checked
      · have beyond : 128 ≤ c.toNat := by omega
        rw [jsonUnit_plain (by omega) notHigh notLow, escapeChar_plain beyond]
        simp [units]
    simp [units, Library.jsonUnits, notHigh, written]
  · have beyond : 128 ≤ c.toNat := by
      rw [← joined, toNat_joinPair]
      omega
    simp [units, Library.jsonUnits, first, second, escapeChar_plain beyond]

/-- A script writes the string of a text in JSON as the host writes the text. -/
theorem jsonString_ofText (text : Text) :
    Library.jsonString (ofText text) = ofText (Json.writeString text) := by
  have inner : ∀ text : Text, Library.jsonUnits none (text.flatMap ofChar) =
      (text.flatMap Json.escapeChar).flatMap ofChar := by
    intro text
    induction text with
    | nil => rfl
    | cons c rest ih =>
        simp only [List.flatMap_cons, List.flatMap_append]
        rw [jsonUnits_ofChar, ih]
  have quote : ofChar '"' = [34] := by decide
  simp [Library.jsonString, Json.writeString, ofText, inner, quote]

end Units

end Script

end RuleProbe
