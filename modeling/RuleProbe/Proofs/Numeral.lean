import Mathlib.Data.List.TakeDrop
import RuleProbe.Json.Reader
import RuleProbe.Script.Number

/-!
# Written numbers as JSON numbers

Whatever number a script writes, the reader of JSON reads it, and reads nothing of what follows
it.  This says nothing of the value that is read.
-/

namespace RuleProbe

/-! ## Digits -/

namespace Decimal

/-- A text of digits. -/
def AllDigits (text : Text) : Prop := ∀ c ∈ text, Letter.isAsciiDigit c.toNat = true

/-- A text that does not begin with a digit. -/
def NoDigit (text : Text) : Prop := ∀ c ∈ text.head?, Letter.isAsciiDigit c.toNat = false

theorem noDigit_cons {c : Char} {rest : Text} :
    NoDigit (c :: rest) ↔ Letter.isAsciiDigit c.toNat = false := by
  simp [NoDigit]

theorem allDigits_nil : AllDigits [] := by simp [AllDigits]

theorem AllDigits.append {one two : Text} (left : AllDigits one) (right : AllDigits two) :
    AllDigits (one ++ two) := by
  intro c member
  rcases List.mem_append.mp member with inside | inside
  · exact left c inside
  · exact right c inside

theorem allDigits_zeros (count : Nat) : AllDigits (List.replicate count '0') := by
  intro c member
  rw [List.eq_of_mem_replicate member]
  rfl

theorem spanDigits_append
    {digits rest : Text}
    (all : AllDigits digits)
    (ends : NoDigit rest) :
    spanDigits (digits ++ rest) = (digits, rest) := by
  have stops : rest.takeWhile (fun c => Letter.isAsciiDigit c.toNat) = [] ∧
      rest.dropWhile (fun c => Letter.isAsciiDigit c.toNat) = rest := by
    cases rest with
    | nil => exact ⟨rfl, rfl⟩
    | cons c more => simp [noDigit_cons.mp ends]
  rw [spanDigits, List.span_eq_takeWhile_dropWhile, List.takeWhile_append_of_pos all,
    List.dropWhile_append_of_pos all, stops.1, stops.2, List.append_nil]

end Decimal

namespace Integer

theorem allDigits_writeNat (n : Nat) : Decimal.AllDigits (writeNat n) := by
  intro c member
  have digit := Nat.isDigit_of_mem_toDigits (by decide) (Nat.le_refl 10) member
  simpa [Char.isDigit, Letter.isAsciiDigit, UInt32.le_iff_toNat_le] using digit

theorem writeNat_ne_nil (n : Nat) : writeNat n ≠ [] := Nat.toDigits_ne_nil

/-- A written number begins with a zero only if it is zero. -/
theorem head?_writeNat {n : Nat} (positive : n ≠ 0) : (writeNat n).head? ≠ some '0' := by
  induction n using Nat.strongRecOn with
  | _ n ih =>
      unfold writeNat at ih ⊢
      rw [Nat.toDigits_eq_if (by decide)]
      split
      case isTrue small =>
        have checked : ∀ n < 10, n ≠ 0 → ¬[Nat.digitChar n].head? = some '0' := by decide
        exact checked n small positive
      case isFalse large =>
        have before := ih (n / 10) (by omega) (by omega)
        cases digits : Nat.toDigits 10 (n / 10) with
        | nil => exact absurd digits Nat.toDigits_ne_nil
        | cons c rest => rwa [digits] at before

end Integer

/-! ## JSON numbers -/

namespace Json

/-- What may follow a value inside a container; nothing follows a value that stands alone. -/
def Closes (rest : Text) : Prop := ∀ c ∈ rest.head?, c = ',' ∨ c = ']' ∨ c = '}'

theorem closes_nil : Closes [] := by simp [Closes]

theorem closes_cons {c : Char} {rest : Text} :
    Closes (c :: rest) ↔ c = ',' ∨ c = ']' ∨ c = '}' := by
  simp [Closes]

/-- An exponent of a number in a JSON text, if there is one. -/
inductive ExponentText : Text → Prop where
  | none : ExponentText []
  | signed (sign : Char) (digits : Text) (signs : sign = '+' ∨ sign = '-')
      (all : Decimal.AllDigits digits) (nonempty : digits ≠ []) :
      ExponentText ('e' :: sign :: digits)

/-- The parts of an unsigned number in a JSON text. -/
structure NumberText where
  /-- The digits before the point. -/
  whole : Text
  /-- The digits behind the point; none if there is no point. -/
  fraction : Text
  /-- The exponent with its mark. -/
  exponent : Text
  whole_digits : Decimal.AllDigits whole
  whole_ne_nil : whole ≠ []
  /-- Only zero begins with a zero. -/
  whole_leads : whole.head? = some '0' → whole = ['0']
  /-- The reader counts the digits of integers. -/
  whole_short : whole.length ≤ Integer.digitLimit
  fraction_digits : Decimal.AllDigits fraction
  exponent_shape : ExponentText exponent

namespace NumberText

/-- The point with the digits behind it. -/
def fractionText (number : NumberText) : Text :=
  if number.fraction = [] then [] else '.' :: number.fraction

/-- The number as it is written. -/
def text (number : NumberText) : Text := number.whole ++ number.fractionText ++ number.exponent

variable (number : NumberText) {rest : Text}

/-- What follows the digits of a number is no digit. -/
theorem noDigit_of_closes (ends : Closes rest) : Decimal.NoDigit rest := by
  intro c member
  rcases ends c member with rfl | rfl | rfl <;> rfl

theorem noDigit_exponent (ends : Closes rest) : Decimal.NoDigit (number.exponent ++ rest) := by
  have shape := number.exponent_shape
  generalize number.exponent = written at shape ⊢
  cases shape with
  | none => exact noDigit_of_closes ends
  | signed => exact Decimal.noDigit_cons.mpr rfl

theorem noDigit_fractionText (ends : Closes rest) :
    Decimal.NoDigit (number.fractionText ++ (number.exponent ++ rest)) := by
  unfold fractionText
  split
  · exact noDigit_exponent number ends
  · exact Decimal.noDigit_cons.mpr rfl

theorem readWhole_append {more : Text} (ends : Decimal.NoDigit more) :
    Reader.readWhole (number.whole ++ more) = some (number.whole, more) := by
  cases digits : number.whole with
  | nil => exact absurd digits number.whole_ne_nil
  | cons c rest =>
      by_cases zero : c = '0'
      · subst zero
        have alone := number.whole_leads (by rw [digits]; rfl)
        rw [digits, List.cons.injEq] at alone
        rw [alone.2]
        rfl
      · have all := number.whole_digits
        rw [digits] at all
        have cut := Decimal.spanDigits_append all ends
        rw [List.cons_append] at cut ⊢
        unfold Reader.readWhole
        split
        case h_1 rest' same => exact absurd (List.cons.inj same).1 zero
        case h_2 => simp [cut]

theorem readFraction_append (ends : Closes rest) :
    Reader.readFraction (number.fractionText ++ (number.exponent ++ rest)) =
      if number.fraction = [] then none else some (number.fraction, number.exponent ++ rest) := by
  unfold fractionText
  split
  case isTrue =>
    have shape := number.exponent_shape
    generalize number.exponent = written at shape ⊢
    rw [List.nil_append]
    cases shape with
    | signed => rfl
    | none =>
        cases rest with
        | nil => rfl
        | cons c more => rcases closes_cons.mp ends with rfl | rfl | rfl <;> rfl
  case isFalse point =>
    have cut := Decimal.spanDigits_append number.fraction_digits (noDigit_exponent number ends)
    simp [Reader.readFraction, cut, point]

/-- The exponent of a number is read up to what follows it. -/
theorem readExponent_append :
    (number.exponent = [] ∧
        ∀ rest, Closes rest → Decimal.readExponent (number.exponent ++ rest) = none) ∨
      ∃ value, ∀ rest, Closes rest →
        Decimal.readExponent (number.exponent ++ rest) = some (value, rest) := by
  have shape := number.exponent_shape
  generalize number.exponent = written at shape ⊢
  cases shape with
  | none =>
      refine .inl ⟨rfl, fun rest ends => ?_⟩
      cases rest with
      | nil => rfl
      | cons c more => rcases closes_cons.mp ends with rfl | rfl | rfl <;> rfl
  | signed sign digits signs all nonempty =>
      let size : Nat := if 8 < digits.length then 99999999 else Integer.readAscii digits
      refine .inr ⟨(if sign = '-' then -1 else 1) * size, fun rest ends => ?_⟩
      have cut := Decimal.spanDigits_append all (noDigit_of_closes ends)
      rcases signs with rfl | rfl
      all_goals simp [Decimal.readExponent, cut, nonempty, size]

/-- A number is read whole, and nothing of what follows it. -/
theorem readUnsigned_append (negative : Bool) :
    ∃ value, ∀ rest, Closes rest →
      Reader.readUnsigned negative (number.text ++ rest) = .ok (value, rest) := by
  have short : ¬Integer.digitLimit < number.whole.length := Nat.not_lt.mpr number.whole_short
  have read (rest : Text) (ends : Closes rest) :
      Reader.readWhole (number.text ++ rest) =
        some (number.whole, number.fractionText ++ (number.exponent ++ rest)) := by
    rw [← number.readWhole_append (number.noDigit_fractionText ends)]
    simp [text]
  by_cases bare : number.fraction = []
  · have noPoint (rest : Text) (ends : Closes rest) :
        Reader.readFraction (number.exponent ++ rest) = none := by
      simpa [fractionText, bare] using number.readFraction_append ends
    rcases number.readExponent_append with ⟨absent, reads⟩ | ⟨value, reads⟩
    · let size : Int := Integer.readAscii number.whole
      refine ⟨.int (if negative then -size else size), fun rest ends => ?_⟩
      have noFraction := noPoint rest ends
      have noExponent := reads rest ends
      simp only [absent, List.nil_append] at noFraction noExponent
      simp [Reader.readUnsigned, read rest ends, fractionText, bare, absent, noFraction, noExponent,
        short, size]
    · let size := Decimal.ofParts number.whole [] value
      refine ⟨.float (if negative then -size else size), fun rest ends => ?_⟩
      simp [Reader.readUnsigned, read rest ends, fractionText, bare, noPoint rest ends,
        reads rest ends, size]
  · have point (rest : Text) (ends : Closes rest) :
        Reader.readFraction (number.fractionText ++ (number.exponent ++ rest)) =
          some (number.fraction, number.exponent ++ rest) := by
      simpa [bare] using number.readFraction_append ends
    rcases number.readExponent_append with ⟨absent, reads⟩ | ⟨value, reads⟩
    · let size := Decimal.ofParts number.whole number.fraction 0
      refine ⟨.float (if negative then -size else size), fun rest ends => ?_⟩
      have found := point rest ends
      have noExponent := reads rest ends
      simp only [absent, List.nil_append] at found noExponent
      simp [Reader.readUnsigned, read rest ends, absent, found, noExponent, size]
    · let size := Decimal.ofParts number.whole number.fraction value
      refine ⟨.float (if negative then -size else size), fun rest ends => ?_⟩
      simp [Reader.readUnsigned, read rest ends, point rest ends, reads rest ends, size]

end NumberText

end Json

/-! ## Written floating-point numbers -/

/-- Digits of a number as they are written: there are some, and only zero begins with a zero. -/
structure DecimalDigits.Proper (number : DecimalDigits) : Prop where
  all : Decimal.AllDigits number.digits
  nonempty : number.digits ≠ []
  leads : number.digits.head? = some '0' → number.digits = ['0'] ∧ number.exponent = 0

namespace Shortest

theorem ne_zero_of_nearestOnGrid
    {interval : Interval}
    {k : Int}
    {c : Nat}
    (found : nearestOnGrid interval k = some c) :
    c ≠ 0 := by
  simp only [nearestOnGrid] at found
  split at found
  case h_1 below _ =>
    have positive := (Bool.and_eq_true_iff.mp below).2
    rw [bne_iff_ne] at positive
    split at found
    · rwa [Option.some.inj found] at positive
    · split at found
      · rw [← Option.some.inj found]
        exact Nat.succ_ne_zero _
      · rw [← Option.some.inj found]
        split
        · exact positive
        · exact Nat.succ_ne_zero _
  case h_2 below _ =>
    have positive := (Bool.and_eq_true_iff.mp below).2
    rw [bne_iff_ne] at positive
    rwa [Option.some.inj found] at positive
  case h_3 =>
    rw [← Option.some.inj found]
    exact Nat.succ_ne_zero _
  case h_4 => cases found

/-- A search finds a number that is not zero, or nothing. -/
theorem search_positive (interval : Interval) (exponent : Int) (steps count : Nat) :
    (search interval exponent steps count).1 ≠ 0 ∨
      search interval exponent steps count = (0, 0) := by
  induction steps generalizing count with
  | zero => exact .inr rfl
  | succ steps ih =>
      unfold search
      dsimp only
      split
      case h_1 c found => exact .inl (ne_zero_of_nearestOnGrid found)
      case h_2 => exact ih (count + 1)

/-- A text is what trimming keeps of it, and then what is trimmed. -/
theorem trimRightWhere_append (drop : Char → Bool) (text : Text) :
    ∃ dropped, text = Text.trimRightWhere drop text ++ dropped ∧ ∀ c ∈ dropped, drop c = true := by
  refine ⟨(text.reverse.takeWhile drop).reverse, ?_, ?_⟩
  · rw [Text.trimRightWhere, ← List.reverse_append, List.takeWhile_append_dropWhile,
      List.reverse_reverse]
  · intro c member
    exact List.all_eq_true.mp List.all_takeWhile c (List.mem_reverse.mp member)

theorem digitsOf_proper {c : Nat} {k : Int} (some : c ≠ 0 ∨ k = 0) : (digitsOf c k).Proper := by
  by_cases zero : c = 0
  · subst zero
    have exponent : k = 0 := some.resolve_left fun absurd => absurd rfl
    subst exponent
    exact ⟨Decimal.allDigits_zeros 1, by decide, by decide⟩
  · obtain ⟨dropped, same, zeros⟩ := trimRightWhere_append (· == '0') (Integer.writeNat c)
    have leading := Integer.head?_writeNat zero
    have all := Integer.allDigits_writeNat c
    simp only [digitsOf]
    generalize Text.trimRightWhere (· == '0') (Integer.writeNat c) = kept at same
    rw [same] at leading all
    have nonempty : kept ≠ [] := by
      rintro rfl
      cases dropped with
      | nil => exact Integer.writeNat_ne_nil c same
      | cons d rest => exact leading (by simpa using zeros d List.mem_cons_self)
    have keeps : (if kept.isEmpty = true then ['0'] else kept) = kept := by simp [nonempty]
    refine ⟨?_, ?_, ?_⟩
    · rw [keeps]
      exact fun digit member => all digit (List.mem_append_left _ member)
    · rwa [keeps]
    · rw [keeps]
      intro zero
      exact absurd (by rw [List.head?_append, zero]; rfl) leading

theorem ofBits_proper (bits : Nat) : (ofBits bits).Proper := by
  unfold ofBits
  split
  · exact ⟨Decimal.allDigits_zeros 1, by decide, by decide⟩
  · apply digitsOf_proper
    rcases search_positive _ _ _ _ with positive | none
    · exact .inl positive
    · exact .inr (by rw [none])

end Shortest

namespace FloatLayout

variable {layout : FloatLayout} {number : DecimalDigits}

open Decimal in
/-- Digits with a point among them are a number of JSON. -/
theorem placePoint_numberText
    (proper : number.Proper)
    (short : layout.positionalBelow ≤ Integer.digitLimit)
    (below : number.exponent < layout.positionalBelow) :
    ∃ written : Json.NumberText,
      layout.placePoint number.digits (number.exponent + 1) = written.text := by
  unfold placePoint
  split
  case isTrue =>
    refine ⟨
      { whole := ['0']
        fraction := List.replicate (-(number.exponent + 1)).toNat '0' ++ number.digits
        exponent := []
        whole_digits := allDigits_zeros 1
        whole_ne_nil := by decide
        whole_leads := fun _ => rfl
        whole_short := by decide
        fraction_digits := (allDigits_zeros _).append proper.all
        exponent_shape := .none }, ?_⟩
    simp [Json.NumberText.text, Json.NumberText.fractionText, proper.nonempty]
  case isFalse positive =>
    let width := (number.exponent + 1).toNat
    let front := number.digits.take width ++ List.replicate (width - number.digits.length) '0'
    let back := number.digits.drop width
    have all : AllDigits front :=
      AllDigits.append (fun c member => proper.all c (List.mem_of_mem_take member))
        (allDigits_zeros _)
    have size : front.length = width := by
      simp only [front, List.length_append, List.length_take, List.length_replicate]
      omega
    have nonempty : front ≠ [] := by
      intro none
      rw [none] at size
      simp only [List.length_nil] at size
      omega
    have leads : front.head? = some '0' → front = ['0'] := by
      intro zero
      have first : number.digits.head? = some '0' := by
        cases digits : number.digits with
        | nil => exact absurd digits proper.nonempty
        | cons d rest =>
            obtain ⟨less, same⟩ : ∃ less, width = less + 1 :=
              ⟨width - 1, by omega⟩
            simpa [front, digits, same] using zero
      have alone := proper.leads first
      have one : width = 1 := by
        simp only [width, alone.2]
        rfl
      simp [front, alone.1, one]
    have text (fraction : Text) (digits : AllDigits fraction) : ∃ written : Json.NumberText,
        front ++ (if fraction = [] then [] else '.' :: fraction) = written.text := by
      refine ⟨
        { whole := front
          fraction := fraction
          exponent := []
          whole_digits := all
          whole_ne_nil := nonempty
          whole_leads := leads
          whole_short := by omega
          fraction_digits := digits
          exponent_shape := .none }, ?_⟩
      simp [Json.NumberText.text, Json.NumberText.fractionText]
    have rest : AllDigits back := fun c member => proper.all c (List.mem_of_mem_drop member)
    by_cases noBack : back = []
    · by_cases pointed : layout.fraction = true
      · obtain ⟨written, same⟩ := text ['0'] (allDigits_zeros 1)
        exact ⟨written, by simpa [front, back, noBack, pointed, width] using same⟩
      · obtain ⟨written, same⟩ := text [] allDigits_nil
        exact ⟨written, by simpa [front, back, noBack, pointed, width] using same⟩
    · obtain ⟨written, same⟩ := text back rest
      exact ⟨written, by simpa [front, back, noBack, width] using same⟩

/-- The shortest digits of a number, laid out, are a number of JSON. -/
theorem writeDigits_numberText
    (proper : number.Proper)
    (short : layout.positionalBelow ≤ Integer.digitLimit) :
    ∃ written : Json.NumberText, layout.writeDigits number = written.text := by
  unfold writeDigits
  split
  case isTrue within =>
    rw [Bool.and_eq_true, decide_eq_true_eq, decide_eq_true_eq] at within
    exact placePoint_numberText proper short within.2
  case isFalse =>
    let size := Integer.writeNat number.exponent.natAbs
    let digits := List.replicate (layout.exponentDigits - size.length) '0' ++ size
    let sign : Char := if number.exponent < 0 then '-' else '+'
    have shape : Json.ExponentText ('e' :: sign :: digits) := by
      refine .signed sign digits ?_ ?_ ?_
      · by_cases negative : number.exponent < 0 <;> simp [sign, negative]
      · exact (Decimal.allDigits_zeros _).append (Integer.allDigits_writeNat _)
      · simp [digits, size, Integer.writeNat_ne_nil]
    have all := proper.all
    cases mantissa : number.digits with
    | nil => exact absurd mantissa proper.nonempty
    | cons d rest =>
        rw [mantissa] at all
        refine ⟨
          { whole := [d]
            fraction := rest
            exponent := 'e' :: sign :: digits
            whole_digits := fun c member => all c (List.mem_of_mem_take (i := 1) member)
            whole_ne_nil := List.cons_ne_nil d []
            whole_leads := fun zero => by rw [Option.some.inj zero]
            whole_short := by simp [Integer.digitLimit]
            fraction_digits := fun c member => all c (List.mem_cons_of_mem d member)
            exponent_shape := shape }, ?_⟩
        cases rest <;>
          simp [Json.NumberText.text, Json.NumberText.fractionText, digits, size, sign]

/-- A number is written as a word, or as digits with a sign. -/
theorem write_cases (layout : FloatLayout) (x : Float) :
    layout.write x = layout.notANumber ∨ layout.write x = layout.infinity ∨
      layout.write x = '-' :: layout.infinity ∨
      ∃ bits, layout.write x = layout.writeDigits (Shortest.ofBits bits) ∨
        layout.write x = '-' :: layout.writeDigits (Shortest.ofBits bits) := by
  simp only [write]
  split
  · exact .inl rfl
  · split
    · split
      · exact .inr (.inr (.inl rfl))
      · exact .inr (.inl rfl)
    · split
      · exact .inr (.inr (.inr ⟨_, .inr rfl⟩))
      · exact .inr (.inr (.inr ⟨_, .inl rfl⟩))

end FloatLayout

namespace Json

/-- Where texts differ in their first character, one does not begin with the other. -/
theorem dropStart?_ne {c d : Char} {text word : Text} (other : c ≠ d) :
    Text.dropStart? (c :: text) (d :: word) = none := by
  have miss : (d == c) = false := beq_eq_false_iff_ne.mpr other.symm
  simp [Text.dropStart?, Text.startsWith, List.isPrefixOf, miss]

theorem ne_of_digit
    {c : Char}
    (digit : Letter.isAsciiDigit c.toNat = true)
    (letter : Char)
    (isLetter : Letter.isAsciiDigit letter.toNat = false) :
    c ≠ letter := by
  rintro rfl
  rw [digit] at isLetter
  cases isLetter

/-- What begins with a digit is read as a number. -/
theorem readScalar_digit
    {c : Char}
    {text : Text}
    (digit : Letter.isAsciiDigit c.toNat = true) :
    Reader.readScalar (c :: text) = Reader.readUnsigned false (c :: text) := by
  have other := ne_of_digit digit
  have null : Text.dropStart? (c :: text) "null" = none := dropStart?_ne (other 'n' rfl)
  have true : Text.dropStart? (c :: text) "true" = none := dropStart?_ne (other 't' rfl)
  have false : Text.dropStart? (c :: text) "false" = none := dropStart?_ne (other 'f' rfl)
  have nan : Text.dropStart? (c :: text) "NaN" = none := dropStart?_ne (other 'N' rfl)
  have infinity : Text.dropStart? (c :: text) "Infinity" = none := dropStart?_ne (other 'I' rfl)
  have minus : Text.dropStart? (c :: text) "-Infinity" = none := dropStart?_ne (other '-' rfl)
  simp only [Reader.readScalar, null, true, false, nan, infinity, minus]
  split
  case h_1 rest same => exact absurd (List.cons.inj same).1 (other '-' rfl)
  case h_2 => rfl

/-- What begins with a minus sign and a digit is read as a negative number. -/
theorem readScalar_minus
    {c : Char}
    {text : Text}
    (digit : Letter.isAsciiDigit c.toNat = true) :
    Reader.readScalar ('-' :: c :: text) = Reader.readUnsigned true (c :: text) := by
  have infinity : Text.dropStart? ('-' :: c :: text) "-Infinity" = none := by
    have other : ('I' == c) = false :=
      beq_eq_false_iff_ne.mpr (ne_of_digit digit 'I' rfl).symm
    simp [Text.dropStart?, Text.startsWith, List.isPrefixOf, other]
  have null : Text.dropStart? ('-' :: c :: text) "null" = none := rfl
  have true : Text.dropStart? ('-' :: c :: text) "true" = none := rfl
  have false : Text.dropStart? ('-' :: c :: text) "false" = none := rfl
  have nan : Text.dropStart? ('-' :: c :: text) "NaN" = none := rfl
  have plus : Text.dropStart? ('-' :: c :: text) "Infinity" = none := rfl
  simp only [Reader.readScalar, null, true, false, nan, plus, infinity]

/-- The first character of a number is a digit. -/
theorem NumberText.text_eq_cons (number : NumberText) :
    ∃ c more, number.text = c :: more ∧ Letter.isAsciiDigit c.toNat = true := by
  have all := number.whole_digits
  cases digits : number.whole with
  | nil => exact absurd digits number.whole_ne_nil
  | cons c more =>
      rw [digits] at all
      exact ⟨c, _, by rw [text, digits, List.append_assoc, List.cons_append],
        all c List.mem_cons_self⟩

/-- Every number that is written in a layout with the words of JSON is read whole. -/
theorem readScalar_write
    {layout : FloatLayout}
    (short : layout.positionalBelow ≤ Integer.digitLimit)
    (infinity : layout.infinity = "Infinity")
    (notANumber : layout.notANumber = "NaN")
    (x : Float) :
    ∃ value, ∀ rest, Closes rest →
      Reader.readScalar (layout.write x ++ rest) = .ok (value, rest) := by
  rcases layout.write_cases x with word | word | word | ⟨bits, positive | negative⟩
  · rw [word, notANumber]
    exact ⟨_, fun rest _ => rfl⟩
  · rw [word, infinity]
    exact ⟨_, fun rest _ => rfl⟩
  · rw [word, infinity]
    exact ⟨_, fun rest _ => rfl⟩
  · obtain ⟨number, same⟩ :=
      FloatLayout.writeDigits_numberText (Shortest.ofBits_proper bits) short
    obtain ⟨c, more, text, digit⟩ := number.text_eq_cons
    obtain ⟨value, reads⟩ := number.readUnsigned_append false
    refine ⟨value, fun rest ends => ?_⟩
    rw [positive, same, ← reads rest ends, text, List.cons_append, readScalar_digit digit]
  · obtain ⟨number, same⟩ :=
      FloatLayout.writeDigits_numberText (Shortest.ofBits_proper bits) short
    obtain ⟨c, more, text, digit⟩ := number.text_eq_cons
    obtain ⟨value, reads⟩ := number.readUnsigned_append true
    refine ⟨value, fun rest ends => ?_⟩
    rw [negative, same, ← reads rest ends, text, List.cons_append, List.cons_append,
      readScalar_minus digit]

end Json

end RuleProbe
