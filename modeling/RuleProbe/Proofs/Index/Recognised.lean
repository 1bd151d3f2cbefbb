import RuleProbe.Proofs.Index

/-!
# Recognised index expressions

A text that looks like an index expression can be read as one, for lists of every length, except
that a minus sign without digits looks like a number and is none.
-/

namespace RuleProbe

namespace IndexExpression

/-! ## Numbers of expressions that are recognised -/

/-- The numbers of an expression, with the commas and colons between them left out. -/
def numbers (text : Text) : List Text :=
  (Text.splitWhere (· == ',') [] (dropMark text.trim)).flatMap numbersOf

/-- A number has no more digits than can be read. -/
def IsShort (number : Text) : Prop :=
  (number.countP fun c => Letter.isDecimal c.toNat) ≤ Integer.digitLimit

instance (number : Text) : Decidable (IsShort number) :=
  inferInstanceAs (Decidable (_ ≤ Integer.digitLimit))

theorem isSome_decimalValue? (code : Nat) :
    (Letter.decimalValue? code).isSome = Letter.isDecimal code := by
  unfold Letter.decimalValue? Letter.isDecimal RangeTable.contains
  split
  · cases Letter.isAsciiDigit code <;> rfl
  · rw [Option.isSome_map]

theorem ne_of_isDecimal
    {c sign : Char}
    (decimal : Letter.isDecimal c.toNat = true)
    (other : Letter.isDecimal sign.toNat = false) :
    c ≠ sign := by
  rintro rfl
  rw [decimal] at other
  cases other

theorem readDigits_of_decimal
    {digits : Text}
    (decimal : ∀ c ∈ digits, Letter.isDecimal c.toNat = true)
    {afterDigit : Bool}
    (given : afterDigit = true ∨ digits ≠ [])
    (value : Nat) :
    ∃ n, Integer.readDigits afterDigit value digits = some n := by
  induction digits generalizing afterDigit value with
  | nil =>
      have after := given.resolve_right fun absurd => absurd rfl
      rw [Integer.readDigits, if_pos after]
      exact ⟨value, rfl⟩
  | cons c rest hypothesis =>
      obtain ⟨first, others⟩ := List.forall_mem_cons.mp decimal
      have digit := first
      rw [← isSome_decimalValue?] at digit
      obtain ⟨number, reads⟩ := Option.isSome_iff_exists.mp digit
      have apart : c ≠ '_' := ne_of_isDecimal first (by decide)
      rw [Integer.readDigits, if_neg (by simpa using apart), reads]
      exact hypothesis others (.inl rfl) _

theorem readUnsigned_of_decimal
    {digits : Text}
    (decimal : ∀ c ∈ digits, Letter.isDecimal c.toNat = true)
    (given : digits ≠ [])
    (short : digits.length ≤ Integer.digitLimit) :
    ∃ n, Integer.readUnsigned digits = some n := by
  have within := (List.length_filter_le (fun c => c != '_') digits).trans short
  rw [Integer.readUnsigned, if_neg (by omega)]
  exact readDigits_of_decimal decimal (.inr given) 0

theorem length_le_of_isShort
    {number digits : Text}
    (short : IsShort number)
    (inside : digits <:+: number)
    (decimal : ∀ c ∈ digits, Letter.isDecimal c.toNat = true) :
    digits.length ≤ Integer.digitLimit := by
  have counted := List.countP_eq_length.mpr decimal
  rw [← counted]
  exact inside.sublist.countP_le.trans short

/-- A number of a recognised expression can be read unless it is a sign alone. -/
theorem exists_readNumber_iff
    {number : Text}
    (recognised : isNumber number = true)
    (short : IsShort number) :
    (∃ value, readNumber number = .ok value) ↔ number.trim ≠ ['-'] := by
  have inside := Text.trim_isInfix number
  have trimmed := Text.trim_trim number
  unfold isNumber at recognised
  unfold readNumber
  simp only [Integer.read?, trimmed]
  generalize number.trim = written at recognised inside
  split at recognised
  · rename_i digits
    rw [List.all_eq_true] at recognised
    rw [Integer.readSigned]
    by_cases given : digits = []
    · subst given
      simp [Integer.readUnsigned, Integer.readDigits]
    · have short := length_le_of_isShort short ((List.suffix_cons '-' digits).isInfix.trans inside)
        recognised
      obtain ⟨n, reads⟩ := readUnsigned_of_decimal recognised given short
      simp [reads, given]
  · rename_i unsigned
    rw [List.all_eq_true] at recognised
    cases written with
    | nil => simp
    | cons c rest =>
        have first := recognised c List.mem_cons_self
        have apart : c ≠ '-' := ne_of_isDecimal first (by decide)
        have apartPlus : c ≠ '+' := ne_of_isDecimal first (by decide)
        have short := length_le_of_isShort short inside recognised
        obtain ⟨n, reads⟩ := readUnsigned_of_decimal recognised (List.cons_ne_nil c rest) short
        have signed : Integer.readSigned (c :: rest) = some (n : Int) := by
          unfold Integer.readSigned
          split
          · rename_i same
            exact absurd (List.cons.inj same).1 apart
          · rename_i same
            exact absurd (List.cons.inj same).1 apartPlus
          · rw [reads]
            rfl
        simp [signed, apart]

/-! ## Recognised expressions -/

theorem readNumber_trim (text : Text) : readNumber text.trim = readNumber text := by
  unfold readNumber
  rw [Text.trim_trim]

/-- The numbers of a part are those of the trimmed part, blanks around them aside. -/
theorem map_trim_numbersOf_trim (part : Text) :
    (numbersOf part.trim).map Text.trim = (numbersOf part).map Text.trim := by
  apply Text.map_trim_splitWhere_trim
  intro c blank
  apply beq_eq_false_iff_ne.mpr
  rintro rfl
  revert blank
  decide

theorem forall_readNumber_trim_iff {part : Text} :
    (∀ number ∈ numbersOf part.trim, ∃ value, readNumber number = .ok value) ↔
      ∀ number ∈ numbersOf part, ∃ value, readNumber number = .ok value := by
  have overTrimmed (numbers : List Text) :
      (∀ number ∈ numbers, ∃ value, readNumber number = .ok value) ↔
        ∀ number ∈ numbers.map Text.trim, ∃ value, readNumber number = .ok value := by
    simp only [List.forall_mem_map, readNumber_trim]
  rw [overTrimmed, map_trim_numbersOf_trim, ← overTrimmed]

/-- A part of at most three numbers can be read when each of them can. -/
theorem exists_readPart_iff
    {part : Text}
    (given : part.isBlankText = false)
    (few : (numbersOf part).length ≤ 3) :
    (∃ selection, readPart part = .ok selection) ↔
      ∀ number ∈ numbersOf part, ∃ value, readNumber number = .ok value := by
  by_cases colon : ':' ∈ part
  · have several (number : Text) : numbersOf part ≠ [number] := by
      intro single
      have joined := Text.join_splitWhere ':' [] part
      change Text.join [':'] (numbersOf part) = part at joined
      simp only [single, Text.join, List.intercalate_singleton] at joined
      have member : number ∈ numbersOf part := by
        rw [single]
        exact List.mem_cons_self
      apply whole_of_mem_numbersOf member
      rwa [joined]
    unfold readPart
    rw [List.elem_eq_mem, if_pos (decide_eq_true colon)]
    have cut : Text.splitWhere (· == ':') [] part = numbersOf part := rfl
    rw [cut]
    have some := Text.splitWhere_ne_nil (· == ':') [] part
    change numbersOf part ≠ [] at some
    generalize numbersOf part = numbers at several some few
    split
    · simp [exists_bind_eq_ok_iff]
    · simp [exists_bind_eq_ok_iff]
    · rename_i notTwo notThree
      rcases numbers with _ | ⟨first, _ | ⟨second, _ | ⟨third, _ | ⟨fourth, more⟩⟩⟩⟩
      · exact absurd rfl some
      · exact absurd rfl (several first)
      · exact absurd rfl (notTwo first second)
      · exact absurd rfl (notThree first second third)
      · simp only [List.length_cons] at few
        omega
  · unfold readPart
    rw [List.elem_eq_mem, if_neg (by simpa using colon), numbersOf_plain colon]
    simp only [List.mem_singleton, forall_eq]
    cases reads : readNumber part with
    | error refused => simp [bind, Except.bind]
    | ok value =>
        cases readNumber_eq_ok_iff.mp reads with
        | leftOut blank =>
            rw [given] at blank
            cases blank
        | given _ => simp [bind, Except.bind]

/-- Parts of at most three numbers can be read when all their numbers can. -/
theorem exists_readParts_iff
    {parts : List Text}
    (few : ∀ part ∈ parts, (numbersOf part).length ≤ 3) :
    (∃ selections, readParts parts = .ok selections) ↔
      ∀ number ∈ parts.flatMap numbersOf, ∃ value, readNumber number = .ok value := by
  induction parts with
  | nil => simp [readParts]
  | cons part rest hypothesis =>
      obtain ⟨fewFirst, fewOthers⟩ := List.forall_mem_cons.mp few
      rw [readParts, List.flatMap_cons, List.forall_mem_append, ← hypothesis fewOthers,
        ← forall_readNumber_trim_iff]
      have count : (numbersOf part.trim).length = (numbersOf part).length := by
        simpa using congrArg List.length (map_trim_numbersOf_trim part)
      split
      · rename_i empty
        rw [List.isEmpty_iff.mp empty, and_iff_right]
        intro number member
        cases List.mem_singleton.mp member
        exact ⟨none, rfl⟩
      · rename_i visible
        have given : part.trim.isBlankText = false := by
          rw [← Bool.not_eq_true, ← Text.trim_eq_nil_iff, Text.trim_trim]
          simpa using visible
        rw [← exists_readPart_iff given (by omega)]
        simp [exists_bind_eq_ok_iff]

theorem isNumber_bracket (rest : Text) : isNumber ('[' :: rest) = false := by
  have start : ('[' :: rest).dropWhile Text.isBlank = '[' :: rest := rfl
  have kept : Text.trim ('[' :: rest) ≠ [] := by
    rw [ne_eq, Text.trim_eq_nil_iff]
    simp [Text.isBlankText, show Text.isBlank '[' = false from rfl]
  obtain ⟨c, others, trimmed⟩ := List.exists_cons_of_ne_nil kept
  have first : c = '[' := by
    have inside := List.rdropWhile_prefix Text.isBlank (('[' :: rest).dropWhile Text.isBlank)
    rw [← Text.trim_eq, start, trimmed] at inside
    exact (List.cons_prefix_cons.mp inside).1
  subst first
  unfold isNumber
  rw [trimmed]
  simp [show Letter.isDecimal 91 = false from rfl]

theorem isPart_bracket (rest : Text) : isPart ('[' :: rest) = false := by
  obtain ⟨first, others, numbers⟩ := Text.exists_splitWhere_eq (· == ':') rest
  have parts : Text.splitWhere (· == ':') [] ('[' :: rest) = ('[' :: first) :: others := by
    rw [Text.splitWhere, if_neg (by decide), numbers]
    rfl
  unfold isPart
  simp only [parts, List.all_cons, isNumber_bracket, Bool.false_and, Bool.and_false]

/-- A recognised expression stands in no brackets. -/
theorem dropBrackets_of_recognises
    {text : Text}
    (recognised : recognises text = true) :
    dropBrackets text.trim = text.trim := by
  unfold dropBrackets
  split
  · rename_i bracketed
    obtain ⟨rest, trimmed⟩ := List.isPrefixOf_iff_prefix.mp (Bool.and_eq_true_iff.mp bracketed).1
    obtain ⟨first, others, parts⟩ := Text.exists_splitWhere_eq (· == ',') rest
    have cut : Text.splitWhere (· == ',') [] (dropMark text.trim) = ('[' :: first) :: others := by
      rw [← trimmed, List.singleton_append, dropMark, Text.splitWhere, if_neg (by decide), parts]
      · rfl
      · rintro _ same
        cases same
    have allParts := (Bool.and_eq_true_iff.mp recognised).2
    rw [cut, List.all_cons, isPart_bracket] at allParts
    cases allParts
  · rfl

/-- A recognised expression whose numbers are not too long can be read, whatever the length of
the list, exactly when none of its numbers is a minus sign alone. -/
theorem recognised_returns_iff
    {text : Text}
    (recognised : recognises text = true)
    (short : ∀ number ∈ numbers text, IsShort number)
    (length : Nat) :
    (∃ picked, indices text length = .ok picked) ↔
      ∀ number ∈ numbers text, number.trim ≠ ['-'] := by
  have parts := (Bool.and_eq_true_iff.mp recognised).2
  rw [List.all_eq_true] at parts
  have returns : (∃ picked, indices text length = .ok picked) ↔
      ∃ selections,
        readParts (Text.splitWhere (· == ',') [] (dropMark text.trim)) = .ok selections := by
    unfold indices read
    rw [dropBrackets_of_recognises recognised]
    simp only
    cases readParts (Text.splitWhere (· == ',') [] (dropMark text.trim)) <;> simp [Except.map]
  rw [returns, exists_readParts_iff]
  · apply forall₂_congr
    intro number member
    apply exists_readNumber_iff _ (short number member)
    obtain ⟨part, isPart, inside⟩ := List.mem_flatMap.mp member
    exact List.all_eq_true.mp (Bool.and_eq_true_iff.mp (parts part isPart)).2 number inside
  · intro part isPart
    exact of_decide_eq_true (Bool.and_eq_true_iff.mp (parts part isPart)).1

/-- An excluding expression with blanks, a blank part and slices that leave numbers out. -/
theorem recognised_returns_iff_blanks :
    recognises " !-2 : :3,, 07,:" = true ∧ (∀ number ∈ numbers " !-2 : :3,, 07,:", IsShort number) ∧
      ((∃ picked, indices " !-2 : :3,, 07,:" 4 = .ok picked) ↔
        ∀ number ∈ numbers " !-2 : :3,, 07,:", number.trim ≠ ['-']) := by
  have recognised : recognises " !-2 : :3,, 07,:" = true := by decide +kernel
  have short : ∀ number ∈ numbers " !-2 : :3,, 07,:", IsShort number := by decide +kernel
  exact ⟨recognised, short, recognised_returns_iff recognised short 4⟩

/-- A minus sign alone is recognised as the start of a slice, and refused as a number. -/
theorem indices_loneSign_refused :
    recognises "-:" = true ∧ (∀ number ∈ numbers "-:", IsShort number) ∧
      indices "-:" 0 = .error (.rule (.index "-")) := by
  decide +kernel

end IndexExpression

end RuleProbe
