import RuleProbe.Proofs.Effects
import RuleProbe.Proofs.Script.Written

/-!
# JSON texts of scripts, read by the host

If the host reads the JSON text that a script writes for a value, it reads the value as
it is after its numbers have gone through their texts.
-/

namespace RuleProbe

namespace Json

/-! ## Strings -/

/-- The escapes of the first characters are read as those characters. -/
theorem readHex4_ascii :
    ((List.range 32).all fun code => decide
      (Reader.readHex4 (Quoted.hex 4 code) = some (code, []) ∧
        (Quoted.hex 4 code).length = 4 ∧ Reader.isHighSurrogate code = false ∧
        (Reader.charOf code).toNat = code)) = true := by
  decide +kernel

/-- Four digits are read whatever follows them. -/
theorem readHex4_append
    {digits : Text}
    {code : Nat}
    (four : digits.length = 4)
    (read : Reader.readHex4 digits = some (code, []))
    (rest : Text) :
    Reader.readHex4 (digits ++ rest) = some (code, rest) := by
  match digits, four with
  | [a, b, c, d], _ =>
      simp only [Reader.readHex4, List.cons_append, List.nil_append, Option.bind_eq_bind,
        Option.bind_eq_some_iff, Option.some.injEq, Prod.mk.injEq] at read ⊢
      obtain ⟨w, one, x, two, y, three, z, four, value, -⟩ := read
      exact ⟨w, one, x, two, y, three, z, four, value, trivial⟩

variable {fuel : Nat} {before rest : Text}

/-- A control character that has no letter of its own is read from its number. -/
theorem readChars_control {c : Char} (control : c.toNat < 32) :
    Reader.readChars (fuel + 1) before ('\\' :: 'u' :: Quoted.hex 4 c.toNat ++ rest) =
      Reader.readChars fuel (c :: before) rest := by
  have checked := List.all_eq_true.mp readHex4_ascii c.toNat (List.mem_range.mpr control)
  obtain ⟨read, four, low, code⟩ := of_decide_eq_true checked
  have same : Reader.charOf c.toNat = c := by
    rw [← Char.ofNat_toNat (Reader.charOf c.toNat), code, Char.ofNat_toNat]
  simp only [List.cons_append, Reader.readChars, readHex4_append four read, Reader.readUnicode, low]
  simp [same]

/-- A character that JSON does not escape is read as it stands. -/
theorem readChars_plain
    {c : Char}
    (quote : c ≠ '"')
    (backslash : c ≠ '\\')
    (printing : ¬c.toNat < 32) :
    Reader.readChars (fuel + 1) before (c :: rest) = Reader.readChars fuel (c :: before) rest := by
  have plain : (decide (c.toNat < 32) || c == '\\') = false := by simp [printing, backslash]
  rw [Reader.readChars]
  · simp [plain]
  · exact fun same => quote same
  · exact fun _ same => absurd same backslash
  · exact fun _ _ same => absurd same backslash

/-- An escaped character is read as the character. -/
theorem readChars_escapeChar (c : Char) :
    Reader.readChars (fuel + 1) before (escapeChar c ++ rest) =
      Reader.readChars fuel (c :: before) rest := by
  unfold escapeChar
  iterate 7
    split
    · simp_all [Reader.readChars, Reader.simpleEscape?]
  split
  case isTrue control => exact readChars_control control
  case isFalse printing =>
    exact readChars_plain (by simp_all) (by simp_all) printing

theorem escapeChar_ne_nil (c : Char) : escapeChar c ≠ [] := by
  unfold escapeChar
  split_ifs <;> simp

theorem readChars_escaped (text : Text) (enough : text.length < fuel) :
    Reader.readChars fuel before (text.flatMap escapeChar ++ '"' :: rest) =
      .ok (before.reverse ++ text, rest) := by
  induction text generalizing fuel before with
  | nil =>
      obtain ⟨less, rfl⟩ : ∃ less, fuel = less + 1 := ⟨fuel - 1, by simp at enough; omega⟩
      simp [Reader.readChars]
  | cons c more ih =>
      obtain ⟨less, rfl⟩ : ∃ less, fuel = less + 1 := ⟨fuel - 1, by simp at enough; omega⟩
      rw [List.flatMap_cons, List.append_assoc, readChars_escapeChar,
        ih (by simpa using enough)]
      simp

/-- A written string is read as its text. -/
theorem readString_written (text : Text) :
    Reader.readString (text.flatMap escapeChar ++ '"' :: rest) = .ok (text, rest) := by
  have longer : text.length ≤ (text.flatMap escapeChar).length := by
    induction text with
    | nil => exact Nat.le_refl 0
    | cons c more ih =>
        have some : 0 < (escapeChar c).length := List.length_pos_iff.mpr (escapeChar_ne_nil c)
        simp only [List.flatMap_cons, List.length_append, List.length_cons]
        omega
  refine (readChars_escaped text ?_).trans (by simp)
  simp only [List.length_append]
  omega

end Json

namespace Script

open Json (Closes closes_cons)

open Json.Reader

/-! ## Numbers -/

/-- The number of a text is read whatever closes it. -/
theorem readScalar_numberText (x : Float) {rest : Text} (ends : Closes rest) :
    readScalar (numberText x ++ rest) = .ok (numberJson x, rest) := by
  have reads : ∃ value, ∀ rest, Closes rest →
      readScalar (numberText x ++ rest) = .ok (value, rest) := by
    unfold numberText
    split
    · exact Json.readScalar_write (by decide) rfl rfl x
    · exact ⟨.null, fun _ _ => rfl⟩
  obtain ⟨value, read⟩ := reads
  have alone := read [] Json.closes_nil
  rw [List.append_nil] at alone
  rw [read rest ends, numberJson, alone]

/-- A number begins with a digit, a sign or a word. -/
theorem numberText_eq_cons (x : Float) :
    ∃ c more, numberText x = c :: more ∧
      (Letter.isAsciiDigit c.toNat = true ∨ c ∈ ['-', 'N', 'I', 'n']) := by
  unfold numberText
  split
  · rcases Number.layout.write_cases x with word | word | word | ⟨bits, positive | negative⟩
    · exact ⟨'N', _, word, .inr (by decide)⟩
    · exact ⟨'I', _, word, .inr (by decide)⟩
    · exact ⟨'-', _, word, .inr (by decide)⟩
    · have short : Number.layout.positionalBelow ≤ Integer.digitLimit := by decide
      obtain ⟨number, same⟩ :=
        FloatLayout.writeDigits_numberText (Shortest.ofBits_proper bits) short
      obtain ⟨c, more, text, digit⟩ := number.text_eq_cons
      exact ⟨c, more, by rw [Number.write, positive, same, text], .inl digit⟩
    · exact ⟨'-', _, negative, .inr (by decide)⟩
  · exact ⟨'n', _, rfl, .inr (by decide)⟩

/-! ## Values -/

/-- The characters that no number or word begins with. -/
def isMark (c : Char) : Bool := isSpace c || ['"', '[', ']', '\x7b', '\x7d'].elem c

theorem isMark_eq_false_of_digit
    {c : Char}
    (digit : Letter.isAsciiDigit c.toNat = true) :
    isMark c = false := by
  have other := Json.ne_of_digit digit
  simp [isMark, isSpace, other '"' rfl, other '[' rfl, other ']' rfl, other '\x7b' rfl,
    other '\x7d' rfl, other ' ' rfl, other '\t' rfl, other '\n' rfl, other '\r' rfl]

theorem numberText_eq_unmarked (x : Float) :
    ∃ c more, numberText x = c :: more ∧ isMark c = false := by
  obtain ⟨c, more, text, digit | word⟩ := numberText_eq_cons x
  · exact ⟨c, more, text, isMark_eq_false_of_digit digit⟩
  · refine ⟨c, more, text, ?_⟩
    simp only [List.mem_cons, List.not_mem_nil, or_false] at word
    rcases word with rfl | rfl | rfl | rfl <;> rfl

variable {fuel depth : Nat} {rest after : Text}

/-- What begins with no mark is a number or a word. -/
theorem readValue_unmarked {c : Char} {more : Text} (unmarked : isMark c = false) :
    readValue (fuel + 1) depth (c :: more) = readScalar (c :: more) := by
  rw [readValue]
  all_goals
    intro rest same
    cases same
    cases unmarked

/-- A value begins with what is no blank, and closes nothing. -/
theorem jsonText_eq_cons (value : Json) :
    ∃ c more, jsonText value = c :: more ∧ isSpace c = false ∧ c ≠ ']' := by
  have number (x : Float) : ∃ c more, numberText x = c :: more ∧ isSpace c = false ∧ c ≠ ']' := by
    obtain ⟨c, more, text, unmarked⟩ := numberText_eq_unmarked x
    have plain := (Bool.or_eq_false_iff.mp unmarked).1
    refine ⟨c, more, text, plain, ?_⟩
    rintro rfl
    cases unmarked
  cases value with
  | null => exact ⟨'n', _, rfl, rfl, by decide⟩
  | bool value => cases value <;> exact ⟨_, _, rfl, rfl, by decide⟩
  | int value => exact number _
  | float value => exact number _
  | str value => exact ⟨'"', _, rfl, rfl, by decide⟩
  | arr items => exact ⟨'[', _, jsonText_arr items, rfl, by decide⟩
  | obj members => exact ⟨'\x7b', _, jsonText_obj members, rfl, by decide⟩

theorem skipSpace_cons {c : Char} {more : Text} (plain : isSpace c = false) :
    skipSpace (c :: more) = c :: more := by
  simp [skipSpace, plain]

theorem skipSpace_jsonText (value : Json) (rest : Text) :
    skipSpace (jsonText value ++ rest) = jsonText value ++ rest := by
  obtain ⟨c, more, text, plain, -⟩ := jsonText_eq_cons value
  rw [text, List.cons_append, skipSpace_cons plain]

/-- Whoever reads the text of a value, as a whole or inside a container, and ends with a value
reads another one, and reads nothing more than the text. -/
def ReadAs (value found : Json) : Prop :=
  ∀ {fuel depth : Nat} {rest after : Text} {got : Json}, Closes rest →
    readValue fuel depth (jsonText value ++ rest) = .ok (got, after) → got = found ∧ after = rest

theorem readAs_of_scalar
    {value found : Json}
    {c : Char}
    {more : Text}
    (text : jsonText value = c :: more)
    (unmarked : isMark c = false)
    (reads : ∀ rest, Closes rest → readScalar (jsonText value ++ rest) = .ok (found, rest)) :
    ReadAs value found := by
  intro fuel depth rest after got ends read
  cases fuel with
  | zero => cases read
  | succ fuel =>
      rw [text, List.cons_append, readValue_unmarked unmarked, ← List.cons_append, ← text,
        reads rest ends] at read
      cases read
      exact ⟨rfl, rfl⟩

theorem readAs_number {value : Json} {x : Float} (text : jsonText value = numberText x) :
    ReadAs value (numberJson x) := by
  obtain ⟨c, more, number, unmarked⟩ := numberText_eq_unmarked x
  refine readAs_of_scalar (text.trans number) unmarked fun rest ends => ?_
  rw [text]
  exact readScalar_numberText x ends

theorem readAs_str (text : Text) : ReadAs (.str text) (.str text) := by
  intro fuel depth rest after got ends read
  cases fuel with
  | zero => cases read
  | succ fuel =>
      have shape : jsonText (.str text) ++ rest =
          '"' :: (text.flatMap Json.escapeChar ++ '"' :: rest) := by
        simp [jsonText, Json.writeString]
      rw [shape, readValue, Json.readString_written] at read
      cases read
      exact ⟨rfl, rfl⟩

/-- A value that is no container is read as it is, a number aside. -/
theorem readAs_scalar {value : Json} (scalar : value.isContainer = false) :
    ReadAs value (reread value) := by
  cases value with
  | null => exact readAs_of_scalar rfl rfl fun _ _ => rfl
  | bool value => cases value <;> exact readAs_of_scalar rfl rfl fun _ _ => rfl
  | int value => exact readAs_number rfl
  | float value => exact readAs_number rfl
  | str text => exact readAs_str text
  | arr items => cases scalar
  | obj members => cases scalar

/-! ## Containers -/

/-- What follows the first of some texts: the others behind a comma. -/
def others (parts : List Text) : Text := if parts = [] then [] else ',' :: Text.join [','] parts

theorem join_cons (part : Text) (parts : List Text) :
    Text.join [','] (part :: parts) = part ++ others parts := by
  cases parts with
  | nil => simp [Text.join, others]
  | cons other more => simp [Text.join, others, List.intercalate]

/-- Items are read one after another up to the closing bracket. -/
theorem readItems_texts
    {items : List Json}
    (inner : ∀ item ∈ items, ReadAs item (reread item))
    (some : items ≠ [])
    {got : List Json}
    (read : readItems fuel depth (Text.join [','] (items.map jsonText) ++ ']' :: rest) =
      .ok (got, after)) :
    got = items.map reread ∧ after = rest := by
  induction items generalizing fuel after got with
  | nil => exact absurd rfl some
  | cons item more ih =>
      cases fuel with
      | zero => cases read
      | succ fuel =>
          rw [List.map_cons, join_cons, List.append_assoc, readItems] at read
          obtain ⟨⟨first, tail⟩, one, two⟩ := exists_ok_of_bind read
          by_cases alone : more = []
          · subst alone
            have closes : Closes (others [] ++ ']' :: rest) := by simp [others, closes_cons]
            obtain ⟨rfl, rfl⟩ := inner item List.mem_cons_self closes one
            cases two
            exact ⟨rfl, rfl⟩
          · have closes : Closes (others (more.map jsonText) ++ ']' :: rest) := by
              simp [others, alone, closes_cons]
            obtain ⟨rfl, rfl⟩ := inner item List.mem_cons_self closes one
            obtain ⟨second, left, same⟩ : ∃ second left, more = second :: left :=
              List.exists_cons_of_ne_nil alone
            simp only [others, List.map_eq_nil_iff, alone, if_false, List.cons_append,
              skipSpace_cons (c := ',') rfl] at two
            have skipped : skipSpace (Text.join [','] (more.map jsonText) ++ ']' :: rest) =
                Text.join [','] (more.map jsonText) ++ ']' :: rest := by
              rw [same, List.map_cons, join_cons, List.append_assoc, skipSpace_jsonText]
            rw [skipped] at two
            obtain ⟨⟨found, left⟩, three, four⟩ := exists_ok_of_bind two
            obtain ⟨rfl, rfl⟩ := ih (fun item member => inner item (List.mem_cons_of_mem _ member))
              alone three
            cases four
            exact ⟨rfl, rfl⟩

theorem readAs_arr
    {items : List Json}
    (inner : ∀ item ∈ items, ReadAs item (reread item)) :
    ReadAs (.arr items) (reread (.arr items)) := by
  intro fuel depth rest after got ends read
  rw [jsonText_arr, enclosed, List.cons_append, List.append_assoc] at read
  rw [reread_arr]
  cases fuel with
  | zero => cases read
  | succ fuel =>
      rw [readValue] at read
      split at read
      · cases read
      · cases items with
        | nil =>
            cases read
            exact ⟨rfl, rfl⟩
        | cons item more =>
            obtain ⟨c, behind, text, plain, opens⟩ := jsonText_eq_cons item
            have shape : Text.join [','] ((item :: more).map jsonText) ++ ([']'] ++ rest) =
                c :: (behind ++ (others (more.map jsonText) ++ ([']'] ++ rest))) := by
              rw [List.map_cons, join_cons, text]
              simp
            rw [shape, skipSpace_cons plain] at read
            split at read
            case h_1 closed => exact absurd (List.cons.inj closed).1 opens
            case h_2 =>
              rw [← shape] at read
              obtain ⟨⟨found, left⟩, one, two⟩ := exists_ok_of_bind read
              obtain ⟨rfl, rfl⟩ := readItems_texts inner (List.cons_ne_nil _ _) one
              cases two
              exact ⟨rfl, rfl⟩

/-- The texts of members are read one after another up to the closing brace. -/
theorem readMembers_texts
    {members : Json.Members}
    (inner : ∀ member ∈ members, ReadAs member.2 (reread member.2))
    (some : members ≠ [])
    {before got : Json.Members}
    (read : readMembers fuel depth before
      (Text.join [','] (members.map fun member => memberText member.1 (jsonText member.2)) ++
        '\x7d' :: rest) = .ok (got, after)) :
    got = Keyed.update before (members.map fun member => (member.1, reread member.2)) ∧
      after = rest := by
  induction members generalizing fuel before after got with
  | nil => exact absurd rfl some
  | cons member more ih =>
      cases fuel with
      | zero => cases read
      | succ fuel =>
          have shape (tail : Text) : memberText member.1 (jsonText member.2) ++ tail =
              '"' :: (member.1.flatMap Json.escapeChar ++
                '"' :: (':' :: (jsonText member.2 ++ tail))) := by
            simp [memberText, Json.writeString]
          rw [List.map_cons, join_cons, List.append_assoc, shape, readMembers] at read
          obtain ⟨⟨key, left⟩, string, behindKey⟩ := exists_ok_of_bind read
          rw [Json.readString_written] at string
          cases string
          simp only [skipSpace_cons (c := ':') rfl, skipSpace_jsonText] at behindKey
          obtain ⟨⟨value, tail⟩, one, two⟩ := exists_ok_of_bind behindKey
          by_cases alone : more = []
          · subst alone
            have closes : Closes (others [] ++ '\x7d' :: rest) := by simp [others, closes_cons]
            obtain ⟨rfl, rfl⟩ := inner member List.mem_cons_self closes one
            cases two
            exact ⟨rfl, rfl⟩
          · have closes : Closes (others (more.map fun member =>
                memberText member.1 (jsonText member.2)) ++ '\x7d' :: rest) := by
              simp [others, alone, closes_cons]
            obtain ⟨rfl, rfl⟩ := inner member List.mem_cons_self closes one
            simp only [others, List.map_eq_nil_iff, alone, if_false, List.cons_append,
              skipSpace_cons (c := ',') rfl] at two
            obtain ⟨second, left, same⟩ : ∃ second left, more = second :: left :=
              List.exists_cons_of_ne_nil alone
            have skipped : skipSpace (Text.join [','] (more.map fun member =>
                memberText member.1 (jsonText member.2)) ++ '\x7d' :: rest) =
                Text.join [','] (more.map fun member =>
                  memberText member.1 (jsonText member.2)) ++ '\x7d' :: rest := by
              rw [same, List.map_cons, join_cons, memberText, Json.writeString]
              simp only [List.cons_append]
              rw [skipSpace_cons rfl]
            rw [skipped] at two
            obtain ⟨rfl, rfl⟩ := ih
              (fun member within => inner member (List.mem_cons_of_mem _ within)) alone two
            exact ⟨rfl, rfl⟩

theorem readAs_obj
    {members : Json.Members}
    (inner : ∀ member ∈ members, ReadAs member.2 (reread member.2)) :
    ReadAs (.obj members) (reread (.obj members)) := by
  intro fuel depth rest after got ends read
  rw [jsonText_obj, enclosed, List.cons_append, List.append_assoc] at read
  rw [reread_obj]
  have within : ∀ entry ∈ arranged members, ReadAs entry.2 (reread entry.2) := by
    intro entry member
    exact inner entry (Keyed.mem_of_get? (get?_of_mem_arranged member))
  generalize arranged members = entries at read within ⊢
  cases fuel with
  | zero => cases read
  | succ fuel =>
      rw [readValue] at read
      split at read
      · cases read
      · cases entries with
        | nil =>
            cases read
            exact ⟨rfl, rfl⟩
        | cons entry more =>
            have shape : Text.join [','] ((entry :: more).map fun entry =>
                memberText entry.1 (jsonText entry.2)) ++ (['\x7d'] ++ rest) =
                '"' :: ((entry.1.flatMap Json.escapeChar ++ ['"'] ++ ':' :: jsonText entry.2) ++
                  (others (more.map fun entry => memberText entry.1 (jsonText entry.2)) ++
                    (['\x7d'] ++ rest))) := by
              rw [List.map_cons, join_cons, memberText, Json.writeString]
              simp
            rw [shape, skipSpace_cons rfl] at read
            split at read
            case h_1 closed => cases closed
            case h_2 =>
              rw [← shape] at read
              obtain ⟨⟨found, left⟩, one, two⟩ := exists_ok_of_bind read
              obtain ⟨rfl, rfl⟩ := readMembers_texts within (List.cons_ne_nil _ _) one
              cases two
              exact ⟨rfl, rfl⟩

/-- The text that a script writes for a value is read as the value with its numbers gone
through their texts. -/
theorem readAs_reread (value : Json) : ReadAs value (reread value) := by
  induction value using Json.inductionOn with
  | scalar value scalar => exact readAs_scalar scalar
  | arr items inner => exact readAs_arr inner
  | obj members inner => exact readAs_obj inner

/-- A text of a script that the host can read is read as the value that it was written for, with
its numbers gone through their texts. -/
theorem read_jsonText {value got : Json} (read : Json.read (jsonText value) = .ok got) :
    got = reread value := by
  obtain ⟨⟨found, rest⟩, one, two⟩ := exists_ok_of_bind read
  have skipped := skipSpace_jsonText value []
  rw [List.append_nil] at skipped
  rw [skipped, ← List.append_nil (jsonText value)] at one
  obtain ⟨rfl, rfl⟩ := readAs_reread value Json.closes_nil one
  cases two
  rfl

end Script

end RuleProbe
