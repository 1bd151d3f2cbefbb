import Mathlib.Data.List.TakeDrop
import RuleProbe.Json.Reader
import RuleProbe.Proofs.Effects
import RuleProbe.Proofs.Keyed

/-!
# Sizes of JSON texts

Whatever is read of a JSON text leaves a rest that is no longer than the text, and a string
that has been read is no longer than the text that it was read from: an escape is never
shorter than what it stands for.
-/

namespace RuleProbe

namespace Decimal

theorem spanDigits_length (text : Text) : (spanDigits text).2.length ≤ text.length := by
  rw [spanDigits, List.span_eq_takeWhile_dropWhile]
  exact (List.dropWhile_suffix _).length_le

theorem readExponent_length
    {text rest : Text}
    {exponent : Int}
    (found : readExponent text = some (exponent, rest)) :
    rest.length ≤ text.length := by
  unfold readExponent at found
  split at found
  · rename_i mark more
    -- Past the mark and the sign, only digits are read.
    have digits (start : Text) (within : start.length ≤ more.length) :
        (spanDigits start).2.length ≤ (mark :: more).length :=
      Nat.le_trans (spanDigits_length start) (Nat.le_succ_of_le within)
    simp only at found
    split at found
    · repeat' split at found
      all_goals first
        | (cases found; exact digits _ (by simp))
        | cases found
    · cases found
  · cases found

end Decimal

namespace Json

namespace Reader

theorem skipSpace_length (text : Text) : (skipSpace text).length ≤ text.length :=
  (List.dropWhile_suffix _).length_le

/-! ## Strings -/

theorem readHex4_length
    {text rest : Text}
    {code : Nat}
    (found : readHex4 text = some (code, rest)) :
    rest.length < text.length := by
  match text with
  | a :: b :: c :: d :: others =>
      simp only [readHex4, Option.bind_eq_bind, Option.bind_eq_some_iff, Option.some.injEq,
        Prod.mk.injEq] at found
      obtain ⟨_, _, _, _, _, _, _, _, _, rfl⟩ := found
      simp only [List.length_cons]
      omega
  | [] | [_] | [_, _] | [_, _, _] => cases found

theorem readUnicode_length (first : Nat) (rest : Text) :
    (readUnicode first rest).2.length ≤ rest.length := by
  unfold readUnicode
  split
  · split
    · rename_i more
      split
      · rename_i second after found
        have shorter := readHex4_length found
        split
        · simp only [List.length_cons]
          omega
        · exact Nat.le_refl _
      · exact Nat.le_refl _
    · exact Nat.le_refl _
  · exact Nat.le_refl _

/-- Every character of a string takes a character of the text at least, and so does the
closing quote. -/
theorem readChars_length
    {fuel : Nat}
    {read text value rest : Text}
    (done : readChars fuel read text = .ok (value, rest)) :
    value.length + rest.length < read.length + text.length := by
  induction fuel generalizing read text with
  | zero => cases done
  | succ fuel hypothesis =>
      unfold readChars at done
      split at done
      · cases done
      · cases done
        simp
      · rename_i others
        split at done
        · cases done
        · rename_i first after found
          have shorter := readHex4_length found
          have kept := readUnicode_length first after
          cases escaped : readUnicode first after with
          | mk code later =>
              rw [escaped] at kept
              simp only [escaped] at done
              have step := hypothesis done
              simp only [List.length_cons] at step kept ⊢
              omega
      · split at done
        · cases done
        · have step := hypothesis done
          simp only [List.length_cons] at step ⊢
          omega
      · split at done
        · cases done
        · have step := hypothesis done
          simp only [List.length_cons] at step ⊢
          omega

theorem readString_length
    {text value rest : Text}
    (done : readString text = .ok (value, rest)) :
    value.length + rest.length < text.length := by
  simpa using readChars_length done

/-! ## Values -/

/-- A value fits into a text: the string that it is, or those that are its members, are no
longer. -/
def Fits (text : Text) : Json → Prop
  | .str content => content.length ≤ text.length
  | .obj members => ∀ key content, (key, .str content) ∈ members → content.length ≤ text.length
  | _ => True

theorem Fits.mono
    {text longer : Text}
    {value : Json}
    (fits : Fits text value)
    (within : text.length ≤ longer.length) :
    Fits longer value := by
  cases value with
  | str content => exact Nat.le_trans fits within
  | obj members => exact fun key content member => Nat.le_trans (fits key content member) within
  | _ => trivial

theorem dropStart?_length
    {text start rest : Text}
    (found : Text.dropStart? text start = some rest) :
    rest.length ≤ text.length := by
  unfold Text.dropStart? at found
  split at found
  · cases found
    simp
  · cases found

theorem readWhole_length
    {text digits rest : Text}
    (found : readWhole text = some (digits, rest)) :
    rest.length ≤ text.length := by
  unfold readWhole at found
  split at found
  · cases found
    simp
  · have kept := Decimal.spanDigits_length text
    simp only at found
    split at found
    · cases found
    · cases found
      exact kept

theorem readFraction_length
    {text digits rest : Text}
    (found : readFraction text = some (digits, rest)) :
    rest.length ≤ text.length := by
  unfold readFraction at found
  split at found
  · rename_i others
    have kept := Decimal.spanDigits_length others
    simp only at found
    split at found
    · cases found
    · cases found
      simp only [List.length_cons]
      omega
  · cases found

/-- What has been read of a text: a value that fits into it, and a rest that is no
longer. -/
structure ReadOf (text : Text) (value : Json) (rest : Text) : Prop where
  /-- The value fits. -/
  fits : Fits text value
  /-- The rest is no longer. -/
  shorter : rest.length ≤ text.length

theorem readUnsigned_readOf
    {negative : Bool}
    {text rest : Text}
    {value : Json}
    (done : readUnsigned negative text = .ok (value, rest)) :
    ReadOf text value rest := by
  unfold readUnsigned at done
  split at done
  · cases done
  · rename_i whole others isWhole
    have first := readWhole_length isWhole
    have second :
        (((readFraction others).map (·.2)).getD others).length ≤ others.length := by
      cases fraction : readFraction others with
      | none => simp
      | some found => simpa using readFraction_length fraction
    simp only at done
    split at done
    · split at done
      · cases done
      · cases done
        exact ⟨trivial, first⟩
    · cases done
      refine ⟨trivial, ?_⟩
      cases exponent : Decimal.readExponent
          (((readFraction others).map (·.2)).getD others) with
      | none => simpa using Nat.le_trans second first
      | some found =>
          have third := Decimal.readExponent_length exponent
          simpa using Nat.le_trans third (Nat.le_trans second first)

theorem readScalar_readOf
    {text rest : Text}
    {value : Json}
    (done : readScalar text = .ok (value, rest)) :
    ReadOf text value rest := by
  unfold readScalar at done
  repeat' split at done
  all_goals first
    | (cases done; exact ⟨trivial, dropStart?_length ‹_›⟩)
    | skip
  · have inner := readUnsigned_readOf done
    exact ⟨inner.fits.mono (by simp), Nat.le_trans inner.shorter (by simp)⟩
  · exact readUnsigned_readOf done

/-- What follows the blanks behind the character that opens a container is shorter than the
container. -/
theorem skipSpace_within (c : Char) (inner : Text) :
    (skipSpace inner).length ≤ (c :: inner).length :=
  Nat.le_trans (skipSpace_length inner) (Nat.le_succ _)

/-- With some fuel, reading leaves no longer rests, and no string is longer than the text
around it. -/
structure SizedAt (fuel : Nat) : Prop where
  value {depth : Nat} {text rest : Text} {value : Json}
      (done : readValue fuel depth text = .ok (value, rest)) :
    ReadOf text value rest
  items {depth : Nat} {text rest : Text} {items : List Json}
      (done : readItems fuel depth text = .ok (items, rest)) :
    rest.length ≤ text.length
  members {depth : Nat} {text rest : Text} {before after : Members}
      (done : readMembers fuel depth before text = .ok (after, rest)) :
    (∀ entry ∈ after, entry ∈ before ∨ Fits text entry.2) ∧ rest.length ≤ text.length

namespace SizedAt

theorem zero : SizedAt 0 where
  value done := by cases done
  items done := by cases done
  members done := by cases done

variable {fuel : Nat}

theorem value_succ
    (below : SizedAt fuel)
    {depth : Nat}
    {text rest : Text}
    {value : Json}
    (done : readValue (fuel + 1) depth text = .ok (value, rest)) :
    ReadOf text value rest := by
  unfold readValue at done
  split at done
  · obtain ⟨found, string, returned⟩ := exists_ok_of_bind done
    cases returned
    have sized := readString_length string
    constructor
    · simp only [Fits, List.length_cons]
      omega
    · simp only [List.length_cons]
      omega
  · rename_i inner
    have within := skipSpace_within '[' inner
    split at done
    · cases done
    · split at done
      · rename_i closed
        cases done
        rw [closed, List.length_cons] at within
        exact ⟨trivial, Nat.le_of_succ_le within⟩
      · obtain ⟨found, read, returned⟩ := exists_ok_of_bind done
        cases returned
        exact ⟨trivial, Nat.le_trans (below.items read) within⟩
  · rename_i inner
    have within := skipSpace_within '\x7b' inner
    split at done
    · cases done
    · split at done
      · rename_i closed
        cases done
        rw [closed, List.length_cons] at within
        exact ⟨by simp [Fits], Nat.le_of_succ_le within⟩
      · obtain ⟨found, read, returned⟩ := exists_ok_of_bind done
        cases returned
        obtain ⟨fitting, shorter⟩ := below.members read
        refine ⟨fun key content member => ?_, Nat.le_trans shorter within⟩
        rcases fitting _ member with old | fits
        · cases old
        · exact Nat.le_trans fits within
  · exact readScalar_readOf done

theorem items_succ
    (below : SizedAt fuel)
    {depth : Nat}
    {text rest : Text}
    {items : List Json}
    (done : readItems (fuel + 1) depth text = .ok (items, rest)) :
    rest.length ≤ text.length := by
  unfold readItems at done
  obtain ⟨⟨item, others⟩, first, returned⟩ := exists_ok_of_bind done
  have sized := (below.value first).shorter
  have skipped := skipSpace_length others
  dsimp only at returned
  split at returned
  · rename_i closed
    cases returned
    rw [closed, List.length_cons] at skipped
    omega
  · rename_i after more
    rw [more, List.length_cons] at skipped
    have again := skipSpace_length after
    obtain ⟨_, later, last⟩ := exists_ok_of_bind returned
    cases last
    have kept := below.items later
    omega
  · cases returned

/-- The value of a member is read behind its key, so it fits into the text of the members,
and so do those of the members behind it. -/
theorem members_succ
    (below : SizedAt fuel)
    {depth : Nat}
    {text rest : Text}
    {before after : Members}
    (done : readMembers (fuel + 1) depth before text = .ok (after, rest)) :
    (∀ entry ∈ after, entry ∈ before ∨ Fits text entry.2) ∧ rest.length ≤ text.length := by
  unfold readMembers at done
  split at done
  · rename_i others
    obtain ⟨⟨key, behindKey⟩, string, afterKey⟩ := exists_ok_of_bind done
    have keySized := readString_length string
    have keySkipped := skipSpace_length behindKey
    dsimp only at afterKey
    split at afterKey
    · rename_i source colon
      rw [colon, List.length_cons] at keySkipped
      have sourceSkipped := skipSpace_length source
      obtain ⟨⟨value, behindValue⟩, first, afterValue⟩ := exists_ok_of_bind afterKey
      have sized := (below.value first).shorter
      have fits : Fits ('"' :: others) value := by
        refine (below.value first).fits.mono ?_
        simp only [List.length_cons]
        omega
      have valueSkipped := skipSpace_length behindValue
      dsimp only at afterValue
      split at afterValue
      · rename_i closed
        cases afterValue
        rw [closed, List.length_cons] at valueSkipped
        refine ⟨fun entry member => ?_, ?_⟩
        · rcases Keyed.mem_put member with old | rfl
          · exact .inl old
          · exact .inr fits
        · simp only [List.length_cons]
          omega
      · rename_i more comma
        rw [comma, List.length_cons] at valueSkipped
        have moreSkipped := skipSpace_length more
        obtain ⟨fitting, kept⟩ := below.members afterValue
        refine ⟨fun entry member => ?_, ?_⟩
        · rcases fitting entry member with bound | later
          · rcases Keyed.mem_put bound with old | rfl
            · exact .inl old
            · exact .inr fits
          · refine .inr (later.mono ?_)
            simp only [List.length_cons]
            omega
        · simp only [List.length_cons]
          omega
      · cases afterValue
    · cases afterKey
  · cases done

theorem succ (below : SizedAt fuel) : SizedAt (fuel + 1) where
  value := below.value_succ
  items := below.items_succ
  members := below.members_succ

end SizedAt

theorem sizedAt (fuel : Nat) : SizedAt fuel := by
  induction fuel with
  | zero => exact .zero
  | succ fuel below => exact below.succ

end Reader

/-- A member of an object that is a string is no longer than the text of the object. -/
theorem length_le_of_read
    {text key content : Text}
    {members : Members}
    (done : read text = .ok (.obj members))
    (member : (key, .str content) ∈ members) :
    content.length ≤ text.length := by
  obtain ⟨⟨value, rest⟩, first, returned⟩ := exists_ok_of_bind done
  dsimp only at returned
  split at returned
  · cases returned
    have fits := ((Reader.sizedAt _).value first).fits
    exact Nat.le_trans (fits key content member) (Reader.skipSpace_length text)
  · cases returned

end Json

end RuleProbe
