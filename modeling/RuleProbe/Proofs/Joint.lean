import Mathlib.Data.List.Chain
import RuleProbe.Proofs.Character
import RuleProbe.Proofs.Size.Part

/-!
# Where texts meet

A mark that stands in neither of two texts stands in both together only where they meet.  The
lemmas of this module rule that out for the marks that open scripts and for the doubled characters
of operators.
-/

namespace RuleProbe

/-! ## Marks of scripts -/

namespace ScriptStep

/-- A mark at the beginning of a text agrees with it character by character. -/
theorem same_of_beginsWith
    {mark text : Text}
    (begins : beginsWith mark text = true)
    {index : Nat}
    {sign c : Char}
    (ofMark : mark[index]? = some sign)
    (ofText : text[index]? = some c) :
    Pattern.CaseRule.full.same sign.toNat c.toNat = true := by
  unfold beginsWith at begins
  obtain ⟨-, same⟩ := Bool.and_eq_true_iff.mp begins
  have pair : (mark.zip text)[index]? = some (sign, c) :=
    List.getElem?_zip_eq_some.mpr ⟨ofMark, ofText⟩
  exact List.all_eq_true.mp same _ (List.mem_of_getElem? pair)

/-- A script is opened by one of two signs only. -/
theorem sign_of_opens {c : Char} {rest : Text} (opened : opens (c :: rest) = true) :
    c = '<' ∨ c = '@' := by
  obtain ⟨mark, member, begins⟩ := List.any_eq_true.mp opened
  have head (sign : Char) (isSign : mark[0]? = some sign) (caseless : sign.toNat ∈ Pattern.signs) :
      c = sign := by
    have same := same_of_beginsWith begins isSign (List.getElem?_cons_zero)
    exact Char.toNat_inj.mp ((Pattern.caseless_of_mem caseless).eq_of_same same)
  simp only [openers, List.mem_cons, List.not_mem_nil, or_false] at member
  rcases member with rfl | rfl
  · exact .inl (head '<' rfl (by decide))
  · exact .inr (head '@' rfl (by decide))

end ScriptStep

open ScriptStep (beginsWith opens openers)

/-- A rule holds no script exactly when no mark that opens one stands in it. -/
theorem hasScript_eq_false_iff {rule : Text} :
    hasScript rule = false ↔ ∀ c rest, c :: rest <:+ rule → opens (c :: rest) = false := by
  unfold hasScript
  rw [← Bool.not_eq_true, ScriptStep.findOpener_isSome_iff]
  simp only [not_exists, not_and, Bool.not_eq_true]

/-- Characters that are no signs of scripts may come first. -/
theorem hasScript_append_of_unsigned
    {before rest : Text}
    (unsigned : ∀ c ∈ before, c ≠ '<' ∧ c ≠ '@')
    (plain : hasScript rest = false) :
    hasScript (before ++ rest) = false := by
  induction before with
  | nil => exact plain
  | cons d others hypothesis =>
      obtain ⟨first, later⟩ := List.forall_mem_cons.mp unsigned
      have behind := hasScript_eq_false_iff.mp (hypothesis later)
      refine hasScript_eq_false_iff.mpr fun c tail within => ?_
      rcases List.suffix_cons_iff.mp within with same | within
      · cases opened : opens (c :: tail) with
        | false => rfl
        | true =>
            cases (List.cons.inj same).1
            exact absurd (ScriptStep.sign_of_opens opened) (by simp [first.1, first.2])
      · exact behind c tail within

/-- A mark that begins where two texts meet either stands in the first one, or goes on with the
first character of the second one. -/
theorem ScriptStep.beginsWith_or
    {mark first rest : Text}
    {c : Char}
    (given : first ≠ [])
    (begins : beginsWith mark (first ++ c :: rest) = true) :
    beginsWith mark first = true ∨
      ∃ sign ∈ mark.tail, Pattern.CaseRule.full.same sign.toNat c.toNat = true := by
  by_cases short : mark.length ≤ first.length
  · left
    unfold beginsWith at begins ⊢
    rw [Text.zip_append_of_length_le short] at begins
    exact Bool.and_eq_true_iff.mpr ⟨decide_eq_true short, (Bool.and_eq_true_iff.mp begins).2⟩
  · right
    have positive := List.length_pos_iff.mpr given
    have within : first.length < mark.length := by omega
    refine ⟨mark[first.length], ?_, ?_⟩
    · rw [← List.drop_one, List.mem_iff_getElem]
      exact ⟨first.length - 1, by simp; omega, by simp [Nat.sub_add_cancel positive]⟩
    · exact same_of_beginsWith begins (List.getElem?_eq_getElem within) (by simp)

/-- Some mark that opens a script goes on with a character. -/
def ScriptStep.goesOn (c : Char) : Bool :=
  openers.any fun mark =>
    mark.tail.any fun sign => Pattern.CaseRule.full.same sign.toNat c.toNat

/-- Two texts without scripts make none together when the second one begins with a character that
no mark goes on with. -/
theorem hasScript_append
    {first rest : Text}
    {c : Char}
    (plainFirst : hasScript first = false)
    (plainRest : hasScript (c :: rest) = false)
    (apart : ScriptStep.goesOn c = false) :
    hasScript (first ++ c :: rest) = false := by
  induction first with
  | nil => exact plainRest
  | cons d others hypothesis =>
      have plainOthers : hasScript others = false := by
        cases scripted : hasScript others with
        | false => rfl
        | true =>
            rw [hasScript_of_isWithin (List.suffix_cons d others).isInfix scripted] at plainFirst
            cases plainFirst
      have behind := hasScript_eq_false_iff.mp (hypothesis plainOthers)
      refine hasScript_eq_false_iff.mpr fun e tail within => ?_
      rcases List.suffix_cons_iff.mp within with same | within
      · cases opened : opens (e :: tail) with
        | false => rfl
        | true =>
            rw [same] at opened
            obtain ⟨mark, member, begins⟩ := List.any_eq_true.mp opened
            rcases ScriptStep.beginsWith_or (List.cons_ne_nil d others) begins with
              inside | ⟨sign, among, agrees⟩
            · have here : opens (d :: others) = true := List.any_eq_true.mpr ⟨mark, member, inside⟩
              rw [hasScript_eq_false_iff.mp plainFirst d others (List.suffix_refl _)] at here
              cases here
            · have goesOn : ScriptStep.goesOn c = true :=
                List.any_eq_true.mpr ⟨mark, member, List.any_eq_true.mpr ⟨sign, among, agrees⟩⟩
              rw [apart] at goesOn
              cases goesOn
      · exact behind e tail within

/-! ## Doubled characters -/

/-- A character never stands twice in a row. -/
def Undoubled (c : Char) (text : Text) : Prop :=
  text.IsChain fun first second => ¬(first = c ∧ second = c)

instance (c : Char) (text : Text) : Decidable (Undoubled c text) :=
  inferInstanceAs (Decidable (List.IsChain _ text))

namespace Undoubled

variable {c : Char} {text : Text}

theorem of_not_mem (absent : c ∉ text) : Undoubled c text := by
  unfold Undoubled
  induction text with
  | nil => exact .nil
  | cons d rest hypothesis =>
      rw [List.mem_cons, not_or] at absent
      refine List.isChain_cons.mpr ⟨fun e _ both => absent.1 both.1.symm, hypothesis absent.2⟩

theorem of_isInfix (undoubled : Undoubled c text) {part : Text} (inside : part <:+: text) :
    Undoubled c part :=
  List.IsChain.infix undoubled inside

/-- A character does not come to stand twice where the second text begins with another one. -/
theorem append
    {rest : Text}
    (first : Undoubled c text)
    (second : Undoubled c rest)
    (apart : ∀ d ∈ rest.head?, d ≠ c) :
    Undoubled c (text ++ rest) :=
  List.isChain_append.mpr ⟨first, second, fun _ _ d head both => apart d head both.2⟩

/-- A text without the character may come first. -/
theorem append_of_not_mem {rest : Text} (absent : c ∉ text) (second : Undoubled c rest) :
    Undoubled c (text ++ rest) := by
  refine List.isChain_append.mpr ⟨of_not_mem absent, second, fun d last _ _ both => ?_⟩
  exact absent (both.1 ▸ List.mem_of_getLast? last)

end Undoubled

namespace Operator

/-- A rule in which neither an operator nor an opening mark of a template stands is not cut. -/
theorem splitMark_of_undoubled
    {mark : Char}
    {text : Text}
    (whole : Undoubled mark text)
    (plain : Undoubled '\x7b' text)
    (before : Text) :
    splitMark mark 0 before text = [before.reverse ++ text] := by
  induction text generalizing before with
  | nil => simp [splitMark]
  | cons c rest hypothesis =>
      cases rest with
      | nil => simp [splitMark]
      | cons d rest =>
          obtain ⟨apart, others⟩ := List.isChain_cons_cons.mp whole
          obtain ⟨closed, behind⟩ := List.isChain_cons_cons.mp plain
          rw [splitMark, if_neg (by simpa using closed), if_neg (by simp),
            if_neg (by simpa using apart), hypothesis others behind]
          simp

/-- A rule without operators and templates is its own only branch. -/
theorem split_of_undoubled
    {rule : Text}
    (whole : ∀ operator : Operator, Undoubled operator.mark rule)
    (plain : Undoubled '\x7b' rule) :
    split rule = (none, [rule]) := by
  have uncut (operators : List Operator) : findSplit rule operators = none := by
    induction operators with
    | nil => rfl
    | cons operator rest hypothesis =>
        rw [findSplit, splitTopLevel, splitMark_of_undoubled (whole operator) plain]
        exact hypothesis
  unfold split
  rw [uncut]
  split <;> rfl

end Operator

end RuleProbe
