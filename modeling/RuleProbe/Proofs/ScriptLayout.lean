import Mathlib.Data.List.Forall2
import Mathlib.Data.List.Infix
import RuleProbe.Proofs.Size.Rule
import RuleProbe.Proofs.Spelling

/-!
# How a rule with scripts is laid out

A rule is laid out in texts, marks and code: its first opening mark ends the text before it, and
what follows is code up to the first closing mark, or up to the end.  A layout is written as the
rule again, and its steps are its texts and its code in turn.  The steps of a rule are those of
its layout exactly when each closing mark stands where the lower case of the rule shows it.
-/

namespace RuleProbe

/-!
## Searching in texts

What is sought in a text stands at its first place when it begins nowhere earlier.  A search for
a mark from some place on finds the first place behind it where the mark stands.
-/

namespace Text

/-! ### First places -/

/-- Nothing of what is sought begins within the first one of two texts in a row. -/
def IsFree (starts : Text → Prop) (before after : Text) : Prop :=
  ∀ n < before.length, ¬starts ((before ++ after).drop n)

instance (starts : Text → Prop) [DecidablePred starts] (before after : Text) :
    Decidable (IsFree starts before after) :=
  inferInstanceAs (Decidable (∀ n < before.length, ¬starts ((before ++ after).drop n)))

variable {starts : Text → Prop}

theorem isFree_nil (after : Text) : IsFree starts [] after := by
  intro n within
  cases within

theorem isFree_cons {c : Char} {before after : Text} :
    IsFree starts (c :: before) after ↔
      ¬starts (c :: (before ++ after)) ∧ IsFree starts before after := by
  unfold IsFree
  rw [List.length_cons, Nat.forall_lt_succ_left]
  rfl

/-- What is sought in a text begins nowhere, or there is a first place where it begins. -/
theorem exists_first (starts : Text → Prop) (text : Text) :
    IsFree starts text [] ∨
      ∃ before rest, text = before ++ rest ∧ starts rest ∧ IsFree starts before rest := by
  induction text with
  | nil => exact .inl (isFree_nil [])
  | cons c others hypothesis =>
      by_cases here : starts (c :: others)
      · exact .inr ⟨[], c :: others, rfl, here, isFree_nil _⟩
      · rcases hypothesis with free | ⟨before, rest, same, begins, free⟩
        · exact .inl (isFree_cons.mpr ⟨by simpa using here, free⟩)
        · exact .inr ⟨c :: before, rest, by rw [same]; rfl, begins,
            isFree_cons.mpr ⟨by rwa [← same], free⟩⟩

/-! ### Marks that are found -/

variable {mark : Text}

theorem cutAux_of_first
    (given : mark ≠ [])
    {text : Text}
    {place : Nat}
    (here : mark <+: text.drop place)
    (first : ∀ n < place, ¬mark <+: text.drop n)
    (before : Text) :
    ∃ rest, cutAux mark before text = some (before.reverse ++ text.take place, rest) := by
  induction text generalizing place before with
  | nil =>
      rw [List.drop_nil, List.prefix_nil] at here
      exact absurd here given
  | cons c others hypothesis =>
      rw [cutAux]
      cases place with
      | zero =>
          have here : mark <+: c :: others := here
          rw [if_pos (List.isPrefixOf_iff_prefix.mpr here)]
          exact ⟨(c :: others).drop mark.length, by simp⟩
      | succ place =>
          have notHere : ¬mark <+: c :: others := first 0 (Nat.succ_pos place)
          rw [if_neg (mt List.isPrefixOf_iff_prefix.mp notHere)]
          have later : ∀ n < place, ¬mark <+: others.drop n := by
            intro n within
            exact first (n + 1) (Nat.succ_lt_succ within)
          obtain ⟨rest, found⟩ := hypothesis here later (c :: before)
          exact ⟨rest, by simpa using found⟩

theorem cutAux_of_absent
    (given : mark ≠ [])
    {text : Text}
    (absent : ∀ n, ¬mark <+: text.drop n)
    (before : Text) :
    cutAux mark before text = none := by
  induction text generalizing before with
  | nil => rw [cutAux, if_neg (by simpa using given)]
  | cons c others hypothesis =>
      have notHere : ¬mark <+: c :: others := absent 0
      rw [cutAux, if_neg (mt List.isPrefixOf_iff_prefix.mp notHere)]
      apply hypothesis
      intro n
      exact absent (n + 1)

/-- A mark is found at the first place behind the start of the search where it stands. -/
theorem indexFrom?_of_first
    (given : mark ≠ [])
    {text : Text}
    {start place : Nat}
    (behind : start ≤ place)
    (here : mark <+: text.drop place)
    (first : ∀ n, start ≤ n → n < place → ¬mark <+: text.drop n) :
    indexFrom? mark text start = some place := by
  have within : place < text.length := by
    by_contra beyond
    rw [List.drop_eq_nil_of_le (by omega), List.prefix_nil] at here
    exact given here
  have hereFrom : mark <+: (text.drop start).drop (place - start) := by
    rwa [List.drop_drop, Nat.add_sub_cancel' behind]
  have firstFrom : ∀ n < place - start, ¬mark <+: (text.drop start).drop n := by
    intro n early
    rw [List.drop_drop]
    exact first (start + n) (by omega) (by omega)
  obtain ⟨rest, found⟩ := cutAux_of_first given hereFrom firstFrom []
  unfold indexFrom? cut?
  rw [if_neg (by omega), found, Option.map_some, List.reverse_nil, List.nil_append,
    List.length_take, List.length_drop]
  congr 1
  omega

theorem indexFrom?_of_absent
    (given : mark ≠ [])
    {text : Text}
    {start : Nat}
    (absent : ∀ n, start ≤ n → ¬mark <+: text.drop n) :
    indexFrom? mark text start = none := by
  have absentFrom : ∀ n, ¬mark <+: (text.drop start).drop n := by
    intro n
    rw [List.drop_drop]
    exact absent (start + n) (by omega)
  unfold indexFrom? cut?
  rw [cutAux_of_absent given absentFrom]
  split <;> rfl

end Text

end RuleProbe

namespace RuleProbe

namespace ScriptStep

/-! ## Spelled marks -/

/-- A text spells a mark, each character in one of its forms. -/
def Spells (forms : Char → Text) (mark text : Text) : Prop :=
  List.Forall₂ (fun sign c => c ∈ forms sign) mark text

instance (forms : Char → Text) (mark text : Text) : Decidable (Spells forms mark text) :=
  inferInstanceAs (Decidable (List.Forall₂ _ mark text))

/-- A text begins with a mark, however it is spelled. -/
def Begins (forms : Char → Text) (mark text : Text) : Prop :=
  Spells forms mark (text.take mark.length)

instance (forms : Char → Text) (mark text : Text) : Decidable (Begins forms mark text) :=
  inferInstanceAs (Decidable (Spells forms mark _))

/-- The mark before a script that a closing mark ends. -/
def regionMark : Text := ['<', 'j', 's', '>']

/-- The mark before a script that the rule ends with. -/
def finalMark : Text := ['@', 'j', 's', ':']

/-- A script is opened here. -/
def StartsScript (text : Text) : Prop :=
  Begins allForms regionMark text ∨ Begins allForms finalMark text

/-- A script is closed here. -/
def StartsClosing (text : Text) : Prop := Begins bothCases closer text

instance : DecidablePred StartsScript := fun text =>
  inferInstanceAs (Decidable (Begins allForms regionMark text ∨ Begins allForms finalMark text))

instance : DecidablePred StartsClosing := fun text =>
  inferInstanceAs (Decidable (Begins bothCases closer text))

/-! ## Layouts -/

/-- A rule taken apart. -/
inductive Layout where
  /-- A text without scripts. -/
  | plain (text : Text)
  /-- A text, and a script up to the end of the rule. -/
  | toEnd (before mark script : Text)
  /-- A text, a script between two marks, and more. -/
  | closed (before mark script closing : Text) (rest : Layout)
  deriving DecidableEq

namespace Layout

open Text (IsFree)

/-- The rule that a layout is one of. -/
def written : Layout → Text
  | plain text => text
  | toEnd before mark script => before ++ (mark ++ script)
  | closed before mark script closing rest =>
      before ++ (mark ++ (script ++ (closing ++ rest.written)))

/-- The steps of a layout: its texts that are not blank, trimmed, and its code. -/
def steps : Layout → List ScriptStep
  | plain text => ruleStep text
  | toEnd before _ script => ruleStep before ++ [.code script]
  | closed before _ script _ rest => ruleStep before ++ .code script :: rest.steps

/-- Every mark is the first one of its kind, and the marks are those that the code stands
between. -/
def IsProper : Layout → Prop
  | plain text => IsFree StartsScript text []
  | toEnd before mark script =>
      IsFree StartsScript before (mark ++ script) ∧
        (Spells allForms finalMark mark ∨
          Spells allForms regionMark mark ∧ IsFree StartsClosing script [])
  | closed before mark script closing rest =>
      IsFree StartsScript before (mark ++ (script ++ (closing ++ rest.written))) ∧
        Spells allForms regionMark mark ∧
          IsFree StartsClosing script (closing ++ rest.written) ∧
            Spells bothCases closer closing ∧ rest.IsProper

/-- The place where the lower case of a text shows a closing mark. -/
def shownClosing? (text : Text) (start : Nat) : Option Nat :=
  Text.indexFrom? closer (Text.lower text) start

/-- Closing marks stand where the lower case of the text shows them.  Code up to the end has
none, or its opening mark takes all whatever the lower case shows: an opening mark with the long
s does not. -/
def InPlace : Layout → Prop
  | plain _ => True
  | toEnd before mark script =>
      Spells bothCases finalMark mark ∨
        ∀ place ∈ shownClosing? (before ++ (mark ++ script)) (before.length + mark.length),
          (before ++ (mark ++ script)).length ≤ place
  | closed before mark script closing rest =>
      shownClosing? (before ++ (mark ++ (script ++ (closing ++ rest.written))))
          (before.length + mark.length) =
        some (before.length + mark.length + script.length) ∧
      rest.InPlace

instance decidableIsProper : (layout : Layout) → Decidable layout.IsProper
  | plain text => inferInstanceAs (Decidable (IsFree StartsScript text []))
  | toEnd before mark script =>
      inferInstanceAs (Decidable (IsFree StartsScript before (mark ++ script) ∧
        (Spells allForms finalMark mark ∨
          Spells allForms regionMark mark ∧ IsFree StartsClosing script [])))
  | closed before mark script closing rest =>
      have := decidableIsProper rest
      inferInstanceAs (Decidable (
        IsFree StartsScript before (mark ++ (script ++ (closing ++ rest.written))) ∧
          Spells allForms regionMark mark ∧
            IsFree StartsClosing script (closing ++ rest.written) ∧
              Spells bothCases closer closing ∧ rest.IsProper))

end Layout

/-! ## Marks that are found -/

theorem length_of_spells
    {forms : Char → Text}
    {mark text : Text}
    (spelled : Spells forms mark text) :
    text.length = mark.length :=
  (List.Forall₂.length_eq spelled).symm

theorem begins_of_spells
    {forms : Char → Text}
    {mark text : Text}
    (spelled : Spells forms mark text)
    (rest : Text) :
    Begins forms mark (text ++ rest) := by
  unfold Begins
  rw [List.take_left' (length_of_spells spelled)]
  exact spelled

theorem begins_cons
    {forms : Char → Text}
    {sign c : Char}
    {mark text : Text} :
    Begins forms (sign :: mark) (c :: text) ↔ c ∈ forms sign ∧ Begins forms mark text := by
  unfold Begins Spells
  rw [List.length_cons, List.take_succ_cons, List.forall₂_cons]

theorem mem_of_spells
    {forms : Char → Text}
    {mark text : Text}
    (spelled : Spells forms mark text)
    {c : Char}
    (member : c ∈ text) :
    ∃ sign ∈ mark, c ∈ forms sign := by
  induction spelled with
  | nil => cases member
  | @cons sign first _ _ form _ hypothesis =>
      rcases List.mem_cons.mp member with rfl | later
      · exact ⟨sign, List.mem_cons_self, form⟩
      · obtain ⟨other, among, formed⟩ := hypothesis later
        exact ⟨other, List.mem_cons_of_mem sign among, formed⟩

/-- Without the long s a mark is spelled with small letters and capitals. -/
theorem spells_bothCases
    {mark text : Text}
    (spelled : Spells allForms mark text)
    (short : 'ſ' ∉ text) :
    Spells bothCases mark text := by
  induction spelled with
  | nil => exact .nil
  | @cons sign first _ _ form _ hypothesis =>
      rw [List.mem_cons, not_or] at short
      refine .cons ?_ (hypothesis short.2)
      unfold allForms at form
      split at form
      · have cases : first = 's' ∨ first = 'S' ∨ first = 'ſ' := by simpa using form
        rcases cases with rfl | rfl | rfl
        · decide
        · decide
        · exact absurd rfl short.1
      · exact form

/-! ## Opening marks -/

/-- A mark of scripts is at the beginning of a text, up to case, when the text begins with a
spelling of it. -/
theorem beginsWith_iff
    {mark text : Text}
    (isMark : ∀ sign ∈ mark, sign ∈ markSigns) :
    beginsWith mark text = true ↔ Begins allForms mark text := by
  induction mark generalizing text with
  | nil => simp [beginsWith, Begins, Spells]
  | cons sign others hypothesis =>
      cases text with
      | nil => simp [beginsWith, Begins, Spells]
      | cons c rest =>
          have first := same_iff (c := c) (isMark sign List.mem_cons_self)
          have later : beginsWith others rest = true ↔ Begins allForms others rest :=
            hypothesis fun other member => isMark other (List.mem_cons_of_mem sign member)
          rw [begins_cons, ← first, ← later]
          simp only [beginsWith, List.length_cons, Nat.add_le_add_iff_right, List.zip_cons_cons,
            List.all_cons, Bool.and_eq_true]
          exact and_left_comm

theorem any_beginsWith_iff {text : Text} :
    (openers.any fun mark => beginsWith mark text) = true ↔ StartsScript text := by
  have isRegion : ∀ sign ∈ regionMark, sign ∈ markSigns :=
    List.all_iff_forall_prop.mp (by decide)
  have isFinal : ∀ sign ∈ finalMark, sign ∈ markSigns :=
    List.all_iff_forall_prop.mp (by decide)
  unfold openers StartsScript
  rw [← beginsWith_iff isRegion, ← beginsWith_iff isFinal]
  simp [regionMark, finalMark]

theorem findOpener_of_free
    {before after : Text}
    (free : Text.IsFree StartsScript before after)
    (starts : StartsScript after)
    (given : after ≠ [])
    (past : Text) :
    findOpener past (before ++ after) =
      some (past.reverse ++ before, after.take 4, after.drop 4) := by
  induction before generalizing past with
  | nil =>
      obtain ⟨c, rest, rfl⟩ := List.exists_cons_of_ne_nil given
      rw [List.nil_append, findOpener, if_pos (any_beginsWith_iff.mpr starts), List.append_nil]
  | cons c others hypothesis =>
      obtain ⟨notHere, later⟩ := Text.isFree_cons.mp free
      rw [List.cons_append, findOpener, if_neg (mt any_beginsWith_iff.mp notHere),
        hypothesis later, List.reverse_cons, List.append_assoc]
      rfl

theorem findOpener_of_free_all
    {text : Text}
    (free : Text.IsFree StartsScript text [])
    (past : Text) :
    findOpener past text = none := by
  induction text generalizing past with
  | nil => rfl
  | cons c others hypothesis =>
      obtain ⟨notHere, later⟩ := Text.isFree_cons.mp free
      rw [List.append_nil] at notHere
      rw [findOpener, if_neg (mt any_beginsWith_iff.mp notHere), hypothesis later]

/-- A text is one of the opening marks. -/
def IsOpener (mark : Text) : Prop :=
  Spells allForms regionMark mark ∨ Spells allForms finalMark mark

theorem IsOpener.length {mark : Text} (opener : IsOpener mark) : mark.length = 4 := by
  rcases opener with region | final
  · exact length_of_spells region
  · exact length_of_spells final

theorem IsOpener.starts {mark : Text} (opener : IsOpener mark) (rest : Text) :
    StartsScript (mark ++ rest) := by
  rcases opener with region | final
  · exact .inl (begins_of_spells region rest)
  · exact .inr (begins_of_spells final rest)

/-- The first opening mark of a text is found. -/
theorem findOpener_opened
    {before mark rest : Text}
    (free : Text.IsFree StartsScript before (mark ++ rest))
    (opener : IsOpener mark) :
    findOpener [] (before ++ (mark ++ rest)) = some (before, mark, rest) := by
  have given : mark ++ rest ≠ [] := by
    intro none
    have size := opener.length
    rw [(List.append_eq_nil_iff.mp none).1] at size
    cases size
  rw [findOpener_of_free free (opener.starts rest) given, List.take_left' opener.length,
    List.drop_left' opener.length]
  rfl

/-! ## Lower case -/

/-- The lower case of a character is one of a mark when the character is a form of it. -/
def LowersTo (c lowered : Char) : Prop :=
  ∀ sign ∈ markSigns, lowered = sign ↔ c ∈ bothCases sign

theorem ofNat_eq_iff
    {sign : Char}
    (isSign : sign ∈ markSigns)
    {code : Nat} :
    Char.ofNat code = sign ↔ code = sign.toNat := by
  constructor
  · intro same
    by_cases valid : code.isValidChar
    · have made : Char.ofNat code = Char.ofNatAux code valid := dif_pos valid
      rw [← same, made]
      rfl
    · -- A code that is no character stands for the null character.
      have null : Char.ofNat code = '\x00' := dif_neg valid
      rw [null] at same
      rw [← same] at isSign
      exact absurd isSign (by decide)
  · intro same
    rw [same, Char.ofNat_toNat]

theorem lowersTo_lowerCode (c : Char) : LowersTo c (Char.ofNat (Case.lowerCode c.toNat)) := by
  intro sign isSign
  rw [ofNat_eq_iff isSign, lowerCode_eq_iff isSign]

/-- A final capital sigma and one that is not final become no characters of marks. -/
theorem lowersTo_sigma (final : Bool) :
    LowersTo 'Σ' (Char.ofNat (if final then 0x3c2 else 0x3c3)) := by
  cases final
  · exact List.all_iff_forall_prop.mp (by decide)
  · exact List.all_iff_forall_prop.mp (by decide)

/-- Without the dotted capital I, a text and its lower case correspond character by character. -/
theorem forall₂_lowerCodesAfter
    {text : Text}
    (undotted : 'İ' ∉ text)
    (before : List Nat) :
    List.Forall₂ LowersTo text
      ((Case.lowerCodesAfter before (text.map Char.toNat)).map Char.ofNat) := by
  induction text generalizing before with
  | nil => exact .nil
  | cons c others hypothesis =>
      rw [List.mem_cons, not_or] at undotted
      have notDotted : c.toNat ≠ 0x130 := by
        intro dotted
        exact undotted.1 (Char.toNat_inj.mp dotted).symm
      rw [List.map_cons, Case.lowerCodesAfter, List.map_append]
      by_cases sigma : c.toNat = 0x3a3
      · have isSigma : c = 'Σ' := Char.toNat_inj.mp sigma
        rw [if_pos (beq_iff_eq.mpr sigma), isSigma]
        exact .cons (lowersTo_sigma _) (hypothesis undotted.2 _)
      · rw [if_neg (by simpa using sigma), if_neg (by simpa using notDotted)]
        exact .cons (lowersTo_lowerCode c) (hypothesis undotted.2 _)

theorem forall₂_lower {text : Text} (undotted : 'İ' ∉ text) :
    List.Forall₂ LowersTo text (Text.lower text) :=
  forall₂_lowerCodesAfter undotted []

theorem prefix_iff_begins
    {mark text lowered : Text}
    (isMark : ∀ sign ∈ mark, sign ∈ markSigns)
    (lowers : List.Forall₂ LowersTo text lowered) :
    mark <+: lowered ↔ Begins bothCases mark text := by
  induction lowers generalizing mark with
  | nil =>
      cases mark with
      | nil => simp [Begins, Spells]
      | cons sign others => simp [Begins, Spells]
  | cons first later hypothesis =>
      cases mark with
      | nil => simp [Begins, Spells]
      | cons sign others =>
          have isSign := isMark sign List.mem_cons_self
          have rest := hypothesis fun other member =>
            isMark other (List.mem_cons_of_mem sign member)
          rw [List.cons_prefix_cons, begins_cons, rest, eq_comm, first sign isSign]

/-- The lower case of a text shows a closing mark where the text closes a script. -/
theorem closer_prefix_lower_iff
    {text : Text}
    (undotted : 'İ' ∉ text)
    (place : Nat) :
    closer <+: (Text.lower text).drop place ↔ StartsClosing (text.drop place) := by
  have isMark : ∀ sign ∈ closer, sign ∈ markSigns :=
    List.all_iff_forall_prop.mp (by decide)
  exact prefix_iff_begins isMark (List.forall₂_drop place (forall₂_lower undotted))

/-- An opening mark becomes the one that takes all when it is spelled without the long s. -/
theorem lower_eq_finalMark_iff
    {mark : Text}
    (opener : IsOpener mark) :
    Text.lower mark = finalMark ↔ Spells bothCases finalMark mark := by
  have undotted : 'İ' ∉ mark := by
    intro dotted
    have forms : ∀ sign ∈ regionMark ++ finalMark, 'İ' ∉ allForms sign :=
      List.all_iff_forall_prop.mp (by decide)
    rcases opener with region | final
    · obtain ⟨sign, among, form⟩ := mem_of_spells region dotted
      exact forms sign (List.mem_append_left _ among) form
    · obtain ⟨sign, among, form⟩ := mem_of_spells final dotted
      exact forms sign (List.mem_append_right _ among) form
  have isMark : ∀ sign ∈ finalMark, sign ∈ markSigns :=
    List.all_iff_forall_prop.mp (by decide)
  have lowers := forall₂_lower undotted
  have size : finalMark.length = (Text.lower mark).length :=
    opener.length.symm.trans lowers.length_eq
  have whole : mark.take finalMark.length = mark := List.take_of_length_le opener.length.le
  rw [← whole]
  change _ ↔ Begins bothCases finalMark mark
  rw [← prefix_iff_begins isMark lowers, whole]
  constructor
  · intro same
    rw [same]
  · intro begins
    exact (begins.eq_of_length size).symm

/-! ## Steps of a layout -/

theorem splitSteps_nil (fuel : Nat) : splitSteps fuel [] = [] := by
  cases fuel with
  | zero => rfl
  | succ fuel => rfl

open Layout (shownClosing?)

/-- The steps of a text from its first opening mark on. -/
theorem splitSteps_opened
    {before mark rest : Text}
    (free : Text.IsFree StartsScript before (mark ++ rest))
    (opener : IsOpener mark)
    (fuel : Nat) :
    splitSteps (fuel + 1) (before ++ (mark ++ rest)) =
      ruleStep before ++
        if Spells bothCases finalMark mark then [.code rest]
        else
          match shownClosing? (before ++ (mark ++ rest)) (before.length + mark.length) with
          | none => [.code rest]
          | some stop =>
              .code (rest.take (stop - (before.length + mark.length))) ::
                splitSteps fuel ((before ++ (mark ++ rest)).drop (stop + closer.length)) := by
  have code : ∀ stop, ((before ++ (mark ++ rest)).take stop).drop (before.length + mark.length) =
      rest.take (stop - (before.length + mark.length)) := by
    intro stop
    rw [List.drop_take, ← List.append_assoc,
      List.drop_left' (List.length_append)]
  rw [splitSteps, findOpener_opened free opener]
  simp only [code, beq_iff_eq]
  congr 1
  exact if_congr (lower_eq_finalMark_iff opener) rfl rfl

theorem take_append_eq_left_iff
    {script more : Text}
    (given : more ≠ [])
    (n : Nat) :
    (script ++ more).take n = script ↔ n = script.length := by
  constructor
  · intro same
    have size := congrArg List.length same
    have positive := List.length_pos_iff.mpr given
    rw [List.length_take, List.length_append] at size
    omega
  · intro whole
    rw [whole, List.take_left]

theorem not_finalMark_of_regionMark
    {mark : Text}
    (region : Spells allForms regionMark mark) :
    ¬Spells bothCases finalMark mark := by
  intro final
  cases region with
  | cons first _ =>
      cases final with
      | cons other _ =>
          have apart : ∀ c ∈ allForms '<', c ∉ bothCases '@' :=
            List.all_iff_forall_prop.mp (by decide)
          exact apart _ first other

/-- A text and a script up to the end are the steps of a rule unless its lower case shows a closing
mark in the script. -/
theorem splitSteps_toEnd_iff
    {before mark script : Text}
    (proper : (Layout.toEnd before mark script).IsProper)
    (fuel : Nat) :
    splitSteps (fuel + 1) (Layout.toEnd before mark script).written =
        (Layout.toEnd before mark script).steps ↔
      (Layout.toEnd before mark script).InPlace := by
  obtain ⟨free, kind⟩ := proper
  have opener : IsOpener mark := kind.symm.imp_left And.left
  rw [Layout.written, splitSteps_opened free opener, Layout.steps, List.append_cancel_left_eq,
    Layout.InPlace]
  by_cases final : Spells bothCases finalMark mark
  · rw [if_pos final]
    exact iff_of_true rfl (.inl final)
  rw [if_neg final, or_iff_right final]
  have size : (before ++ (mark ++ script)).length =
      before.length + mark.length + script.length := by
    rw [List.length_append, List.length_append, Nat.add_assoc]
  split
  · rename_i shown
    rw [shown]
    exact iff_of_true rfl fun place found => by cases found
  · rename_i stop shown
    have behind := Text.le_of_indexFrom? shown
    rw [shown]
    constructor
    · intro same place found
      obtain rfl := Option.mem_some_iff.mp found
      have taken := ScriptStep.code.inj (List.cons.inj same).1
      rw [List.take_eq_self_iff] at taken
      omega
    · intro beyond
      have past := beyond stop rfl
      rw [List.take_of_length_le (by omega), List.drop_of_length_le (by omega), splitSteps_nil]

/-- What stands behind the closing mark is left when the mark is found in its place. -/
theorem drop_closing
    {before mark script closing : Text}
    (closes : Spells bothCases closer closing)
    (rest : Text) :
    (before ++ (mark ++ (script ++ (closing ++ rest)))).drop
      (before.length + mark.length + script.length + closer.length) = rest := by
  have joined : before ++ (mark ++ (script ++ (closing ++ rest))) =
      (before ++ (mark ++ (script ++ closing))) ++ rest := by
    simp only [List.append_assoc]
  rw [joined, ← length_of_spells closes]
  apply List.drop_left'
  simp only [List.length_append]
  omega

/-- A text, a script between marks and more are the steps of a rule exactly when the closing mark
is in place, and what is left is in place behind it. -/
theorem splitSteps_closed_iff
    {before mark script closing : Text}
    {rest : Layout}
    (proper : (Layout.closed before mark script closing rest).IsProper)
    {fuel : Nat}
    (later : splitSteps fuel rest.written = rest.steps ↔ rest.InPlace) :
    splitSteps (fuel + 1) (Layout.closed before mark script closing rest).written =
        (Layout.closed before mark script closing rest).steps ↔
      (Layout.closed before mark script closing rest).InPlace := by
  obtain ⟨free, region, -, closes, -⟩ := proper
  have given : closing ++ rest.written ≠ [] := by
    intro none
    have size := length_of_spells closes
    rw [(List.append_eq_nil_iff.mp none).1] at size
    cases size
  rw [Layout.written, splitSteps_opened free (.inl region), Layout.steps,
    List.append_cancel_left_eq, Layout.InPlace, if_neg (not_finalMark_of_regionMark region)]
  split
  · rename_i shown
    rw [shown]
    apply iff_of_false
    · intro same
      have whole := ScriptStep.code.inj (List.cons.inj same).1
      exact given (List.append_right_eq_self.mp whole)
    · rintro ⟨none, -⟩
      cases none
  · rename_i stop shown
    have behind := Text.le_of_indexFrom? shown
    have sameStop : stop - (before.length + mark.length) = script.length ↔
        stop = before.length + mark.length + script.length := by
      omega
    rw [shown, List.cons.injEq, ScriptStep.code.injEq, take_append_eq_left_iff given,
      Option.some.injEq, sameStop]
    apply and_congr_right
    rintro rfl
    rw [drop_closing closes, later]

/-- The steps of a rule are those of a layout of it exactly when all closing marks are in place. -/
theorem splitSteps_eq_iff
    {layout : Layout}
    (proper : layout.IsProper)
    {fuel : Nat}
    (enough : layout.written.length < fuel) :
    splitSteps fuel layout.written = layout.steps ↔ layout.InPlace := by
  induction layout generalizing fuel with
  | plain text =>
      obtain ⟨fuel, rfl⟩ := Nat.exists_eq_add_of_lt enough
      apply iff_of_true _ trivial
      rw [splitSteps, Layout.written, findOpener_of_free_all proper]
      rfl
  | toEnd before mark script =>
      obtain ⟨fuel, rfl⟩ := Nat.exists_eq_add_of_lt enough
      exact splitSteps_toEnd_iff proper _
  | closed before mark script closing rest hypothesis =>
      obtain ⟨fuel, rfl⟩ := Nat.exists_eq_add_of_lt enough
      have markSize := IsOpener.length (.inl proper.2.1)
      apply splitSteps_closed_iff proper
      apply hypothesis proper.2.2.2.2
      simp only [Layout.written, List.length_append]
      omega

/-! ## Layouts of a rule -/

/-- Every rule is laid out. -/
theorem exists_layout (rule : Text) :
    ∃ layout : Layout, layout.IsProper ∧ layout.written = rule := by
  -- By induction on the size of the rule: the text behind a closing mark is shorter.
  induction size : rule.length using Nat.strong_induction_on generalizing rule with
  | _ n hypothesis =>
      rcases Text.exists_first StartsScript rule with free | ⟨before, opened, rfl, starts, free⟩
      · exact ⟨.plain rule, free, rfl⟩
      obtain ⟨mark, after, rfl, opener⟩ :
          ∃ mark after, opened = mark ++ after ∧ IsOpener mark :=
        ⟨opened.take 4, opened.drop 4, (List.take_append_drop 4 opened).symm, starts⟩
      rcases opener with region | final
      · rcases Text.exists_first StartsClosing after with
          unclosed | ⟨script, closed, rfl, closes, within⟩
        · exact ⟨.toEnd before mark after, ⟨free, .inr ⟨region, unclosed⟩⟩, rfl⟩
        obtain ⟨closing, more, rfl, spelled⟩ :
            ∃ closing more, closed = closing ++ more ∧ Spells bothCases closer closing :=
          ⟨closed.take closer.length, closed.drop closer.length,
            (List.take_append_drop closer.length closed).symm, closes⟩
        have shorter : more.length < n := by
          have markSize := IsOpener.length (.inl region)
          rw [← size]
          simp only [List.length_append]
          omega
        obtain ⟨rest, proper, rfl⟩ := hypothesis more.length shorter more rfl
        exact ⟨.closed before mark script closing rest,
          ⟨free, region, within, spelled, proper⟩, rfl⟩
      · exact ⟨.toEnd before mark after, ⟨free, .inl final⟩, rfl⟩

/-- The lower case of a text without the dotted capital I shows the closing mark of a script
where it stands. -/
theorem shownClosing?_of_first
    {front script closing : Text}
    (undotted : 'İ' ∉ front ++ (script ++ closing))
    (free : Text.IsFree StartsClosing script closing)
    (closes : StartsClosing closing) :
    shownClosing? (front ++ (script ++ closing)) front.length =
      some (front.length + script.length) := by
  apply Text.indexFrom?_of_first (by decide) (Nat.le_add_right _ _)
  · rw [closer_prefix_lower_iff undotted, ← List.append_assoc,
      List.drop_left' List.length_append]
    exact closes
  · intro place behind early
    rw [closer_prefix_lower_iff undotted]
    obtain ⟨n, rfl⟩ := Nat.exists_eq_add_of_le behind
    rw [List.drop_length_add_append]
    exact free n (by omega)

/-- The lower case of a text without the dotted capital I shows no closing mark where none
stands. -/
theorem shownClosing?_of_free
    {front script : Text}
    (undotted : 'İ' ∉ front ++ script)
    (free : Text.IsFree StartsClosing script []) :
    shownClosing? (front ++ script) front.length = none := by
  apply Text.indexFrom?_of_absent (by decide)
  intro place behind
  rw [closer_prefix_lower_iff undotted]
  obtain ⟨n, rfl⟩ := Nat.exists_eq_add_of_le behind
  rw [List.drop_length_add_append]
  by_cases within : n < script.length
  · simpa using free n within
  · rw [List.drop_of_length_le (by omega)]
    decide

/-- Closing marks are in place in a rule without the dotted capital I and the long s. -/
theorem inPlace_of_usual
    {layout : Layout}
    (proper : layout.IsProper)
    (usual : ∀ c ∈ layout.written, c ≠ 'İ' ∧ c ≠ 'ſ') :
    layout.InPlace := by
  have undotted : 'İ' ∉ layout.written := fun dotted => (usual _ dotted).1 rfl
  have short : 'ſ' ∉ layout.written := fun long => (usual _ long).2 rfl
  clear usual
  induction layout with
  | plain text => trivial
  | toEnd before mark script =>
      rw [Layout.written] at undotted short
      obtain ⟨-, final | ⟨-, unclosed⟩⟩ := proper
      · left
        apply spells_bothCases final
        intro long
        exact short (List.mem_append_right _ (List.mem_append_left _ long))
      · right
        rw [← List.append_assoc] at undotted
        rw [← List.append_assoc, ← List.length_append, shownClosing?_of_free undotted unclosed]
        intro place found
        cases found
  | closed before mark script closing rest hypothesis =>
      rw [Layout.written, ← List.append_assoc] at undotted short
      obtain ⟨-, -, within, closes, proper⟩ := proper
      constructor
      · rw [← List.append_assoc, ← List.length_append]
        exact shownClosing?_of_first undotted within (begins_of_spells closes _)
      · apply hypothesis proper
        · intro dotted
          exact undotted (by simp [dotted])
        · intro long
          exact short (by simp [long])

/-- Every rule is laid out, and its steps are those of its layout exactly when all closing marks
are in place, as they are in a rule without the dotted capital I and the long s. -/
theorem ofRule_layout (rule : Text) :
    (∃ layout : Layout, layout.IsProper ∧ layout.written = rule) ∧
      ∀ layout : Layout, layout.IsProper → layout.written = rule →
        (ofRule rule = layout.steps ↔ layout.InPlace) ∧
          ((∀ c ∈ rule, c ≠ 'İ' ∧ c ≠ 'ſ') → layout.InPlace) := by
  refine ⟨exists_layout rule, ?_⟩
  rintro layout proper rfl
  exact ⟨splitSteps_eq_iff proper (Nat.lt_succ_self _), inPlace_of_usual proper⟩

/-- The layout of a rule whose first text is the dotted capital I. -/
def Layout.dotted : Layout :=
  .closed ['İ'] ['<', 'j', 's', '>'] ['a'] ['<', '/', 'j', 's', '>'] (.plain ['b'])

/-- The dotted capital I moves the end of a script into its closing mark: the code takes a sign
of the mark, and the text behind it is lost. -/
theorem ofRule_dotted_loses :
    Layout.dotted.IsProper ∧
      Layout.dotted.written = ['İ', '<', 'j', 's', '>', 'a', '<', '/', 'j', 's', '>', 'b'] ∧
      Layout.dotted.steps = [.rule ['İ'], .code ['a'], .rule ['b']] ∧
      ofRule ['İ', '<', 'j', 's', '>', 'a', '<', '/', 'j', 's', '>', 'b'] =
        [.rule ['İ'], .code ['a', '<']] := by
  decide +kernel

end ScriptStep

end RuleProbe
