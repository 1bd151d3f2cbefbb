import RuleProbe.Proofs.Evaluation.Values
import RuleProbe.Proofs.Numeral

/-!
# Results that have a text

Every dialect and every filter leaves out what has no text.  Only null and the empty string have
none, so that a result of a path into JSON values has one as well.
-/

namespace RuleProbe

/-! ## Texts of values -/

namespace Json

theorem NumberText.text_ne_nil (number : NumberText) : number.text ≠ [] := by
  obtain ⟨c, more, same, -⟩ := number.text_eq_cons
  rw [same]
  exact List.cons_ne_nil c more

theorem writeInteger_ne_nil (n : Int) : Integer.write n ≠ [] := by
  cases n with
  | ofNat m => exact Integer.writeNat_ne_nil m
  | negSucc m => exact List.cons_ne_nil '-' _

theorem writeFloat_ne_nil (x : Float) : plainFloatLayout.write x ≠ [] := by
  rcases plainFloatLayout.write_cases x with same | same | same | ⟨bits, same | same⟩
  · rw [same]
    decide
  · rw [same]
    decide
  · rw [same]
    exact List.cons_ne_nil '-' _
  · obtain ⟨number, written⟩ := plainFloatLayout.writeDigits_numberText
      (Shortest.ofBits_proper bits) (by decide)
    rw [same, written]
    exact number.text_ne_nil
  · rw [same]
    exact List.cons_ne_nil '-' _

/-- Only null and the empty string have no text. -/
theorem fieldText_eq_nil_iff {value : Json} :
    value.fieldText = [] ↔ value = .null ∨ value = .str [] := by
  cases value with
  | null => simp [fieldText]
  | bool truth => cases truth <;> simp [fieldText]
  | int n => simp [fieldText, writeInteger_ne_nil]
  | float x =>
      have given : (Json.float x).fieldText ≠ [] := by
        rw [fieldText]
        split
        · exact writeInteger_ne_nil _
        · exact writeFloat_ne_nil x
      simp [given]
  | str text => simp [fieldText]
  | arr items =>
      have given : write .compact (.arr items) ≠ [] := by
        rw [write]
        split <;> simp
      have same : (Json.arr items).fieldText = write .compact (.arr items) := rfl
      rw [same]
      simp [given]
  | obj members =>
      have given : write .compact (.obj members) ≠ [] := by
        rw [write]
        split <;> simp
      have same : (Json.obj members).fieldText = write .compact (.obj members) := rfl
      rw [same]
      simp [given]

end Json

namespace Extraction

/-- A value counts as a result exactly when it has a text. -/
theorem isResult_iff {value : Json} : isResult value = true ↔ value.fieldText ≠ [] := by
  rw [Ne, Json.fieldText_eq_nil_iff, not_or]
  unfold isResult
  split <;> simp_all

/-- All results have a text. -/
def HaveTexts (values : List Found) : Prop := ∀ value ∈ values, value.text ≠ []

theorem haveTexts_nil : HaveTexts [] := by
  simp [HaveTexts]

theorem haveTexts_texts {items : List Text} (given : ∀ text ∈ items, text ≠ []) :
    HaveTexts (texts items) := by
  intro value member
  obtain ⟨text, among, rfl⟩ := List.mem_map.mp member
  exact given text among

theorem haveTexts_givenText (text : Text) :
    HaveTexts (if text.isEmpty then [] else texts [text]) := by
  split
  · exact haveTexts_nil
  · rename_i given
    exact haveTexts_texts (by simpa using given)

end Extraction

/-! ## Dialects -/

namespace Chain

variable {tree : Markup.Tree}

/-- An accessor leaves out the elements without a text. -/
theorem readAll_given (accessor baseUrl : Text) (nodes : List Nat) :
    Yields (fun found => ∀ text ∈ found, text ≠ []) (readAll tree accessor baseUrl nodes) := by
  induction nodes with
  | nil => exact .of_ok (by simp)
  | cons i rest hypothesis =>
      refine (Yields.any _).bind fun value _ => ?_
      refine hypothesis.bind fun others given => .of_ok ?_
      split
      · exact given
      · rename_i some
        exact List.forall_mem_cons.mpr ⟨by simpa using some, given⟩

/-- Whatever texts a chain gives are not empty. -/
theorem evaluate_given (start : List Nat) (chain : Text) (mode : Mode) :
    Yields (fun outcome => ∀ found, outcome = .texts found → ∀ text ∈ found, text ≠ [])
      (evaluate tree start chain mode) := by
  have read (accessor : Text) (nodes : List Nat) :
      Yields (fun outcome => ∀ found, outcome = Outcome.texts found → ∀ text ∈ found, text ≠ [])
        ((readAll tree accessor mode.baseUrl nodes).map Outcome.texts) := by
    intro outcome returned found same
    obtain ⟨texts, given, rfl⟩ := exists_ok_of_map returned
    cases same
    exact readAll_given accessor mode.baseUrl nodes found given
  unfold evaluate
  refine (Yields.any _).bind fun nodes _ => ?_
  split
  · split
    · exact read _ _
    · exact .of_ok (by simp)
  · exact read _ _

end Chain

namespace Extraction

theorem evaluateChain_haveTexts (context : Context) (chain : Text) :
    Yields HaveTexts (evaluateChain context chain false) := by
  refine (Yields.any _).bind fun start _ => ?_
  refine ((Chain.evaluate_scalar _ _ _ _ _).and (Chain.evaluate_given _ _ _)).bind
    fun outcome holds => ?_
  obtain ⟨⟨found, rfl⟩, given⟩ := holds
  exact .of_ok (haveTexts_texts (given found rfl))

theorem placeFound_haveTexts
    (context : Context)
    (document : Mended.Document)
    (place : XPath.Place) :
    Yields HaveTexts (placeFound context document false place) := by
  unfold placeFound
  split
  · exact .of_ok haveTexts_nil
  · split
    · exact .of_ok (haveTexts_givenText _)
    · exact (Yields.any _).bind fun text _ => .of_ok (haveTexts_givenText text)

theorem evaluateXPath_haveTexts (context : Context) (expression : Text) :
    Yields HaveTexts (evaluateXPath context expression false) := by
  unfold evaluateXPath
  simp only [Bool.false_eq_true, if_false]
  split
  · exact .of_ok haveTexts_nil
  · split
    · exact .of_error _
    · split
      · exact .of_error _
      · exact (placesFound_all (placeFound_haveTexts context _) _).bind
          fun found given => .of_ok given
      · exact .of_ok (haveTexts_givenText _)

theorem haveTexts_results (values : List Json) :
    HaveTexts ((values.filter isResult).map Found.plain) := by
  intro value member
  obtain ⟨result, among, rfl⟩ := List.mem_map.mp member
  exact isResult_iff.mp (List.mem_filter.mp among).2

theorem evaluateJsonPath_haveTexts (context : Context) (path : Text) :
    Yields HaveTexts (evaluateJsonPath context path false) := by
  refine (Yields.any _).bind fun content _ => ?_
  split
  · exact .of_error _
  · split
    · exact .of_error _
    · exact .of_ok (haveTexts_results _)

theorem evaluateRegex_haveTexts (context : Context) (pattern : Text) :
    Yields HaveTexts (evaluateRegex context pattern false) := by
  refine (Yields.any _).bind fun compiled _ => .of_ok (haveTexts_texts ?_)
  simp only [List.mem_filter]
  rintro text ⟨-, given⟩
  simpa using given

/-! ## Filters -/

/-- Filters leave a result alone. -/
def Found.isOpaque : Found → Bool
  | plain _ => false
  | handle pointer => pointer.isOpaque

/-- Whatever filters do not leave alone has a text. -/
def AreGiven (values : List Found) : Prop :=
  ∀ value ∈ values, value.isOpaque = true ∨ value.text ≠ []

theorem HaveTexts.areGiven {values : List Found} (have' : HaveTexts values) : AreGiven values :=
  fun value member => .inr (have' value member)

/-- A filter changes all texts, or it has a flaw, whatever the text. -/
theorem applyOptional_cases (filter : Option ReplaceFilter) :
    (∃ change : Text → Text, ∀ text, ReplaceFilter.applyOptional filter text = .ok (change text)) ∨
      ∃ fault, ∀ text, ReplaceFilter.applyOptional filter text = .error fault := by
  cases filter with
  | none => exact .inl ⟨id, fun _ => rfl⟩
  | some filter =>
      cases compiled : RuleRegex.compile {} filter.pattern with
      | ok pattern =>
          refine .inl ⟨filter.run pattern, fun text => ?_⟩
          simp [ReplaceFilter.applyOptional, ReplaceFilter.apply, compiled, Except.map]
      | error fault =>
          refine .inr ⟨fault, fun text => ?_⟩
          simp [ReplaceFilter.applyOptional, ReplaceFilter.apply, compiled, Except.map]

/-- What is left of a result whose text is changed. -/
def remains (serial : Nat) (change : Text → Text) (found : Found) : List Found :=
  if found.isOpaque then [found]
  else if (change found.text).isEmpty then []
  else
    match found with
    | .handle _ => [.handle ⟨serial, .value (.str (change found.text))⟩]
    | .plain _ => [.plain (.str (change found.text))]

variable {filter : Option ReplaceFilter}

theorem filterFound_of_ok
    {change : Text → Text}
    (applies : ∀ text, ReplaceFilter.applyOptional filter text = .ok (change text))
    (serial : Nat)
    (values : List Found) :
    filterFound serial filter values = .ok (values.flatMap (remains serial change)) := by
  induction values with
  | nil => rfl
  | cons found rest hypothesis =>
      cases found with
      | handle pointer =>
          simp only [filterFound, hypothesis, List.flatMap_cons, remains, Found.isOpaque, applies]
          split <;> rfl
      | plain value =>
          simp only [filterFound, hypothesis, List.flatMap_cons, remains, Found.isOpaque, applies]
          rfl

theorem filterFound_of_error
    {fault : Fault}
    (refuses : ∀ text, ReplaceFilter.applyOptional filter text = .error fault)
    (serial : Nat)
    (values : List Found) :
    filterFound serial filter values =
      if values.all Found.isOpaque then .ok values else .error fault := by
  induction values with
  | nil => rfl
  | cons found rest hypothesis =>
      cases found with
      | handle pointer =>
          simp only [filterFound, hypothesis, List.all_cons, Found.isOpaque, refuses]
          split
          · rename_i left
            simp only [left, Bool.true_and]
            split <;> rfl
          · rename_i changed
            simp only [changed]
            rfl
      | plain value =>
          simp only [filterFound, List.all_cons, Found.isOpaque, refuses]
          rfl

theorem remains_given
    {serial : Nat}
    {change : Text → Text}
    {found value : Found}
    (member : value ∈ remains serial change found) :
    value.isOpaque = true ∨ value.text ≠ [] := by
  unfold remains at member
  split at member
  · rw [List.mem_singleton.mp member]
    exact .inl ‹_›
  · split at member
    · cases member
    · rename_i given
      have some : change found.text ≠ [] := by simpa using given
      cases found with
      | handle pointer =>
          rw [List.mem_singleton.mp member]
          exact .inr some
      | plain json =>
          rw [List.mem_singleton.mp member]
          exact .inr some

/-- A filter leaves out what has no text, unless it leaves the result alone. -/
theorem filterFound_given (serial : Nat) (filter : Option ReplaceFilter) (values : List Found) :
    Yields AreGiven (filterFound serial filter values) := by
  rcases applyOptional_cases filter with ⟨change, applies⟩ | ⟨fault, refuses⟩
  · rw [filterFound_of_ok applies]
    refine .of_ok fun value member => ?_
    obtain ⟨found, -, among⟩ := List.mem_flatMap.mp member
    exact remains_given among
  · rw [filterFound_of_error refuses]
    split
    · exact .of_ok fun value member => .inl (List.all_eq_true.mp ‹_› value member)
    · exact .of_error fault

/-- What a filter leaves of values has a text. -/
theorem filterFound_haveTexts
    {values : List Found}
    (plain : ArePlain values)
    (serial : Nat)
    (filter : Option ReplaceFilter) :
    Yields HaveTexts (filterFound serial filter values) := by
  intro kept filtered value member
  refine (filterFound_given serial filter values kept filtered value member).resolve_left ?_
  have isPlain := filterFound_keeps (filterKeeps_isPlain serial) filter plain kept filtered value
    member
  cases value with
  | plain json => exact Bool.false_ne_true
  | handle pointer => cases isPlain

theorem filterTexts_haveTexts (filter : Option ReplaceFilter) (values : List Found) :
    Yields HaveTexts (filterTexts filter values) := by
  intro kept filtered
  obtain ⟨items, given, rfl⟩ := filterTexts_texts filter values kept filtered
  exact haveTexts_texts given

end Extraction

end RuleProbe
