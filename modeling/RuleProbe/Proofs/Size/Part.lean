import RuleProbe.Extraction.Template
import RuleProbe.Proofs.Text
import RuleProbe.Rule.Operator
import RuleProbe.Rule.Replace

/-!
# Where the parts of a rule stand

A rule is cut into branches, lines, steps, bodies and expressions.  Every part stands in the
rule as it was written, in one piece.
-/

namespace RuleProbe

namespace Text

theorem cutAux_eq
    {mark before text first second : Text}
    (cut : cutAux mark before text = some (first, second)) :
    first ++ mark ++ second = before.reverse ++ text := by
  induction text generalizing before with
  | nil =>
      rw [cutAux] at cut
      split at cut
      · rename_i empty
        cases cut
        simp [List.isEmpty_iff.mp empty]
      · cases cut
  | cons c rest hypothesis =>
      rw [cutAux] at cut
      split at cut
      · rename_i isPrefix
        cases cut
        obtain ⟨behind, whole⟩ := List.isPrefixOf_iff_prefix.mp isPrefix
        rw [← whole, List.drop_left, List.append_assoc]
      · simpa using hypothesis cut

/-- A text that is cut at a mark is the two parts with the mark between them. -/
theorem cut?_eq
    {mark text first second : Text}
    (cut : cut? mark text = some (first, second)) :
    first ++ mark ++ second = text := by
  simpa using cutAux_eq cut

/-- A mark is skipped before a new part begins only. -/
theorem mem_splitAux
    {mark before text part : Text}
    {skip : Nat}
    (fresh : 0 < skip → before = [])
    (member : part ∈ splitAux mark skip before text) :
    part <:+: before.reverse ++ text := by
  induction text generalizing skip before with
  | nil =>
      have same : part = before.reverse := by
        cases skip <;> simpa [splitAux] using member
      simp [same]
  | cons c rest hypothesis =>
      cases skip with
      | zero =>
          rw [splitAux] at member
          split at member
          · rcases List.mem_cons.mp member with rfl | later
            · exact (List.prefix_append _ _).isInfix
            · refine (hypothesis (fun _ => rfl) later).trans ?_
              exact ⟨before.reverse ++ [c], [], by simp⟩
          · simpa using hypothesis (fun positive => absurd positive (Nat.lt_irrefl 0)) member
      | succ skip =>
          obtain rfl := fresh (Nat.succ_pos skip)
          exact (hypothesis (fun _ => rfl) member).trans (List.suffix_cons c rest).isInfix

/-- A part between marks stands in the text. -/
theorem mem_splitOn {mark text part : Text} (member : part ∈ splitOn mark text) :
    part <:+: text := by
  simpa using mem_splitAux (fun positive => absurd positive (Nat.lt_irrefl 0)) member

end Text

/-! ## Branches -/

namespace Operator

theorem mem_splitMark
    {mark : Char}
    {depth : Nat}
    {before text part : Text}
    (member : part ∈ splitMark mark depth before text) :
    part <:+: before.reverse ++ text := by
  induction depth, before, text using splitMark.induct mark with
  | case1 depth before =>
      have same : part = before.reverse := by
        simpa [splitMark] using member
      simp [same]
  | case2 depth before c =>
      have same : part = (c :: before).reverse := by
        simpa [splitMark] using member
      simp [same]
  | case3 depth before c d rest opens hypothesis =>
      rw [splitMark, if_pos opens] at member
      simpa using hypothesis member
  | case4 depth before c d rest inside closes hypothesis =>
      rw [splitMark, if_neg inside, if_pos closes] at member
      simpa using hypothesis member
  | case5 depth before c d rest inside within cuts hypothesis =>
      rw [splitMark, if_neg inside, if_neg within, if_pos cuts] at member
      rcases List.mem_cons.mp member with rfl | later
      · exact (List.prefix_append _ _).isInfix
      · exact (hypothesis later).trans ⟨before.reverse ++ [c, d], [], by simp⟩
  | case6 depth before c d rest inside within whole hypothesis =>
      rw [splitMark, if_neg inside, if_neg within, if_neg whole] at member
      simpa using hypothesis member

/-- A branch stands in its rule. -/
theorem mem_split {rule part : Text} (member : part ∈ (split rule).2) : part <:+: rule := by
  have ofFind (operators : List Operator) :
      ∀ found, findSplit rule operators = some found → ∀ part ∈ found.2, part <:+: rule := by
    induction operators with
    | nil =>
        intro found none
        cases none
    | cons operator rest hypothesis =>
        intro found here
        rw [findSplit] at here
        split at here
        · cases here
          intro part member
          obtain ⟨piece, kept, rfl⟩ := List.mem_map.mp member
          have cut := mem_splitMark (List.mem_filter.mp kept).1
          exact (Text.trim_isInfix piece).trans (by simpa using cut)
        · exact hypothesis found here
  unfold split at member
  split at member
  · exact List.mem_singleton.mp member ▸ List.infix_refl rule
  · split at member
    · exact ofFind every _ ‹_› part member
    · exact List.mem_singleton.mp member ▸ List.infix_refl rule

end Operator

theorem stripReverse_isInfix (rule : Text) : (stripReverse rule).1 <:+: rule := by
  have trimmed := Text.trim_isInfix rule
  unfold stripReverse
  split
  all_goals first
    | rename_i rest same
      have signed : rest <:+: Text.trim rule := same ▸ (List.suffix_cons _ rest).isInfix
      exact (Text.trim_isInfix rest).trans (signed.trans trimmed)
    | exact trimmed

/-! ## Steps -/

namespace ScriptStep

/-- What a step holds: a rule, or the code of a script. -/
def content : ScriptStep → Text
  | rule text => text
  | code text => text

/-- A text with a script is what stands before its mark, the mark and what stands after it. -/
theorem findOpener_eq
    {before text first mark rest : Text}
    (found : findOpener before text = some (first, mark, rest)) :
    first ++ mark ++ rest = before.reverse ++ text ∧ mark.length = 4 := by
  induction text generalizing before with
  | nil => cases found
  | cons c others hypothesis =>
      rw [findOpener] at found
      split at found
      · rename_i opens
        cases found
        have long : 4 ≤ (c :: others).length := by
          obtain ⟨opener, member, begins⟩ := List.any_eq_true.mp opens
          have within := (Bool.and_eq_true_iff.mp begins).1
          have four : opener.length = 4 := by
            rcases List.mem_cons.mp member with rfl | later
            · rfl
            · rw [List.mem_singleton.mp later]
              rfl
          rw [four] at within
          exact of_decide_eq_true within
        refine ⟨?_, by rw [List.length_take]; omega⟩
        rw [List.append_assoc, List.take_append_drop]
      · simpa using hypothesis found

theorem mem_ruleStep {text : Text} {step : ScriptStep} (member : step ∈ ruleStep text) :
    step.content <:+: text := by
  unfold ruleStep at member
  split at member
  · cases member
  · rw [List.mem_singleton.mp member]
    exact Text.trim_isInfix text

theorem mem_splitSteps
    {fuel : Nat}
    {text : Text}
    {step : ScriptStep}
    (member : step ∈ splitSteps fuel text) :
    step.content <:+: text := by
  induction fuel generalizing text with
  | zero => cases member
  | succ fuel hypothesis =>
      rw [splitSteps] at member
      split at member
      · exact mem_ruleStep member
      · rename_i first mark rest found
        obtain ⟨whole, -⟩ := findOpener_eq found
        rw [List.reverse_nil, List.nil_append] at whole
        have early : first <:+: text := ⟨[], mark ++ rest, by simpa using whole⟩
        have late : rest <:+: text := ⟨first ++ mark, [], by simpa using whole⟩
        rcases List.mem_append.mp member with before | after
        · exact (mem_ruleStep before).trans early
        · split at after
          · rw [List.mem_singleton.mp after]
            exact late
          · dsimp only at after
            split at after
            · rw [List.mem_singleton.mp after]
              exact late
            · rcases List.mem_cons.mp after with rfl | later
              · exact (List.drop_suffix _ _).isInfix.trans (List.take_prefix _ _).isInfix
              · exact (hypothesis later).trans (List.drop_suffix _ _).isInfix

/-- What a step holds stands in its rule. -/
theorem mem_ofRule {rule : Text} {step : ScriptStep} (member : step ∈ ofRule rule) :
    step.content <:+: rule :=
  mem_splitSteps member

end ScriptStep

/-! ## Bodies and expressions -/

/-- The body of a rule with a filter stands in the rule. -/
theorem ReplaceFilter.split_isInfix (rule : Text) : (split rule).1 <:+: rule := by
  unfold split
  split
  · rename_i body pattern rest parts
    have within : body <:+: rule := Text.mem_splitOn (parts ▸ List.mem_cons_self)
    split
    · exact within
    · exact within
  · exact List.infix_refl rule

namespace Template

theorem mem_partsAux
    {fuel : Nat}
    {source inner : Text}
    (member : .expression inner ∈ partsAux fuel source) :
    ∃ inside, inner = Text.trim inside ∧ opening ++ inside ++ closing <:+: source := by
  induction fuel generalizing source with
  | zero => simp [partsAux] at member
  | succ fuel hypothesis =>
      rw [partsAux] at member
      split at member
      · simp at member
      · rename_i before after opened
        have first := Text.cut?_eq opened
        split at member
        · simp at member
        · rename_i inside rest closed
          have second := Text.cut?_eq closed
          simp only [List.mem_cons, Part.expression.injEq, reduceCtorEq, false_or] at member
          rcases member with rfl | later
          · exact ⟨inside, rfl, before, rest, by simp [← first, ← second]⟩
          · obtain ⟨inside', same, within⟩ := hypothesis later
            refine ⟨inside', same, within.trans ⟨before ++ opening ++ inside ++ closing, [], ?_⟩⟩
            simp [← first, ← second]

/-- An expression of a template stands between two marks of it. -/
theorem mem_parts
    {template inner : Text}
    (member : .expression inner ∈ parts template) :
    ∃ inside, inner = Text.trim inside ∧ opening ++ inside ++ closing <:+: template :=
  mem_partsAux member

end Template

end RuleProbe
