import RuleProbe.Proofs.Evaluation.Single
import RuleProbe.Proofs.Text

/-!
# Fallbacks

A rule of two branches, the second being a fallback for the first, evaluates both of them,
one after the other, before it asks which of them has results.  So the second branch can
spoil the results of the first one: by a flaw, by a defect, and by what it stores.
-/

namespace RuleProbe

/-! ## Branches -/

namespace Operator

/-- An operator cuts a rule into trimmed branches that are not empty. -/
theorem trimmed_of_split
    {rule : Text}
    {operator : Operator}
    {parts : List Text}
    (cut : split rule = (some operator, parts)) :
    ∀ part ∈ parts, part.Trimmed ∧ part ≠ [] := by
  have ofBranches (pieces : List Text) :
      ∀ part ∈ branches pieces, part.Trimmed ∧ part ≠ [] := by
    intro part member
    obtain ⟨piece, kept, rfl⟩ := List.mem_map.mp member
    refine ⟨Text.trimmed_trim piece, fun empty => ?_⟩
    have blank := (Text.trim_eq_nil_iff piece).mp empty
    simp [List.mem_filter, blank] at kept
  have ofFind (operators : List Operator) :
      ∀ found, findSplit rule operators = some found →
        ∀ part ∈ found.2, part.Trimmed ∧ part ≠ [] := by
    induction operators with
    | nil =>
        intro found none
        cases none
    | cons operator rest hypothesis =>
        intro found here
        rw [findSplit] at here
        split at here
        · cases here
          exact ofBranches _
        · exact hypothesis found here
  unfold split at cut
  split at cut
  · cases cut
  · split at cut
    · cases cut
      exact ofFind every _ ‹_›
    · cases cut

/-- A rule that no operator cuts is its own only branch. -/
theorem split_of_uncut {rule : Text} (uncut : (split rule).1 = none) :
    split rule = (none, [rule]) := by
  unfold split at uncut ⊢
  split
  · rfl
  · split
    · rename_i cut
      rw [if_neg ‹_›, cut] at uncut
      cases uncut
    · rfl

end Operator

/-- A rule begins with no sign. -/
def IsUnsigned (rule : Text) : Prop :=
  rule.head? ≠ some '-' ∧ rule.head? ≠ some '+'

instance (rule : Text) : Decidable (IsUnsigned rule) :=
  inferInstanceAs (Decidable (_ ∧ _))

/-- A rule without a sign is trimmed. -/
theorem stripReverse_of_unsigned_trim
    {rule : Text}
    (unsigned : IsUnsigned (Text.trim rule)) :
    stripReverse rule = (Text.trim rule, false) := by
  unfold stripReverse
  split
  case h_1 same => exact absurd (congrArg List.head? same) unsigned.1
  case h_2 same => exact absurd (congrArg List.head? same) unsigned.2
  case h_3 => rfl

/-- A trimmed rule without a sign is all of itself. -/
theorem stripReverse_of_unsigned
    {rule : Text}
    (trimmed : rule.Trimmed)
    (unsigned : IsUnsigned rule) :
    stripReverse rule = (rule, false) := by
  rw [← trimmed.trim_eq_self] at unsigned
  rw [stripReverse_of_unsigned_trim unsigned, trimmed.trim_eq_self]

/-- A rule with a fallback. -/
def withFallback (first second : Text) : Text :=
  first ++ ['|', '|'] ++ second

theorem withFallback_head?
    {first : Text}
    (nonempty : first ≠ [])
    (second : Text) :
    (withFallback first second).head? = first.head? := by
  cases first with
  | nil => exact absurd rfl nonempty
  | cons c rest => rfl

theorem withFallback_trimmed
    {first second : Text}
    (firstTrimmed : first.Trimmed)
    (firstNonempty : first ≠ [])
    (secondTrimmed : second.Trimmed)
    (secondNonempty : second ≠ []) :
    (withFallback first second).Trimmed where
  first := by
    rw [withFallback_head? firstNonempty]
    exact firstTrimmed.first
  last := by
    rw [withFallback, List.getLast?_append_of_ne_nil _ secondNonempty]
    exact secondTrimmed.last

/-! ## Evaluation -/

namespace Extraction

variable (engine : Engine)

/-- Rules can be evaluated in a context: what is at hand is no plain value and no handle of
another document. -/
structure Context.Usable (context : Context) : Prop where
  /-- What is at hand is no plain value. -/
  attached : ∀ value, context.element ≠ some (.plain value)
  /-- What is at hand is no handle of another document. -/
  native : (context.handle?.any fun handle => handle.document != context.document.serial) = false

/-- A context with a handle of its document at hand can be used. -/
theorem Context.usable_withHandle
    {context : Context}
    {pointer : Handle}
    (own : pointer.document = context.document.serial) :
    (context.withElement (.handle pointer)).Usable where
  attached _ := nofun
  native := by simp [Context.withElement, Context.handle?, own]

/-- A context in which some rule has results can be used. -/
theorem Context.usable_of_found
    {depth : Nat}
    {context : Context}
    {rule : Text}
    {asList : Bool}
    {session after : Session}
    {values : List Found}
    (returned : runFrom (evaluateAt engine depth context rule asList) session =
      (.ok (.found values), after)) :
    context.Usable := by
  cases depth with
  | zero =>
      rw [evaluateAt] at returned
      cases returned
  | succ depth =>
      rw [evaluateAt] at returned
      split at returned
      · cases returned
      · rename_i attached
        simp only at returned
        split at returned
        · cases returned
        · rename_i native
          exact ⟨attached, eq_false_of_ne_true native⟩

/-- The results of branches joined by an operator, and reversed as a whole when the sign of
the rule asks for it. -/
def gather
    (operator : Option Operator)
    (reversed : Bool)
    (lists : List (List Found)) :
    List Found :=
  if reversed then (Operator.combine operator lists).reverse
  else Operator.combine operator lists

/-- A rule that is not blank is evaluated branch by branch. -/
theorem evaluateAt_of_given
    {context : Context}
    (usable : context.Usable)
    {rule : Text}
    (given : rule.isBlankText = false)
    (depth : Nat)
    (asList : Bool) :
    evaluateAt engine (depth + 1) context rule asList =
      catchFlaw (gather (Operator.split (stripReverse rule).1).1 (stripReverse rule).2 <$>
        (Operator.split (stripReverse rule).1).2.mapM fun branch =>
          evaluateBranch engine depth context branch asList) := by
  rw [evaluateAt]
  split
  · exact absurd ‹_› (usable.attached _)
  · simp only [usable.native, given, map_eq_pure_bind]
    rfl

/-- A rule without a sign is evaluated branch by branch. -/
theorem evaluateAt_of_usable
    {context : Context}
    (usable : context.Usable)
    {rule : Text}
    (trimmed : rule.Trimmed)
    (nonempty : rule ≠ [])
    (unsigned : IsUnsigned rule)
    (depth : Nat)
    (asList : Bool) :
    evaluateAt engine (depth + 1) context rule asList =
      catchFlaw (Operator.combine (Operator.split rule).1 <$>
        (Operator.split rule).2.mapM fun branch =>
          evaluateBranch engine depth context branch asList) := by
  have given : rule.isBlankText = false := by
    by_contra blank
    refine nonempty ?_
    rw [← trimmed.trim_eq_self]
    exact (Text.trim_eq_nil_iff rule).mpr (by simpa using blank)
  rw [evaluateAt_of_given engine usable given,
    stripReverse_of_unsigned trimmed unsigned]
  rfl

/-- A rule that no operator cuts has the results of its only branch. -/
theorem evaluateAt_uncut
    {context : Context}
    (usable : context.Usable)
    {rule : Text}
    (trimmed : rule.Trimmed)
    (nonempty : rule ≠ [])
    (unsigned : IsUnsigned rule)
    (uncut : (Operator.split rule).1 = none)
    (depth : Nat)
    (asList : Bool) :
    evaluateAt engine (depth + 1) context rule asList =
      catchFlaw (evaluateBranch engine depth context rule asList) := by
  rw [evaluateAt_of_usable engine usable trimmed nonempty unsigned,
    Operator.split_of_uncut uncut]
  refine congrArg catchFlaw ?_
  simp [Operator.combine]

/-- An evaluation whose flaws are caught has results when the evaluation has them. -/
theorem runFrom_catchFlaw_eq_found_iff
    {action : Extract (List Found)}
    {session after : Session}
    {values : List Found} :
    runFrom (catchFlaw action) session = (.ok (.found values), after) ↔
      runFrom action session = (.ok values, after) := by
  rw [runFrom_catchFlaw]
  cases runFrom action session with
  | mk result state =>
      cases result with
      | ok values => simp
      | error fault => cases fault <;> simp

/-- Where a rule has results, the rule with a fallback has the same results and leaves the
same store exactly when the fallback, evaluated after the rule, succeeds as well and leaves
the store as it is. -/
theorem withFallback_found_iff
    {depth : Nat}
    {context : Context}
    {first second : Text}
    {asList : Bool}
    (cut : Operator.split (withFallback first second) = (some .first, [first, second]))
    (firstUnsigned : IsUnsigned first)
    (secondUnsigned : IsUnsigned second)
    (firstUncut : (Operator.split first).1 = none)
    (secondUncut : (Operator.split second).1 = none)
    {session after : Session}
    {values : List Found}
    (returned : runFrom (evaluateAt engine depth context first asList) session =
      (.ok (.found values), after))
    (nonempty : values ≠ []) :
    (∃ final,
        runFrom (evaluateAt engine depth context (withFallback first second) asList) session =
            (.ok (.found values), final) ∧
          final.store = after.store) ↔
      ∃ others final,
        runFrom (evaluateAt engine depth context second asList) after =
            (.ok (.found others), final) ∧
          final.store = after.store := by
  have usable := Context.usable_of_found engine returned
  obtain ⟨firstTrimmed, firstNonempty⟩ := Operator.trimmed_of_split cut first (by simp)
  obtain ⟨secondTrimmed, secondNonempty⟩ := Operator.trimmed_of_split cut second (by simp)
  have unsigned : IsUnsigned (withFallback first second) := by
    rw [IsUnsigned, withFallback_head? firstNonempty]
    exact firstUnsigned
  have trimmed :=
    withFallback_trimmed firstTrimmed firstNonempty secondTrimmed secondNonempty
  cases depth with
  | zero =>
      rw [evaluateAt] at returned
      cases returned
  | succ depth =>
      rw [evaluateAt_uncut engine usable firstTrimmed firstNonempty firstUnsigned firstUncut,
        runFrom_catchFlaw_eq_found_iff] at returned
      have whole :
          evaluateAt engine (depth + 1) context (withFallback first second) asList =
            catchFlaw (do
              let found ← evaluateBranch engine depth context first asList
              let others ← evaluateBranch engine depth context second asList
              return Operator.firstNonEmpty [found, others]) := by
        rw [evaluateAt_of_usable engine usable trimmed (by simp [withFallback]) unsigned, cut]
        refine congrArg catchFlaw ?_
        simp [Operator.combine]
      rw [whole, evaluateAt_uncut engine usable secondTrimmed secondNonempty secondUnsigned
        secondUncut]
      simp only [runFrom_catchFlaw_eq_found_iff, runFrom_bind_of_ok returned]
      have chosen (others : List Found) : Operator.firstNonEmpty [values, others] = values := by
        cases values with
        | nil => exact absurd rfl nonempty
        | cons value rest => rfl
      constructor
      · rintro ⟨final, ended, kept⟩
        obtain ⟨others, between, run, done⟩ := runFrom_bind_eq_ok_iff.mp ended
        rw [chosen, runFrom_pure] at done
        cases done
        exact ⟨others, final, run, kept⟩
      · rintro ⟨others, final, run, kept⟩
        refine ⟨final, ?_, kept⟩
        rw [runFrom_bind_of_ok run, chosen, runFrom_pure]

/-- The evaluation of a rule on a page of two letters. -/
def lettersRun (rule : Text) : Except Fault Result × Session :=
  runFrom (evaluate {} (.ofBody "ab") rule) ⟨[], []⟩

theorem lettersRun_found :
    ∃ values after, lettersRun ":a" = (.ok (.found values), after) ∧ values ≠ [] := by
  have given : (foundIn? (lettersRun ":a")).any (fun values => !values.isEmpty) = true := by
    decide +kernel
  obtain ⟨values, isFound, notEmpty⟩ := (Option.any_eq_true _ _).mp given
  obtain ⟨after, returned⟩ := eq_of_foundIn? isFound
  exact ⟨values, after, returned, by simpa using notEmpty⟩

/-- The equivalence at a fallback that succeeds. -/
theorem withFallback_found_iff_letters :
    Operator.split (withFallback ":a" ":b") = (some .first, [":a".toList, ":b".toList]) ∧
      ∃ values after, lettersRun ":a" = (.ok (.found values), after) ∧ values ≠ [] ∧
        ((∃ final, lettersRun (withFallback ":a" ":b") = (.ok (.found values), final) ∧
            final.store = after.store) ↔
          ∃ others final,
            runFrom (evaluate {} (.ofBody "ab") ":b") after = (.ok (.found others), final) ∧
              final.store = after.store) := by
  have cut : Operator.split (withFallback ":a" ":b") =
      (some .first, [":a".toList, ":b".toList]) := by
    decide +kernel
  obtain ⟨values, after, returned, nonempty⟩ := lettersRun_found
  exact ⟨cut, values, after, returned, nonempty,
    withFallback_found_iff {} cut (by decide) (by decide) (by decide +kernel)
      (by decide +kernel) returned nonempty⟩

/-- A rule that has results has none with a fallback that cannot be read. -/
theorem withFallback_flawed :
    Operator.split (withFallback ":a" ":(") = (some .first, [":a".toList, ":(".toList]) ∧
      (∃ values after, lettersRun ":a" = (.ok (.found values), after) ∧ values ≠ []) ∧
        ¬∃ values after, lettersRun (withFallback ":a" ":(") = (.ok (.found values), after) := by
  refine ⟨by decide +kernel, lettersRun_found, ?_⟩
  rintro ⟨values, after, returned⟩
  have noneFound : (foundIn? (lettersRun (withFallback ":a" ":("))).isSome = false := by
    decide +kernel
  rw [returned] at noneFound
  cases noneFound

end Extraction

end RuleProbe
