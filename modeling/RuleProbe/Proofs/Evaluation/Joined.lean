import RuleProbe.Proofs.Evaluation.Fallback

/-!
# Joined rules

A rule that an operator cuts is evaluated like its branches as rules of their own, one after
the other, each on the session that the one before leaves.  Their results are joined and
perhaps reversed; and the first branch that fails fails the whole rule, before any later one is
evaluated.
-/

namespace RuleProbe

/-- The sign of a rule asks for reversed results exactly when it is a minus. -/
theorem stripReverse_snd (rule : Text) :
    (stripReverse rule).2 = ((Text.trim rule).head? == some '-') := by
  unfold stripReverse
  split
  · rename_i same
    rw [same]
    rfl
  · rename_i same
    rw [same]
    rfl
  · rename_i minus _
    cases trimmed : Text.trim rule with
    | nil => rfl
    | cons c rest =>
        have other : c ≠ '-' := by
          rintro rfl
          exact minus rest trimmed
        simp [other]

/-- A rule of which an operator leaves branches is not blank. -/
theorem isBlankText_of_split
    {rule : Text}
    {operator : Operator}
    {parts : List Text}
    (cut : Operator.split (stripReverse rule).1 = (some operator, parts)) :
    rule.isBlankText = false := by
  by_contra blank
  have empty : Text.trim rule = [] :=
    (Text.trim_eq_nil_iff rule).mpr (by simpa using blank)
  have none : Operator.split (stripReverse rule).1 = (none, [[]]) := by
    unfold stripReverse
    rw [empty]
    rfl
  rw [none] at cut
  cases cut

namespace Extraction

variable (engine : Engine)

/-! ## Rules in turn -/

/-- Evaluate rules one after the other, up to the first one that fails: the results of all of
them, or the reason of that one. -/
def evaluateInTurn
    (depth : Nat)
    (context : Context)
    (asList : Bool) :
    List Text → Extract (Except Text (List (List Found)))
  | [] => pure (.ok [])
  | rule :: rest => do
      match ← evaluateAt engine depth context rule asList with
      | .failed reason => return .error reason
      | .found values => return (← evaluateInTurn depth context asList rest).map (values :: ·)

/-- The result of rules in turn, given how their results are brought together. -/
def resultInTurn (join : List (List Found) → List Found) :
    Except Text (List (List Found)) → Result
  | .ok lists => .found (join lists)
  | .error reason => .failed reason

theorem resultInTurn_map
    (join : List (List Found) → List Found)
    (values : List Found)
    (others : Except Text (List (List Found))) :
    resultInTurn join (others.map (values :: ·)) =
      resultInTurn (fun lists => join (values :: lists)) others := by
  cases others <;> rfl

/-- Catching the flaws of two computations in a row is catching those of the first one, and
those of the second one after it. -/
theorem catchFlaw_bind
    (action : Extract (List Found))
    (next : List Found → Extract (List Found)) :
    catchFlaw (action >>= next) =
      (catchFlaw action >>= fun result =>
        match result with
        | .failed reason => pure (.failed reason)
        | .found values => catchFlaw (next values)) := by
  refine runFrom_ext fun session => ?_
  rw [runFrom_bind, runFrom_catchFlaw, runFrom_catchFlaw, runFrom_bind]
  cases runFrom action session with
  | mk result after =>
      cases result with
      | ok values => exact (runFrom_catchFlaw (next values) after).symm
      | error fault => cases fault <;> rfl

/-- The results of evaluations one after the other, up to the first one that fails: those of all
of them, or the reason of that one. -/
def inTurn : List (Extract Result) → Extract (Except Text (List (List Found)))
  | [] => pure (.ok [])
  | action :: rest => do
      match ← action with
      | .failed reason => return .error reason
      | .found values => return (← inTurn rest).map (values :: ·)

theorem evaluateInTurn_eq_inTurn
    (depth : Nat)
    (context : Context)
    (asList : Bool)
    (rules : List Text) :
    evaluateInTurn engine depth context asList rules =
      inTurn (rules.map fun rule => evaluateAt engine depth context rule asList) := by
  induction rules with
  | nil => rfl
  | cons rule rest hypothesis => rw [evaluateInTurn, List.map_cons, inTurn, hypothesis]

/-- The flaws of computations may be caught all at once or one after the other. -/
theorem catchFlaw_mapM
    {α : Type}
    (body : α → Extract (List Found))
    (items : List α)
    (join : List (List Found) → List Found) :
    catchFlaw (join <$> items.mapM body) =
      resultInTurn join <$> inTurn (items.map fun item => catchFlaw (body item)) := by
  induction items generalizing join with
  | nil => rfl
  | cons item rest hypothesis =>
      have first :
          (join <$> (item :: rest).mapM body) =
            (body item >>= fun values => (fun lists => join (values :: lists)) <$>
              rest.mapM body) := by
        simp [List.mapM_cons]
      rw [first, catchFlaw_bind, List.map_cons, inTurn, map_bind]
      refine congrArg (catchFlaw _ >>= ·) (funext fun result => ?_)
      cases result with
      | failed reason => rfl
      | found values =>
          simp only [hypothesis fun lists => join (values :: lists), bind_pure_comp,
            Functor.map_map, resultInTurn_map]

/-- Branches that are rules of their own come to the same whether their flaws are caught all
at once or one after the other. -/
theorem catchFlaw_mapM_eq_inTurn
    {depth : Nat}
    {context : Context}
    {asList : Bool}
    {parts : List Text}
    (own : ∀ part ∈ parts, evaluateAt engine (depth + 1) context part asList =
      catchFlaw (evaluateBranch engine depth context part asList))
    (join : List (List Found) → List Found) :
    catchFlaw (join <$> parts.mapM fun part => evaluateBranch engine depth context part asList) =
      resultInTurn join <$> evaluateInTurn engine (depth + 1) context asList parts := by
  rw [catchFlaw_mapM, evaluateInTurn_eq_inTurn, List.map_congr_left own]

/-- In a context in which no rule can be evaluated, all of them end alike at every depth: in a
fault, or in a failure. -/
theorem evaluateAt_unusable
    {context : Context}
    (unusable : ¬context.Usable) :
    (∃ fault, ∀ depth rule asList,
        evaluateAt engine (depth + 1) context rule asList = throw fault) ∨
      ∃ reason, ∀ depth rule asList,
        evaluateAt engine (depth + 1) context rule asList = pure (.failed reason) := by
  cases element : context.element with
  | none =>
      exact absurd ⟨by simp [element], by simp [Context.handle?, element]⟩ unusable
  | some found =>
      cases found with
      | plain value =>
          refine .inl ⟨.defect (.noHandle value.typeName), fun depth rule asList => ?_⟩
          rw [evaluateAt]
          simp only [element]
      | handle pointer =>
          refine .inr ⟨"Element handle belongs to a different document",
            fun depth rule asList => ?_⟩
          have foreign : (pointer.document != context.document.serial) = true := by
            by_contra native
            refine unusable ⟨by simp [element], ?_⟩
            simpa [Context.handle?, element] using native
          rw [evaluateAt]
          simp only [element, Context.handle?, Option.any_some, foreign, if_true]

/-- In a context in which no rule can be evaluated, all of them end alike: in a fault, or in a
failure. -/
theorem evaluateAt_of_not_usable
    {context : Context}
    (unusable : ¬context.Usable)
    (depth : Nat) :
    (∃ fault, ∀ rule asList, evaluateAt engine (depth + 1) context rule asList = throw fault) ∨
      ∃ reason, ∀ rule asList,
        evaluateAt engine (depth + 1) context rule asList = pure (.failed reason) :=
  (evaluateAt_unusable engine unusable).imp (fun ⟨fault, ends⟩ => ⟨fault, ends depth⟩)
    fun ⟨reason, ends⟩ => ⟨reason, ends depth⟩

/-- A rule that an operator cuts into rules without signs and operators of their own is
evaluated like these rules in turn, their results joined by the operator and reversed exactly
when its sign is a minus.  An operator between blanks has no branches at all, and then the
rule is the only one that can tell whether the context can be used. -/
theorem evaluateAt_joined
    {context : Context}
    {rule : Text}
    {operator : Operator}
    {parts : List Text}
    (cut : Operator.split (stripReverse rule).1 = (some operator, parts))
    (unsigned : ∀ part ∈ parts, IsUnsigned part)
    (uncut : ∀ part ∈ parts, (Operator.split part).1 = none)
    (branched : parts ≠ [] ∨ context.Usable)
    (depth : Nat)
    (asList : Bool) :
    evaluateAt engine (depth + 1) context rule asList =
      resultInTurn (gather (some operator) ((Text.trim rule).head? == some '-')) <$>
        evaluateInTurn engine (depth + 1) context asList parts := by
  by_cases usable : context.Usable
  · rw [evaluateAt_of_given engine usable (isBlankText_of_split cut), cut, stripReverse_snd]
    refine catchFlaw_mapM_eq_inTurn engine (fun part member => ?_) _
    obtain ⟨trimmed, nonempty⟩ := Operator.trimmed_of_split cut part member
    exact evaluateAt_uncut engine usable trimmed nonempty (unsigned part member)
      (uncut part member) depth asList
  · obtain ⟨first, rest, rfl⟩ :=
      List.exists_cons_of_ne_nil (branched.resolve_right usable)
    rw [evaluateInTurn]
    rcases evaluateAt_of_not_usable engine usable depth with ⟨fault, ends⟩ | ⟨reason, ends⟩
    · rw [ends, ends]
      rfl
    · rw [ends, ends]
      rfl

/-- A signed rule of two branches, the second of which fails. -/
def flawedRule : Text := "-:a&&:("

/-- The page on which this rule is evaluated. -/
def flawedPage : Context := .ofBody "ab"

theorem evaluateAt_joined_flawed :
    Operator.split (stripReverse flawedRule).1 = (some .all, [":a".toList, ":(".toList]) ∧
      evaluateAt {} depthLimit flawedPage flawedRule false =
        resultInTurn (gather (some .all) ((Text.trim flawedRule).head? == some '-')) <$>
          evaluateInTurn {} depthLimit flawedPage false [":a".toList, ":(".toList] := by
  have cut : Operator.split (stripReverse flawedRule).1 =
      (some .all, [":a".toList, ":(".toList]) := by
    decide +kernel
  have unsigned : ∀ part ∈ [":a".toList, ":(".toList], IsUnsigned part := by decide
  have uncut : ∀ part ∈ [":a".toList, ":(".toList], (Operator.split part).1 = none := by
    decide +kernel
  exact ⟨cut, evaluateAt_joined {} cut unsigned uncut (.inl (List.cons_ne_nil _ _)) 599 false⟩

end Extraction

end RuleProbe
