import RuleProbe.Proofs.Directive
import RuleProbe.Proofs.Evaluation.Fallback
import RuleProbe.Proofs.Template

/-!
# Simple rules

A rule of one line without scripts and operators is evaluated as a whole.  When it has no opening
brace either, nothing is stored, inserted or filled on the way: the evaluation needs a depth of
four, and leaves the session as it is.
-/

namespace RuleProbe

namespace Extraction

/-! ## Rules that are evaluated as a whole -/

/-- A rule of one line holds neither a script nor an operator. -/
structure Whole (rule : Text) : Prop where
  /-- No line ends in the rule. -/
  line : ∀ c ∈ rule, Text.isBreak c = false
  /-- No script stands in it. -/
  scriptless : hasScript rule = false
  /-- No operator stands in it. -/
  uncut : ∀ operator : Operator, Undoubled operator.mark rule
  /-- No template opens in it. -/
  unopened : Undoubled '\x7b' rule

theorem Whole.of_isInfix {rule part : Text} (whole : Whole rule) (inside : part <:+: rule) :
    Whole part where
  line c member := whole.line c (inside.subset member)
  scriptless := hasScript_eq_false_of_isInfix inside whole.scriptless
  uncut operator := (whole.uncut operator).of_isInfix inside
  unopened := whole.unopened.of_isInfix inside

variable (engine : Engine)

/-- A branch without scripts that has at most one line is a single rule. -/
theorem evaluateBranch_alone
    {branch : Text}
    (scriptless : hasScript branch = false)
    (alone : (ruleLines branch).length ≤ 1)
    (depth : Nat)
    (context : Context)
    (asList : Bool) :
    evaluateBranch engine (depth + 1) context branch asList =
      evaluateSingle engine depth context (Text.trim branch) asList := by
  rw [evaluateBranch, scriptless]
  simp only [Bool.false_eq_true, if_false]
  split
  case h_1 same =>
    rw [same] at alone
    simp at alone
  case h_2 => rfl

/-- A rule in which no line ends has no second line. -/
theorem Whole.alone {rule : Text} (whole : Whole rule) : (ruleLines rule).length ≤ 1 := by
  unfold ruleLines
  cases rule with
  | nil => decide
  | cons c rest =>
      rw [Text.lines_of_unbroken (List.cons_ne_nil c rest) whole.line]
      exact (List.length_filter_le _ _).trans (by simp)

/-- A branch that is evaluated as a whole is a single rule. -/
theorem evaluateBranch_whole
    {branch : Text}
    (whole : Whole branch)
    (depth : Nat)
    (context : Context)
    (asList : Bool) :
    evaluateBranch engine (depth + 1) context branch asList =
      evaluateSingle engine depth context (Text.trim branch) asList :=
  evaluateBranch_alone engine whole.scriptless whole.alone depth context asList

/-- The results of a single rule, reversed when its sign asks for it. -/
def turned (reversed : Bool) (found : List Found) : List Found :=
  if reversed then found.reverse else found

theorem mem_turned {reversed : Bool} {values : List Found} {value : Found} :
    value ∈ turned reversed values ↔ value ∈ values := by
  cases reversed with
  | true => exact List.mem_reverse
  | false => rfl

/-- A rule that no operator cuts has the results of its only branch, without its sign. -/
theorem evaluateAt_of_split
    {context : Context}
    (usable : context.Usable)
    {rule : Text}
    (given : rule.isBlankText = false)
    (uncut : Operator.split (stripReverse rule).1 = (none, [(stripReverse rule).1]))
    (depth : Nat)
    (asList : Bool) :
    evaluateAt engine (depth + 1) context rule asList =
      catchFlaw (turned (stripReverse rule).2 <$>
        evaluateBranch engine depth context (stripReverse rule).1 asList) := by
  rw [evaluateAt_of_given engine usable given, uncut]
  refine congrArg catchFlaw ?_
  simp only [List.mapM_cons, List.mapM_nil, map_eq_pure_bind, bind_assoc, pure_bind]
  refine congrArg (_ >>= ·) (funext fun found => ?_)
  rfl

/-- A rule that is evaluated as a whole has the results of the single rule without its sign. -/
theorem evaluateAt_whole
    {context : Context}
    (usable : context.Usable)
    {rule : Text}
    (whole : Whole rule)
    (given : rule.isBlankText = false)
    (depth : Nat)
    (asList : Bool) :
    evaluateAt engine (depth + 2) context rule asList =
      catchFlaw (turned (stripReverse rule).2 <$>
        evaluateSingle engine depth context (Text.trim (stripReverse rule).1) asList) := by
  have body := whole.of_isInfix (stripReverse_isInfix rule)
  rw [evaluateAt_of_split engine usable given
    (Operator.split_of_undoubled body.uncut body.unopened), evaluateBranch_whole engine body]

/-! ## Simple rules -/

/-- A rule of one line holds neither a script nor an operator nor an opening brace. -/
structure Simple (rule : Text) : Prop where
  /-- No line ends in the rule. -/
  line : ∀ c ∈ rule, Text.isBreak c = false
  /-- No script stands in it. -/
  scriptless : hasScript rule = false
  /-- No operator stands in it. -/
  uncut : ∀ operator : Operator, Undoubled operator.mark rule
  /-- No opening brace stands in it. -/
  braceless : '\x7b' ∉ rule

namespace Simple

variable {rule : Text}

theorem whole (simple : Simple rule) : Whole rule :=
  { simple with unopened := .of_not_mem simple.braceless }

theorem of_isInfix (simple : Simple rule) {part : Text} (inside : part <:+: rule) :
    Simple part :=
  { simple.whole.of_isInfix inside with
    braceless := fun member => simple.braceless (inside.subset member) }

/-- A simple rule has no directive. -/
theorem takePuts_eq (simple : Simple rule) :
    Directive.takePuts rule = .ok (Text.trim rule, []) :=
  Directive.takePuts_of_none fun _ within =>
    Directive.directive?_of_not_mem fun member => simple.braceless (within.subset member)

theorem substituteGet_eq (simple : Simple rule) (lookup : Text → Text) :
    Directive.substituteGet lookup rule = rule :=
  Directive.substituteGet_of_none (fun _ within =>
    Directive.directive?_of_not_mem fun member => simple.braceless (within.subset member)) lookup

end Simple

/-- Directives that are not there leave a rule as it is. -/
theorem applyDirectives_of_eq
    {rule : Text}
    (putless : Directive.takePuts rule = .ok (Text.trim rule, []))
    (getless : ∀ lookup, Directive.substituteGet lookup (Text.trim rule) = Text.trim rule)
    (depth : Nat)
    (context : Context) :
    applyDirectives engine (depth + 1) context rule = pure (Text.trim rule) := by
  refine runFrom_ext fun session => ?_
  rw [applyDirectives, putless]
  simp only [lift, runFrom_bind, runFrom_ofExcept, runFrom_get, runFrom_pure, getless,
    List.forM_eq_forM, List.forM_nil]

/-- Nothing is stored for a simple rule, and nothing is inserted into it. -/
theorem applyDirectives_simple
    {rule : Text}
    (simple : Simple rule)
    (depth : Nat)
    (context : Context) :
    applyDirectives engine (depth + 1) context rule = pure (Text.trim rule) :=
  applyDirectives_of_eq engine simple.takePuts_eq
    (simple.of_isInfix (Text.trim_isInfix rule)).substituteGet_eq depth context

/-- The dialect of a rule without scripts is read in one piece. -/
theorem evaluateDialect_scriptless
    {body : Text}
    (scriptless : hasScript (Text.trim body) = false)
    (depth : Nat)
    (context : Context)
    (isJson asList : Bool) :
    evaluateDialect engine (depth + 1) context isJson body asList =
      evaluateDialect engine 1 context isJson body asList := by
  rw [evaluateDialect, evaluateDialect]
  split
  case h_5 steps scripted =>
    rw [(Dialect.steps_of_script scripted).1] at scriptless
    cases scriptless
  all_goals rfl

/-- The body of a simple rule is evaluated at once. -/
theorem bodyFound_simple
    {body : Text}
    (simple : Simple body)
    (depth : Nat)
    (context : Context)
    (isFiltered asList : Bool) :
    bodyFound engine (depth + 1) context isFiltered body asList =
      bodyFound engine 1 context isFiltered body asList := by
  have bare := simple.of_isInfix (Text.trim_isInfix body)
  have plain : Template.isTemplate body = false := Text.contains_of_not_mem simple.braceless
  unfold bodyFound
  simp only [plain, evaluateDialect_scriptless engine bare.scriptless, Bool.false_eq_true,
    if_false]

/-- What follows the directives of a single rule. -/
def concludeSingle (depth : Nat) (context : Context) (asList : Bool) (directed : Text) :
    Extract (List Found) :=
  bodyFound engine depth context (ReplaceFilter.split directed).2.isSome
      (Text.trim (ReplaceFilter.split directed).1) asList >>=
    filteredFound context (ReplaceFilter.split directed).2

/-- A single rule follows its directives, and is concluded as what they leave of it. -/
theorem evaluateSingle_eq
    (depth : Nat)
    (context : Context)
    (rule : Text)
    (asList : Bool) :
    evaluateSingle engine (depth + 1) context rule asList =
      applyDirectives engine depth context rule >>= concludeSingle engine depth context asList :=
  evaluateSingle_succ engine depth context rule asList

theorem concludeSingle_simple
    {directed : Text}
    (simple : Simple directed)
    (depth : Nat)
    (context : Context)
    (asList : Bool) :
    concludeSingle engine (depth + 1) context asList directed =
      concludeSingle engine 1 context asList directed := by
  have body : Simple (Text.trim (ReplaceFilter.split directed).1) :=
    simple.of_isInfix ((Text.trim_isInfix _).trans (ReplaceFilter.split_isInfix directed))
  unfold concludeSingle
  rw [bodyFound_simple engine body]

/-- A single rule that is simple is concluded at once. -/
theorem evaluateSingle_simple
    {rule : Text}
    (simple : Simple rule)
    (depth : Nat)
    (context : Context)
    (asList : Bool) :
    evaluateSingle engine (depth + 2) context rule asList =
      concludeSingle engine 1 context asList (Text.trim rule) := by
  have trimmed := simple.of_isInfix (Text.trim_isInfix rule)
  rw [evaluateSingle_eq, applyDirectives_simple engine simple, pure_bind]
  exact concludeSingle_simple engine trimmed depth context asList

/-- A blank rule has no results. -/
theorem evaluateAt_blank
    {context : Context}
    (usable : context.Usable)
    {rule : Text}
    (blank : rule.isBlankText = true)
    (depth : Nat)
    (asList : Bool) :
    evaluateAt engine (depth + 1) context rule asList = pure (.found []) := by
  rw [evaluateAt]
  split
  · exact absurd ‹_› (usable.attached _)
  · simp only [usable.native, blank]
    rfl

/-- A simple rule is evaluated alike at all depths from four on. -/
theorem evaluateAt_simple
    {context : Context}
    (usable : context.Usable)
    {rule : Text}
    (simple : Simple rule)
    (depth : Nat)
    (asList : Bool) :
    evaluateAt engine (depth + 4) context rule asList =
      evaluateAt engine 4 context rule asList := by
  cases blank : rule.isBlankText with
  | true => rw [evaluateAt_blank engine usable blank, evaluateAt_blank engine usable blank 3]
  | false =>
      have single : Simple (Text.trim (stripReverse rule).1) :=
        simple.of_isInfix ((Text.trim_isInfix _).trans (stripReverse_isInfix rule))
      rw [evaluateAt_whole engine usable simple.whole blank,
        evaluateAt_whole engine usable simple.whole blank 2, evaluateSingle_simple engine single,
        evaluateSingle_simple engine single 0]

/-! ## Simple rules leave the session as it is -/

theorem lift_still {α : Type} (value : Except Fault α) : Leads Eq (lift value) :=
  .of_except value

theorem evaluateDialect_still
    {body : Text}
    (scriptless : hasScript (Text.trim body) = false)
    (context : Context)
    (isJson asList : Bool) :
    Leads Eq (evaluateDialect engine 1 context isJson body asList) := by
  rw [evaluateDialect]
  split
  case h_5 steps scripted =>
    rw [(Dialect.steps_of_script scripted).1] at scriptless
    cases scriptless
  all_goals exact lift_still _

theorem bodyFound_still
    {body : Text}
    (simple : Simple body)
    (context : Context)
    (isFiltered asList : Bool) :
    Leads Eq (bodyFound engine 1 context isFiltered body asList) := by
  have bare := simple.of_isInfix (Text.trim_isInfix body)
  have plain : Template.isTemplate body = false := Text.contains_of_not_mem simple.braceless
  unfold bodyFound
  rw [plain]
  split
  · exact .of_pure _
  · split
    · exact .of_pure _
    · refine (lift_still _).bind fun isJson => ?_
      exact evaluateDialect_still engine bare.scriptless context isJson asList

theorem concludeSingle_still
    {directed : Text}
    (simple : Simple directed)
    (context : Context)
    (asList : Bool) :
    Leads Eq (concludeSingle engine 1 context asList directed) := by
  have body : Simple (Text.trim (ReplaceFilter.split directed).1) :=
    simple.of_isInfix ((Text.trim_isInfix _).trans (ReplaceFilter.split_isInfix directed))
  refine (bodyFound_still engine body context _ asList).bind fun found => ?_
  unfold filteredFound
  split
  · exact lift_still _
  · exact .of_pure _

/-- What becomes of the flaw of a rule does not touch the session. -/
theorem catchFlaw_session (action : Extract (List Found)) (session : Session) :
    (runFrom (catchFlaw action) session).2 = (runFrom action session).2 := by
  rw [runFrom_catchFlaw]
  cases runFrom action session with
  | mk result after =>
      cases result with
      | ok values => rfl
      | error fault => cases fault <;> rfl

/-- The evaluation of a simple rule leaves the session as it is. -/
theorem evaluateAt_still
    {context : Context}
    (usable : context.Usable)
    {rule : Text}
    (simple : Simple rule)
    (depth : Nat)
    (asList : Bool) :
    Leads Eq (evaluateAt engine (depth + 4) context rule asList) := by
  cases blank : rule.isBlankText with
  | true =>
      rw [evaluateAt_blank engine usable blank]
      exact .of_pure _
  | false =>
      have single : Simple (Text.trim (stripReverse rule).1) :=
        simple.of_isInfix ((Text.trim_isInfix _).trans (stripReverse_isInfix rule))
      rw [evaluateAt_whole engine usable simple.whole blank, evaluateSingle_simple engine single]
      have trimmed := single.of_isInfix (Text.trim_isInfix _)
      intro session
      rw [catchFlaw_session]
      exact (concludeSingle_still engine trimmed context asList).map _ session

end Extraction

end RuleProbe
