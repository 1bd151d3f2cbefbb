import RuleProbe.Extraction.Evaluate
import RuleProbe.Proofs.Effects

/-!
# Parts of an evaluation

A single rule is evaluated in three parts: its directives are followed, its body is
evaluated, and what the body finds is filtered.  The equations of this module set these
parts off from one another, and give the run of an evaluation whose flaws are caught.
-/

namespace RuleProbe

namespace Extraction

/-- The context of a body by itself. -/
def Context.ofBody (body : Text) : Context :=
  { document := .ofBody 0 body
    baseUrl := [] }

/-- Catching the flaw of a rule turns it into a result and leaves all else as it is. -/
theorem runFrom_catchFlaw (action : Extract (List Found)) (session : Session) :
    runFrom (catchFlaw action) session =
      match runFrom action session with
      | (.ok values, after) => (.ok (.found values), after)
      | (.error (.rule flaw), after) => (.ok (.failed flaw.message), after)
      | (.error fault, after) => (.error fault, after) := by
  unfold catchFlaw
  rw [runFrom_tryCatch, runFrom_map]
  cases runFrom action session with
  | mk result after =>
      cases result with
      | ok values => rfl
      | error fault => cases fault <;> rfl

/-- The results of an evaluation that has some. -/
def foundIn? (ended : Except Fault Result × Session) : Option (List Found) :=
  match ended.1 with
  | .ok (.found values) => some values
  | _ => none

theorem eq_of_foundIn?
    {ended : Except Fault Result × Session}
    {values : List Found}
    (isFound : foundIn? ended = some values) :
    ∃ after, ended = (.ok (.found values), after) := by
  obtain ⟨outcome, after⟩ := ended
  match outcome with
  | .ok (.found found) =>
      cases isFound
      exact ⟨after, rfl⟩
  | .ok (.failed _) => cases isFound
  | .error _ => cases isFound

variable (engine : Engine)

/-- What the body of a single rule finds, before its filter. -/
def bodyFound
    (depth : Nat)
    (context : Context)
    (isFiltered : Bool)
    (body : Text)
    (asList : Bool) :
    Extract (List Found) :=
  if body.isEmpty then pure (if isFiltered then texts [context.content] else [])
  else
    match referredGroups? context body with
    | some groups => pure (texts [expandGroups groups body])
    | none =>
        if Template.isTemplate body then
          (fun text => texts [text]) <$> interpolateAt engine depth context body
        else do
          let isJson ← liftDefect context.isJson
          evaluateDialect engine depth context isJson body asList

/-- What a filter leaves of results, when there is one. -/
def filteredFound
    (context : Context)
    (filter : Option ReplaceFilter)
    (values : List Found) :
    Extract (List Found) :=
  if filter.isSome then lift (filterFound context.document.serial filter values)
  else pure values

/-- A single rule follows its directives, evaluates its body and filters the results. -/
theorem evaluateSingle_succ
    (depth : Nat)
    (context : Context)
    (rule : Text)
    (asList : Bool) :
    evaluateSingle engine (depth + 1) context rule asList =
      (applyDirectives engine depth context rule >>= fun directed =>
        bodyFound engine depth context (ReplaceFilter.split directed).2.isSome
            (Text.trim (ReplaceFilter.split directed).1) asList >>=
          filteredFound context (ReplaceFilter.split directed).2) := by
  rw [evaluateSingle]
  refine congrArg (applyDirectives engine depth context rule >>= ·) (funext fun directed => ?_)
  unfold bodyFound filteredFound
  simp only
  split
  · rfl
  · cases referredGroups? context (Text.trim (ReplaceFilter.split directed).1) with
    | some groups => rfl
    | none =>
        cases Template.isTemplate (Text.trim (ReplaceFilter.split directed).1) with
        | true => rfl
        | false => exact (bind_assoc ..).symm

/-- The value of a variable that an expression of a template names. -/
def named? (context : Context) (inner : Text) : Extract (Option Json) :=
  if Template.isName inner then
    match Keyed.get? context.extra inner with
    | some value => pure (some value)
    | none => stored? inner
  else pure none

/-- What stands for an expression of a template. -/
def expressionText (depth : Nat) (context : Context) (inner : Text) : Extract Text :=
  if Template.isRule inner then
    Result.firstText <$> evaluateAt engine depth context inner false
  else do
    match ← named? context inner with
    | some value => return value.fieldText
    | none => Json.fieldText <$> runScript engine context inner context.scriptValue false

/-- A template is its parts, each expression replaced by what stands for it. -/
theorem interpolateAt_succ
    (depth : Nat)
    (context : Context)
    (template : Text) :
    interpolateAt engine (depth + 1) context template =
      List.flatten <$> (Template.parts template).mapM fun part =>
        match part with
        | .text value => pure value
        | .expression inner => expressionText engine depth context inner := by
  rw [interpolateAt, map_eq_pure_bind]
  refine congrArg (fun body => (Template.parts template).mapM body >>= _) (funext fun part => ?_)
  cases part with
  | text value => rfl
  | expression inner =>
      simp only [expressionText, named?, map_eq_pure_bind]
      split
      · rfl
      · cases Template.isName inner with
        | false => rfl
        | true => cases Keyed.get? context.extra inner <;> rfl

end Extraction

end RuleProbe
