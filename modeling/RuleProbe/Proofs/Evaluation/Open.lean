import RuleProbe.Proofs.Evaluation.Fallback

/-!
# Evaluations whose calls are left open

The eight functions of the evaluator call each other at one depth less.  This module names
their calls and gives what a single call does when all the calls that it makes are answered
from outside.  Answered by the evaluator at one depth less, a call does what the evaluator
does.
-/

namespace RuleProbe

namespace Extraction

/-- A call of the evaluator. -/
inductive Call where
  /-- A rule is evaluated. -/
  | rule (context : Context) (rule : Text) (asList : Bool)
  /-- A branch is evaluated. -/
  | branch (context : Context) (rule : Text) (asList : Bool)
  /-- Lines are evaluated, each on the results of the one before. -/
  | lines (context : Context) (first : Text) (rest : List Text) (asList : Bool)
  /-- A single rule is evaluated. -/
  | single (context : Context) (rule : Text) (asList : Bool)
  /-- The body of a single rule is evaluated in its dialect. -/
  | dialect (context : Context) (isJson : Bool) (body : Text) (asList : Bool)
  /-- The directives of a single rule are followed. -/
  | directives (context : Context) (rule : Text)
  /-- A template is filled. -/
  | template (context : Context) (template : Text)
  /-- Steps are followed, each on the result of the one before. -/
  | steps (steps : List ScriptStep) (context : Context) (result : Option Json) (asList : Bool)

namespace Call

/-- What a call answers. -/
abbrev Answer : Call → Type
  | .rule .. => Result
  | .directives .. | .template .. => Text
  | _ => List Found

variable (engine : Engine)

/-- The answer of the evaluator to a call, at a depth. -/
def run (depth : Nat) : (call : Call) → Extract call.Answer
  | .rule context text asList => evaluateAt engine depth context text asList
  | .branch context text asList => evaluateBranch engine depth context text asList
  | .lines context first rest asList => evaluateLines engine depth context first rest asList
  | .single context text asList => evaluateSingle engine depth context text asList
  | .dialect context isJson body asList => evaluateDialect engine depth context isJson body asList
  | .directives context text => applyDirectives engine depth context text
  | .template context text => interpolateAt engine depth context text
  | .steps chain context result asList => evaluateSteps engine depth chain context result asList

/-- The answer to a call when the calls that it makes are answered by `ask`. -/
def answer (ask : (call : Call) → Extract call.Answer) : (call : Call) → Extract call.Answer
  | .rule context text asList =>
      match context.element with
      | some (.plain value) => throw (.defect (.noHandle value.typeName))
      | _ =>
          if context.handle?.any fun handle => handle.document != context.document.serial then
            pure (.failed "Element handle belongs to a different document")
          else if text.isBlankText then pure (.found [])
          else
            catchFlaw (gather (Operator.split (stripReverse text).1).1 (stripReverse text).2 <$>
              (Operator.split (stripReverse text).1).2.mapM fun part =>
                ask (.branch context part asList))
  | .branch context text asList =>
      if hasScript text then ask (.steps (ScriptStep.ofRule text) context none asList)
      else
        match ruleLines text with
        | first :: second :: rest => ask (.lines context first (second :: rest) asList)
        | _ => ask (.single context (Text.trim text) asList)
  | .lines context first rest asList => do
      let found ← ask (.single context first true)
      let count := rest.length
      rest.zipIdx.foldlM
        (fun values (line, i) => do
          let inList := asList || i + 1 < count
          if line.startsWith ReplaceFilter.mark then
            let (_, filter) := ReplaceFilter.split line
            if inList then lift (filterFound context.document.serial filter values)
            else lift (filterTexts filter values)
          else
            let lists ← values.mapM fun value => ask (.branch (context.withFound value) line inList)
            return lists.flatten)
        found
  | .single context text asList => do
      let directed ← ask (.directives context text)
      let (body, filter) := ReplaceFilter.split directed
      let body := Text.trim body
      let found : Extract (List Found) :=
        if body.isEmpty then
          pure (if filter.isSome then texts [context.content] else [])
        else
          match referredGroups? context body with
          | some groups => pure (texts [expandGroups groups body])
          | none =>
              if Template.isTemplate body then
                (fun text => texts [text]) <$> ask (.template context body)
              else do
                let isJson ← liftDefect context.isJson
                ask (.dialect context isJson body asList)
      found >>= filteredFound context filter
  | .dialect context isJson body asList =>
      match Dialect.ofRule body isJson with
      | .chain chain => lift (evaluateChain context chain asList)
      | .xpath expression => lift (evaluateXPath context expression asList)
      | .jsonPath path => lift (evaluateJsonPath context path asList)
      | .regex pattern => lift (evaluateRegex context pattern asList)
      | .script chain => ask (.steps chain context none asList)
  | .directives context text => do
      let (rest, puts) ← lift (Directive.takePuts text)
      puts.forM fun (key, subRule) => do
        let value := (← ask (.rule context subRule false)).firstText
        setVariable key (.str value)
        report
          { level := .info
            topic := .parse
            message := "@put " ++ key ++ " = " ++ Quoted.write (value.take 80)
            details := [("rule", .str subRule)] }
      let store := (← get).store
      return Directive.substituteGet
        (fun key => ((Keyed.get? store key).map Json.fieldText).getD []) rest
  | .template context text => do
      let parts ← (Template.parts text).mapM fun part =>
        match part with
        | .text value => pure value
        | .expression inner => do
            if Template.isRule inner then
              return (← ask (.rule context inner false)).firstText
            else
              let bound? ←
                if Template.isName inner then
                  match Keyed.get? context.extra inner with
                  | some value => pure (some value)
                  | none => stored? inner
                else pure none
              match bound? with
              | some value => return value.fieldText
              | none =>
                  return (← runScript engine context inner context.scriptValue false).fieldText
      return parts.flatten
  | .steps chain context result asList =>
      let serial := context.document.serial
      match chain with
      | [] => pure (valueFound serial asList (result.getD .null))
      | .code code :: rest => do
          let value ← runScript engine context code (result.getD context.scriptValue) false
          match value with
          | .null => return []
          | value => ask (.steps rest (context.withValue value) (some value) asList)
      | .rule text :: rest => do
          let values ←
            ask (.branch context (insertResult result text) (asList && rest.isEmpty))
          if values.isEmpty then return []
          else if rest.isEmpty then return lastFound serial asList values
          else
            let value := stepValue values
            ask (.steps rest (context.withValue value) (some value) asList)

/-- At no depth at all, every call is nested too deeply. -/
theorem run_zero (call : Call) : call.run engine 0 = throw (.defect .recursion) := by
  cases call <;> simp only [run]
  case rule => rw [evaluateAt]
  case branch => rw [evaluateBranch]
  case lines => rw [evaluateLines]
  case single => rw [evaluateSingle]
  case dialect => rw [evaluateDialect]
  case directives => rw [applyDirectives]
  case template => rw [interpolateAt]
  case steps => rw [evaluateSteps]

/-- The evaluator answers a call from its answers at one depth less. -/
theorem run_succ (depth : Nat) (call : Call) :
    call.run engine (depth + 1) = call.answer engine (run engine depth) := by
  cases call <;> simp only [run]
  case rule =>
    simp only [answer, map_eq_pure_bind]
    rw [evaluateAt]
    rfl
  case branch => rw [evaluateBranch]; rfl
  case lines => rw [evaluateLines]; rfl
  case single => rw [evaluateSingle_succ]; rfl
  case dialect => rw [evaluateDialect]; rfl
  case directives => rw [applyDirectives]; rfl
  case template => rw [interpolateAt]; rfl
  case steps chain context result asList =>
    cases chain with
    | nil => rw [evaluateSteps]; rfl
    | cons step rest => cases step <;> (rw [evaluateSteps]; rfl)

end Call

end Extraction

end RuleProbe
