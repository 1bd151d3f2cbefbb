import RuleProbe.Extraction.Dialects
import RuleProbe.Rule.Dialect
import RuleProbe.Rule.Directive
import RuleProbe.Rule.Operator

/-!
# Evaluating rules

A rule falls into branches that an operator joins.  A branch is a chain of scripts and
rules, a chain of lines, or a single rule; a single rule stores and inserts variables,
fills its templates, is evaluated in its dialect and is filtered at last.  Rules that
lead back to themselves through variables are evaluated to a limited depth.
-/

namespace RuleProbe

namespace Extraction

variable (engine : Engine)

/-- The lines of a rule that are not blank, blanks around them dropped. -/
def ruleLines (rule : Text) : List Text :=
  ((Text.lines rule).map Text.trim).filter fun line => !line.isEmpty

/-- A reference to a group stands in a text. -/
def hasGroupReference : Text → Bool
  | '$' :: d :: rest => (Letter.decimalValue? d.toNat).isSome || hasGroupReference (d :: rest)
  | _ :: rest => hasGroupReference rest
  | [] => false

/-- A text with the references to groups replaced by the groups, as far as there are
any. -/
def expandGroups (groups : List (Option Text)) (body : Text) : Text :=
  ReplaceFilter.expand (fun index => (groups[index]?).map fun group => group.getD []) body

/-- The groups at hand that a rule refers to. -/
def referredGroups? (context : Context) (body : Text) : Option (List (Option Text)) :=
  match context.handle?.map Handle.target with
  | some (.groups groups) => if hasGroupReference body then some groups else none
  | _ => none

/-- The results of a chain of steps whose result is a value: an array gives its items. -/
def valueFound (serial : Nat) (asList : Bool) (value : Json) : List Found :=
  let values :=
    match value with
    | .null => []
    | .arr items => items.map Found.plain
    | value => [.plain value]
  if asList then Found.wrap serial values else values

/-- The results of a chain of steps that ends in a rule: a single array gives its
items. -/
def lastFound (serial : Nat) (asList : Bool) (values : List Found) : List Found :=
  let values :=
    match values with
    | [.plain (.arr items)] => items.map Found.plain
    | values => values
  if asList then Found.wrap serial values else values

/-- Results as the value that the next step works on: one by itself, several as an
array. -/
def stepValue (values : List Found) : Json :=
  let plain (found : Found) : Json :=
    match found with
    | .plain value => value
    | .handle handle => handle.scriptValue
  match values with
  | [found] => plain found
  | values => .arr (values.map plain)

/-- A rule in which the mark of the result before is replaced by its text. -/
def insertResult (result : Option Json) (rule : Text) : Text :=
  match result with
  | some value => Text.replaceAll "@result".toList value.fieldText rule
  | none => rule

mutual

/-- Evaluate a rule; `depth` bounds the nesting of evaluations. -/
def evaluateAt : Nat → Context → Text → Bool → Extract Result
  | 0, _, _, _ => throw (.defect .recursion)
  | depth + 1, context, rule, asList =>
      match context.element with
      | some (.plain value) => throw (.defect (.noHandle value.typeName))
      | _ =>
          let foreign := context.handle?.any fun handle =>
            handle.document != context.document.serial
          if foreign then pure (.failed "Element handle belongs to a different document")
          else if rule.isBlankText then pure (.found [])
          else
            let (body, reversed) := stripReverse rule
            let (operator, branches) := Operator.split body
            catchFlaw do
              let lists ← branches.mapM fun branch => evaluateBranch depth context branch asList
              let values := Operator.combine operator lists
              return if reversed then values.reverse else values

/-- Evaluate a branch. -/
def evaluateBranch : Nat → Context → Text → Bool → Extract (List Found)
  | 0, _, _, _ => throw (.defect .recursion)
  | depth + 1, context, rule, asList =>
      if hasScript rule then
        evaluateSteps depth (ScriptStep.ofRule rule) context none asList
      else
        match ruleLines rule with
        | first :: second :: rest =>
            evaluateLines depth context first (second :: rest) asList
        | _ => evaluateSingle depth context (Text.trim rule) asList

/-- Evaluate lines, each on every result of the one before. -/
def evaluateLines : Nat → Context → Text → List Text → Bool → Extract (List Found)
  | 0, _, _, _, _ => throw (.defect .recursion)
  | depth + 1, context, first, rest, asList => do
      let found ← evaluateSingle depth context first true
      let count := rest.length
      rest.zipIdx.foldlM
        (fun values (line, i) => do
          let inList := asList || i + 1 < count
          if line.startsWith ReplaceFilter.mark then
            let (_, filter) := ReplaceFilter.split line
            if inList then lift (filterFound context.document.serial filter values)
            else lift (filterTexts filter values)
          else
            let lists ← values.mapM fun value =>
              evaluateBranch depth (context.withFound value) line inList
            return lists.flatten)
        found

/-- Evaluate a single rule. -/
def evaluateSingle : Nat → Context → Text → Bool → Extract (List Found)
  | 0, _, _, _ => throw (.defect .recursion)
  | depth + 1, context, rule, asList => do
      let rule ← applyDirectives depth context rule
      let (body, filter) := ReplaceFilter.split rule
      let body := Text.trim body
      let values ←
        if body.isEmpty then
          pure (if filter.isSome then texts [context.content] else [])
        else
          match referredGroups? context body with
          | some groups => pure (texts [expandGroups groups body])
          | none =>
              if Template.isTemplate body then
                (fun text => texts [text]) <$> interpolateAt depth context body
              else do
                let isJson ← liftDefect context.isJson
                evaluateDialect depth context isJson body asList
      if filter.isSome then lift (filterFound context.document.serial filter values)
      else return values

/-- Evaluate a rule in its dialect. -/
def evaluateDialect : Nat → Context → Bool → Text → Bool → Extract (List Found)
  | 0, _, _, _, _ => throw (.defect .recursion)
  | depth + 1, context, isJson, body, asList =>
      match Dialect.ofRule body isJson with
      | .chain chain => lift (evaluateChain context chain asList)
      | .xpath expression => lift (evaluateXPath context expression asList)
      | .jsonPath path => lift (evaluateJsonPath context path asList)
      | .regex pattern => lift (evaluateRegex context pattern asList)
      | .script steps => evaluateSteps depth steps context none asList

/-- Store what a rule asks for, and insert what it refers to. -/
def applyDirectives : Nat → Context → Text → Extract Text
  | 0, _, _ => throw (.defect .recursion)
  | depth + 1, context, rule => do
      let (rest, puts) ← lift (Directive.takePuts rule)
      puts.forM fun (key, subRule) => do
        let value := (← evaluateAt depth context subRule false).firstText
        setVariable key (.str value)
        report
          { level := .info
            topic := .parse
            message := "@put " ++ key ++ " = " ++ Quoted.write (value.take 80)
            details := [("rule", .str subRule)] }
      let store := (← get).store
      return Directive.substituteGet
        (fun key => ((Keyed.get? store key).map Json.fieldText).getD []) rest

/-- Fill a template. -/
def interpolateAt : Nat → Context → Text → Extract Text
  | 0, _, _ => throw (.defect .recursion)
  | depth + 1, context, template => do
      let parts ← (Template.parts template).mapM fun part =>
        match part with
        | .text value => pure value
        | .expression inner => do
            if Template.isRule inner then
              return (← evaluateAt depth context inner false).firstText
            else
              let bound? ←
                if Template.isName inner then
                  match Keyed.get? context.extra inner with
                  | some value => pure (some value)
                  | none => stored? inner
                else pure none
              match bound? with
              | some value => return value.fieldText
              | none =>
                  return (← runScript engine context inner context.scriptValue false).fieldText
      return parts.flatten

/-- Follow steps, each on the result of the one before. -/
def evaluateSteps :
    Nat → List ScriptStep → Context → Option Json → Bool → Extract (List Found)
  | 0, _, _, _, _ => throw (.defect .recursion)
  | depth + 1, steps, context, result, asList =>
      let serial := context.document.serial
      match steps with
      | [] => pure (valueFound serial asList (result.getD .null))
      | .code code :: rest => do
          let value ← runScript engine context code (result.getD context.scriptValue) false
          match value with
          | .null => return []
          | value => evaluateSteps depth rest (context.withValue value) (some value) asList
      | .rule rule :: rest => do
          let values ←
            evaluateBranch depth context (insertResult result rule) (asList && rest.isEmpty)
          if values.isEmpty then return []
          else if rest.isEmpty then return lastFound serial asList values
          else
            let value := stepValue values
            evaluateSteps depth rest (context.withValue value) (some value) asList

end

/-- The depth to which evaluations may be nested. -/
def depthLimit : Nat := 600

/-- Evaluate a rule for its values. -/
def evaluate (context : Context) (rule : Text) : Extract Result :=
  evaluateAt engine depthLimit context rule false

/-- Evaluate a rule for handles. -/
def evaluateList (context : Context) (rule : Text) : Extract Result :=
  evaluateAt engine depthLimit context rule true

/-- Fill a template. -/
def interpolate (context : Context) (template : Text) : Extract Text :=
  interpolateAt engine depthLimit context template

/-- The rule that a value of a definition holds: text, or none at all. -/
def ruleOf (value : Json) : Except Defect Text :=
  match value with
  | .str rule => .ok rule
  | value => if value.isGiven then .error (.noRule value.typeName) else .ok []

end Extraction

end RuleProbe
