import RuleProbe.Proofs.Evaluation.Single
import RuleProbe.Proofs.Parallel

/-!
# Evaluations do not read the log

From two sessions with the same variables, an evaluation ends alike and leaves the same
variables, whatever the logs of the sessions hold.
-/

namespace RuleProbe

namespace Extraction

/-- Two sessions have the same variables. -/
def SameStore (one two : Session) : Prop :=
  two.store = one.store

/-- An evaluation does not read the log. -/
abbrev Blind {α : Type} (action : Extract α) : Prop :=
  Parallel SameStore id action action

variable (engine : Engine)

/-! ## What is shared -/

theorem report_blind (entry : Log) : Blind (report entry) :=
  .of_modify fun _ _ same => same

theorem setVariable_blind (key : Text) (value : Json) : Blind (setVariable key value) :=
  .of_modify fun _ _ same => congrArg (fun store => Keyed.put store key value) same

/-- What is asked of the store is the same in sessions with the same variables. -/
theorem blind_of_store {α : Type} (ask : Json.Members → Except Fault α) :
    Blind ((get : Extract Session) >>= fun session => lift (ask session.store)) := by
  intro one two same
  have asked : ask two.store = ask one.store := congrArg ask same
  rw [runFrom_bind, runFrom_bind, runFrom_get, runFrom_get]
  simp only [asked]
  exact Parallel.of_except (ask one.store) one two same

theorem stored?_blind (key : Text) : Blind (stored? key) :=
  blind_of_store fun store => .ok (Keyed.get? store key)

theorem catchFlaw_blind
    {action : Extract (List Found)}
    (blind : Blind action) :
    Blind (catchFlaw action) := by
  unfold catchFlaw
  refine (blind.alike Result.found).tryCatch fun fault => ?_
  split
  · exact .of_pure _
  · exact .of_throw _

theorem runScript_blind
    (context : Context)
    (code : Text)
    (input : Json)
    (required : Bool) :
    Blind (runScript engine context code input required) := by
  unfold runScript
  simp only
  rw [← bind_assoc]
  refine (blind_of_store fun store => Except.mapError Fault.defect
    (Sandbox.run engine.timeout code _ store)).andThen fun ended => ?_
  refine Parallel.andThen (.of_modify fun _ _ _ => rfl) fun _ => ?_
  cases ended.outcome with
  | value value => exact .of_pure value
  | failed reason =>
      refine (report_blind _).andThen fun _ => ?_
      exact .ite (.of_throw _) (.of_pure _)

/-! ## Evaluations -/

/-- At a depth, no way to evaluate reads the log. -/
structure BlindAt (depth : Nat) : Prop where
  rule (context : Context) (rule : Text) (asList : Bool) :
    Blind (evaluateAt engine depth context rule asList)
  branch (context : Context) (rule : Text) (asList : Bool) :
    Blind (evaluateBranch engine depth context rule asList)
  lines (context : Context) (first : Text) (rest : List Text) (asList : Bool) :
    Blind (evaluateLines engine depth context first rest asList)
  single (context : Context) (rule : Text) (asList : Bool) :
    Blind (evaluateSingle engine depth context rule asList)
  dialect (context : Context) (isJson : Bool) (body : Text) (asList : Bool) :
    Blind (evaluateDialect engine depth context isJson body asList)
  directives (context : Context) (rule : Text) :
    Blind (applyDirectives engine depth context rule)
  template (context : Context) (template : Text) :
    Blind (interpolateAt engine depth context template)
  steps (steps : List ScriptStep) (context : Context) (result : Option Json) (asList : Bool) :
    Blind (evaluateSteps engine depth steps context result asList)

namespace BlindAt

variable {engine}
variable {depth : Nat}

theorem zero : BlindAt engine 0 where
  rule _ _ _ := by
    rw [evaluateAt]
    exact .of_throw _
  branch _ _ _ := by
    rw [evaluateBranch]
    exact .of_throw _
  lines _ _ _ _ := by
    rw [evaluateLines]
    exact .of_throw _
  single _ _ _ := by
    rw [evaluateSingle]
    exact .of_throw _
  dialect _ _ _ _ := by
    rw [evaluateDialect]
    exact .of_throw _
  directives _ _ := by
    rw [applyDirectives]
    exact .of_throw _
  template _ _ := by
    rw [interpolateAt]
    exact .of_throw _
  steps _ _ _ _ := by
    rw [evaluateSteps]
    exact .of_throw _

theorem rule_succ
    (below : BlindAt engine depth)
    (context : Context)
    (rule : Text)
    (asList : Bool) :
    Blind (evaluateAt engine (depth + 1) context rule asList) := by
  rw [evaluateAt]
  split
  · exact .of_throw _
  · refine .ite (.of_pure _) (.ite (.of_pure _) (catchFlaw_blind ?_))
    exact (Parallel.mapM fun branch _ => below.branch context branch asList).andThen
      fun _ => .of_pure _

theorem branch_succ
    (below : BlindAt engine depth)
    (context : Context)
    (rule : Text)
    (asList : Bool) :
    Blind (evaluateBranch engine (depth + 1) context rule asList) := by
  rw [evaluateBranch]
  refine .ite (below.steps _ context none asList) ?_
  split
  · exact below.lines context _ _ asList
  · exact below.single context _ asList

theorem lines_succ
    (below : BlindAt engine depth)
    (context : Context)
    (first : Text)
    (rest : List Text)
    (asList : Bool) :
    Blind (evaluateLines engine (depth + 1) context first rest asList) := by
  rw [evaluateLines]
  refine (below.single context first true).andThen fun found => ?_
  refine Parallel.foldlM (fun values line _ => ?_) found
  refine .ite (.ite (.of_except _) (.of_except _)) ?_
  exact (Parallel.mapM fun value _ => below.branch (context.withFound value) line.1 _).andThen
    fun _ => .of_pure _

theorem single_succ
    (below : BlindAt engine depth)
    (context : Context)
    (rule : Text)
    (asList : Bool) :
    Blind (evaluateSingle engine (depth + 1) context rule asList) := by
  rw [evaluateSingle_succ]
  refine (below.directives context rule).andThen fun directed => ?_
  refine Parallel.andThen (?_ : Blind _) fun values => .ite (.of_except _) (.of_pure _)
  refine .ite (.of_pure _) ?_
  split
  · exact .of_pure _
  · refine .ite ((below.template context _).alike _) ?_
    exact Parallel.andThen (.of_except _) fun isJson => below.dialect context isJson _ asList

theorem dialect_succ
    (below : BlindAt engine depth)
    (context : Context)
    (isJson : Bool)
    (body : Text)
    (asList : Bool) :
    Blind (evaluateDialect engine (depth + 1) context isJson body asList) := by
  rw [evaluateDialect]
  cases Dialect.ofRule body isJson with
  | chain chain => exact .of_except _
  | xpath expression => exact .of_except _
  | jsonPath path => exact .of_except _
  | regex pattern => exact .of_except _
  | script steps => exact below.steps steps context none asList

theorem directives_succ
    (below : BlindAt engine depth)
    (context : Context)
    (rule : Text) :
    Blind (applyDirectives engine (depth + 1) context rule) := by
  rw [applyDirectives]
  refine Parallel.andThen (.of_except _) fun taken => ?_
  refine Parallel.andThen (.forM fun put _ => ?_) fun _ => ?_
  · refine (below.rule context put.2 false).andThen fun result => ?_
    exact (setVariable_blind _ _).andThen fun _ => report_blind _
  · exact blind_of_store fun store => .ok (Directive.substituteGet
      (fun key => ((Keyed.get? store key).map Json.fieldText).getD []) taken.1)

theorem template_succ
    (below : BlindAt engine depth)
    (context : Context)
    (template : Text) :
    Blind (interpolateAt engine (depth + 1) context template) := by
  have named (inner : Text) : Blind (named? context inner) := by
    unfold named?
    refine .ite ?_ (.of_pure none)
    split
    · exact .of_pure _
    · exact stored?_blind inner
  rw [interpolateAt_succ]
  refine Parallel.alike (Parallel.mapM fun part _ => ?_) List.flatten
  cases part with
  | text value => exact .of_pure value
  | expression inner =>
      refine .ite ((below.rule context inner false).alike _) ?_
      refine (named inner).andThen fun bound? => ?_
      cases bound? with
      | some value => exact .of_pure _
      | none => exact (runScript_blind engine context inner _ false).alike _

theorem steps_succ
    (below : BlindAt engine depth)
    (steps : List ScriptStep)
    (context : Context)
    (result : Option Json)
    (asList : Bool) :
    Blind (evaluateSteps engine (depth + 1) steps context result asList) := by
  cases steps with
  | nil =>
      rw [evaluateSteps]
      exact .of_pure _
  | cons step rest =>
      cases step with
      | code code =>
          rw [evaluateSteps]
          refine (runScript_blind engine context code _ false).andThen fun value => ?_
          split
          · exact .of_pure _
          · exact below.steps rest _ _ asList
      | rule rule =>
          rw [evaluateSteps]
          refine (below.branch context _ _).andThen fun values => ?_
          refine .ite (.of_pure _) (.ite (.of_pure _) ?_)
          exact below.steps rest _ _ asList

theorem succ (below : BlindAt engine depth) : BlindAt engine (depth + 1) where
  rule := below.rule_succ
  branch := below.branch_succ
  lines := below.lines_succ
  single := below.single_succ
  dialect := below.dialect_succ
  directives := below.directives_succ
  template := below.template_succ
  steps := below.steps_succ

end BlindAt

/-- Evaluations do not read the log, at any depth. -/
theorem blindAt (depth : Nat) : BlindAt engine depth := by
  induction depth with
  | zero => exact .zero
  | succ depth below => exact below.succ

end Extraction

end RuleProbe
