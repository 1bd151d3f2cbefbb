import RuleProbe.Proofs.Evaluation.Single
import RuleProbe.Proofs.Trail

/-!
# Evaluations leave trails

However an evaluation ends, what it has written are the values of directives and the puts of
scripts, so a trail leads from the session before it to the session after it.
-/

namespace RuleProbe

namespace Extraction

variable (engine : Engine)

/-! ## What is written -/

/-- A script that has run leaves the session as it is, or has put what it takes over. -/
theorem reaches_of_run
    {timeout : Float}
    {code : Text}
    {bindings : Sandbox.Bindings}
    {session : Session}
    {ended : Sandbox.Ended}
    (ran : Sandbox.run timeout code bindings session.store = .ok ended) :
    Reaches session { session with store := ended.store } := by
  obtain same | ⟨puts, put, same⟩ := Sandbox.run_store ran
  · rw [same]
    exact refl_of Reaches session
  · rw [same]
    exact (Step.script put).reaches

theorem lift_leads {α : Type} (value : Except Fault α) : Leads Reaches (lift value) :=
  .of_except value

theorem runScript_leads
    (context : Context)
    (code : Text)
    (input : Json)
    (required : Bool) :
    Leads Reaches (runScript engine context code input required) := by
  intro session
  unfold runScript
  rw [runFrom_bind, runFrom_get]
  simp only
  rw [runFrom_bind]
  unfold liftDefect lift
  rw [runFrom_ofExcept]
  cases ran : Sandbox.run engine.timeout code
      { result := input
        page := context.document.body
        baseUrl := context.baseUrl
        book := context.book
        chapter := context.chapter
        extra := context.extra
        library := engine.library } session.store with
  | error defect => exact refl_of Reaches session
  | ok ended =>
      simp only [mapError_ok]
      rw [runFrom_bind, runFrom_modify]
      refine trans_of Reaches (reaches_of_run ran) ?_
      cases ended.outcome with
      | value value => exact Leads.of_pure value _
      | failed reason =>
          refine (report_leads _).bind (fun _ => ?_) _
          split
          · exact .of_throw _
          · exact .of_pure _

/-- A directive stores the text of its own rule, once this has been evaluated, and reports
it. -/
theorem followDirective_leads
    {rule rest : Text}
    {puts : List (Text × Text)}
    {key subRule : Text}
    (read : Directive.takePuts rule = .ok (rest, puts))
    (asked : (key, subRule) ∈ puts)
    {depth : Nat}
    {context : Context}
    (leads : Leads Reaches (evaluateAt engine depth context subRule false)) :
    Leads Reaches (evaluateAt engine depth context subRule false >>= fun result =>
      setVariable key (.str result.firstText) >>= fun _ =>
        report (directiveEntry key result.firstText subRule)) := by
  intro session
  have before := leads session
  rw [runFrom_bind]
  cases ended : runFrom (evaluateAt engine depth context subRule false) session with
  | mk outcome after =>
      rw [ended] at before
      cases outcome with
      | error fault => exact before
      | ok result =>
          exact trans_of Reaches before (Step.directive read asked ended).reaches

theorem catchFlaw_leads
    {action : Extract (List Found)}
    (leads : Leads Reaches action) :
    Leads Reaches (catchFlaw action) := by
  unfold catchFlaw
  refine (leads.map _).tryCatch fun fault => ?_
  split
  · exact .of_pure _
  · exact .of_throw _

/-! ## Evaluations -/

/-- At a depth, every way to evaluate leaves a trail. -/
structure LeadsAt (depth : Nat) : Prop where
  rule (context : Context) (rule : Text) (asList : Bool) :
    Leads Reaches (evaluateAt engine depth context rule asList)
  branch (context : Context) (rule : Text) (asList : Bool) :
    Leads Reaches (evaluateBranch engine depth context rule asList)
  lines (context : Context) (first : Text) (rest : List Text) (asList : Bool) :
    Leads Reaches (evaluateLines engine depth context first rest asList)
  single (context : Context) (rule : Text) (asList : Bool) :
    Leads Reaches (evaluateSingle engine depth context rule asList)
  dialect (context : Context) (isJson : Bool) (body : Text) (asList : Bool) :
    Leads Reaches (evaluateDialect engine depth context isJson body asList)
  directives (context : Context) (rule : Text) :
    Leads Reaches (applyDirectives engine depth context rule)
  template (context : Context) (template : Text) :
    Leads Reaches (interpolateAt engine depth context template)
  steps (steps : List ScriptStep) (context : Context) (result : Option Json) (asList : Bool) :
    Leads Reaches (evaluateSteps engine depth steps context result asList)

namespace LeadsAt

variable {engine}
variable {depth : Nat}

theorem zero : LeadsAt engine 0 where
  rule _ _ _ := by
    rw [evaluateAt]
    exact .of_throw _
  branch _ _ _ := by
    rw [evaluateBranch]
    exact .of_throw _
  lines _ _ _ _ := by
    rw [evaluateLines]
    exact .of_throw _
  single _ _ _ := by
    rw [evaluateSingle]
    exact .of_throw _
  dialect _ _ _ _ := by
    rw [evaluateDialect]
    exact .of_throw _
  directives _ _ := by
    rw [applyDirectives]
    exact .of_throw _
  template _ _ := by
    rw [interpolateAt]
    exact .of_throw _
  steps _ _ _ _ := by
    rw [evaluateSteps]
    exact .of_throw _

theorem rule_succ
    (below : LeadsAt engine depth)
    (context : Context)
    (rule : Text)
    (asList : Bool) :
    Leads Reaches (evaluateAt engine (depth + 1) context rule asList) := by
  rw [evaluateAt]
  split
  · exact .of_throw _
  · simp only
    split
    · exact .of_pure _
    · split
      · exact .of_pure _
      · refine catchFlaw_leads ?_
        exact (Leads.mapM fun branch _ => below.branch context branch asList).bind
          fun _ => .of_pure _

theorem branch_succ
    (below : LeadsAt engine depth)
    (context : Context)
    (rule : Text)
    (asList : Bool) :
    Leads Reaches (evaluateBranch engine (depth + 1) context rule asList) := by
  rw [evaluateBranch]
  split
  · exact below.steps _ context none asList
  · split
    · exact below.lines context _ _ asList
    · exact below.single context _ asList

theorem lines_succ
    (below : LeadsAt engine depth)
    (context : Context)
    (first : Text)
    (rest : List Text)
    (asList : Bool) :
    Leads Reaches (evaluateLines engine (depth + 1) context first rest asList) := by
  rw [evaluateLines]
  refine (below.single context first true).bind fun found => ?_
  refine Leads.foldlM (fun values line _ => ?_) found
  simp only
  split
  · split
    · exact lift_leads _
    · exact lift_leads _
  · exact (Leads.mapM fun value _ => below.branch (context.withFound value) line.1 _).bind
      fun _ => .of_pure _

theorem single_succ
    (below : LeadsAt engine depth)
    (context : Context)
    (rule : Text)
    (asList : Bool) :
    Leads Reaches (evaluateSingle engine (depth + 1) context rule asList) := by
  rw [evaluateSingle_succ]
  refine (below.directives context rule).bind fun directed => ?_
  refine Leads.bind (?_ : Leads Reaches _) fun values => ?_
  · unfold bodyFound
    split
    · exact .of_pure _
    · split
      · exact .of_pure _
      · split
        · exact (below.template context _).map _
        · exact (lift_leads _).bind fun isJson => below.dialect context isJson _ asList
  · unfold filteredFound
    split
    · exact lift_leads _
    · exact .of_pure _

theorem dialect_succ
    (below : LeadsAt engine depth)
    (context : Context)
    (isJson : Bool)
    (body : Text)
    (asList : Bool) :
    Leads Reaches (evaluateDialect engine (depth + 1) context isJson body asList) := by
  rw [evaluateDialect]
  cases Dialect.ofRule body isJson with
  | chain chain => exact lift_leads _
  | xpath expression => exact lift_leads _
  | jsonPath path => exact lift_leads _
  | regex pattern => exact lift_leads _
  | script steps => exact below.steps steps context none asList

/-- The directives of a rule write what they ask for, after what their own rules have
written. -/
theorem directives_succ
    (below : LeadsAt engine depth)
    (context : Context)
    (rule : Text) :
    Leads Reaches (applyDirectives engine (depth + 1) context rule) := by
  rw [applyDirectives]
  refine (lift_leads _).bind_of_returned fun taken state after returned => ?_
  have read : Directive.takePuts rule = .ok taken := by
    unfold lift at returned
    rw [runFrom_ofExcept] at returned
    exact congrArg Prod.fst returned
  refine (Leads.forM fun put asked => ?_).bind fun _ => ?_
  · exact followDirective_leads engine read asked (below.rule context put.2 false)
  · exact Leads.of_get.bind fun session => .of_pure _

theorem template_succ
    (below : LeadsAt engine depth)
    (context : Context)
    (template : Text) :
    Leads Reaches (interpolateAt engine (depth + 1) context template) := by
  have named (inner : Text) : Leads Reaches (named? context inner) := by
    unfold named?
    split
    · split
      · exact .of_pure _
      · exact Leads.of_get.bind fun session => .of_pure _
    · exact .of_pure _
  rw [interpolateAt_succ]
  refine Leads.map (Leads.mapM fun part _ => ?_) _
  cases part with
  | text value => exact .of_pure _
  | expression inner =>
      simp only [expressionText]
      split
      · exact (below.rule context inner false).map _
      · refine (named inner).bind fun bound? => ?_
        cases bound? with
        | some value => exact .of_pure _
        | none => exact (runScript_leads engine context inner _ false).map _

theorem steps_succ
    (below : LeadsAt engine depth)
    (steps : List ScriptStep)
    (context : Context)
    (result : Option Json)
    (asList : Bool) :
    Leads Reaches (evaluateSteps engine (depth + 1) steps context result asList) := by
  cases steps with
  | nil =>
      rw [evaluateSteps]
      exact .of_pure _
  | cons step rest =>
      cases step with
      | code code =>
          rw [evaluateSteps]
          refine (runScript_leads engine context code _ false).bind fun value => ?_
          split
          · exact .of_pure _
          · exact below.steps rest _ _ asList
      | rule rule =>
          rw [evaluateSteps]
          refine (below.branch context _ _).bind fun values => ?_
          split
          · exact .of_pure _
          · split
            · exact .of_pure _
            · exact below.steps rest _ _ asList

theorem succ (below : LeadsAt engine depth) : LeadsAt engine (depth + 1) where
  rule := below.rule_succ
  branch := below.branch_succ
  lines := below.lines_succ
  single := below.single_succ
  dialect := below.dialect_succ
  directives := below.directives_succ
  template := below.template_succ
  steps := below.steps_succ

end LeadsAt

/-- Evaluations leave trails at every depth. -/
theorem leadsAt (depth : Nat) : LeadsAt engine depth := by
  induction depth with
  | zero => exact .zero
  | succ depth below => exact below.succ

end Extraction

end RuleProbe
