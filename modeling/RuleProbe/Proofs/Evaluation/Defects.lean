import RuleProbe.Proofs.Defects
import RuleProbe.Proofs.Evaluation.Open

/-!
# Evaluations that end in a defect

An evaluation turns the flaw of a rule into a result.  Nothing else that a reader refuses
becomes one: an integer of too many digits, an authority that cannot be used, a page that
cannot be read, a count that is too large, flags that exclude each other and a character
that no document holds end the evaluation as they stand.  These are all the ways in which
an evaluation ends without a result, as long as scripts have outcomes and nothing is nested
too deeply.
-/

namespace RuleProbe

namespace Extraction

/-! ## Contexts -/

/-- A context that can be built for a body: its document has been read from the body, and
what is at hand is a handle or nothing. -/
structure Context.Valid (context : Context) : Prop where
  /-- The views of the document are those of its body. -/
  read : context.document = .ofBody context.document.serial context.document.body
  /-- What is at hand is no plain value. -/
  attached : ∀ value, context.element ≠ some (.plain value)

theorem Context.valid_ofBody (body : Text) : (Context.ofBody body).Valid where
  read := rfl
  attached := by simp [Context.ofBody]

namespace Context.Valid

variable {context : Context}

theorem treeRead (valid : context.Valid) :
    context.document.tree = Markup.read context.document.body := by
  rw [valid.read]
  rfl

theorem jsonRead (valid : context.Valid) :
    context.document.json = readJson context.document.body := by
  rw [valid.read]
  rfl

theorem withElement (valid : context.Valid) (handle : Handle) :
    (context.withElement (.handle handle)).Valid where
  read := valid.read
  attached := by simp [Context.withElement]

theorem withValue (valid : context.Valid) (value : Json) : (context.withValue value).Valid :=
  valid.withElement _

theorem withFound (valid : context.Valid) (found : Found) : (context.withFound found).Valid :=
  valid.withElement _

theorem isJson_refused
    {bad : Fault → Prop}
    [Fault.Covers bad]
    (valid : context.Valid)
    {defect : Defect}
    (failed : context.isJson = .error defect) :
    bad (.defect defect) := by
  unfold isJson at failed
  split at failed
  · cases failed
  · rw [valid.jsonRead] at failed
    cases refused : readJson context.document.body with
    | ok value =>
        rw [refused] at failed
        cases failed
    | error found =>
        rw [refused] at failed
        cases failed
        exact readJson_refused refused

end Context.Valid

/-! ## Effects -/

theorem lift_ends
    {α : Type}
    {bad : Fault → Prop}
    {value : Except Fault α}
    (fails : FailsBy bad value) :
    Ends (fun _ => True) bad (lift value) :=
  .of_except (fun _ _ => trivial) fails

theorem liftDefect_ends
    {α : Type}
    {bad : Fault → Prop}
    {value : Except Defect α}
    (refused : ∀ defect, value = .error defect → bad (.defect defect)) :
    Ends (fun _ => True) bad (liftDefect value) := by
  refine lift_ends ?_
  cases value with
  | ok found => exact .of_ok found
  | error defect => exact .of_error (refused defect rfl)

/-- A script ends an evaluation only when it has no outcome, or when it fails and its result is
required. -/
theorem runScript_endsBy
    {bad : Fault → Prop}
    [Fault.Covers bad]
    (engine : Engine)
    (context : Context)
    (code : Text)
    (input : Json)
    {required : Bool}
    (failing : required = true → ∀ message, bad (.script message)) :
    Ends (fun _ => True) bad (runScript engine context code input required) := by
  unfold runScript
  refine .of_get fun session => ?_
  refine (liftDefect_ends fun _ failed =>
    Fault.covers_unanswered (Sandbox.run_unanswered failed)).bind fun ended _ => ?_
  refine (Ends.of_modify _).bind fun _ _ => ?_
  split
  · exact .of_pure trivial
  · refine (Ends.of_modify _).bind fun _ _ => ?_
    split
    · exact .of_throw (failing ‹_› _)
    · exact .of_pure trivial

/-- A script whose result is not required ends an evaluation only when it has no
outcome. -/
theorem runScript_ends
    {bad : Fault → Prop}
    [Fault.Covers bad]
    (engine : Engine)
    (context : Context)
    (code : Text)
    (input : Json) :
    Ends (fun _ => True) bad (runScript engine context code input false) :=
  runScript_endsBy engine context code input fun required => by cases required

/-- A flaw of a rule that is caught leaves the other faults. -/
theorem catchFlaw_ends
    {bad : Fault → Prop}
    {action : Extract (List Found)}
    (ends : Ends (fun _ => True) (Fault.IsFlawOr bad) action) :
    Ends (fun _ => True) bad (catchFlaw action) := by
  unfold catchFlaw
  refine (ends.map fun _ _ => trivial).tryCatch fun fault failed => ?_
  rcases failed with ⟨flaw, rfl⟩ | other
  · exact .of_pure trivial
  · cases fault with
    | rule flaw => exact .of_pure trivial
    | _ => exact .of_throw other

/-! ## Calls

A rule, its directives and a template end in a fault only where a script or a reader does.  The
other calls end in flaws of rules, too, and all of them end in whatever the calls that they make
end in.
-/

namespace Call

variable {engine : Engine}
variable {bad : Fault → Prop}
variable {ask : (call : Call) → Extract call.Answer}
variable {context : Context}

/-- A call at a depth ends as its answer does when those at one depth less answer. -/
theorem ends_succ
    {depth : Nat}
    (call : Call)
    {good : call.Answer → Prop}
    (ends : Ends good bad (call.answer engine (run engine depth))) :
    Ends good bad (call.run engine (depth + 1)) := by
  rw [run_succ]
  exact ends

theorem rule_ends
    (valid : context.Valid)
    {text : Text}
    {asList : Bool}
    (branches : ∀ part ∈ (Operator.split (stripReverse text).1).2,
      Ends (fun _ => True) (Fault.IsFlawOr bad) (ask (.branch context part asList))) :
    Ends (fun _ => True) bad ((rule context text asList).answer engine ask) := by
  simp only [answer]
  split
  · rename_i value plain
    exact absurd plain (valid.attached value)
  · split
    · exact .of_pure trivial
    · split
      · exact .of_pure trivial
      · exact catchFlaw_ends ((Ends.mapM branches).map fun _ _ => trivial)

theorem branch_ends
    {text : Text}
    {asList : Bool}
    (scripted : hasScript text = true →
      Ends (fun _ => True) bad (ask (.steps (ScriptStep.ofRule text) context none asList)))
    (lined : ∀ first rest, ruleLines text = first :: rest →
      Ends (fun _ => True) bad (ask (.lines context first rest asList)))
    (alone : Ends (fun _ => True) bad (ask (.single context (Text.trim text) asList))) :
    Ends (fun _ => True) bad ((branch context text asList).answer engine ask) := by
  simp only [answer]
  split
  · exact scripted ‹_›
  · split
    · exact lined _ _ ‹_›
    · exact alone

variable [Fault.Covers bad]

/-- The lines after the first one are followed in turns, and none of them ends otherwise than
a branch or a filter. -/
theorem lines_ends
    {first : Text}
    {rest : List Text}
    {asList : Bool}
    (start : Ends (fun _ => True) (Fault.IsFlawOr bad) (ask (.single context first true)))
    (later : ∀ line ∈ rest, ∀ value inList, Ends (fun _ => True) (Fault.IsFlawOr bad)
      (ask (.branch (context.withFound value) line inList))) :
    Ends (fun _ => True) (Fault.IsFlawOr bad)
      ((lines context first rest asList).answer engine ask) := by
  simp only [answer]
  refine start.bind fun found _ => ?_
  refine Ends.foldlM (fun _ _ => True) (fun _ line values member _ => ?_) trivial
  split
  · split
    · exact lift_ends (filterFound_failsBy _ _ _)
    · exact lift_ends (filterTexts_failsBy _ _)
  · have among := List.fst_mem_of_mem_zipIdx member
    exact (Ends.mapM fun value _ => later line.1 among value _).bind fun _ _ => .of_pure trivial

theorem single_ends
    (valid : context.Valid)
    {text : Text}
    {asList : Bool}
    {direct : Text → Prop}
    (directs : Ends direct bad (ask (.directives context text)))
    (fills : ∀ directed, direct directed → Ends (fun _ => True) bad
      (ask (.template context (Text.trim (ReplaceFilter.split directed).1))))
    (reads : ∀ directed isJson, direct directed → Ends (fun _ => True) (Fault.IsFlawOr bad)
      (ask (.dialect context isJson (Text.trim (ReplaceFilter.split directed).1) asList))) :
    Ends (fun _ => True) (Fault.IsFlawOr bad)
      ((single context text asList).answer engine ask) := by
  simp only [answer]
  refine (directs.mono (fun _ holds => holds) fun _ => .inr).bind fun directed holds => ?_
  refine Ends.bind (?_ : Ends (fun _ => True) (Fault.IsFlawOr bad) _) fun values _ => ?_
  · split
    · exact .of_pure trivial
    · split
      · exact .of_pure trivial
      · split
        · exact ((fills directed holds).mono (fun _ _ => trivial) fun _ => .inr).map
            fun _ _ => trivial
        · exact (liftDefect_ends fun _ => valid.isJson_refused).bind
            fun isJson _ => reads directed isJson holds
  · unfold filteredFound
    split
    · exact lift_ends (filterFound_failsBy _ _ _)
    · exact .of_pure trivial

theorem dialect_ends
    (valid : context.Valid)
    {isJson : Bool}
    {body : Text}
    {asList : Bool}
    (scripted : ∀ chain, Dialect.ofRule body isJson = .script chain →
      Ends (fun _ => True) (Fault.IsFlawOr bad) (ask (.steps chain context none asList))) :
    Ends (fun _ => True) (Fault.IsFlawOr bad)
      ((dialect context isJson body asList).answer engine ask) := by
  simp only [answer]
  split
  · exact lift_ends (evaluateChain_failsBy valid.treeRead _ asList)
  · exact lift_ends (evaluateXPath_failsBy context _ asList)
  · exact lift_ends (evaluateJsonPath_failsBy valid.jsonRead _ asList)
  · exact lift_ends (evaluateRegex_failsBy context _ asList)
  · exact scripted _ ‹_›

/-- Directives give the rest of a rule, with the variables inserted. -/
theorem directives_ends
    {text : Text}
    (stored : ∀ rest puts, Directive.takePuts text = .ok (rest, puts) → ∀ put ∈ puts,
      Ends (fun _ => True) bad (ask (.rule context put.2 false))) :
    Ends (fun directed => ∃ rest puts lookup, Directive.takePuts text = .ok (rest, puts) ∧
        directed = Directive.substituteGet lookup rest)
      bad ((directives context text).answer engine ask) := by
  simp only [answer]
  refine (Ends.of_except (fun taken same => same) (Directive.takePuts_failsBy text)).bind
    fun taken same => ?_
  refine (Ends.forM fun put member => ?_).bind fun _ _ => ?_
  · refine (stored taken.1 taken.2 same put member).bind fun result _ => ?_
    exact (Ends.of_modify _).bind fun _ _ => Ends.of_modify _
  · exact .of_get fun session => .of_pure ⟨taken.1, taken.2, _, same, rfl⟩

theorem template_ends
    {text : Text}
    (expressions : ∀ inner, .expression inner ∈ Template.parts text →
      Ends (fun _ => True) bad (ask (.rule context inner false))) :
    Ends (fun _ => True) bad ((template context text).answer engine ask) := by
  simp only [answer]
  refine (Ends.mapM fun part member => (?_ : Ends (fun _ => True) bad _)).bind
    fun _ _ => .of_pure trivial
  cases part with
  | text value => exact .of_pure trivial
  | expression inner =>
      dsimp only
      split
      · exact (expressions inner member).bind fun _ _ => .of_pure trivial
      · repeat' split
        all_goals
          refine Ends.bind (?_ : Ends (fun _ => True) bad _) fun bound? _ => ?_
          · first
            | exact .of_pure trivial
            | exact .of_get fun _ => .of_pure trivial
          · cases bound? with
            | some value => exact .of_pure trivial
            | none =>
                exact (runScript_ends engine context inner _).bind fun _ _ => .of_pure trivial

theorem steps_ends
    {chain : List ScriptStep}
    {result : Option Json}
    {asList : Bool}
    (followed : ∀ text rest asList, chain = .rule text :: rest →
      Ends (fun _ => True) (Fault.IsFlawOr bad)
        (ask (.branch context (insertResult result text) asList)))
    (later : ∀ step rest value, chain = step :: rest →
      Ends (fun _ => True) (Fault.IsFlawOr bad)
        (ask (.steps rest (context.withValue value) value asList))) :
    Ends (fun _ => True) (Fault.IsFlawOr bad)
      ((steps chain context result asList).answer engine ask) := by
  cases chain with
  | nil => exact .of_pure trivial
  | cons step rest =>
      cases step with
      | code code =>
          simp only [answer]
          refine (runScript_ends engine context code _).bind fun value _ => ?_
          split
          · exact .of_pure trivial
          · exact later _ rest _ rfl
      | rule text =>
          simp only [answer]
          refine (followed text rest _ rfl).bind fun values _ => ?_
          split
          · exact .of_pure trivial
          · split
            · exact .of_pure trivial
            · exact later _ rest _ rfl

end Call

/-! ## Evaluations -/

variable (engine : Engine)

/-- Every way to evaluate at a depth ends in a flaw of a rule or in a defect with a cause, if
it does not return; whole rules and templates end in defects only. -/
structure EndsAt (depth : Nat) : Prop where
  rule {context : Context} (valid : context.Valid) (rule : Text) (asList : Bool) :
    Ends (fun _ => True) Fault.IsCaused (evaluateAt engine depth context rule asList)
  branch {context : Context} (valid : context.Valid) (rule : Text) (asList : Bool) :
    Ends (fun _ => True) Fault.IsFlawOrCaused
      (evaluateBranch engine depth context rule asList)
  lines {context : Context} (valid : context.Valid) (first : Text) (rest : List Text)
      (asList : Bool) :
    Ends (fun _ => True) Fault.IsFlawOrCaused
      (evaluateLines engine depth context first rest asList)
  single {context : Context} (valid : context.Valid) (rule : Text) (asList : Bool) :
    Ends (fun _ => True) Fault.IsFlawOrCaused
      (evaluateSingle engine depth context rule asList)
  dialect {context : Context} (valid : context.Valid) (isJson : Bool) (body : Text)
      (asList : Bool) :
    Ends (fun _ => True) Fault.IsFlawOrCaused
      (evaluateDialect engine depth context isJson body asList)
  directives {context : Context} (valid : context.Valid) (rule : Text) :
    Ends (fun _ => True) Fault.IsCaused (applyDirectives engine depth context rule)
  template {context : Context} (valid : context.Valid) (template : Text) :
    Ends (fun _ => True) Fault.IsCaused (interpolateAt engine depth context template)
  steps (steps : List ScriptStep) {context : Context} (valid : context.Valid)
      (result : Option Json) (asList : Bool) :
    Ends (fun _ => True) Fault.IsFlawOrCaused
      (evaluateSteps engine depth steps context result asList)

namespace EndsAt

variable {engine}
variable {depth : Nat}

theorem exhausted : Fault.IsCaused (.defect .recursion) :=
  Fault.isCaused_defect Defect.Exhausted.recursion.caused

/-- At no depth at all, every evaluation is nested too deeply. -/
theorem zero : EndsAt engine 0 where
  rule _ _ _ := by
    rw [evaluateAt]
    exact .of_throw exhausted
  branch _ _ _ := by
    rw [evaluateBranch]
    exact .of_throw (.inr exhausted)
  lines _ _ _ _ := by
    rw [evaluateLines]
    exact .of_throw (.inr exhausted)
  single _ _ _ := by
    rw [evaluateSingle]
    exact .of_throw (.inr exhausted)
  dialect _ _ _ _ := by
    rw [evaluateDialect]
    exact .of_throw (.inr exhausted)
  directives _ _ := by
    rw [applyDirectives]
    exact .of_throw exhausted
  template _ _ := by
    rw [interpolateAt]
    exact .of_throw exhausted
  steps _ _ _ _ _ := by
    rw [evaluateSteps]
    exact .of_throw (.inr exhausted)

/-- What holds of the calls at a depth holds of those at the next one, which make them. -/
theorem succ (below : EndsAt engine depth) : EndsAt engine (depth + 1) where
  rule {context} valid text asList :=
    Call.ends_succ (.rule context text asList) <|
      Call.rule_ends valid fun part _ => below.branch valid part asList
  branch {context} valid text asList :=
    Call.ends_succ (.branch context text asList) <|
      Call.branch_ends (fun _ => below.steps _ valid none asList)
        (fun first rest _ => below.lines valid first rest asList)
        (below.single valid _ asList)
  lines {context} valid first rest asList :=
    Call.ends_succ (.lines context first rest asList) <|
      Call.lines_ends (below.single valid first true)
        fun line _ value inList => below.branch (valid.withFound value) line inList
  single {context} valid text asList :=
    Call.ends_succ (.single context text asList) <|
      Call.single_ends valid (below.directives valid text)
        (fun _ _ => below.template valid _)
        (fun _ isJson _ => below.dialect valid isJson _ asList)
  dialect {context} valid isJson body asList :=
    Call.ends_succ (.dialect context isJson body asList) <|
      Call.dialect_ends valid fun chain _ => below.steps chain valid none asList
  directives {context} valid text :=
    Call.ends_succ (.directives context text) <|
      (Call.directives_ends fun _ _ _ put _ => below.rule valid put.2 false).mono
        (fun _ _ => trivial) (fun _ caused => caused)
  template {context} valid text :=
    Call.ends_succ (.template context text) <|
      Call.template_ends fun inner _ => below.rule valid inner false
  steps chain {context} valid result asList :=
    Call.ends_succ (.steps chain context result asList) <|
      Call.steps_ends (fun _ _ _ _ => below.branch valid _ _)
        (fun _ rest value _ => below.steps rest (valid.withValue value) value asList)

end EndsAt

/-- Evaluations end in flaws of rules and in defects with causes at every depth. -/
theorem endsAt (depth : Nat) : EndsAt engine depth := by
  induction depth with
  | zero => exact .zero
  | succ depth below => exact below.succ

end Extraction

end RuleProbe
