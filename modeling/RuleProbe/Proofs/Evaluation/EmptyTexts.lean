import RuleProbe.Proofs.Evaluation.Given
import RuleProbe.Proofs.Evaluation.Simple
import RuleProbe.Proofs.Size.Rule

/-!
# Results without a text

Asked for values, a rule gives results without a text in three ways only, each of which no filter
follows: a template or a reference to groups that comes out empty, and a script.
-/

namespace RuleProbe

namespace Extraction

variable (engine : Engine)

/-- Where a part of a rule is evaluated: where the rule is, or on what the part before it gave. -/
def IsSite (context place : Context) : Prop :=
  place = context ∨ ∃ value, place = context.withFound value

/-- What the directives of a rule leave of it. -/
def Leaves (context : Context) (rule directed : Text) : Prop :=
  ∃ depth session after,
    runFrom (applyDirectives engine depth context rule) session = (.ok directed, after)

/-- The body of a rule whose directives have been followed. -/
def directedBody (directed : Text) : Text := Text.trim (ReplaceFilter.split directed).1

/-- The directives of a rule leave a body that no filter follows. -/
def LeavesBody (context : Context) (rule body : Text) : Prop :=
  ∃ directed, Leaves engine context rule directed ∧
    (ReplaceFilter.split directed).2 = none ∧ directedBody directed = body

mutual

/-- A single rule gave a result that nothing has checked for a text. -/
inductive RawRule : Context → Text → Found → Prop where
  /-- The rule refers to groups, and the result is what they expand it to. -/
  | referred {context : Context} {rule body : Text} {groups : List (Option Text)} :
      LeavesBody engine context rule body →
      referredGroups? context body = some groups →
      RawRule context rule (.plain (.str (expandGroups groups body)))
  /-- The rule is a template, and the result is what it was filled to. -/
  | filled {context : Context} {rule body text : Text} {depth : Nat} {session after : Session} :
      LeavesBody engine context rule body →
      Template.isTemplate body = true →
      runFrom (interpolateAt engine depth context body) session = (.ok text, after) →
      RawRule context rule (.plain (.str text))
  /-- A script stands in what is left of the rule. -/
  | scripted {context : Context} {rule body : Text} {value : Found} :
      LeavesBody engine context rule body →
      hasScript (Text.trim body) = true →
      RawSteps context (ScriptStep.ofRule (Text.trim body)) value →
      RawRule context rule value

/-- A branch gave a result that nothing has checked for a text. -/
inductive RawBranch : Context → Text → Found → Prop where
  /-- The branch is a chain of scripts and rules. -/
  | scripted {context : Context} {branch : Text} {value : Found} :
      hasScript branch = true →
      RawSteps context (ScriptStep.ofRule branch) value →
      RawBranch context branch value
  /-- The branch is a single rule. -/
  | alone {context : Context} {branch : Text} {value : Found} :
      hasScript branch = false →
      (ruleLines branch).length ≤ 1 →
      RawRule context (Text.trim branch) value →
      RawBranch context branch value
  /-- The last of several lines, which is no filter, gave the result. -/
  | last {context : Context} {branch line : Text} {found value : Found} :
      hasScript branch = false →
      1 < (ruleLines branch).length →
      (ruleLines branch).getLast? = some line →
      line.startsWith ReplaceFilter.mark = false →
      RawBranch (context.withFound found) line value →
      RawBranch context branch value

/-- The last of some steps gave a result that nothing has checked for a text. -/
inductive RawSteps : Context → List ScriptStep → Found → Prop where
  /-- A script returned it, alone or in an array. -/
  | code {context place : Context} (before : List ScriptStep) {code : Text}
      {input result : Json} {session after : Session} {value : Found} :
      IsSite context place →
      runFrom (runScript engine place code input false) session = (.ok result, after) →
      value ∈ valueFound place.document.serial false result →
      RawSteps context (before ++ [.code code]) value
  /-- A rule gave it. -/
  | rule {context place : Context} (before : List ScriptStep) {rule : Text}
      {result : Option Json} {value : Found} :
      IsSite context place →
      RawBranch place (insertResult result rule) value →
      RawSteps context (before ++ [.rule rule]) value
  /-- It is an item of the only result that a rule gave. -/
  | item {context place : Context} (before : List ScriptStep) {rule : Text}
      {result : Option Json} {depth : Nat} {session after : Session} {items : List Json}
      {item : Json} :
      IsSite context place →
      runFrom (evaluateBranch engine depth place (insertResult result rule) false) session =
        (.ok [.plain (.arr items)], after) →
      item ∈ items →
      RawSteps context (before ++ [.rule rule]) (.plain item)

end

section

variable {engine}
variable {context : Context}

theorem IsSite.self (context : Context) : IsSite context context := .inl rfl

theorem IsSite.of_withValue {place : Context} {value : Json}
    (site : IsSite (context.withValue value) place) :
    IsSite context place := by
  rcases site with rfl | ⟨found, rfl⟩
  · exact .inr ⟨.plain value, rfl⟩
  · exact .inr ⟨found, rfl⟩

/-- What the last of the later steps gave, the last of all steps gave. -/
theorem RawSteps.cons
    {rest : List ScriptStep}
    {value : Json}
    {found : Found}
    (raw : RawSteps engine (context.withValue value) rest found)
    (step : ScriptStep) :
    RawSteps engine context (step :: rest) found := by
  cases raw with
  | code before site ran among => exact .code (step :: before) site.of_withValue ran among
  | rule before site raw => exact .rule (step :: before) site.of_withValue raw
  | item before site ran among => exact .item (step :: before) site.of_withValue ran among

end

/-! ## Every way to evaluate -/

/-- Results without a text are of a kind. -/
def EmptyAre (kind : Found → Prop) (values : List Found) : Prop :=
  ∀ value ∈ values, value.text = [] → kind value

theorem EmptyAre.mono
    {kind other : Found → Prop}
    {values : List Found}
    (are : EmptyAre kind values)
    (weaker : ∀ value, kind value → other value) :
    EmptyAre other values :=
  fun value member empty => weaker value (are value member empty)

theorem HaveTexts.emptyAre {values : List Found} (have' : HaveTexts values) (kind : Found → Prop) :
    EmptyAre kind values :=
  fun value member empty => absurd empty (have' value member)

/-- Asked for values, every way to evaluate at a depth gives a text unless nothing has checked for
one. -/
structure ChecksAt (depth : Nat) : Prop where
  branch (context : Context) (rule : Text) :
    Ends (EmptyAre (RawBranch engine context rule)) (fun _ => True)
      (evaluateBranch engine depth context rule false)
  lines (context : Context) (first : Text) {rest : List Text} (nonempty : rest ≠ []) :
    Ends (EmptyAre fun value => (rest.getLast nonempty).startsWith ReplaceFilter.mark = false ∧
        ∃ found, RawBranch engine (context.withFound found) (rest.getLast nonempty) value)
      (fun _ => True) (evaluateLines engine depth context first rest false)
  single (context : Context) (rule : Text) :
    Ends (EmptyAre (RawRule engine context rule)) (fun _ => True)
      (evaluateSingle engine depth context rule false)
  dialect (context : Context) (isJson : Bool) (body : Text) :
    Ends (EmptyAre fun value => hasScript (Text.trim body) = true ∧
        RawSteps engine context (ScriptStep.ofRule (Text.trim body)) value)
      (fun _ => True) (evaluateDialect engine depth context isJson body false)
  steps (steps : List ScriptStep) (context : Context) {result : Option Json}
      (known : steps ≠ [] ∨ result = none) :
    Ends (EmptyAre (RawSteps engine context steps)) (fun _ => True)
      (evaluateSteps engine depth steps context result false)

namespace ChecksAt

variable {engine}
variable {depth : Nat}

theorem zero : ChecksAt engine 0 where
  branch _ _ := by
    rw [evaluateBranch]
    exact .of_throw trivial
  lines _ _ _ _ := by
    rw [evaluateLines]
    exact .of_throw trivial
  single _ _ := by
    rw [evaluateSingle]
    exact .of_throw trivial
  dialect _ _ _ := by
    rw [evaluateDialect]
    exact .of_throw trivial
  steps _ _ _ _ := by
    rw [evaluateSteps]
    exact .of_throw trivial

theorem branch_succ
    (below : ChecksAt engine depth)
    (context : Context)
    (rule : Text) :
    Ends (EmptyAre (RawBranch engine context rule)) (fun _ => True)
      (evaluateBranch engine (depth + 1) context rule false) := by
  rw [evaluateBranch]
  split
  · rename_i scripted
    exact (below.steps _ context (.inr rfl)).mono
      (fun _ are => are.mono fun _ raw => .scripted scripted raw) fun _ holds => holds
  · rename_i scripted
    have scriptless := eq_false_of_ne_true scripted
    split
    · rename_i first second rest lines
      refine (below.lines context first (List.cons_ne_nil second rest)).mono
        (fun _ are => are.mono ?_) fun _ holds => holds
      rintro value ⟨unfiltered, found, raw⟩
      refine .last scriptless (by simp [lines]) ?_ unfiltered raw
      rw [lines, List.getLast?_cons_cons, List.getLast?_eq_some_getLast]
    · rename_i several
      have alone : (ruleLines rule).length ≤ 1 := by
        cases lines : ruleLines rule with
        | nil => exact Nat.zero_le 1
        | cons first rest =>
            cases rest with
            | nil => exact Nat.le_refl 1
            | cons second rest => exact absurd lines (several first second rest)
      exact (below.single context _).mono (fun _ are => are.mono fun _ raw =>
        .alone scriptless alone raw) fun _ holds => holds

/-- The last line filters the results of the line before, or gives results itself. -/
theorem lines_succ
    (below : ChecksAt engine depth)
    (context : Context)
    (first : Text)
    {rest : List Text}
    (nonempty : rest ≠ []) :
    Ends (EmptyAre fun value => (rest.getLast nonempty).startsWith ReplaceFilter.mark = false ∧
        ∃ found, RawBranch engine (context.withFound found) (rest.getLast nonempty) value)
      (fun _ => True) (evaluateLines engine (depth + 1) context first rest false) := by
  refine lines_ends engine context first nonempty (fun _ filter values kept filtered => ?_)
    fun unfiltered found => ?_
  · exact (filterTexts_haveTexts filter values kept filtered).emptyAre _
  · exact (below.branch (context.withFound found) _).mono
      (fun _ are => are.mono fun _ raw => ⟨unfiltered, found, raw⟩) fun _ holds => holds

theorem body_found
    (below : ChecksAt engine depth)
    {context : Context}
    {rule body : Text}
    (leaves : LeavesBody engine context rule body) :
    Ends (EmptyAre (RawRule engine context rule)) (fun _ => True)
      (bodyFound engine depth context false body false) := by
  unfold bodyFound
  split
  · exact .of_pure (by simp [EmptyAre])
  · split
    · rename_i groups referred
      refine .of_pure fun value member _ => ?_
      obtain rfl := List.mem_singleton.mp member
      exact .referred leaves referred
    · split
      · rename_i isTemplate
        refine (Ends.returned _).map fun text ran value member _ => ?_
        obtain ⟨session, after, ran⟩ := ran
        obtain rfl := List.mem_singleton.mp member
        exact .filled leaves isTemplate ran
      · refine (Ends.any _).bind fun isJson _ => ?_
        refine (below.dialect context isJson _).mono (fun _ are => are.mono ?_) fun _ holds => holds
        rintro value ⟨scripted, raw⟩
        exact .scripted leaves scripted raw

theorem single_succ
    (below : ChecksAt engine depth)
    (context : Context)
    (rule : Text) :
    Ends (EmptyAre (RawRule engine context rule)) (fun _ => True)
      (evaluateSingle engine (depth + 1) context rule false) := by
  rw [evaluateSingle_succ]
  refine (Ends.returned _).bind fun directed ran => ?_
  have leaves : Leaves engine context rule directed := ⟨depth, ran⟩
  cases filter : (ReplaceFilter.split directed).2 with
  | none =>
      refine (below.body_found ⟨directed, leaves, filter, rfl⟩).bind fun values are => ?_
      exact .of_pure are
  | some filter =>
      refine ((valuesAt engine depth).body_found context _ _).bind fun values plain => ?_
      exact .of_except (fun kept filtered =>
        (filterFound_haveTexts plain _ _ kept filtered).emptyAre _) fun _ _ => trivial

theorem dialect_succ
    (below : ChecksAt engine depth)
    (context : Context)
    (isJson : Bool)
    (body : Text) :
    Ends (EmptyAre fun value => hasScript (Text.trim body) = true ∧
        RawSteps engine context (ScriptStep.ofRule (Text.trim body)) value)
      (fun _ => True) (evaluateDialect engine (depth + 1) context isJson body false) := by
  have checked {found : Except Fault (List Found)} (given : Yields HaveTexts found)
      (kind : Found → Prop) : Ends (EmptyAre kind) (fun _ => True) (lift found) :=
    .of_except (fun values returned => (given values returned).emptyAre kind) fun _ _ => trivial
  rw [evaluateDialect]
  cases dialect : Dialect.ofRule body isJson with
  | chain chain => exact checked (evaluateChain_haveTexts context chain) _
  | xpath expression => exact checked (evaluateXPath_haveTexts context expression) _
  | jsonPath path => exact checked (evaluateJsonPath_haveTexts context path) _
  | regex pattern => exact checked (evaluateRegex_haveTexts context pattern) _
  | script steps =>
      obtain ⟨scripted, rfl⟩ := Dialect.steps_of_script dialect
      refine (below.steps _ context (.inr rfl)).mono (fun values raw value member empty => ?_)
        fun _ holds => holds
      exact ⟨scripted, raw value member empty⟩

/-- Without further steps the result before gives the results. -/
theorem steps_nil (context : Context) (result : Json) :
    Ends (fun values => ∀ value ∈ values,
        value ∈ valueFound context.document.serial false result) (fun _ => True)
      (evaluateSteps engine depth [] context (some result) false) := by
  cases depth with
  | zero =>
      rw [evaluateSteps]
      exact .of_throw trivial
  | succ depth =>
      rw [evaluateSteps]
      exact .of_pure fun _ member => member

/-- The results of a last step that is a rule are those of the rule, or the items of the only
one. -/
theorem lastFound_emptyAre
    {context : Context}
    {rule : Text}
    {result : Option Json}
    {session after : Session}
    {values : List Found}
    (ran : runFrom (evaluateBranch engine depth context (insertResult result rule) false) session =
      (.ok values, after))
    (are : EmptyAre (RawBranch engine context (insertResult result rule)) values) :
    EmptyAre (RawSteps engine context [.rule rule])
      (lastFound context.document.serial false values) := by
  unfold lastFound
  simp only [Bool.false_eq_true, if_false]
  split
  · intro value member _
    obtain ⟨item, among, rfl⟩ := List.mem_map.mp member
    exact .item [] (.self context) ran among
  · exact are.mono fun _ raw => .rule [] (.self context) raw

theorem steps_succ
    (below : ChecksAt engine depth)
    (steps : List ScriptStep)
    (context : Context)
    {result : Option Json}
    (known : steps ≠ [] ∨ result = none) :
    Ends (EmptyAre (RawSteps engine context steps)) (fun _ => True)
      (evaluateSteps engine (depth + 1) steps context result false) := by
  cases steps with
  | nil =>
      rw [known.resolve_left fun some => some rfl, evaluateSteps]
      exact .of_pure (by simp [EmptyAre, valueFound])
  | cons step rest =>
      cases step with
      | code code =>
          rw [evaluateSteps]
          refine (Ends.returned _).bind fun value ran => ?_
          obtain ⟨session, after, ran⟩ := ran
          split
          · exact .of_pure (by simp [EmptyAre])
          · cases rest with
            | nil =>
                refine (steps_nil (context.withValue value) value).mono
                  (fun values from' => ?_) fun _ holds => holds
                intro found member _
                exact .code [] (.self context) ran (from' found member)
            | cons next later =>
                refine (below.steps _ (context.withValue value) (.inl (List.cons_ne_nil _ _))).mono
                  (fun _ are => are.mono fun _ raw => raw.cons _) fun _ holds => holds
      | rule rule =>
          rw [evaluateSteps, Bool.false_and]
          refine ((Ends.returned _).and (below.branch context _)).bind fun values both => ?_
          obtain ⟨⟨session, after, ran⟩, are⟩ := both
          split
          · exact .of_pure (by simp [EmptyAre])
          · cases rest with
            | nil => exact .of_pure (lastFound_emptyAre ran are)
            | cons next later =>
                refine (below.steps _ (context.withValue _) (.inl (List.cons_ne_nil _ _))).mono
                  (fun _ are => are.mono fun _ raw => raw.cons _) fun _ holds => holds

theorem succ (below : ChecksAt engine depth) : ChecksAt engine (depth + 1) where
  branch := below.branch_succ
  lines := below.lines_succ
  single := below.single_succ
  dialect := below.dialect_succ
  steps := below.steps_succ

end ChecksAt

/-- Asked for values, evaluations give a text at every depth, unless nothing has checked for
one. -/
theorem checksAt (depth : Nat) : ChecksAt engine depth := by
  induction depth with
  | zero => exact .zero
  | succ depth below => exact below.succ

/-! ## Branches that are tried in turn -/

/-- The first of some lists in which a result has a text. -/
def firstWithText (lists : List (List Found)) : List Found :=
  (lists.find? fun values => values.any fun value => !value.text.isEmpty).getD []

/-- Where the results of the first branch that has any have a text, no earlier branch has a result
with a text. -/
theorem firstNonEmpty_eq_firstWithText
    {lists : List (List Found)}
    (have' : HaveTexts (Operator.firstNonEmpty lists)) :
    Operator.firstNonEmpty lists = firstWithText lists := by
  induction lists with
  | nil => rfl
  | cons values rest hypothesis =>
      cases values with
      | nil => exact hypothesis have'
      | cons value others =>
          have some : (!value.text.isEmpty) = true := by
            simpa using have' value List.mem_cons_self
          simp [firstWithText, Operator.firstNonEmpty, some]

/-- A rule with results has those of its branches, which are evaluated one after the other. -/
theorem evaluateAt_lists
    {depth : Nat}
    {context : Context}
    {rule : Text}
    {asList : Bool}
    {session after : Session}
    {values : List Found}
    (given : rule.isBlankText = false)
    (returned : runFrom (evaluateAt engine (depth + 1) context rule asList) session =
      (.ok (.found values), after)) :
    ∃ lists,
      runFrom ((Operator.split (stripReverse rule).1).2.mapM fun branch =>
          evaluateBranch engine depth context branch asList) session = (.ok lists, after) ∧
        values = gather (Operator.split (stripReverse rule).1).1 (stripReverse rule).2 lists := by
  have usable := Context.usable_of_found engine returned
  rw [evaluateAt_of_given engine usable given, runFrom_catchFlaw_eq_found_iff, runFrom_map,
    Prod.mk.injEq] at returned
  obtain ⟨gathered, ended⟩ := returned
  obtain ⟨lists, ran, same⟩ := exists_ok_of_map gathered
  exact ⟨lists, Prod.ext ran ended, same.symm⟩

/-- The results of a rule that is evaluated for values all have a text, exactly when no result
without one came of a template, a reference to groups or a script that no filter follows.  A rule
with alternatives then has the results of the first branch that finds a text. -/
theorem evaluateAt_haveTexts_iff
    {depth : Nat}
    {context : Context}
    {rule : Text}
    {session after : Session}
    {values : List Found}
    (returned : runFrom (evaluateAt engine (depth + 1) context rule false) session =
      (.ok (.found values), after)) :
    (HaveTexts values ↔
        ¬∃ value ∈ values, value.text = [] ∧
          ∃ branch ∈ (Operator.split (stripReverse rule).1).2,
            RawBranch engine context branch value) ∧
      (HaveTexts values → (Operator.split (stripReverse rule).1).1 = some .first →
        ∃ lists,
          runFrom ((Operator.split (stripReverse rule).1).2.mapM fun branch =>
              evaluateBranch engine depth context branch false) session = (.ok lists, after) ∧
            values = turned (stripReverse rule).2 (firstWithText lists)) := by
  constructor
  · constructor
    · rintro have' ⟨value, member, empty, -⟩
      exact have' value member empty
    · intro checked value member empty
      obtain ⟨branch, among, raw⟩ :=
        (evaluateAt_values engine ((checksAt engine depth).branch context) rule).value returned
          value
          member
      exact checked ⟨value, member, empty, branch, among, raw empty⟩
  · intro have' alternatives
    have given : rule.isBlankText = false := by
      by_contra blank
      have trimmed : Text.trim rule = [] :=
        (Text.trim_eq_nil_iff rule).mpr (Bool.of_not_eq_false blank)
      have bare : stripReverse rule = ([], false) := by
        unfold stripReverse
        rw [trimmed]
      rw [bare] at alternatives
      cases alternatives
    obtain ⟨lists, ran, gathered⟩ := evaluateAt_lists engine given returned
    refine ⟨lists, ran, ?_⟩
    have turned' : values = turned (stripReverse rule).2 (Operator.firstNonEmpty lists) := by
      rw [gathered, alternatives]
      rfl
    have firstHave : HaveTexts (Operator.firstNonEmpty lists) :=
      fun value member => have' value (turned' ▸ mem_turned.mpr member)
    rw [turned', firstNonEmpty_eq_firstWithText firstHave]

/-- A page with one paragraph. -/
def paragraphPage : Context := .ofBody "<p>a</p>".toList

/-- The paragraph, where there is no bold text. -/
theorem evaluateAt_haveTexts_iff_paragraph :
    ∃ values after,
      runFrom (evaluate {} paragraphPage "b||p".toList) ⟨[], []⟩ = (.ok (.found values), after) ∧
        values.map Found.text = [['a']] ∧
        (HaveTexts values ↔
          ¬∃ value ∈ values, value.text = [] ∧
            ∃ branch ∈ (Operator.split (stripReverse "b||p".toList).1).2,
              RawBranch {} paragraphPage branch value) ∧
        ∃ lists, values = turned false (firstWithText lists) := by
  have found : (foundIn? (runFrom (evaluate {} paragraphPage "b||p".toList) ⟨[], []⟩)).map
      (List.map Found.text) = some [['a']] := by
    decide +kernel
  obtain ⟨values, isFound, texts⟩ := Option.map_eq_some_iff.mp found
  obtain ⟨after, returned⟩ := eq_of_foundIn? isFound
  obtain ⟨checked, alternatives⟩ := evaluateAt_haveTexts_iff {} returned
  have have' : HaveTexts values := by
    intro value member
    have among : value.text ∈ values.map Found.text := List.mem_map_of_mem member
    rw [texts, List.mem_singleton] at among
    rw [among]
    exact List.cons_ne_nil _ _
  have operator : (Operator.split (stripReverse "b||p".toList).1).1 = some .first := by
    decide +kernel
  obtain ⟨lists, -, same⟩ := alternatives have' operator
  have unsigned : (stripReverse "b||p".toList).2 = false := by decide +kernel
  rw [unsigned] at same
  exact ⟨values, after, returned, texts, checked, lists, same⟩

/-- A template of a variable, and the paragraph as an alternative. -/
def templateOrParagraph : Text := "\x7b\x7bk\x7d\x7d||p".toList

/-- A template that comes out empty keeps the alternative from being tried. -/
theorem not_haveTexts_template :
    ∃ values after,
      runFrom (evaluate {} paragraphPage templateOrParagraph) ⟨[("k".toList, .str [])], []⟩ =
          (.ok (.found values), after) ∧
        values.map Found.text = [[]] ∧ ¬HaveTexts values ∧
        (foundIn? (runFrom (evaluate {} paragraphPage "p".toList)
          ⟨[("k".toList, .str [])], []⟩)).map (List.map Found.text) = some [['a']] := by
  have found : (foundIn? (runFrom (evaluate {} paragraphPage templateOrParagraph)
      ⟨[("k".toList, .str [])], []⟩)).map (List.map Found.text) = some [[]] := by
    decide +kernel
  obtain ⟨values, isFound, texts⟩ := Option.map_eq_some_iff.mp found
  obtain ⟨after, returned⟩ := eq_of_foundIn? isFound
  refine ⟨values, after, returned, texts, fun have' => ?_, by decide +kernel⟩
  obtain ⟨value, member, empty⟩ := List.mem_map.mp (texts ▸ List.mem_singleton_self [])
  exact have' value member empty

/-! ## Rules whose branches are simple -/

theorem Leaves.eq_trim
    {context : Context}
    {rule directed : Text}
    (simple : Simple rule)
    (leaves : Leaves engine context rule directed) :
    directed = Text.trim rule := by
  obtain ⟨depth, session, after, ran⟩ := leaves
  cases depth with
  | zero =>
      rw [applyDirectives] at ran
      cases ran
  | succ depth =>
      rw [applyDirectives_simple engine simple, runFrom_pure] at ran
      cases ran
      rfl

/-- A simple branch is neither a template nor a script, so that what it gives is checked for a
text unless it refers to groups. -/
theorem not_rawBranch_of_simple
    {context : Context}
    (groupless : ∀ body, referredGroups? context body = none)
    {branch : Text}
    (simple : Simple branch)
    (value : Found) :
    ¬RawBranch engine context branch value := by
  have trimmed := simple.of_isInfix (Text.trim_isInfix branch)
  have body {body : Text} (leaves : LeavesBody engine context (Text.trim branch) body) :
      Simple body := by
    obtain ⟨directed, leaves, -, rfl⟩ := leaves
    rw [leaves.eq_trim engine trimmed]
    exact (trimmed.of_isInfix (Text.trim_isInfix _)).of_isInfix
      ((Text.trim_isInfix _).trans (ReplaceFilter.split_isInfix _))
  intro raw
  cases raw with
  | scripted scripted =>
      rw [simple.scriptless] at scripted
      cases scripted
  | last _ several => exact absurd simple.whole.alone (by omega)
  | alone _ _ raw =>
      cases raw with
      | referred _ referred =>
          rw [groupless] at referred
          cases referred
      | filled leaves isTemplate _ =>
          have plain : Template.isTemplate _ = false :=
            Text.contains_of_not_mem (body leaves).braceless
          rw [plain] at isTemplate
          cases isTemplate
      | scripted leaves scripted _ =>
          have bare := (body leaves).of_isInfix (Text.trim_isInfix _)
          rw [bare.scriptless] at scripted
          cases scripted

/-- The results of a rule with simple branches all have a text, where no groups are at hand. -/
theorem evaluateAt_haveTexts_of_simple
    {depth : Nat}
    {context : Context}
    (groupless : ∀ body, referredGroups? context body = none)
    {rule : Text}
    (simple : ∀ branch ∈ (Operator.split (stripReverse rule).1).2, Simple branch)
    {session after : Session}
    {values : List Found}
    (returned : runFrom (evaluateAt engine (depth + 1) context rule false) session =
      (.ok (.found values), after)) :
    HaveTexts values := by
  intro value member empty
  obtain ⟨branch, among, raw⟩ :=
    (evaluateAt_values engine ((checksAt engine depth).branch context) rule).value returned value
      member
  exact not_rawBranch_of_simple engine groupless (simple branch among) value (raw empty)

end Extraction

end RuleProbe
