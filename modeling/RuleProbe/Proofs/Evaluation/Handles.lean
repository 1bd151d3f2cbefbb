import RuleProbe.Proofs.Evaluation.Single
import RuleProbe.Proofs.Text

/-!
# Evaluations for handles

Asked for a list, every dialect and every script gives handles of the document at hand, and
filters and operators keep them.  A rule that is not evaluated in a dialect writes texts all
the same: a bare filter, a reference to a group of a match, and a template.  Which of the two
a branch gives is settled by the last of its lines that is no filter, once its directives
have been followed.
-/

namespace RuleProbe

namespace Extraction

/-! ## Kinds of results -/

namespace Found

/-- A result is a handle of a document. -/
def IsHandleOf (serial : Nat) (found : Found) : Prop :=
  ∃ pointer, found = .handle pointer ∧ pointer.document = serial

/-- A result is a text. -/
def IsText (found : Found) : Prop :=
  ∃ text, found = .plain (.str text)

/-- A result is a handle of a document, unless it is a value. -/
def IsOwn (serial : Nat) (found : Found) : Prop :=
  ∀ pointer, found = .handle pointer → pointer.document = serial

/-- A result is a value. -/
def isPlain : Found → Bool
  | plain _ => true
  | handle _ => false

theorem isHandleOf_handle (serial : Nat) (target : Target) :
    IsHandleOf serial (.handle ⟨serial, target⟩) :=
  ⟨_, rfl, rfl⟩

theorem isText_plain (text : Text) : IsText (.plain (.str text)) := ⟨text, rfl⟩

theorem isOwn_plain (serial : Nat) (value : Json) : IsOwn serial (.plain value) := by
  intro pointer same
  cases same

theorem IsHandleOf.isOwn
    {serial : Nat}
    {found : Found}
    (isHandle : found.IsHandleOf serial) :
    found.IsOwn serial := by
  obtain ⟨pointer, rfl, belongs⟩ := isHandle
  intro other same
  cases same
  exact belongs

theorem IsText.isOwn
    {found : Found}
    (isText : found.IsText)
    (serial : Nat) :
    found.IsOwn serial := by
  obtain ⟨text, rfl⟩ := isText
  exact isOwn_plain serial _

/-- No text is a handle. -/
theorem IsText.not_isHandleOf
    {found : Found}
    (isText : found.IsText)
    (serial : Nat) :
    ¬found.IsHandleOf serial := by
  obtain ⟨text, rfl⟩ := isText
  rintro ⟨pointer, same, -⟩
  cases same

/-- Wrapped results are handles. -/
theorem wrap_isHandleOf
    {serial : Nat}
    {values : List Found}
    (own : ∀ value ∈ values, value.IsOwn serial) :
    ∀ value ∈ wrap serial values, value.IsHandleOf serial := by
  intro value member
  obtain ⟨source, among, rfl⟩ := List.mem_map.mp member
  cases source with
  | plain value => exact isHandleOf_handle serial _
  | handle pointer => exact ⟨pointer, rfl, own _ among pointer rfl⟩

end Found

theorem texts_isText (items : List Text) : ∀ value ∈ texts items, value.IsText := by
  intro value member
  obtain ⟨text, -, rfl⟩ := List.mem_map.mp member
  exact Found.isText_plain text

theorem texts_isOwn (serial : Nat) (items : List Text) :
    ∀ value ∈ texts items, value.IsOwn serial :=
  fun value member => (texts_isText items value member).isOwn serial

theorem givenText_isOwn (serial : Nat) (text : Text) :
    ∀ value ∈ (if text.isEmpty then [] else texts [text]), value.IsOwn serial := by
  split
  · simp
  · exact texts_isOwn serial [text]

theorem map_plain_isOwn (serial : Nat) (items : List Json) :
    ∀ value ∈ items.map Found.plain, value.IsOwn serial := by
  intro value member
  obtain ⟨item, -, rfl⟩ := List.mem_map.mp member
  exact Found.isOwn_plain serial item

/-! ## Dialects -/

theorem evaluateChain_handles (context : Context) (chain : Text) :
    Yields (fun values => ∀ value ∈ values, value.IsHandleOf context.document.serial)
      (evaluateChain context chain true) := by
  refine (Yields.any _).bind fun start _ => ?_
  refine (Yields.any _).bind fun outcome _ => ?_
  cases outcome with
  | nodes nodes =>
      refine .of_ok fun value member => ?_
      obtain ⟨i, -, rfl⟩ := List.mem_map.mp member
      exact Found.isHandleOf_handle _ _
  | texts found => exact .of_ok (Found.wrap_isHandleOf (texts_isOwn _ found))

theorem placeFound_isOwn
    (context : Context)
    (document : Mended.Document)
    (place : XPath.Place) :
    Yields (fun values => ∀ value ∈ values, value.IsOwn context.document.serial)
      (placeFound context document true place) := by
  unfold placeFound
  split
  · exact .of_ok (by simp)
  · split
    · rw [if_pos rfl]
      refine .of_ok fun value member => ?_
      rw [List.mem_singleton.mp member]
      exact (Found.isHandleOf_handle _ _).isOwn
    · refine (Yields.any _).bind fun text _ => .of_ok ?_
      exact givenText_isOwn _ text

/-- What the results at every place are, the results at places are. -/
theorem placesFound_all
    {kind : Found → Prop}
    {context : Context}
    {document : Mended.Document}
    {asList : Bool}
    (each : ∀ place, Yields (fun values => ∀ value ∈ values, kind value)
      (placeFound context document asList place))
    (places : List XPath.Place) :
    Yields (fun values => ∀ value ∈ values, kind value)
      (placesFound context document asList places) := by
  induction places with
  | nil => exact .of_ok (by simp)
  | cons place rest hypothesis =>
      refine (each place).bind fun first holds => ?_
      refine hypothesis.bind fun others later => .of_ok fun value member => ?_
      rcases List.mem_append.mp member with early | late
      · exact holds value early
      · exact later value late

theorem evaluateXPath_handles (context : Context) (expression : Text) :
    Yields (fun values => ∀ value ∈ values, value.IsHandleOf context.document.serial)
      (evaluateXPath context expression true) := by
  unfold evaluateXPath
  simp only [if_true]
  split
  · exact .of_ok (by simp)
  · split
    · exact .of_error _
    · split
      · exact .of_error _
      · refine (placesFound_all (placeFound_isOwn context _) _).bind fun found own => ?_
        exact .of_ok (Found.wrap_isHandleOf own)
      · exact .of_ok (Found.wrap_isHandleOf (givenText_isOwn _ _))

theorem evaluateJsonPath_handles (context : Context) (path : Text) :
    Yields (fun values => ∀ value ∈ values, value.IsHandleOf context.document.serial)
      (evaluateJsonPath context path true) := by
  refine (Yields.any _).bind fun content _ => ?_
  split
  · exact .of_error _
  · split
    · exact .of_error _
    · exact .of_ok (Found.wrap_isHandleOf (map_plain_isOwn _ _))

theorem evaluateRegex_handles (context : Context) (pattern : Text) :
    Yields (fun values => ∀ value ∈ values, value.IsHandleOf context.document.serial)
      (evaluateRegex context pattern true) := by
  refine (Yields.any _).bind fun compiled _ => ?_
  simp only [if_true]
  refine .of_ok fun value member => ?_
  obtain ⟨found, -, rfl⟩ := List.mem_map.mp member
  exact Found.isHandleOf_handle _ _

/-! ## Scripts -/

theorem valueFound_handles (serial : Nat) (value : Json) :
    ∀ found ∈ valueFound serial true value, found.IsHandleOf serial := by
  unfold valueFound
  refine Found.wrap_isHandleOf ?_
  split
  · simp
  · exact map_plain_isOwn serial _
  · simpa using Found.isOwn_plain serial _

theorem lastFound_handles
    {serial : Nat}
    {values : List Found}
    (own : ∀ value ∈ values, value.IsOwn serial) :
    ∀ found ∈ lastFound serial true values, found.IsHandleOf serial := by
  unfold lastFound
  refine Found.wrap_isHandleOf ?_
  split
  · exact map_plain_isOwn serial _
  · exact own

/-! ## Filters -/

/-- A kind of results that filters keep. -/
structure FilterKeeps (serial : Nat) (kind : Found → Prop) : Prop where
  /-- A handle stays in the kind when its text is filtered. -/
  handle (pointer : Handle) (text : Text) :
    kind (.handle pointer) → kind (.handle ⟨serial, .value (.str text)⟩)
  /-- A value stays in the kind when its text is filtered. -/
  plain (value : Json) (text : Text) :
    kind (.plain value) → kind (.plain (.str text))

theorem filterKeeps_isHandleOf (serial : Nat) :
    FilterKeeps serial (Found.IsHandleOf serial) where
  handle _ _ _ := Found.isHandleOf_handle serial _
  plain _ _ isHandle := by
    obtain ⟨pointer, same, -⟩ := isHandle
    cases same

theorem filterKeeps_isText (serial : Nat) : FilterKeeps serial Found.IsText where
  handle _ _ isText := by
    obtain ⟨text, same⟩ := isText
    cases same
  plain _ text _ := Found.isText_plain text

theorem filterFound_keeps
    {serial : Nat}
    {kind : Found → Prop}
    (keeps : FilterKeeps serial kind)
    (filter : Option ReplaceFilter)
    {values : List Found}
    (all : ∀ value ∈ values, kind value) :
    Yields (fun kept => ∀ value ∈ kept, kind value) (filterFound serial filter values) := by
  induction values with
  | nil => exact .of_ok (by simp)
  | cons found rest hypothesis =>
      have first := all found List.mem_cons_self
      have others (kept : List Found) (holds : ∀ value ∈ kept, kind value) :
          Yields (fun kept => ∀ value ∈ kept, kind value)
            (filterFound serial filter rest >>= fun others => .ok (kept ++ others)) := by
        refine (hypothesis fun value member => all value (List.mem_cons_of_mem _ member)).bind ?_
        intro others later
        refine .of_ok fun value member => ?_
        rcases List.mem_append.mp member with early | late
        · exact holds value early
        · exact later value late
      cases found with
      | handle pointer =>
          simp only [filterFound]
          split
          · exact others _ (by simpa using first)
          · refine (Yields.any _).bind fun text _ => ?_
            refine others _ ?_
            split
            · simp
            · simpa using keeps.handle pointer text first
      | plain value =>
          simp only [filterFound]
          refine (Yields.any _).bind fun text _ => ?_
          refine others _ ?_
          split
          · simp
          · simpa using keeps.plain value text first

/-! ## Operators -/

theorem mem_firstNonEmpty
    {α : Type}
    {lists : List (List α)}
    {value : α}
    (member : value ∈ Operator.firstNonEmpty lists) :
    ∃ values ∈ lists, value ∈ values := by
  induction lists with
  | nil => cases member
  | cons values rest hypothesis =>
      rw [Operator.firstNonEmpty] at member
      split at member
      · obtain ⟨found, among, inside⟩ := hypothesis member
        exact ⟨found, List.mem_cons_of_mem _ among, inside⟩
      · exact ⟨values, List.mem_cons_self, member⟩

/-- What an operator gives is among what the branches give. -/
theorem mem_combine
    {α : Type}
    {operator : Option Operator}
    {lists : List (List α)}
    {value : α}
    (member : value ∈ Operator.combine operator lists) :
    ∃ values ∈ lists, value ∈ values := by
  match operator with
  | none =>
      cases lists with
      | nil => cases member
      | cons values rest => exact ⟨values, List.mem_cons_self, member⟩
  | some .first => exact mem_firstNonEmpty member
  | some .all => exact List.mem_flatten.mp member
  | some .interleave =>
      obtain ⟨index, -, inRow⟩ := List.mem_flatMap.mp member
      obtain ⟨values, among, found⟩ := List.mem_filterMap.mp inRow
      exact ⟨values, among, List.mem_of_getElem? found⟩

/-! ## Concluding rules -/

/-- The line of a branch that settles what kind of results it gives: the last one that is no
filter, or else the first one. -/
def concludingLine (first : Text) (rest : List Text) : Text :=
  rest.foldl (fun last line => if line.startsWith ReplaceFilter.mark then last else line) first

/-- The single rule that settles what kind of results a branch gives. -/
def concludingRule (branch : Text) : Text :=
  match ruleLines branch with
  | first :: second :: rest => concludingLine first (second :: rest)
  | _ => Text.trim branch

theorem concludingRule_ruleLine
    {line : Text}
    (isLine : IsRuleLine line) :
    concludingRule line = line := by
  rw [concludingRule, isLine.alone]
  exact isLine.trimmed.trim_eq_self

/-- The body of a rule writes texts: it is empty, refers to groups of a match at hand, or is
a template. -/
def bodyWritesText (context : Context) (body : Text) : Bool :=
  body.isEmpty || (referredGroups? context body).isSome || Template.isTemplate body

/-- A rule whose directives have been followed writes texts. -/
def writesText (context : Context) (directed : Text) : Bool :=
  bodyWritesText context (Text.trim (ReplaceFilter.split directed).1)

variable (engine : Engine)

/-- A single rule is evaluated in the context of a branch, or on a result of the line
before, and its directives leave some text of it. -/
structure Follows (context : Context) (rule : Text) (place : Context) (directed : Text) :
    Prop where
  /-- Where the rule is evaluated. -/
  site : place = context ∨ ∃ value, place = context.withFound value
  /-- What its directives leave of it. -/
  run : ∃ depth session after,
    runFrom (applyDirectives engine depth place rule) session = (.ok directed, after)

/-- A result is a text or a handle as the concluding rule writes texts or does not. -/
def Concluded (context : Context) (rule : Text) (value : Found) : Prop :=
  ∃ place directed, Follows engine context rule place directed ∧
    if writesText place directed then value.IsText
    else value.IsHandleOf context.document.serial

/-- A result of a branch is a handle when the branch holds a script, and what its concluding
rule makes it otherwise. -/
def CameOf (context : Context) (branch : Text) (value : Found) : Prop :=
  if hasScript branch then value.IsHandleOf context.document.serial
  else Concluded engine context (concludingRule branch) value

/-- A result of a branch is a text that its concluding rule writes. -/
def Written (context : Context) (branch : Text) (value : Found) : Prop :=
  value.IsText ∧ hasScript branch = false ∧
    ∃ place directed, Follows engine context (concludingRule branch) place directed ∧
      writesText place directed = true

section

variable {engine}
variable {context : Context}

theorem filterKeeps_concluded (rule : Text) :
    FilterKeeps context.document.serial (Concluded engine context rule) where
  handle pointer text := by
    rintro ⟨place, directed, follows, kind⟩
    refine ⟨place, directed, follows, ?_⟩
    split at kind
    · rw [if_pos ‹_›]
      exact (filterKeeps_isText _).handle pointer text kind
    · rw [if_neg ‹_›]
      exact (filterKeeps_isHandleOf _).handle pointer text kind
  plain value text := by
    rintro ⟨place, directed, follows, kind⟩
    refine ⟨place, directed, follows, ?_⟩
    split at kind
    · rw [if_pos ‹_›]
      exact (filterKeeps_isText context.document.serial).plain value text kind
    · rw [if_neg ‹_›]
      exact (filterKeeps_isHandleOf _).plain value text kind

/-- A result of a line on a result of the line before is one of the line in the context of
the whole branch. -/
theorem Concluded.of_withFound
    {line : Text}
    {found value : Found}
    (concluded : Concluded engine (context.withFound found) line value) :
    Concluded engine context line value := by
  obtain ⟨place, directed, follows, kind⟩ := concluded
  refine ⟨place, directed, ⟨?_, follows.run⟩, kind⟩
  rcases follows.site with rfl | ⟨other, rfl⟩
  · exact .inr ⟨found, rfl⟩
  · exact .inr ⟨other, rfl⟩

theorem Concluded.isOwn
    {rule : Text}
    {value : Found}
    (concluded : Concluded engine context rule value) :
    value.IsOwn context.document.serial := by
  obtain ⟨place, directed, -, kind⟩ := concluded
  split at kind
  · exact kind.isOwn _
  · exact kind.isOwn

theorem CameOf.isOwn
    {branch : Text}
    {value : Found}
    (came : CameOf engine context branch value) :
    value.IsOwn context.document.serial := by
  unfold CameOf at came
  split at came
  · exact came.isOwn
  · exact came.isOwn

/-- A result of a branch is a handle unless it is a text that the concluding rule writes. -/
theorem CameOf.handle_or_written
    {branch : Text}
    {value : Found}
    (came : CameOf engine context branch value) :
    value.IsHandleOf context.document.serial ∨ Written engine context branch value := by
  unfold CameOf at came
  split at came
  · exact .inl came
  · rename_i plain
    obtain ⟨place, directed, follows, kind⟩ := came
    split at kind
    · exact .inr ⟨kind, by simpa using plain, place, directed, follows, ‹_›⟩
    · exact .inl kind

end

/-! ## Evaluations -/

/-- Asked for a list, every way to evaluate at a depth gives results of the kinds that it
should. -/
structure ListsAt (depth : Nat) : Prop where
  branch (context : Context) (rule : Text) :
    Ends (fun values => ∀ value ∈ values, CameOf engine context rule value) (fun _ => True)
      (evaluateBranch engine depth context rule true)
  lines (context : Context) (first : Text) (rest : List Text)
      (areLines : ∀ line ∈ rest, IsRuleLine line)
      (plain : ∀ line ∈ rest, hasScript line = false) :
    Ends (fun values => ∀ value ∈ values,
        Concluded engine context (concludingLine first rest) value) (fun _ => True)
      (evaluateLines engine depth context first rest true)
  single (context : Context) (rule : Text) :
    Ends (fun values => ∀ value ∈ values, Concluded engine context rule value)
      (fun _ => True) (evaluateSingle engine depth context rule true)
  dialect (context : Context) (isJson : Bool) (body : Text) :
    Ends (fun values => ∀ value ∈ values, value.IsHandleOf context.document.serial)
      (fun _ => True) (evaluateDialect engine depth context isJson body true)
  steps (steps : List ScriptStep) (context : Context) (result : Option Json) :
    Ends (fun values => ∀ value ∈ values, value.IsHandleOf context.document.serial)
      (fun _ => True) (evaluateSteps engine depth steps context result true)

namespace ListsAt

variable {engine}
variable {depth : Nat}

theorem zero : ListsAt engine 0 where
  branch _ _ := by
    rw [evaluateBranch]
    exact .of_throw trivial
  lines _ _ _ _ _ := by
    rw [evaluateLines]
    exact .of_throw trivial
  single _ _ := by
    rw [evaluateSingle]
    exact .of_throw trivial
  dialect _ _ _ := by
    rw [evaluateDialect]
    exact .of_throw trivial
  steps _ _ _ := by
    rw [evaluateSteps]
    exact .of_throw trivial

theorem branch_succ
    (below : ListsAt engine depth)
    (context : Context)
    (rule : Text) :
    Ends (fun values => ∀ value ∈ values, CameOf engine context rule value) (fun _ => True)
      (evaluateBranch engine (depth + 1) context rule true) := by
  rw [evaluateBranch]
  unfold CameOf
  split
  · exact below.steps _ context none
  · rename_i plain
    match split : ruleLines rule with
    | first :: second :: rest =>
        have areLines : ∀ line ∈ second :: rest, IsRuleLine line ∧ line <:+: rule := by
          intro line member
          refine isRuleLine ?_
          rw [split]
          exact List.mem_cons_of_mem _ member
        have unscripted : ∀ line ∈ second :: rest, hasScript line = false := by
          intro line member
          by_contra scripted
          exact plain (hasScript_of_isWithin (areLines line member).2 (by simpa using scripted))
        simpa only [concludingRule, split] using
          below.lines context first (second :: rest)
            (fun line member => (areLines line member).1) unscripted
    | [line] =>
        simpa only [concludingRule, split] using below.single context (Text.trim rule)
    | [] =>
        simpa only [concludingRule, split] using below.single context (Text.trim rule)

theorem lines_succ
    (below : ListsAt engine depth)
    (context : Context)
    (first : Text)
    (rest : List Text)
    (areLines : ∀ line ∈ rest, IsRuleLine line)
    (plain : ∀ line ∈ rest, hasScript line = false) :
    Ends (fun values => ∀ value ∈ values,
        Concluded engine context (concludingLine first rest) value) (fun _ => True)
      (evaluateLines engine (depth + 1) context first rest true) := by
  rw [evaluateLines]
  refine (below.single context first).bind fun found concluded => ?_
  have lines : rest.zipIdx.map Prod.fst = rest := List.zipIdx_map_fst 0 rest
  -- The invariant of the turns: what is there is of the kind of the last line so far.
  let invariant (done : List (Text × Nat)) (values : List Found) : Prop :=
    ∀ value ∈ values, Concluded engine context (concludingLine first (done.map Prod.fst)) value
  suffices turns : Ends (invariant rest.zipIdx) (fun _ => True) _ by
    simpa only [invariant, lines] using turns
  refine Ends.foldlM invariant (fun done turn values member kept => ?_) concluded
  have isTurn : turn.1 ∈ rest := by
    rw [← lines]
    exact List.mem_map_of_mem member
  have next :
      concludingLine first ((done ++ [turn]).map Prod.fst) =
        if turn.1.startsWith ReplaceFilter.mark then concludingLine first (done.map Prod.fst)
        else turn.1 := by
    simp [concludingLine]
  simp only [invariant, next, Bool.true_or, if_true]
  split
  · exact .of_except (filterFound_keeps (filterKeeps_concluded _) _ kept) fun _ _ => trivial
  · refine (Ends.mapM fun value _ =>
      below.branch (context.withFound value) turn.1).bind fun lists all => .of_pure ?_
    intro value inside
    obtain ⟨list, among, inList⟩ := List.mem_flatten.mp inside
    obtain ⟨source, -, came⟩ := all list among
    have ofLine := came value inList
    rw [CameOf, plain turn.1 isTurn, concludingRule_ruleLine (areLines turn.1 isTurn)] at ofLine
    exact Concluded.of_withFound ofLine

/-- The body of a rule gives texts where it writes them, and handles otherwise. -/
theorem body_found
    (below : ListsAt engine depth)
    (context : Context)
    (isFiltered : Bool)
    (body : Text) :
    Ends
      (fun values => ∀ value ∈ values,
        if bodyWritesText context body then value.IsText
        else value.IsHandleOf context.document.serial)
      (fun _ => True) (bodyFound engine depth context isFiltered body true) := by
  unfold bodyFound bodyWritesText
  cases body.isEmpty with
  | true =>
      refine .of_pure ?_
      split
      · exact texts_isText _
      · simp
  | false =>
      cases referredGroups? context body with
      | some groups => exact .of_pure (texts_isText _)
      | none =>
          cases Template.isTemplate body with
          | true => exact (Ends.any _).map fun text _ => texts_isText [text]
          | false => exact (Ends.any _).bind fun isJson _ => below.dialect context isJson body

theorem single_succ
    (below : ListsAt engine depth)
    (context : Context)
    (rule : Text) :
    Ends (fun values => ∀ value ∈ values, Concluded engine context rule value)
      (fun _ => True) (evaluateSingle engine (depth + 1) context rule true) := by
  rw [evaluateSingle_succ]
  refine (Ends.returned _).bind fun directed followed => ?_
  have follows : Follows engine context rule context directed := ⟨.inl rfl, depth, followed⟩
  refine (below.body_found context _ _).bind fun values kinds => ?_
  have concluded : ∀ value ∈ values, Concluded engine context rule value :=
    fun value member => ⟨context, directed, follows, kinds value member⟩
  unfold filteredFound
  split
  · exact .of_except (filterFound_keeps (filterKeeps_concluded rule) _ concluded)
      fun _ _ => trivial
  · exact .of_pure concluded

theorem dialect_succ
    (below : ListsAt engine depth)
    (context : Context)
    (isJson : Bool)
    (body : Text) :
    Ends (fun values => ∀ value ∈ values, value.IsHandleOf context.document.serial)
      (fun _ => True) (evaluateDialect engine (depth + 1) context isJson body true) := by
  rw [evaluateDialect]
  cases Dialect.ofRule body isJson with
  | chain chain => exact .of_except (evaluateChain_handles context chain) fun _ _ => trivial
  | xpath expression =>
      exact .of_except (evaluateXPath_handles context expression) fun _ _ => trivial
  | jsonPath path => exact .of_except (evaluateJsonPath_handles context path) fun _ _ => trivial
  | regex pattern => exact .of_except (evaluateRegex_handles context pattern) fun _ _ => trivial
  | script steps => exact below.steps steps context none

theorem steps_succ
    (below : ListsAt engine depth)
    (steps : List ScriptStep)
    (context : Context)
    (result : Option Json) :
    Ends (fun values => ∀ value ∈ values, value.IsHandleOf context.document.serial)
      (fun _ => True) (evaluateSteps engine (depth + 1) steps context result true) := by
  have noneFound :
      Ends (σ := Session)
        (fun values : List Found =>
          ∀ value ∈ values, value.IsHandleOf context.document.serial)
        (fun _ => True) (pure []) :=
    .of_pure (by simp)
  cases steps with
  | nil =>
      rw [evaluateSteps]
      exact .of_pure (valueFound_handles _ _)
  | cons step rest =>
      cases step with
      | code code =>
          rw [evaluateSteps]
          refine (Ends.any _).bind fun value _ => ?_
          split
          · exact noneFound
          · exact below.steps rest (context.withValue value) (some value)
      | rule rule =>
          rw [evaluateSteps]
          cases rest with
          | nil =>
              refine (below.branch context _).bind fun values came => ?_
              split
              · exact noneFound
              · exact .of_pure (lastFound_handles fun value member => (came value member).isOwn)
          | cons next rest =>
              refine (Ends.any _).bind fun values _ => ?_
              simp only
              split
              · exact noneFound
              · exact below.steps (next :: rest) (context.withValue _) _

theorem succ (below : ListsAt engine depth) : ListsAt engine (depth + 1) where
  branch := below.branch_succ
  lines := below.lines_succ
  single := below.single_succ
  dialect := below.dialect_succ
  steps := below.steps_succ

end ListsAt

/-- Asked for lists, evaluations give results of the kinds that they should at every
depth. -/
theorem listsAt (depth : Nat) : ListsAt engine depth := by
  induction depth with
  | zero => exact .zero
  | succ depth below => exact below.succ

/-- Catching the flaws of rules keeps what holds of the results. -/
theorem catchFlaw_values
    {kind : Found → Prop}
    {action : Extract (List Found)}
    (ends : Ends (fun values => ∀ value ∈ values, kind value) (fun _ => True) action) :
    Ends (fun result => ∀ value ∈ result.values, kind value) (fun _ => True)
      (catchFlaw action) := by
  intro session
  rw [runFrom_catchFlaw]
  cases ended : runFrom action session with
  | mk result after =>
      cases result with
      | ok values => exact ends.value ended
      | error fault =>
          cases fault with
          | rule flaw =>
              intro value member
              cases member
          | _ => trivial

/-- What all results of every branch are, the results of a rule are for one of its
branches. -/
theorem evaluateAt_values
    {depth : Nat}
    {context : Context}
    {asList : Bool}
    {kind : Text → Found → Prop}
    (each : ∀ branch, Ends (fun values => ∀ value ∈ values, kind branch value) (fun _ => True)
      (evaluateBranch engine depth context branch asList))
    (rule : Text) :
    Ends
      (fun result => ∀ value ∈ result.values,
        ∃ branch ∈ (Operator.split (stripReverse rule).1).2, kind branch value)
      (fun _ => True) (evaluateAt engine (depth + 1) context rule asList) := by
  rw [evaluateAt]
  split
  · exact .of_throw trivial
  · simp only
    split
    · exact .of_pure (by simp [Result.values])
    · split
      · exact .of_pure (by simp [Result.values])
      · refine catchFlaw_values ?_
        refine (Ends.mapM fun branch _ => each branch).bind fun lists all => .of_pure ?_
        intro value member
        have combined :
            value ∈ Operator.combine (Operator.split (stripReverse rule).1).1 lists := by
          split at member
          · exact List.mem_reverse.mp member
          · exact member
        obtain ⟨values, among, inside⟩ := mem_combine combined
        obtain ⟨branch, isBranch, holds⟩ := all values among
        exact ⟨branch, isBranch, holds value inside⟩

/-- Every result of a rule evaluated for handles came of one of its branches. -/
theorem evaluateAt_cameOf
    (depth : Nat)
    (context : Context)
    (rule : Text) :
    Ends
      (fun result => ∀ value ∈ result.values,
        ∃ branch ∈ (Operator.split (stripReverse rule).1).2, CameOf engine context branch value)
      (fun _ => True) (evaluateAt engine depth context rule true) := by
  cases depth with
  | zero =>
      rw [evaluateAt]
      exact .of_throw trivial
  | succ depth => exact evaluateAt_values engine ((listsAt engine depth).branch context) rule

/-- A list of results holds handles of the document only, exactly when none of them is a text
that the concluding rule of a branch writes. -/
theorem evaluateAt_handles_iff
    {depth : Nat}
    {context : Context}
    {rule : Text}
    {session after : Session}
    {values : List Found}
    (returned : runFrom (evaluateAt engine depth context rule true) session =
      (.ok (.found values), after)) :
    (∀ value ∈ values, value.IsHandleOf context.document.serial) ↔
      ¬∃ value ∈ values, ∃ branch ∈ (Operator.split (stripReverse rule).1).2,
        Written engine context branch value := by
  constructor
  · rintro handles ⟨value, member, branch, -, isText, -⟩
    exact isText.not_isHandleOf _ (handles value member)
  · intro unwritten value member
    obtain ⟨branch, among, came⟩ :=
      (evaluateAt_cameOf engine depth context rule).value returned value member
    rcases came.handle_or_written with isHandle | written
    · exact isHandle
    · exact absurd ⟨value, member, branch, among, written⟩ unwritten

/-! ## A template in a list -/

/-- A template that names a variable. -/
def variableTemplate : Text := "\x7b\x7bk\x7d\x7d"

/-- A session with that variable. -/
def variableSession : Session := ⟨[("k", .str ['v'])], []⟩

/-- The evaluation of a template for handles. -/
def templateRun : Except Fault Result × Session :=
  runFrom (evaluateList {} (.ofBody "<p>a</p>") variableTemplate) variableSession

/-- The equivalence at a template. -/
theorem evaluateAt_handles_iff_template :
    ∃ values after, templateRun = (.ok (.found values), after) ∧
      ((∀ value ∈ values, value.IsHandleOf 0) ↔
        ¬∃ value ∈ values, ∃ branch ∈ (Operator.split (stripReverse variableTemplate).1).2,
          Written {} (.ofBody "<p>a</p>") branch value) := by
  have given : (foundIn? templateRun).isSome = true := by decide +kernel
  obtain ⟨values, isFound⟩ := Option.isSome_iff_exists.mp given
  obtain ⟨after, returned⟩ := eq_of_foundIn? isFound
  exact ⟨values, after, returned, evaluateAt_handles_iff {} returned⟩

/-- A template evaluated for handles gives a text. -/
theorem templateRun_text :
    ∃ values after, templateRun = (.ok (.found values), after) ∧
      ¬∀ value ∈ values, value.IsHandleOf 0 := by
  have given : (foundIn? templateRun).isSome = true := by decide +kernel
  obtain ⟨values, isFound⟩ := Option.isSome_iff_exists.mp given
  obtain ⟨after, returned⟩ := eq_of_foundIn? isFound
  have kinds : (foundIn? templateRun).map (List.map Found.isPlain) = some [true] := by
    decide +kernel
  refine ⟨values, after, returned, fun handles => ?_⟩
  rw [isFound, Option.map_some, Option.some.injEq] at kinds
  cases values with
  | nil => cases kinds
  | cons value rest =>
      obtain ⟨pointer, rfl, -⟩ := handles value List.mem_cons_self
      cases kinds

end Extraction

end RuleProbe
