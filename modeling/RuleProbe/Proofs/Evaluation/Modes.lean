import RuleProbe.Proofs.Evaluation.Given
import RuleProbe.Proofs.Evaluation.Simple

/-!
# Evaluations for values beside evaluations for lists

A chain, a path into a document and a path into JSON values find the same things whether they are
asked for values or for a list.  Asked for values, they give what the results of the list stand
for, those without a text left out.
-/

namespace RuleProbe

/-! ## Accessors in both modes -/

namespace Chain

theorem isAccessor_of_list
    {segment : Text}
    (isAccessor' : isAccessor segment false = true)
    (ends : Bool) :
    isAccessor segment ends = true := by
  unfold isAccessor at isAccessor' ⊢
  simp only [Bool.false_and, Bool.or_false] at isAccessor'
  simp only [isAccessor', Bool.true_or]

/-- The last of several segments is an accessor for lists as well, if it is one for values. -/
def NamesAccessor (segments : List Text) : Prop :=
  ∀ last ∈ segments.getLast?, 1 < segments.length →
    isAccessor last true = true → isAccessor last false = true

instance (segments : List Text) : Decidable (NamesAccessor segments) :=
  inferInstanceAs (Decidable (∀ last ∈ segments.getLast?, _))

theorem splitAccessor_modes {segments : List Text} (names : NamesAccessor segments) :
    splitAccessor segments true = splitAccessor segments false := by
  unfold splitAccessor
  split
  · rfl
  · rename_i last isLast
    have same : isAccessor last (true && decide (1 < segments.length)) =
        isAccessor last (false && decide (1 < segments.length)) := by
      rw [Bool.false_and, Bool.true_and]
      by_cases several : 1 < segments.length
      · rw [decide_eq_true several, Bool.eq_iff_iff]
        exact ⟨names last isLast several, fun isAccessor' => isAccessor_of_list isAccessor' true⟩
      · rw [decide_eq_false several]
    rw [same]

/-- The texts of elements are read without a flaw. -/
theorem readAll_text (tree : Markup.Tree) (baseUrl : Text) (nodes : List Nat) :
    readAll tree "text" baseUrl nodes =
      .ok ((nodes.map fun i => Text.trim (tree.textOf i)).filter fun text => !text.isEmpty) := by
  induction nodes with
  | nil => rfl
  | cons i rest hypothesis =>
      have value : readAccessor tree i "text" baseUrl = .ok (Text.trim (tree.textOf i)) := rfl
      rw [readAll, value, hypothesis, List.map_cons, List.filter_cons]
      cases (Text.trim (tree.textOf i)) <;> rfl

/-- In both modes a chain follows the same selectors and reads the same accessor, or none. -/
theorem evaluate_modes
    {chain : Text}
    (names : NamesAccessor (split chain))
    (tree : Markup.Tree)
    (start : List Nat)
    (baseUrl : Text)
    (fromElement : Bool) :
    ∃ (walked : Except Fault (List Nat)) (accessor? : Option Text), ∀ scalar,
      evaluate tree start chain ⟨baseUrl, scalar, fromElement⟩ = walked >>= fun nodes =>
        match accessor? with
        | none =>
            if scalar then (readAll tree "text" baseUrl nodes).map .texts else .ok (.nodes nodes)
        | some accessor => (readAll tree accessor baseUrl nodes).map .texts := by
  have same : ∀ scalar, splitAccessor (split chain) scalar = splitAccessor (split chain) false := by
    intro scalar
    cases scalar with
    | true => exact splitAccessor_modes names
    | false => rfl
  unfold evaluate
  simp only [same]
  exact ⟨_, (splitAccessor (split chain) false).2, fun _ => rfl⟩

end Chain

namespace Extraction

/-! ## What results stand for -/

/-- The value that a result stands for. -/
def Found.worth : Found → Json
  | .plain value => value
  | .handle ⟨_, .value value⟩ => value
  | .handle pointer => .str pointer.text

theorem Found.worth_fieldText (found : Found) : found.worth.fieldText = found.text := by
  cases found with
  | plain value => rfl
  | handle pointer =>
      obtain ⟨serial, target⟩ := pointer
      cases target <;> rfl

/-- The values that results stand for, those without a text left out. -/
def readOff (values : List Found) : List Found :=
  (values.filter fun value => !value.text.isEmpty).map fun value => .plain value.worth

theorem readOff_texts (values : List Found) :
    (readOff values).map Found.text =
      (values.map Found.text).filter fun text => !text.isEmpty := by
  have texts : (Found.text ∘ fun value => Found.plain value.worth) = Found.text :=
    funext Found.worth_fieldText
  unfold readOff
  rw [List.map_map, texts, List.filter_map]
  rfl

theorem readOff_singleton (found : Found) :
    readOff [found] = if found.text.isEmpty then [] else [.plain found.worth] := by
  unfold readOff
  cases empty : found.text.isEmpty <;> simp [empty]

theorem readOff_append (values others : List Found) :
    readOff (values ++ others) = readOff values ++ readOff others := by
  simp [readOff]

theorem readOff_reverse (values : List Found) :
    readOff values.reverse = (readOff values).reverse := by
  simp [readOff]

theorem readOff_flatMap (values : List Found) (each : Found → List Found) :
    readOff (values.flatMap each) = values.flatMap fun value => readOff (each value) := by
  induction values with
  | nil => rfl
  | cons value rest hypothesis =>
      rw [List.flatMap_cons, List.flatMap_cons, readOff_append, hypothesis]

theorem readOff_wrap (serial : Nat) (values : List Found) :
    readOff (Found.wrap serial values) = readOff values := by
  unfold readOff Found.wrap
  rw [List.filter_map, List.map_map]
  congr 1
  · funext value
    cases value <;> rfl
  · congr 1
    funext value
    cases value <;> rfl

/-- Values with a text stand for themselves. -/
theorem readOff_of_plain
    {values : List Found}
    (plain : ArePlain values)
    (have' : HaveTexts values) :
    readOff values = values := by
  have all : (values.filter fun value => !value.text.isEmpty) = values := by
    rw [List.filter_eq_self]
    intro value member
    simpa using have' value member
  unfold readOff
  rw [all]
  refine (List.map_congr_left fun value member => ?_).trans (List.map_id values)
  have isPlain := plain value member
  cases value with
  | plain json => rfl
  | handle pointer => cases isPlain

theorem readOff_of_given {values : List Found} (have' : HaveTexts values) :
    readOff values = values.map fun value => .plain value.worth := by
  unfold readOff
  rw [List.filter_eq_self.mpr]
  intro value member
  simpa using have' value member

theorem areGiven_wrap {values : List Found} (given : AreGiven values) (serial : Nat) :
    AreGiven (Found.wrap serial values) := by
  intro value member
  obtain ⟨source, among, rfl⟩ := List.mem_map.mp member
  refine (given source among).imp (fun left => ?_) fun some => ?_
  · cases source with
    | plain json => cases left
    | handle pointer => exact left
  · cases source <;> exact some

/-! ## Dialects in both modes -/

/-- Asked for values, a dialect gives what the results of a list stand for; and a list holds
nothing without a text that a filter could change. -/
structure InModes (found : Bool → Except Fault (List Found)) : Prop where
  /-- The values are what the list stands for. -/
  scalar : found false = (found true).map readOff
  /-- What filters do not leave alone has a text. -/
  given : Yields AreGiven (found true)

theorem inModes_error (fault : Fault) : InModes fun _ => .error fault where
  scalar := rfl
  given := .of_error fault

/-- Values with a text are the same in both modes. -/
theorem inModes_ok
    {values : List Found}
    (plain : ArePlain values)
    (have' : HaveTexts values) :
    InModes fun _ => .ok values where
  scalar := congrArg Except.ok (readOff_of_plain plain have').symm
  given := .of_ok have'.areGiven

theorem inModes_givenText (text : Text) :
    InModes fun _ => .ok (if text.isEmpty then [] else texts [text]) :=
  inModes_ok (arePlain_givenText text) (haveTexts_givenText text)

namespace InModes

variable {found others : Bool → Except Fault (List Found)}

theorem of_eq (modes : InModes others) (same : ∀ asList, found asList = others asList) :
    InModes found := by
  rwa [funext same]

/-- What goes before both modes alike does not tell them apart. -/
theorem bind
    {α : Type}
    {next : Bool → α → Except Fault (List Found)}
    (value : Except Fault α)
    (each : ∀ given, value = .ok given → InModes fun asList => next asList given) :
    InModes fun asList => value >>= next asList := by
  cases value with
  | error fault => exact inModes_error fault
  | ok given => exact each given rfl

theorem append (modes : InModes found) (othersModes : InModes others) :
    InModes fun asList => found asList >>= fun first =>
      others asList >>= fun later => .ok (first ++ later) where
  scalar := by
    rw [modes.scalar, othersModes.scalar]
    cases found true with
    | error fault => rfl
    | ok first =>
        cases others true with
        | error fault => rfl
        | ok later => exact congrArg Except.ok (readOff_append first later).symm
  given := by
    refine modes.given.bind fun first given => ?_
    refine othersModes.given.bind fun later laterGiven => .of_ok fun value member => ?_
    exact (List.mem_append.mp member).elim (given value) (laterGiven value)

/-- Results are wrapped for a list. -/
theorem wrap (modes : InModes found) (serial : Nat) :
    InModes fun asList => found asList >>= fun values =>
      .ok (if asList then Found.wrap serial values else values) where
  scalar := by
    rw [modes.scalar]
    cases found true with
    | error fault => rfl
    | ok values => exact congrArg Except.ok (readOff_wrap serial values).symm
  given := modes.given.bind fun values given => .of_ok (areGiven_wrap given serial)

end InModes

/-- The results that the outcome of a chain gives. -/
def outcomeFound (serial : Nat) (tree : Markup.Tree) (asList : Bool) : Chain.Outcome → List Found
  | .nodes nodes => nodes.map fun i => .handle ⟨serial, .node tree i⟩
  | .texts found => if asList then Found.wrap serial (texts found) else texts found

theorem evaluateChain_eq (context : Context) (chain : Text) (asList : Bool) :
    evaluateChain context chain asList =
      (chainStart context >>= fun start =>
        (Chain.evaluate start.1 [start.2.1] chain ⟨context.baseUrl, !asList, start.2.2⟩).map
          (outcomeFound context.document.serial start.1 asList)) := by
  unfold evaluateChain
  refine congrArg (chainStart context >>= ·) (funext fun start => ?_)
  obtain ⟨tree, first, fromElement⟩ := start
  dsimp only
  cases Chain.evaluate tree [first] chain ⟨context.baseUrl, !asList, fromElement⟩ with
  | error fault => rfl
  | ok outcome => cases outcome <;> rfl

/-- The texts of elements stand for the elements. -/
theorem readOff_nodes (serial : Nat) (tree : Markup.Tree) (nodes : List Nat) :
    readOff (nodes.map fun i => .handle ⟨serial, .node tree i⟩) =
      texts ((nodes.map fun i => Text.trim (tree.textOf i)).filter fun text => !text.isEmpty) := by
  unfold readOff texts
  rw [List.filter_map, List.filter_map, List.map_map, List.map_map]
  rfl

theorem evaluateChain_inModes
    {chain : Text}
    (names : Chain.NamesAccessor (Chain.split chain))
    (context : Context) :
    InModes (evaluateChain context chain) := by
  refine (InModes.bind _ fun start _ => ?_).of_eq (evaluateChain_eq context chain)
  obtain ⟨walked, accessor?, evaluated⟩ :=
    Chain.evaluate_modes names start.1 [start.2.1] context.baseUrl start.2.2
  simp only [evaluated]
  cases walked with
  | error fault => exact inModes_error fault
  | ok nodes =>
      cases accessor? with
      | none =>
          constructor
          · show ((Chain.readAll start.1 "text" context.baseUrl nodes).map _).map _ = _
            rw [Chain.readAll_text]
            exact congrArg Except.ok (readOff_nodes _ start.1 nodes).symm
          · refine .of_ok fun value member => ?_
            obtain ⟨i, -, rfl⟩ := List.mem_map.mp member
            exact .inl rfl
      | some accessor =>
          refine (InModes.bind (Chain.readAll start.1 accessor context.baseUrl nodes)
            fun found read => (inModes_ok (arePlain_texts found)
              (haveTexts_texts (Chain.readAll_given _ _ _ found read))).wrap
                context.document.serial).of_eq fun asList => ?_
          show ((Chain.readAll start.1 accessor context.baseUrl nodes).map _).map _ = _
          cases Chain.readAll start.1 accessor context.baseUrl nodes <;> rfl

theorem placeFound_inModes
    (context : Context)
    (document : Mended.Document)
    (place : XPath.Place) :
    InModes fun asList => placeFound context document asList place := by
  unfold placeFound
  split
  · exact inModes_ok arePlain_nil haveTexts_nil
  · split
    · constructor
      · exact congrArg Except.ok
          (readOff_singleton (.handle ⟨context.document.serial, .mended document place.node⟩)).symm
      · exact .of_ok fun value member => .inl (by rw [List.mem_singleton.mp member]; rfl)
    · exact .bind _ fun text _ => inModes_givenText text

theorem placesFound_inModes
    (context : Context)
    (document : Mended.Document)
    (places : List XPath.Place) :
    InModes fun asList => placesFound context document asList places := by
  induction places with
  | nil => exact inModes_ok arePlain_nil haveTexts_nil
  | cons place rest hypothesis =>
      exact (placeFound_inModes context document place).append hypothesis

theorem evaluateXPath_inModes (context : Context) (expression : Text) :
    InModes (evaluateXPath context expression) := by
  unfold evaluateXPath
  simp only
  split
  · exact inModes_ok arePlain_nil haveTexts_nil
  · split
    · exact inModes_error _
    · split
      · exact inModes_error _
      · exact (placesFound_inModes context _ _).wrap _
      · exact (inModes_givenText _).wrap _

theorem evaluateJsonPath_inModes (context : Context) (path : Text) :
    InModes (evaluateJsonPath context path) := by
  unfold evaluateJsonPath
  refine .bind _ fun content _ => ?_
  split
  · exact inModes_error _
  · split
    · exact inModes_error _
    · exact (inModes_ok (arePlain_map_plain _) (haveTexts_results _)).wrap _

/-! ## Filters in both modes -/

/-- No result is left alone by filters. -/
def AreClear (values : List Found) : Prop := ∀ value ∈ values, value.isOpaque = false

theorem AreGiven.haveTexts
    {values : List Found}
    (given : AreGiven values)
    (clear : AreClear values) :
    HaveTexts values := by
  intro value member
  refine (given value member).resolve_left ?_
  rw [clear value member]
  exact Bool.false_ne_true

/-- A filter changes what a result stands for like the result. -/
theorem remains_worth
    {found : Found}
    (clear : found.isOpaque = false)
    (serial : Nat)
    (change : Text → Text) :
    remains serial change (.plain found.worth) = readOff (remains serial change found) := by
  have text : (Found.plain found.worth).text = found.text := found.worth_fieldText
  have open' : (Found.plain found.worth).isOpaque = false := rfl
  unfold remains
  simp only [text, clear, open', Bool.false_eq_true, if_false]
  split
  · rfl
  · rename_i given
    cases found <;> rw [readOff_singleton] <;> exact (if_neg given).symm

/-- A result that is left alone stays. -/
theorem mem_remains_of_isOpaque
    {found : Found}
    (isOpaque : found.isOpaque = true)
    (serial : Nat)
    (change : Text → Text) :
    found ∈ remains serial change found := by
  unfold remains
  rw [if_pos isOpaque]
  exact List.mem_singleton_self found

/-- Where a filter leaves nothing alone, filtering the results of a list and then reading them off
is reading them off first. -/
theorem filterFound_readOff
    {values : List Found}
    (given : AreGiven values)
    (serial : Nat)
    (filter : Option ReplaceFilter)
    (clear : Yields AreClear (filterFound serial filter values)) :
    filterFound serial filter (readOff values) =
      (filterFound serial filter values).map readOff := by
  rcases applyOptional_cases filter with ⟨change, applies⟩ | ⟨fault, refuses⟩
  · rw [filterFound_of_ok applies] at clear
    have kept := clear _ rfl
    have open' : AreClear values := by
      intro value member
      by_contra left
      have isOpaque := Bool.of_not_eq_false left
      have stays := mem_remains_of_isOpaque isOpaque serial change
      exact left (kept value (List.mem_flatMap.mpr ⟨value, member, stays⟩))
    rw [readOff_of_given (given.haveTexts open'), filterFound_of_ok applies,
      filterFound_of_ok applies, List.flatMap_map]
    refine congrArg Except.ok ?_
    rw [readOff_flatMap]
    exact List.flatMap_congr fun value member => remains_worth (open' value member) serial change
  · rw [filterFound_of_error refuses] at clear ⊢
    rw [filterFound_of_error refuses]
    cases all : values.all Found.isOpaque with
    | true =>
        rw [all] at clear
        have none : values = [] := by
          refine List.eq_nil_iff_forall_not_mem.mpr fun value member => ?_
          have left := List.all_eq_true.mp all value member
          rw [clear values rfl value member] at left
          cases left
        rw [none]
        rfl
    | false =>
        obtain ⟨value, member, changed⟩ := List.all_eq_false.mp all
        have some := (given value member).resolve_left changed
        have among : .plain value.worth ∈ readOff values :=
          List.mem_map.mpr ⟨value, List.mem_filter.mpr ⟨member, by simpa using some⟩, rfl⟩
        rw [if_neg fun left => Bool.false_ne_true (List.all_eq_true.mp left _ among)]
        rfl

/-! ## Rules in both modes -/

/-- A rule without its sign that is read in one piece: it holds no script and no operator, no
directive, and at most one line that is not blank. -/
structure Direct (rule : Text) : Prop where
  /-- At most one line is not blank. -/
  alone : (ruleLines rule).length ≤ 1
  /-- No script stands in the rule. -/
  scriptless : hasScript rule = false
  /-- No operator cuts it. -/
  uncut : (Operator.split rule).1 = none
  /-- Nothing is stored. -/
  putless : Directive.Absent Directive.putMark rule
  /-- Nothing is inserted. -/
  getless : Directive.Absent Directive.getMark rule

/-- The body of a rule is a chain, a path into a document or a path into JSON values, and a chain
does not end in what is an accessor for values only. -/
structure ReadsAlike (context : Context) (body : Text) : Prop where
  /-- No group at hand is referred to. -/
  groupless : referredGroups? context body = none
  /-- The body is no template. -/
  unfilled : Template.isTemplate body = false
  /-- The body is no regular expression. -/
  regexless : ∀ isJson, context.isJson = .ok isJson →
    ∀ pattern, Dialect.ofRule body isJson ≠ .regex pattern
  /-- The accessor of a chain is one for lists as well. -/
  names : ∀ isJson, context.isJson = .ok isJson →
    ∀ chain, Dialect.ofRule body isJson = .chain chain → Chain.NamesAccessor (Chain.split chain)

/-- The body of a rule, without its filter. -/
def bodyOf (rule : Text) : Text := Text.trim (ReplaceFilter.split (Text.trim rule)).1

variable (engine : Engine)

theorem evaluateDialect_inModes
    {context : Context}
    {body : Text}
    (alike : ReadsAlike context body)
    (scriptless : hasScript (Text.trim body) = false)
    {isJson : Bool}
    (known : context.isJson = .ok isJson)
    (depth : Nat) :
    ∃ found, InModes found ∧
      ∀ asList, evaluateDialect engine (depth + 1) context isJson body asList =
        lift (found asList) := by
  simp only [evaluateDialect]
  cases dialect : Dialect.ofRule body isJson with
  | chain chain =>
      have names := alike.names isJson known chain dialect
      exact ⟨_, evaluateChain_inModes names context, fun _ => rfl⟩
  | xpath expression => exact ⟨_, evaluateXPath_inModes context expression, fun _ => rfl⟩
  | jsonPath path => exact ⟨_, evaluateJsonPath_inModes context path, fun _ => rfl⟩
  | regex pattern => exact absurd dialect (alike.regexless isJson known pattern)
  | script steps =>
      rw [(Dialect.steps_of_script dialect).1] at scriptless
      cases scriptless

/-- What a rule gives in each mode once its filter, if it has one, has left nothing of a list
alone. -/
def Agrees (filter : Option ReplaceFilter) (found : Bool → Except Fault (List Found)) : Prop :=
  (filter.isSome = true → Yields AreClear (found true)) → found false = (found true).map readOff

theorem lift_bind
    {α β : Type}
    (value : Except Fault α)
    (next : α → Except Fault β) :
    (lift value >>= fun found => lift (next found)) = lift (value >>= next) := by
  cases value <;> rfl

/-- What a filter leaves of results, when there is one. -/
def filtered (serial : Nat) (filter : Option ReplaceFilter) (values : List Found) :
    Except Fault (List Found) :=
  if filter.isSome then filterFound serial filter values else .ok values

theorem filteredFound_eq (context : Context) (filter : Option ReplaceFilter) :
    filteredFound context filter = fun values =>
      lift (filtered context.document.serial filter values) := by
  funext values
  unfold filteredFound filtered
  split <;> rfl

theorem InModes.filtered
    {found : Bool → Except Fault (List Found)}
    (modes : InModes found)
    (serial : Nat)
    (filter : Option ReplaceFilter) :
    Agrees filter fun asList => found asList >>= Extraction.filtered serial filter := by
  intro clear
  have given := modes.given
  dsimp only at clear ⊢
  rw [modes.scalar]
  cases run : found true with
  | error fault => rfl
  | ok values =>
      rw [run] at clear given
      show Extraction.filtered serial filter (readOff values) =
        (Extraction.filtered serial filter values).map readOff
      unfold Extraction.filtered at clear ⊢
      cases present : filter.isSome with
      | false => rfl
      | true =>
          rw [present] at clear
          exact filterFound_readOff (given values rfl) serial filter (clear rfl)

/-- What a filter leaves of the content at hand stands for itself. -/
theorem readOff_filtered_texts (filter : Option ReplaceFilter) (context : Context) :
    (filtered context.document.serial filter
        (if filter.isSome then texts [context.content] else [])).map readOff =
      filtered context.document.serial filter
        (if filter.isSome then texts [context.content] else []) := by
  unfold filtered
  cases filter.isSome with
  | false => rfl
  | true =>
      have plain := arePlain_texts [context.content]
      have kept := filterFound_keeps (filterKeeps_isPlain context.document.serial) filter plain
      have given := filterFound_haveTexts plain context.document.serial filter
      simp only [if_true]
      cases run : filterFound context.document.serial filter (texts [context.content]) with
      | error fault => rfl
      | ok values =>
          exact congrArg Except.ok (readOff_of_plain (kept values run) (given values run))

theorem concludeSingle_agrees
    {context : Context}
    {directed : Text}
    (scriptless : hasScript directed = false)
    (alike : ReadsAlike context (Text.trim (ReplaceFilter.split directed).1))
    (depth : Nat) :
    ∃ found, Agrees (ReplaceFilter.split directed).2 found ∧
      ∀ asList,
        concludeSingle engine (depth + 1) context asList directed = lift (found asList) := by
  have bare : hasScript (Text.trim (Text.trim (ReplaceFilter.split directed).1)) = false :=
    hasScript_eq_false_of_isInfix
      ((Text.trim_isInfix _).trans ((Text.trim_isInfix _).trans (ReplaceFilter.split_isInfix _)))
      scriptless
  unfold concludeSingle
  rw [filteredFound_eq]
  generalize (ReplaceFilter.split directed).2 = filter
  generalize Text.trim (ReplaceFilter.split directed).1 = body at alike bare
  cases empty : body.isEmpty with
  | true =>
      let values : List Found := if filter.isSome then texts [context.content] else []
      refine ⟨fun _ => filtered context.document.serial filter values, fun _ => ?_,
        fun asList => ?_⟩
      · exact (readOff_filtered_texts filter context).symm
      · simp only [bodyFound, empty, if_true]
        rfl
  | false =>
      have body : ∃ found, InModes found ∧ ∀ asList,
          bodyFound engine (depth + 1) context filter.isSome body asList = lift (found asList) := by
        simp only [bodyFound, empty, alike.groupless, alike.unfilled, Bool.false_eq_true, if_false]
        cases known : context.isJson with
        | error defect => exact ⟨_, inModes_error (.defect defect), fun _ => rfl⟩
        | ok isJson =>
            obtain ⟨found, modes, same⟩ := evaluateDialect_inModes engine alike bare known depth
            exact ⟨found, modes, fun asList => same asList⟩
      obtain ⟨found, modes, same⟩ := body
      refine ⟨_, modes.filtered context.document.serial filter, fun asList => ?_⟩
      rw [same, lift_bind]

/-- The filter of a rule, if it has one. -/
def filterOf (rule : Text) : Option ReplaceFilter := (ReplaceFilter.split (Text.trim rule)).2

/-- Nothing is stored for a rule that is read in one piece, and nothing is inserted into it. -/
theorem applyDirectives_direct
    {body : Text}
    (direct : Direct body)
    (depth : Nat)
    (context : Context) :
    applyDirectives engine (depth + 1) context (Text.trim body) = pure (Text.trim body) := by
  have trimmed : Text.trim (Text.trim body) = Text.trim body :=
    (Text.trimmed_trim body).trim_eq_self
  have inside : Text.trim body <:+: body := Text.trim_isInfix body
  have putless := Directive.takePuts_of_none (direct.putless.of_isInfix inside)
  have getless := Directive.substituteGet_of_none (direct.getless.of_isInfix inside)
  have applied := applyDirectives_of_eq engine putless (by rwa [trimmed]) depth context
  rwa [trimmed] at applied

/-- A rule that is read in one piece is concluded at once. -/
theorem evaluateAt_concluded
    {context : Context}
    (usable : context.Usable)
    {rule : Text}
    (given : rule.isBlankText = false)
    (direct : Direct (stripReverse rule).1)
    (depth : Nat)
    (asList : Bool) :
    evaluateAt engine (depth + 4) context rule asList =
      catchFlaw (turned (stripReverse rule).2 <$>
        concludeSingle engine (depth + 1) context asList (Text.trim (stripReverse rule).1)) := by
  rw [evaluateAt_of_split engine usable given (Operator.split_of_uncut direct.uncut),
    evaluateBranch_alone engine direct.scriptless direct.alone, evaluateSingle_eq,
    applyDirectives_direct engine direct, pure_bind]

/-- A rule that is read in one piece is evaluated without effects. -/
theorem evaluateAt_direct
    {context : Context}
    (usable : context.Usable)
    {rule : Text}
    (given : rule.isBlankText = false)
    (direct : Direct (stripReverse rule).1)
    (alike : ReadsAlike context (bodyOf (stripReverse rule).1))
    (depth : Nat) :
    ∃ found, Agrees (filterOf (stripReverse rule).1) found ∧
      ∀ asList, evaluateAt engine (depth + 4) context rule asList =
        catchFlaw (turned (stripReverse rule).2 <$> lift (found asList)) := by
  have scriptless := hasScript_eq_false_of_isInfix (Text.trim_isInfix _) direct.scriptless
  obtain ⟨found, agrees, same⟩ := concludeSingle_agrees engine scriptless alike depth
  refine ⟨found, agrees, fun asList => ?_⟩
  rw [evaluateAt_concluded engine usable given direct, same]

/-- Where rules cannot be evaluated, or are blank, it is the same for values and for lists, and
nothing is found. -/
theorem evaluateAt_vain
    {context : Context}
    {rule : Text}
    (vain : ¬context.Usable ∨ rule.isBlankText = true)
    (depth : Nat) :
    ∃ ended : Except Fault Result, (∀ result, ended = .ok result → result.values = []) ∧
      ∀ asList, evaluateAt engine (depth + 1) context rule asList = lift ended := by
  by_cases plain : ∃ value, context.element = some (.plain value)
  · obtain ⟨value, same⟩ := plain
    refine ⟨.error (.defect (.noHandle value.typeName)), fun _ => nofun, fun asList => ?_⟩
    rw [evaluateAt, same]
    rfl
  · have attached : ∀ value, context.element ≠ some (.plain value) :=
      fun value same => plain ⟨value, same⟩
    cases native : context.handle?.any fun handle =>
        handle.document != context.document.serial with
    | true =>
        refine ⟨.ok (.failed foreignReason), fun result same => ?_, fun asList => ?_⟩
        · rw [← Except.ok.inj same]
          rfl
        · rw [evaluateAt]
          split
          · exact absurd ‹_› (attached _)
          · simp only [native]
            rfl
    | false =>
        have usable : context.Usable := ⟨attached, native⟩
        have blank := vain.resolve_left fun unusable => unusable usable
        refine ⟨.ok (.found []), fun result same => ?_, evaluateAt_blank engine usable blank depth⟩
        rw [← Except.ok.inj same]
        rfl

/-- The outcome of an evaluation without effects whose flaws are caught. -/
def caught (reversed : Bool) : Except Fault (List Found) → Except Fault Result
  | .ok values => .ok (.found (turned reversed values))
  | .error (.rule flaw) => .ok (.failed flaw.message)
  | .error fault => .error fault

theorem runFrom_catchFlaw_lift
    (reversed : Bool)
    (found : Except Fault (List Found))
    (session : Session) :
    runFrom (catchFlaw (turned reversed <$> lift found)) session =
      (caught reversed found, session) := by
  rw [runFrom_catchFlaw, runFrom_map, lift, runFrom_ofExcept]
  cases found with
  | ok values => rfl
  | error fault => cases fault <;> rfl

theorem turned_readOff (reversed : Bool) (values : List Found) :
    turned reversed (readOff values) = readOff (turned reversed values) := by
  cases reversed with
  | true => exact (readOff_reverse values).symm
  | false => rfl

/-- What two evaluations end in agrees: they leave the same session and have the same flaw or
defect, or else the results of the first one have the texts of the second one that are not
empty. -/
structure RunsAgree (values handles : Except Fault Result × Session) : Prop where
  /-- The sessions are the same. -/
  session : values.2 = handles.2
  /-- The outcomes agree. -/
  outcome : values.1.map (fun result => (result.reason?, result.texts)) =
    handles.1.map fun result => (result.reason?, result.givenTexts)

theorem caught_readOff (reversed : Bool) (found : Except Fault (List Found)) :
    (caught reversed (found.map readOff)).map (fun result => (result.reason?, result.texts)) =
      (caught reversed found).map fun result => (result.reason?, result.givenTexts) := by
  cases found with
  | ok values =>
      have texts : (turned reversed (readOff values)).map Found.text =
          ((turned reversed values).map Found.text).filter fun text => !text.isEmpty := by
        rw [turned_readOff, readOff_texts]
      exact congrArg (fun texts => Except.ok (none, texts)) texts
  | error fault => cases fault <;> rfl

/-- A chain or a path that is read in one piece is evaluated for values as it is for a list: both
fail alike, or the values have the texts of the list that are not empty.  Where the rule has a
filter, the list must hold nothing that filters leave alone. -/
theorem evaluate_agrees_evaluateList
    {context : Context}
    {rule : Text}
    (direct : Direct (stripReverse rule).1)
    (alike : ReadsAlike context (bodyOf (stripReverse rule).1))
    {session : Session}
    (clear : (filterOf (stripReverse rule).1).isSome = true → ∀ result after,
      runFrom (evaluateList engine context rule) session = (.ok result, after) →
        AreClear result.values) :
    RunsAgree (runFrom (evaluate engine context rule) session)
      (runFrom (evaluateList engine context rule) session) := by
  by_cases vain : ¬context.Usable ∨ rule.isBlankText = true
  · obtain ⟨ended, none, same⟩ := evaluateAt_vain engine vain (depthLimit - 1)
    have run (asList : Bool) :
        runFrom (evaluateAt engine depthLimit context rule asList) session = (ended, session) := by
      rw [show depthLimit = depthLimit - 1 + 1 from rfl, same, lift, runFrom_ofExcept]
    unfold evaluate evaluateList
    rw [run, run]
    refine ⟨rfl, ?_⟩
    cases ended with
    | error fault => rfl
    | ok result => simp [Except.map, Result.texts, Result.givenTexts, none result rfl]
  · rw [not_or, not_not, Bool.not_eq_true] at vain
    obtain ⟨found, agrees, same⟩ :=
      evaluateAt_direct engine vain.1 vain.2 direct alike (depthLimit - 4)
    have run (asList : Bool) :
        runFrom (evaluateAt engine depthLimit context rule asList) session =
          (caught (stripReverse rule).2 (found asList), session) := by
      rw [show depthLimit = depthLimit - 4 + 4 from rfl, same, runFrom_catchFlaw_lift]
    unfold evaluateList at clear
    unfold evaluate evaluateList
    rw [run] at clear
    rw [run, run]
    refine ⟨rfl, ?_⟩
    rw [agrees ?_]
    · exact caught_readOff _ _
    · intro filtered values returned value member
      rw [returned] at clear
      exact clear filtered _ session rfl value (mem_turned.mpr member)

/-- A page with two paragraphs, one of them without a text. -/
def paragraphs : Context := .ofBody "<p>a</p><p></p>".toList

/-- The texts of the paragraphs, a letter replaced. -/
def filteredChain : Text := "p@text##a##b".toList

/-- The filtered texts of the paragraphs, for values and for a list. -/
theorem evaluate_agrees_evaluateList_paragraphs :
    (foundIn? (runFrom (evaluate {} paragraphs filteredChain) ⟨[], []⟩)).map (List.map Found.text) =
        some [['b']] ∧
      RunsAgree (runFrom (evaluate {} paragraphs filteredChain) ⟨[], []⟩)
        (runFrom (evaluateList {} paragraphs filteredChain) ⟨[], []⟩) := by
  have unsigned : (stripReverse filteredChain).1 = filteredChain := by decide +kernel
  have body : bodyOf filteredChain = "p@text".toList := by decide +kernel
  have unread : paragraphs.isJson = .ok false := by rfl
  have isChain : Dialect.ofRule "p@text".toList false = .chain "p@text".toList := by decide +kernel
  have kinds : (foundIn? (runFrom (evaluateList {} paragraphs filteredChain) ⟨[], []⟩)).map
      (List.map Found.isOpaque) = some [false] := by
    decide +kernel
  have direct : Direct filteredChain :=
    ⟨by decide +kernel, by decide +kernel, by decide +kernel, by decide +kernel, by decide +kernel⟩
  have alike : ReadsAlike paragraphs "p@text".toList := by
    refine ⟨rfl, by decide +kernel, fun isJson known pattern => ?_,
      fun isJson known chain same => ?_⟩
    · rw [← Except.ok.inj (unread.symm.trans known), isChain]
      exact nofun
    · rw [← Except.ok.inj (unread.symm.trans known), isChain] at same
      rw [← Dialect.chain.inj same]
      decide +kernel
  refine ⟨by decide +kernel, evaluate_agrees_evaluateList {} (by rwa [unsigned])
    (by rwa [unsigned, body]) fun _ result after returned => ?_⟩
  rw [returned] at kinds
  cases result with
  | failed reason => cases kinds
  | found values =>
      have opaque' : values.map Found.isOpaque = [false] := Option.some.inj kinds
      intro value member
      have among : value.isOpaque ∈ values.map Found.isOpaque := List.mem_map_of_mem member
      rw [opaque'] at among
      exact List.mem_singleton.mp among

end Extraction

end RuleProbe
