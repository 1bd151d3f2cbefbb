import RuleProbe.Proofs.Evaluation.Single

/-!
# Evaluations do not read the numbers of documents

A document has a number only to tell it from others.  Where all numbers are raised alike, an
evaluation has the same effects and the same results, but for the numbers in its handles.
-/

namespace RuleProbe

namespace Extraction

/-! ## Raised numbers -/

/-- A handle of a document whose number is raised. -/
def Handle.renumber (offset : Nat) (pointer : Handle) : Handle :=
  { pointer with document := pointer.document + offset }

/-- A result whose numbers are raised. -/
def Found.renumber (offset : Nat) : Found → Found
  | .plain value => .plain value
  | .handle pointer => .handle (pointer.renumber offset)

/-- How an evaluation ended, its numbers raised. -/
def Result.renumber (offset : Nat) : Result → Result
  | .found values => .found (values.map (Found.renumber offset))
  | .failed reason => .failed reason

/-- A document whose number is raised. -/
def Document.renumber (offset : Nat) (document : Document) : Document :=
  { document with serial := document.serial + offset }

/-- What a rule can see, its numbers raised. -/
def Context.renumber (offset : Nat) (context : Context) : Context :=
  { context with
    document := context.document.renumber offset
    element := context.element.map (Found.renumber offset) }

variable (offset : Nat)

/-! ## What does not depend on numbers -/

@[simp] theorem Found.renumber_text (found : Found) :
    (found.renumber offset).text = found.text := by
  cases found <;> rfl

@[simp] theorem Result.renumber_values (result : Result) :
    (result.renumber offset).values = result.values.map (Found.renumber offset) := by
  cases result <;> rfl

@[simp] theorem Result.renumber_reason? (result : Result) :
    (result.renumber offset).reason? = result.reason? := by
  cases result <;> rfl

@[simp] theorem Result.renumber_texts (result : Result) :
    (result.renumber offset).texts = result.texts := by
  simp [Result.texts, Function.comp_def]

@[simp] theorem Result.renumber_givenTexts (result : Result) :
    (result.renumber offset).givenTexts = result.givenTexts := by
  simp [Result.givenTexts]

@[simp] theorem Result.renumber_firstText (result : Result) :
    (result.renumber offset).firstText = result.firstText := by
  simp [Result.firstText, Function.comp_def]

namespace Context

variable (context : Context)

@[simp] theorem renumber_serial :
    (context.renumber offset).document.serial = context.document.serial + offset := rfl

@[simp] theorem renumber_body :
    (context.renumber offset).document.body = context.document.body := rfl

@[simp] theorem renumber_handle? :
    (context.renumber offset).handle? = context.handle?.map (Handle.renumber offset) := by
  unfold handle? renumber
  cases context.element with
  | none => rfl
  | some found => cases found <;> rfl

@[simp] theorem renumber_content : (context.renumber offset).content = context.content := by
  unfold content
  rw [renumber_handle?]
  cases context.handle? <;> rfl

@[simp] theorem renumber_scriptValue :
    (context.renumber offset).scriptValue = context.scriptValue := by
  unfold scriptValue
  rw [renumber_handle?]
  cases context.handle? <;> rfl

@[simp] theorem renumber_isJson : (context.renumber offset).isJson = context.isJson := by
  unfold isJson
  rw [renumber_handle?]
  cases context.handle? <;> rfl

theorem renumber_withFound (found : Found) :
    (context.renumber offset).withFound (found.renumber offset) =
      (context.withFound found).renumber offset := by
  cases found <;> rfl

end Context

/-! ## Dialects -/

theorem Found.wrap_renumber (serial : Nat) (values : List Found) :
    Found.wrap (serial + offset) (values.map (Found.renumber offset)) =
      (Found.wrap serial values).map (Found.renumber offset) := by
  unfold Found.wrap
  rw [List.map_map, List.map_map]
  refine List.map_congr_left fun found _ => ?_
  cases found <;> rfl

@[simp] theorem map_renumber_plain (values : List Json) :
    (values.map Found.plain).map (Found.renumber offset) = values.map Found.plain := by
  rw [List.map_map]
  rfl

@[simp] theorem map_renumber_texts (items : List Text) :
    (texts items).map (Found.renumber offset) = texts items := by
  unfold texts
  rw [List.map_map]
  rfl

/-- What a dialect finds for a list is wrapped, and otherwise it is left as it is. -/
theorem wrapped_renumber (asList : Bool) (serial : Nat) (values : List Found) :
    (if asList then Found.wrap (serial + offset) (values.map (Found.renumber offset))
      else values.map (Found.renumber offset)) =
      (if asList then Found.wrap serial values else values).map (Found.renumber offset) := by
  split
  · exact Found.wrap_renumber offset serial values
  · rfl

/-- What a dialect finds that it takes from no document, before it is wrapped. -/
theorem wrapped_renumber_of_fixed
    {values : List Found}
    (fixed : values.map (Found.renumber offset) = values)
    (asList : Bool)
    (serial : Nat) :
    (if asList then Found.wrap (serial + offset) values else values) =
      (if asList then Found.wrap serial values else values).map (Found.renumber offset) := by
  have wrapped := wrapped_renumber offset asList serial values
  rwa [fixed] at wrapped

section

variable (context : Context)

@[simp] theorem chainStart_renumber :
    chainStart (context.renumber offset) = chainStart context := by
  unfold chainStart
  rw [Context.renumber_handle?]
  cases context.handle? <;> rfl

theorem evaluateChain_renumber (chain : Text) (asList : Bool) :
    evaluateChain (context.renumber offset) chain asList =
      (evaluateChain context chain asList).map (List.map (Found.renumber offset)) := by
  unfold evaluateChain
  rw [chainStart_renumber]
  cases chainStart context with
  | error fault => rfl
  | ok start =>
      obtain ⟨tree, first, fromElement⟩ := start
      change (Chain.evaluate tree [first] chain ⟨context.baseUrl, !asList, fromElement⟩ >>= _) =
        Except.map _ (Chain.evaluate tree [first] chain ⟨context.baseUrl, !asList, fromElement⟩
          >>= _)
      cases Chain.evaluate tree [first] chain ⟨context.baseUrl, !asList, fromElement⟩ with
      | error fault => rfl
      | ok outcome =>
          cases outcome with
          | nodes nodes =>
              refine congrArg Except.ok ?_
              rw [List.map_map]
              rfl
          | texts found =>
              exact congrArg Except.ok
                (wrapped_renumber_of_fixed offset (map_renumber_texts offset found) asList _)

theorem map_renumber_givenText (text : Text) :
    (if text.isEmpty then [] else texts [text]).map (Found.renumber offset) =
      if text.isEmpty then [] else texts [text] := by
  split
  · rfl
  · exact map_renumber_texts offset [text]

theorem placeFound_renumber
    (document : Mended.Document)
    (asList : Bool)
    (place : XPath.Place) :
    placeFound (context.renumber offset) document asList place =
      (placeFound context document asList place).map (List.map (Found.renumber offset)) := by
  unfold placeFound
  split
  · rfl
  · split
    · split
      · rfl
      · exact congrArg Except.ok (map_renumber_givenText offset _).symm
    · change (placeText context document place >>= _) =
        Except.map _ (placeText context document place >>= _)
      cases placeText context document place with
      | error fault => rfl
      | ok text => exact congrArg Except.ok (map_renumber_givenText offset text).symm

theorem placesFound_renumber
    (document : Mended.Document)
    (asList : Bool)
    (places : List XPath.Place) :
    placesFound (context.renumber offset) document asList places =
      (placesFound context document asList places).map (List.map (Found.renumber offset)) := by
  induction places with
  | nil => rfl
  | cons place rest hypothesis =>
      rw [placesFound, placesFound, placeFound_renumber, hypothesis]
      cases placeFound context document asList place with
      | error fault => rfl
      | ok first =>
          cases placesFound context document asList rest with
          | error fault => rfl
          | ok others => exact congrArg Except.ok List.map_append.symm

/-- The page into which paths lead. -/
def pathPage? (context : Context) : Option Mended.Page :=
  match context.handle? with
  | none => context.document.page
  | some handle => Mended.Page.read? handle.markup

@[simp] theorem pathPage?_renumber :
    pathPage? (context.renumber offset) = pathPage? context := by
  unfold pathPage?
  rw [Context.renumber_handle?]
  cases context.handle? <;> rfl

/-- What an expression finds on a page. -/
def pathFound (context : Context) (expression : Text) (asList : Bool) :
    Option Mended.Page → Except Fault (List Found)
  | none => .ok []
  | some page =>
      if !expression.all isDocumentChar then .error (.defect (.strayCharacter expression))
      else
        match (XPath.read? expression).bind fun path =>
            XPath.evaluate path ⟨page.document, .ofNode page.start, 1, 1⟩ with
        | none => .error (.rule (.xpath expression))
        | some (.places places) => do
            let found ← placesFound context page.document asList places
            .ok (if asList then Found.wrap context.document.serial found else found)
        | some value =>
            .ok (if asList then Found.wrap context.document.serial (scalarFound value)
              else scalarFound value)

theorem evaluateXPath_eq (context : Context) (expression : Text) (asList : Bool) :
    evaluateXPath context expression asList =
      pathFound context expression asList (pathPage? context) := rfl

theorem evaluateXPath_renumber (expression : Text) (asList : Bool) :
    evaluateXPath (context.renumber offset) expression asList =
      (evaluateXPath context expression asList).map (List.map (Found.renumber offset)) := by
  rw [evaluateXPath_eq, evaluateXPath_eq, pathPage?_renumber]
  unfold pathFound
  split
  · rfl
  · split
    · rfl
    · split
      · rfl
      · rw [placesFound_renumber]
        cases placesFound context _ asList _ with
        | error fault => rfl
        | ok found => exact congrArg Except.ok (wrapped_renumber offset asList _ found)
      · exact congrArg Except.ok
          (wrapped_renumber_of_fixed offset (map_renumber_givenText offset _) asList _)

@[simp] theorem jsonContent_renumber :
    jsonContent (context.renumber offset) = jsonContent context := by
  unfold jsonContent
  rw [Context.renumber_handle?]
  cases context.handle? <;> rfl

theorem evaluateJsonPath_renumber (path : Text) (asList : Bool) :
    evaluateJsonPath (context.renumber offset) path asList =
      (evaluateJsonPath context path asList).map (List.map (Found.renumber offset)) := by
  unfold evaluateJsonPath
  rw [jsonContent_renumber]
  cases jsonContent context with
  | error fault => rfl
  | ok content =>
      cases JsonPath.read? path with
      | none => rfl
      | some parsed =>
          simp only [bind, Except.bind]
          cases JsonPath.find parsed content with
          | none => rfl
          | some values =>
              exact congrArg Except.ok
                (wrapped_renumber_of_fixed offset (map_renumber_plain offset _) asList _)

theorem evaluateRegex_renumber (pattern : Text) (asList : Bool) :
    evaluateRegex (context.renumber offset) pattern asList =
      (evaluateRegex context pattern asList).map (List.map (Found.renumber offset)) := by
  unfold evaluateRegex
  rw [Context.renumber_content]
  cases RuleRegex.compile {} pattern with
  | error fault => rfl
  | ok compiled =>
      cases asList with
      | true =>
          refine congrArg Except.ok ?_
          rw [List.map_map]
          rfl
      | false => exact congrArg Except.ok (map_renumber_texts offset _).symm

end

/-! ## Scripts, filters and operators -/

theorem valueFound_renumber (serial : Nat) (asList : Bool) (value : Json) :
    valueFound (serial + offset) asList value =
      (valueFound serial asList value).map (Found.renumber offset) := by
  refine wrapped_renumber_of_fixed offset ?_ asList serial
  split
  · rfl
  · exact map_renumber_plain offset _
  · rfl

theorem lastFound_of_ne_array
    {values : List Found}
    (several : ∀ items, values ≠ [.plain (.arr items)])
    (asList : Bool)
    (serial : Nat) :
    lastFound serial asList values =
      if asList then Found.wrap serial values else values := by
  unfold lastFound
  simp only

theorem lastFound_renumber (serial : Nat) (asList : Bool) (values : List Found) :
    lastFound (serial + offset) asList (values.map (Found.renumber offset)) =
      (lastFound serial asList values).map (Found.renumber offset) := by
  by_cases single : ∃ items, values = [.plain (.arr items)]
  · obtain ⟨items, rfl⟩ := single
    exact wrapped_renumber_of_fixed offset (map_renumber_plain offset items) asList serial
  · have several : ∀ items, values ≠ [.plain (.arr items)] :=
      fun items same => single ⟨items, same⟩
    have stillSeveral : ∀ items, values.map (Found.renumber offset) ≠ [.plain (.arr items)] := by
      intro items same
      obtain ⟨found, rfl, isArray⟩ := List.map_eq_singleton_iff.mp same
      cases found with
      | plain value =>
          cases isArray
          exact several items rfl
      | handle pointer => cases isArray
    rw [lastFound_of_ne_array several, lastFound_of_ne_array stillSeveral]
    exact wrapped_renumber offset asList serial values

@[simp] theorem stepValue_renumber (values : List Found) :
    stepValue (values.map (Found.renumber offset)) = stepValue values := by
  match values with
  | [] => rfl
  | [found] => cases found <;> rfl
  | first :: second :: rest =>
      refine congrArg Json.arr ?_
      rw [← List.map_cons, List.map_map]
      refine List.map_congr_left fun found _ => ?_
      cases found <;> rfl

theorem filterFound_renumber
    (serial : Nat)
    (filter : Option ReplaceFilter)
    (values : List Found) :
    filterFound (serial + offset) filter (values.map (Found.renumber offset)) =
      (filterFound serial filter values).map (List.map (Found.renumber offset)) := by
  induction values with
  | nil => rfl
  | cons found rest hypothesis =>
      -- What is kept of the first result comes before what is kept of the others.
      have others {moved kept : List Found} (first : moved = kept.map (Found.renumber offset)) :
          (filterFound (serial + offset) filter (rest.map (Found.renumber offset)) >>=
              fun others => .ok (moved ++ others)) =
            (filterFound serial filter rest >>= fun others => .ok (kept ++ others)).map
              (List.map (Found.renumber offset)) := by
        rw [hypothesis, first]
        cases filterFound serial filter rest with
        | error fault => rfl
        | ok others => exact congrArg Except.ok List.map_append.symm
      rw [List.map_cons]
      cases found with
      | plain value =>
          simp only [Found.renumber, filterFound]
          cases ReplaceFilter.applyOptional filter value.fieldText with
          | error fault => rfl
          | ok text =>
              refine others ?_
              split <;> rfl
      | handle pointer =>
          simp only [Found.renumber, filterFound]
          cases sealed : pointer.isOpaque with
          | true =>
              have still : (pointer.renumber offset).isOpaque = true := sealed
              rw [still]
              exact others rfl
          | false =>
              have still : (pointer.renumber offset).isOpaque = false := sealed
              have same : (pointer.renumber offset).text = pointer.text := rfl
              rw [still, same]
              cases ReplaceFilter.applyOptional filter pointer.text with
              | error fault => rfl
              | ok text =>
                  refine others ?_
                  split <;> rfl

theorem filterTexts_renumber (filter : Option ReplaceFilter) (values : List Found) :
    filterTexts filter (values.map (Found.renumber offset)) =
      (filterTexts filter values).map (List.map (Found.renumber offset)) := by
  induction values with
  | nil => rfl
  | cons found rest hypothesis =>
      rw [List.map_cons, filterTexts, filterTexts, hypothesis, Found.renumber_text]
      cases ReplaceFilter.applyOptional filter found.text with
      | error fault => rfl
      | ok text =>
          cases filterTexts filter rest with
          | error fault => rfl
          | ok others =>
              refine congrArg Except.ok ?_
              split <;> rfl

theorem firstNonEmpty_map {α β : Type} (change : α → β) (lists : List (List α)) :
    Operator.firstNonEmpty (lists.map (List.map change)) =
      (Operator.firstNonEmpty lists).map change := by
  induction lists with
  | nil => rfl
  | cons values rest hypothesis =>
      rw [List.map_cons, Operator.firstNonEmpty, Operator.firstNonEmpty, List.isEmpty_map,
        hypothesis]
      split <;> rfl

theorem roundRobin_map {α β : Type} (change : α → β) (lists : List (List α)) :
    Operator.roundRobin (lists.map (List.map change)) =
      (Operator.roundRobin lists).map change := by
  have row :
      Operator.row (lists.map (List.map change)) =
        fun index => (Operator.row lists index).map change := by
    funext index
    unfold Operator.row
    rw [List.filterMap_map, List.map_filterMap]
    exact congrArg (List.filterMap · lists) (funext fun values => List.getElem?_map)
  unfold Operator.roundRobin
  rw [List.map_flatMap, List.foldl_map, row]
  simp only [List.length_map]

/-- Operators join what is changed as they join what is there. -/
theorem combine_map
    {α β : Type}
    (change : α → β)
    (operator : Option Operator)
    (lists : List (List α)) :
    Operator.combine operator (lists.map (List.map change)) =
      (Operator.combine operator lists).map change := by
  cases operator with
  | none => cases lists <;> rfl
  | some operator =>
      cases operator with
      | first => exact firstNonEmpty_map change lists
      | all => exact List.map_flatten.symm
      | interleave => exact roundRobin_map change lists

/-! ## Evaluations -/

@[simp] theorem referredGroups?_renumber (context : Context) (body : Text) :
    referredGroups? (context.renumber offset) body = referredGroups? context body := by
  unfold referredGroups?
  rw [Context.renumber_handle?]
  cases context.handle? <;> rfl

theorem lift_map {α β : Type} (change : α → β) (value : Except Fault α) :
    lift (value.map change) = change <$> lift value := by
  cases value <;> rfl

theorem catchFlaw_renumber (action : Extract (List Found)) :
    catchFlaw (List.map (Found.renumber offset) <$> action) =
      Result.renumber offset <$> catchFlaw action := by
  refine runFrom_ext fun session => ?_
  rw [runFrom_map, runFrom_catchFlaw, runFrom_catchFlaw, runFrom_map]
  cases runFrom action session with
  | mk result after =>
      cases result with
      | ok values => rfl
      | error fault => cases fault <;> rfl

section

variable {σ α β γ : Type}

/-- A loop whose turns return changed values returns them changed. -/
theorem mapM_map_eq
    {body changed : β → ExceptT Fault (StateM σ) α}
    {change : α → α}
    (items : List β)
    (each : ∀ item, changed item = change <$> body item) :
    items.mapM changed = List.map change <$> items.mapM body := by
  induction items with
  | nil => rfl
  | cons item rest hypothesis =>
      simp only [List.mapM_cons, each, hypothesis, map_bind, bind_map_left, map_pure,
        List.map_cons]

/-- A loop that goes on with a changed value returns a changed value. -/
theorem foldlM_map_eq
    {body changed : α → β → ExceptT Fault (StateM σ) α}
    {change : α → α}
    (items : List β)
    (each : ∀ value, ∀ item ∈ items, changed (change value) item = change <$> body value item)
    (start : α) :
    items.foldlM changed (change start) = change <$> items.foldlM body start := by
  induction items generalizing start with
  | nil => rfl
  | cons item rest hypothesis =>
      rw [List.foldlM_cons, List.foldlM_cons, each start item List.mem_cons_self,
        bind_map_left, map_bind]
      refine congrArg (body start item >>= ·) (funext fun value => ?_)
      exact hypothesis (fun value item member => each value item (List.mem_cons_of_mem _ member))
        value

end

/-- At a depth, every way to evaluate returns raised numbers where it is given raised ones, and
does the same otherwise. -/
structure RenumbersAt (engine : Engine) (depth : Nat) : Prop where
  rule (context : Context) (rule : Text) (asList : Bool) :
    evaluateAt engine depth (context.renumber offset) rule asList =
      Result.renumber offset <$> evaluateAt engine depth context rule asList
  branch (context : Context) (rule : Text) (asList : Bool) :
    evaluateBranch engine depth (context.renumber offset) rule asList =
      List.map (Found.renumber offset) <$> evaluateBranch engine depth context rule asList
  lines (context : Context) (first : Text) (rest : List Text) (asList : Bool) :
    evaluateLines engine depth (context.renumber offset) first rest asList =
      List.map (Found.renumber offset) <$> evaluateLines engine depth context first rest asList
  single (context : Context) (rule : Text) (asList : Bool) :
    evaluateSingle engine depth (context.renumber offset) rule asList =
      List.map (Found.renumber offset) <$> evaluateSingle engine depth context rule asList
  dialect (context : Context) (isJson : Bool) (body : Text) (asList : Bool) :
    evaluateDialect engine depth (context.renumber offset) isJson body asList =
      List.map (Found.renumber offset) <$>
        evaluateDialect engine depth context isJson body asList
  directives (context : Context) (rule : Text) :
    applyDirectives engine depth (context.renumber offset) rule =
      applyDirectives engine depth context rule
  template (context : Context) (template : Text) :
    interpolateAt engine depth (context.renumber offset) template =
      interpolateAt engine depth context template
  steps (steps : List ScriptStep) (context : Context) (result : Option Json) (asList : Bool) :
    evaluateSteps engine depth steps (context.renumber offset) result asList =
      List.map (Found.renumber offset) <$>
        evaluateSteps engine depth steps context result asList

namespace RenumbersAt

variable {offset}
variable {engine : Engine} {depth : Nat}

theorem zero : RenumbersAt offset engine 0 where
  rule _ _ _ := by simp only [evaluateAt]; rfl
  branch _ _ _ := by simp only [evaluateBranch]; rfl
  lines _ _ _ _ := by simp only [evaluateLines]; rfl
  single _ _ _ := by simp only [evaluateSingle]; rfl
  dialect _ _ _ _ := by simp only [evaluateDialect]; rfl
  directives _ _ := by simp only [applyDirectives]
  template _ _ := by simp only [interpolateAt]
  steps _ _ _ _ := by simp only [evaluateSteps]; rfl

theorem rule_succ
    (below : RenumbersAt offset engine depth)
    (context : Context)
    (rule : Text)
    (asList : Bool) :
    evaluateAt engine (depth + 1) (context.renumber offset) rule asList =
      Result.renumber offset <$> evaluateAt engine (depth + 1) context rule asList := by
  have native :
      ((context.renumber offset).handle?.any fun handle =>
          handle.document != (context.renumber offset).document.serial) =
        context.handle?.any fun handle => handle.document != context.document.serial := by
    rw [Context.renumber_handle?]
    cases context.handle? with
    | none => rfl
    | some pointer =>
        refine Bool.eq_iff_iff.mpr ?_
        simp [Handle.renumber]
  have joined (operator : Option Operator) (branches : List Text) (reversed : Bool) :
      (do
          let lists ← branches.mapM fun branch =>
            evaluateBranch engine depth (context.renumber offset) branch asList
          let values := Operator.combine operator lists
          return if reversed then values.reverse else values) =
        List.map (Found.renumber offset) <$> (do
          let lists ← branches.mapM fun branch =>
            evaluateBranch engine depth context branch asList
          let values := Operator.combine operator lists
          return if reversed then values.reverse else values) := by
    rw [mapM_map_eq branches (below.branch context · asList), bind_map_left, map_bind]
    refine congrArg (List.mapM _ branches >>= ·) (funext fun lists => ?_)
    rw [map_pure, combine_map]
    refine congrArg pure ?_
    cases reversed with
    | true => exact List.map_reverse.symm
    | false => rfl
  have element : (context.renumber offset).element =
    context.element.map (Found.renumber offset) := rfl
  rw [evaluateAt, evaluateAt, element]
  cases context.element with
  | none =>
      simp only [Option.map_none, native]
      split
      · rfl
      · split
        · rfl
        · rw [joined, catchFlaw_renumber]
  | some found =>
      cases found with
      | plain value => rfl
      | handle pointer =>
          simp only [Option.map_some, Found.renumber, native]
          split
          · rfl
          · split
            · rfl
            · rw [joined, catchFlaw_renumber]

theorem branch_succ
    (below : RenumbersAt offset engine depth)
    (context : Context)
    (rule : Text)
    (asList : Bool) :
    evaluateBranch engine (depth + 1) (context.renumber offset) rule asList =
      List.map (Found.renumber offset) <$>
        evaluateBranch engine (depth + 1) context rule asList := by
  rw [evaluateBranch, evaluateBranch]
  split
  · exact below.steps _ context none asList
  · split
    · exact below.lines context _ _ asList
    · exact below.single context _ asList

theorem lines_succ
    (below : RenumbersAt offset engine depth)
    (context : Context)
    (first : Text)
    (rest : List Text)
    (asList : Bool) :
    evaluateLines engine (depth + 1) (context.renumber offset) first rest asList =
      List.map (Found.renumber offset) <$>
        evaluateLines engine (depth + 1) context first rest asList := by
  rw [evaluateLines, evaluateLines, below.single, bind_map_left, map_bind]
  refine congrArg (evaluateSingle engine depth context first true >>= ·) (funext fun found => ?_)
  refine foldlM_map_eq _ (fun values line _ => ?_) found
  simp only
  split
  · split
    · rw [Context.renumber_serial, filterFound_renumber, lift_map]
    · rw [filterTexts_renumber, lift_map]
  · have each (value : Found) :
        evaluateBranch engine depth
            ((context.renumber offset).withFound (value.renumber offset)) line.1
            (asList || decide (line.2 + 1 < rest.length)) =
          List.map (Found.renumber offset) <$>
            evaluateBranch engine depth (context.withFound value) line.1
              (asList || decide (line.2 + 1 < rest.length)) := by
      rw [Context.renumber_withFound, below.branch]
    rw [List.mapM_map, Function.comp_def, mapM_map_eq values each, bind_map_left, map_bind]
    refine congrArg (List.mapM _ values >>= ·) (funext fun lists => ?_)
    rw [map_pure, List.map_flatten]

theorem body_renumber
    (below : RenumbersAt offset engine depth)
    (context : Context)
    (isFiltered : Bool)
    (body : Text)
    (asList : Bool) :
    bodyFound engine depth (context.renumber offset) isFiltered body asList =
      List.map (Found.renumber offset) <$>
        bodyFound engine depth context isFiltered body asList := by
  unfold bodyFound
  split
  · rw [map_pure, Context.renumber_content]
    split
    · rw [map_renumber_texts]
    · rfl
  · rw [referredGroups?_renumber]
    split
    · rw [map_pure, map_renumber_texts]
    · split
      · rw [below.template, Functor.map_map]
        simp only [map_renumber_texts]
      · rw [Context.renumber_isJson, map_bind]
        refine congrArg (liftDefect context.isJson >>= ·) (funext fun isJson => ?_)
        exact below.dialect context isJson body asList

theorem single_succ
    (below : RenumbersAt offset engine depth)
    (context : Context)
    (rule : Text)
    (asList : Bool) :
    evaluateSingle engine (depth + 1) (context.renumber offset) rule asList =
      List.map (Found.renumber offset) <$>
        evaluateSingle engine (depth + 1) context rule asList := by
  have filtered (filter : Option ReplaceFilter) (values : List Found) :
      filteredFound (context.renumber offset) filter (values.map (Found.renumber offset)) =
        List.map (Found.renumber offset) <$> filteredFound context filter values := by
    unfold filteredFound
    split
    · rw [Context.renumber_serial, filterFound_renumber, lift_map]
    · rfl
  rw [evaluateSingle_succ, evaluateSingle_succ, below.directives, map_bind]
  refine congrArg (applyDirectives engine depth context rule >>= ·) (funext fun directed => ?_)
  rw [below.body_renumber, bind_map_left, map_bind]
  simp only [filtered]

theorem dialect_succ
    (below : RenumbersAt offset engine depth)
    (context : Context)
    (isJson : Bool)
    (body : Text)
    (asList : Bool) :
    evaluateDialect engine (depth + 1) (context.renumber offset) isJson body asList =
      List.map (Found.renumber offset) <$>
        evaluateDialect engine (depth + 1) context isJson body asList := by
  rw [evaluateDialect, evaluateDialect]
  cases Dialect.ofRule body isJson with
  | chain chain =>
      simp only
      rw [evaluateChain_renumber, lift_map]
  | xpath expression =>
      simp only
      rw [evaluateXPath_renumber, lift_map]
  | jsonPath path =>
      simp only
      rw [evaluateJsonPath_renumber, lift_map]
  | regex pattern =>
      simp only
      rw [evaluateRegex_renumber, lift_map]
  | script steps => exact below.steps steps context none asList

theorem directives_succ
    (below : RenumbersAt offset engine depth)
    (context : Context)
    (rule : Text) :
    applyDirectives engine (depth + 1) (context.renumber offset) rule =
      applyDirectives engine (depth + 1) context rule := by
  rw [applyDirectives, applyDirectives]
  simp only [below.rule, bind_map_left, Result.renumber_firstText]

theorem template_succ
    (below : RenumbersAt offset engine depth)
    (context : Context)
    (template : Text) :
    interpolateAt engine (depth + 1) (context.renumber offset) template =
      interpolateAt engine (depth + 1) context template := by
  have expression (inner : Text) :
      expressionText engine depth (context.renumber offset) inner =
        expressionText engine depth context inner := by
    unfold expressionText
    rw [below.rule, Functor.map_map, Context.renumber_scriptValue]
    simp only [Result.renumber_firstText]
    rfl
  rw [interpolateAt_succ, interpolateAt_succ]
  simp only [expression]

theorem steps_succ
    (below : RenumbersAt offset engine depth)
    (steps : List ScriptStep)
    (context : Context)
    (result : Option Json)
    (asList : Bool) :
    evaluateSteps engine (depth + 1) steps (context.renumber offset) result asList =
      List.map (Found.renumber offset) <$>
        evaluateSteps engine (depth + 1) steps context result asList := by
  cases steps with
  | nil =>
      rw [evaluateSteps, evaluateSteps, map_pure, Context.renumber_serial, valueFound_renumber]
  | cons step rest =>
      cases step with
      | code code =>
          rw [evaluateSteps, evaluateSteps, map_bind, Context.renumber_scriptValue]
          refine congrArg (runScript engine context code _ false >>= ·) (funext fun value => ?_)
          split
          · rfl
          · exact below.steps rest (context.withValue _) _ asList
      | rule rule =>
          rw [evaluateSteps, evaluateSteps, below.branch, bind_map_left, map_bind]
          refine congrArg (evaluateBranch engine depth context _ _ >>= ·)
            (funext fun values => ?_)
          rw [List.isEmpty_map]
          split
          · rfl
          · split
            · rw [map_pure, Context.renumber_serial, lastFound_renumber]
            · rw [stepValue_renumber]
              exact below.steps rest (context.withValue _) _ asList

theorem succ (below : RenumbersAt offset engine depth) :
    RenumbersAt offset engine (depth + 1) where
  rule := below.rule_succ
  branch := below.branch_succ
  lines := below.lines_succ
  single := below.single_succ
  dialect := below.dialect_succ
  directives := below.directives_succ
  template := below.template_succ
  steps := below.steps_succ

end RenumbersAt

/-- Evaluations renumber their results at every depth. -/
theorem renumbersAt (engine : Engine) (depth : Nat) : RenumbersAt offset engine depth := by
  induction depth with
  | zero => exact .zero
  | succ depth below => exact below.succ

end Extraction

end RuleProbe
