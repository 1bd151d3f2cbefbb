import RuleProbe.Proofs.Evaluation.Handles

/-!
# Evaluations for values

Asked for values, every dialect, every script and every filter gives values and no handles.
The lines of a branch are followed on handles all the same, but for the last one, which is
asked for values again.  Asked for handles, an evaluation gives those of its own document, so
that every further rule can be evaluated on them.
-/

namespace RuleProbe

/-! ## Chains -/

/-- A chain that is to give texts gives no elements. -/
theorem Chain.evaluate_scalar
    (tree : Markup.Tree)
    (start : List Nat)
    (chain baseUrl : Text)
    (fromElement : Bool) :
    Yields (fun outcome => ∃ found, outcome = .texts found)
      (Chain.evaluate tree start chain ⟨baseUrl, true, fromElement⟩) := by
  have ofTexts (read : Except Fault (List Text)) :
      Yields (fun outcome => ∃ found, outcome = Chain.Outcome.texts found)
        (read.map Chain.Outcome.texts) := by
    cases read with
    | ok found => exact .of_ok ⟨found, rfl⟩
    | error fault => exact .of_error fault
  unfold Chain.evaluate
  refine (Yields.any _).bind fun nodes _ => ?_
  split
  · exact ofTexts _
  · exact ofTexts _

namespace Extraction

/-! ## Values -/

/-- All results are values. -/
def ArePlain (values : List Found) : Prop :=
  ∀ value ∈ values, value.isPlain = true

theorem arePlain_nil : ArePlain [] := by
  simp [ArePlain]

theorem arePlain_map_plain (items : List Json) : ArePlain (items.map Found.plain) := by
  intro value member
  obtain ⟨item, -, rfl⟩ := List.mem_map.mp member
  rfl

theorem arePlain_texts (items : List Text) : ArePlain (texts items) := by
  intro value member
  obtain ⟨text, -, rfl⟩ := List.mem_map.mp member
  rfl

theorem arePlain_givenText (text : Text) :
    ArePlain (if text.isEmpty then [] else texts [text]) := by
  split
  · exact arePlain_nil
  · exact arePlain_texts [text]

theorem ArePlain.cons
    {value : Found}
    {others : List Found}
    (plain : value.isPlain = true)
    (othersPlain : ArePlain others) :
    ArePlain (value :: others) := by
  intro other member
  rcases List.mem_cons.mp member with rfl | late
  · exact plain
  · exact othersPlain other late

/-! ## Dialects -/

theorem evaluateChain_arePlain (context : Context) (chain : Text) :
    Yields ArePlain (evaluateChain context chain false) := by
  refine (Yields.any _).bind fun start _ => ?_
  refine (Chain.evaluate_scalar _ _ _ _ _).bind fun outcome isTexts => ?_
  obtain ⟨found, rfl⟩ := isTexts
  exact .of_ok (arePlain_texts found)

theorem placeFound_arePlain
    (context : Context)
    (document : Mended.Document)
    (place : XPath.Place) :
    Yields ArePlain (placeFound context document false place) := by
  unfold placeFound
  split
  · exact .of_ok arePlain_nil
  · split
    · exact .of_ok (arePlain_givenText _)
    · refine (Yields.any _).bind fun text _ => .of_ok ?_
      exact arePlain_givenText text

theorem evaluateXPath_arePlain (context : Context) (expression : Text) :
    Yields ArePlain (evaluateXPath context expression false) := by
  unfold evaluateXPath
  simp only [Bool.false_eq_true, if_false]
  split
  · exact .of_ok arePlain_nil
  · split
    · exact .of_error _
    · split
      · exact .of_error _
      · exact (placesFound_all (placeFound_arePlain context _) _).bind
          fun found plain => .of_ok plain
      · exact .of_ok (arePlain_givenText _)

theorem evaluateJsonPath_arePlain (context : Context) (path : Text) :
    Yields ArePlain (evaluateJsonPath context path false) := by
  refine (Yields.any _).bind fun content _ => ?_
  split
  · exact .of_error _
  · split
    · exact .of_error _
    · exact .of_ok (arePlain_map_plain _)

theorem evaluateRegex_arePlain (context : Context) (pattern : Text) :
    Yields ArePlain (evaluateRegex context pattern false) := by
  refine (Yields.any _).bind fun compiled _ => ?_
  exact .of_ok (arePlain_texts _)

/-! ## Scripts and filters -/

theorem valueFound_arePlain (serial : Nat) (value : Json) :
    ArePlain (valueFound serial false value) := by
  unfold valueFound
  simp only [Bool.false_eq_true, if_false]
  split
  · exact arePlain_nil
  · exact arePlain_map_plain _
  · exact ArePlain.cons rfl arePlain_nil

theorem ArePlain.lastFound
    {values : List Found}
    (plain : ArePlain values)
    (serial : Nat) :
    ArePlain (lastFound serial false values) := by
  unfold Extraction.lastFound
  simp only [Bool.false_eq_true, if_false]
  split
  · exact arePlain_map_plain _
  · exact plain

theorem filterKeeps_isPlain (serial : Nat) :
    FilterKeeps serial fun found => found.isPlain = true where
  handle _ _ plain := by
    cases plain
  plain _ _ _ := rfl

/-- A filter of texts leaves texts that are not empty. -/
theorem filterTexts_texts (filter : Option ReplaceFilter) (values : List Found) :
    Yields (fun kept => ∃ items, (∀ text ∈ items, text ≠ []) ∧ kept = texts items)
      (filterTexts filter values) := by
  induction values with
  | nil => exact .of_ok ⟨[], by simp, rfl⟩
  | cons found rest hypothesis =>
      refine (Yields.any _).bind fun text _ => ?_
      refine hypothesis.bind fun others left => .of_ok ?_
      obtain ⟨items, given, rfl⟩ := left
      split
      · exact ⟨items, given, rfl⟩
      · rename_i some
        exact ⟨text :: items, List.forall_mem_cons.mpr ⟨by simpa using some, given⟩, rfl⟩

theorem filterTexts_arePlain (filter : Option ReplaceFilter) (values : List Found) :
    Yields ArePlain (filterTexts filter values) := by
  intro kept filtered
  obtain ⟨items, -, rfl⟩ := filterTexts_texts filter values kept filtered
  exact arePlain_texts items

/-! ## Evaluations -/

variable (engine : Engine)

/-- What the last line of several gives as values, or leaves of the texts of the line before, the
lines give. -/
theorem lines_ends
    {kind : Found → Prop}
    {depth : Nat}
    (context : Context)
    (first : Text)
    {rest : List Text}
    (nonempty : rest ≠ [])
    (filters : (rest.getLast nonempty).startsWith ReplaceFilter.mark = true →
      ∀ filter values, Yields (fun kept => ∀ value ∈ kept, kind value) (filterTexts filter values))
    (gives : (rest.getLast nonempty).startsWith ReplaceFilter.mark = false →
      ∀ found, Ends (fun values => ∀ value ∈ values, kind value) (fun _ => True)
        (evaluateBranch engine depth (context.withFound found) (rest.getLast nonempty) false)) :
    Ends (fun values => ∀ value ∈ values, kind value) (fun _ => True)
      (evaluateLines engine (depth + 1) context first rest false) := by
  rw [evaluateLines]
  refine (Ends.any _).bind fun found _ => ?_
  -- The invariant of the turns: once the last line is done, what is there is of the kind.
  let invariant (done : List (Text × Nat)) (values : List Found) : Prop :=
    ∀ turn ∈ done.getLast?, turn.2 + 1 = rest.length → ∀ value ∈ values, kind value
  suffices turns : Ends (invariant rest.zipIdx) (fun _ => True) _ by
    refine turns.mono (fun values kept => ?_) fun _ _ => trivial
    have last : rest.zipIdx.getLast? = some (rest.getLast nonempty, rest.length - 1) := by
      simp [List.getLast?_eq_some_getLast nonempty, List.getLast?_zipIdx]
    have positive := List.length_pos_iff.mpr nonempty
    exact kept _ last (Nat.sub_add_cancel positive)
  refine Ends.foldlM invariant (fun done turn values among _ => ?_) (by simp [invariant])
  simp only [invariant, List.getLast?_concat, Option.mem_def, Option.some.injEq, forall_eq',
    Bool.false_or]
  by_cases isLast : turn.2 + 1 = rest.length
  · have inValues : decide (turn.2 + 1 < rest.length) = false := by
      simp [isLast]
    have line : turn.1 = rest.getLast nonempty := by
      have at' := List.mem_zipIdx_iff_getElem?.mp among
      have position : turn.2 = rest.length - 1 := by omega
      rw [position, ← List.getLast?_eq_getElem?, List.getLast?_eq_some_getLast nonempty] at at'
      exact (Option.some.inj at').symm
    simp only [inValues, line, Bool.false_eq_true, if_false]
    split
    · rename_i filtered
      exact (Ends.of_except (filters filtered _ _) fun _ _ => trivial).mono
        (fun _ holds _ => holds) fun _ holds => holds
    · rename_i unfiltered
      refine (Ends.mapM fun value _ =>
        gives (eq_false_of_ne_true unfiltered) value).bind fun lists all => .of_pure ?_
      intro _ value inside
      obtain ⟨list, within, inList⟩ := List.mem_flatten.mp inside
      obtain ⟨source, -, holds⟩ := all list within
      exact holds value inList
  · exact (Ends.any _).mono (fun _ _ ends => absurd ends isLast) fun _ holds => holds

/-- Asked for values, every way to evaluate at a depth gives values. -/
structure ValuesAt (depth : Nat) : Prop where
  branch (context : Context) (rule : Text) :
    Ends ArePlain (fun _ => True) (evaluateBranch engine depth context rule false)
  lines (context : Context) (first : Text) {rest : List Text} (nonempty : rest ≠ []) :
    Ends ArePlain (fun _ => True) (evaluateLines engine depth context first rest false)
  single (context : Context) (rule : Text) :
    Ends ArePlain (fun _ => True) (evaluateSingle engine depth context rule false)
  dialect (context : Context) (isJson : Bool) (body : Text) :
    Ends ArePlain (fun _ => True) (evaluateDialect engine depth context isJson body false)
  steps (steps : List ScriptStep) (context : Context) (result : Option Json) :
    Ends ArePlain (fun _ => True) (evaluateSteps engine depth steps context result false)

namespace ValuesAt

variable {engine}
variable {depth : Nat}

theorem zero : ValuesAt engine 0 where
  branch _ _ := by
    rw [evaluateBranch]
    exact .of_throw trivial
  lines _ _ _ _ := by
    rw [evaluateLines]
    exact .of_throw trivial
  single _ _ := by
    rw [evaluateSingle]
    exact .of_throw trivial
  dialect _ _ _ := by
    rw [evaluateDialect]
    exact .of_throw trivial
  steps _ _ _ := by
    rw [evaluateSteps]
    exact .of_throw trivial

theorem branch_succ
    (below : ValuesAt engine depth)
    (context : Context)
    (rule : Text) :
    Ends ArePlain (fun _ => True)
      (evaluateBranch engine (depth + 1) context rule false) := by
  rw [evaluateBranch]
  split
  · exact below.steps _ context none
  · split
    · exact below.lines context _ (by simp)
    · exact below.single context _

/-- The last line is asked for values, or filters the results of the line before to texts. -/
theorem lines_succ
    (below : ValuesAt engine depth)
    (context : Context)
    (first : Text)
    {rest : List Text}
    (nonempty : rest ≠ []) :
    Ends ArePlain (fun _ => True)
      (evaluateLines engine (depth + 1) context first rest false) :=
  lines_ends engine context first nonempty (fun _ => filterTexts_arePlain)
    fun _ found => below.branch (context.withFound found) _

theorem body_found
    (below : ValuesAt engine depth)
    (context : Context)
    (isFiltered : Bool)
    (body : Text) :
    Ends ArePlain (fun _ => True)
      (bodyFound engine depth context isFiltered body false) := by
  unfold bodyFound
  split
  · refine .of_pure ?_
    split
    · exact arePlain_texts _
    · exact arePlain_nil
  · split
    · exact .of_pure (arePlain_texts _)
    · split
      · exact (Ends.any _).map fun text _ => arePlain_texts [text]
      · exact (Ends.any _).bind fun isJson _ => below.dialect context isJson body

theorem single_succ
    (below : ValuesAt engine depth)
    (context : Context)
    (rule : Text) :
    Ends ArePlain (fun _ => True)
      (evaluateSingle engine (depth + 1) context rule false) := by
  rw [evaluateSingle_succ]
  refine (Ends.any _).bind fun directed _ => ?_
  refine (below.body_found context _ _).bind fun values plain => ?_
  unfold filteredFound
  split
  · exact .of_except (filterFound_keeps (filterKeeps_isPlain _) _ plain) fun _ _ => trivial
  · exact .of_pure plain

theorem dialect_succ
    (below : ValuesAt engine depth)
    (context : Context)
    (isJson : Bool)
    (body : Text) :
    Ends ArePlain (fun _ => True)
      (evaluateDialect engine (depth + 1) context isJson body false) := by
  rw [evaluateDialect]
  cases Dialect.ofRule body isJson with
  | chain chain => exact .of_except (evaluateChain_arePlain context chain) fun _ _ => trivial
  | xpath expression =>
      exact .of_except (evaluateXPath_arePlain context expression) fun _ _ => trivial
  | jsonPath path => exact .of_except (evaluateJsonPath_arePlain context path) fun _ _ => trivial
  | regex pattern => exact .of_except (evaluateRegex_arePlain context pattern) fun _ _ => trivial
  | script steps => exact below.steps steps context none

theorem steps_succ
    (below : ValuesAt engine depth)
    (steps : List ScriptStep)
    (context : Context)
    (result : Option Json) :
    Ends ArePlain (fun _ => True)
      (evaluateSteps engine (depth + 1) steps context result false) := by
  cases steps with
  | nil =>
      rw [evaluateSteps]
      exact .of_pure (valueFound_arePlain _ _)
  | cons step rest =>
      cases step with
      | code code =>
          rw [evaluateSteps]
          refine (Ends.any _).bind fun value _ => ?_
          split
          · exact .of_pure arePlain_nil
          · exact below.steps rest (context.withValue value) (some value)
      | rule rule =>
          rw [evaluateSteps]
          refine (below.branch context _).bind fun values plain => ?_
          split
          · exact .of_pure arePlain_nil
          · split
            · exact .of_pure (plain.lastFound _)
            · exact below.steps rest (context.withValue _) _

theorem succ (below : ValuesAt engine depth) : ValuesAt engine (depth + 1) where
  branch := below.branch_succ
  lines := below.lines_succ
  single := below.single_succ
  dialect := below.dialect_succ
  steps := below.steps_succ

end ValuesAt

/-- Asked for values, evaluations give values at every depth. -/
theorem valuesAt (depth : Nat) : ValuesAt engine depth := by
  induction depth with
  | zero => exact .zero
  | succ depth below => exact below.succ

/-- A rule that is evaluated for values has values. -/
theorem evaluateAt_arePlain
    (depth : Nat)
    (context : Context)
    (rule : Text) :
    Ends (fun result => ArePlain result.values) (fun _ => True)
      (evaluateAt engine depth context rule false) := by
  cases depth with
  | zero =>
      rw [evaluateAt]
      exact .of_throw trivial
  | succ depth =>
      refine (evaluateAt_values engine ((valuesAt engine depth).branch context) rule).mono
        (fun result plain value member => ?_) fun _ holds => holds
      obtain ⟨branch, -, isPlain⟩ := plain value member
      exact isPlain

/-! ## Handles of the document -/

/-- The reason for which rules are not evaluated on a handle of another document. -/
def foreignReason : Text := "Element handle belongs to a different document"

/-- No flaw of a rule is worded like a handle of another document. -/
theorem message_ne_foreignReason (flaw : RuleFlaw) : flaw.message ≠ foreignReason := by
  intro same
  have heads := congrArg List.head? same
  unfold RuleFlaw.message foreignReason at heads
  cases flaw <;> simp at heads

/-- Catching the flaw of a rule never gives the reason of a handle of another document. -/
theorem catchFlaw_not_foreign (action : Extract (List Found)) :
    Ends (fun result => result ≠ .failed foreignReason) (fun _ => True) (catchFlaw action) := by
  intro session
  rw [runFrom_catchFlaw]
  cases runFrom action session with
  | mk result after =>
      cases result with
      | ok values => simp
      | error fault =>
          cases fault with
          | rule flaw => simpa using message_ne_foreignReason flaw
          | _ => trivial

/-- A rule is evaluated on every handle of the document at hand. -/
theorem evaluateAt_not_foreign
    {context : Context}
    {pointer : Handle}
    (own : pointer.document = context.document.serial)
    (depth : Nat)
    (rule : Text)
    (asList : Bool) :
    Ends (fun result => result ≠ .failed foreignReason) (fun _ => True)
      (evaluateAt engine depth (context.withElement (.handle pointer)) rule asList) := by
  cases depth with
  | zero =>
      rw [evaluateAt]
      exact .of_throw trivial
  | succ depth =>
      have native : (pointer.document != context.document.serial) = false := by
        simp [own]
      rw [evaluateAt]
      simp only [Context.withElement, Context.handle?, Option.any_some, native,
        Bool.false_eq_true, if_false]
      split
      · exact .of_pure (by simp)
      · exact catchFlaw_not_foreign _

/-- The handles among the results of a rule belong to the document of its context, so that no
further rule is refused on them in a context of this document; and a rule that is evaluated
for values has no handles among its results. -/
theorem evaluateAt_results_own
    {depth : Nat}
    {context : Context}
    {rule : Text}
    {asList : Bool}
    {session after : Session}
    {values : List Found}
    (returned : runFrom (evaluateAt engine depth context rule asList) session =
      (.ok (.found values), after)) :
    (∀ pointer, .handle pointer ∈ values → pointer.document = context.document.serial) ∧
      (∀ pointer, .handle pointer ∈ values →
        ∀ (further : Engine) (other : Context), other.document = context.document →
          ∀ deeper next list state,
            (runFrom (evaluateAt further deeper (other.withElement (.handle pointer)) next list)
              state).1 ≠ .ok (.failed foreignReason)) ∧
      (asList = false → ∀ value ∈ values, ∃ json, value = .plain json) := by
  have own : ∀ pointer, .handle pointer ∈ values →
      pointer.document = context.document.serial := by
    intro pointer member
    cases asList with
    | true =>
        obtain ⟨branch, -, came⟩ :=
          (evaluateAt_cameOf engine depth context rule).value returned _ member
        exact came.isOwn pointer rfl
    | false =>
        have plain := (evaluateAt_arePlain engine depth context rule).value returned _ member
        cases plain
  refine ⟨own, ?_, ?_⟩
  · intro pointer member further other same deeper next list state refused
    have belongs : pointer.document = other.document.serial := by
      rw [same]
      exact own pointer member
    exact (evaluateAt_not_foreign further belongs deeper next list).value
      (Prod.ext refused rfl) rfl
  · rintro rfl value member
    have plain := (evaluateAt_arePlain engine depth context rule).value returned value member
    cases value with
    | plain json => exact ⟨json, rfl⟩
    | handle pointer => cases plain

/-- A page of two letters. -/
def twoLetters : Context := .ofBody "ab"

/-- The evaluation of a rule for handles on this page, and a further rule on what it finds. -/
theorem evaluateAt_results_own_letters :
    ∃ pointer after,
      runFrom (evaluateAt {} depthLimit twoLetters ":a" true) ⟨[], []⟩ =
          (.ok (.found [.handle pointer]), after) ∧
        pointer.document = twoLetters.document.serial ∧
        (runFrom (evaluateAt {} depthLimit (twoLetters.withElement (.handle pointer)) ":a" false)
          after).1 ≠ .ok (.failed foreignReason) := by
  have kinds :
      (foundIn? (runFrom (evaluateAt {} depthLimit twoLetters ":a" true) ⟨[], []⟩)).map
        (List.map Found.isPlain) = some [false] := by
    decide +kernel
  obtain ⟨values, isFound, isHandle⟩ := Option.map_eq_some_iff.mp kinds
  obtain ⟨after, returned⟩ := eq_of_foundIn? isFound
  match values with
  | [.handle pointer] =>
      obtain ⟨own, accepted, -⟩ := evaluateAt_results_own {} returned
      have member : Found.handle pointer ∈ [Found.handle pointer] := List.mem_singleton_self _
      exact ⟨pointer, after, returned, own pointer member,
        accepted pointer member {} twoLetters rfl depthLimit ":a" false after⟩

end Extraction

end RuleProbe
