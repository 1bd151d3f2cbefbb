import RuleProbe.Proofs.Evaluation.Handles
import RuleProbe.Proofs.Evaluation.Joined
import RuleProbe.Proofs.Evaluation.Termination
import RuleProbe.Proofs.Operator
import RuleProbe.Proofs.Parts

/-!
# Rules of several lines

A rule of several lines is evaluated like the rule without its last line, for handles, and then the
last line on every result of it, one result after the other.
-/

namespace RuleProbe

/-!
## Lines of rules

The lines of a rule are found from left to right.  A break ends a line, blanks at either end of a
rule belong to no line, and so lines that are joined by breaks are the lines of the joined text.
-/

namespace Text

theorem isBlank_of_isBreak {c : Char} (breaks : isBreak c = true) : isBlank c = true := by
  unfold isBreak Blank.isBreakCode at breaks
  unfold isBlank Blank.isBlankCode
  simp only [Bool.or_eq_true, Bool.and_eq_true, decide_eq_true_eq, beq_iff_eq] at breaks
  split
  · simp only [Bool.or_eq_true, Bool.and_eq_true, decide_eq_true_eq]
    omega
  · simp only [Bool.or_eq_true, Bool.and_eq_true, decide_eq_true_eq, beq_iff_eq]
    omega

/-- Trimming leaves what is visible at the beginning. -/
theorem head?_trim
    {text : Text}
    {c : Char}
    (begins : text.head? = some c)
    (visible : isBlank c = false) :
    (trim text).head? = some c := by
  obtain ⟨rest, rfl⟩ := List.head?_eq_some_iff.mp begins
  have trimmed : Trimmed [c] := ⟨by simpa using visible, by simpa using visible⟩
  have kept : [c] <+: trim (c :: rest) :=
    prefix_trim (List.cons_ne_nil c []) trimmed ⟨rest, rfl⟩
  obtain ⟨more, whole⟩ := kept
  rw [← whole]
  rfl

end Text

namespace Extraction

/-! ### The line in progress -/

/-- The lines of a rule, `past` being the line in progress, last character first. -/
def ruleLinesFrom (past text : Text) : List Text :=
  ((Text.linesAux past text).map Text.trim).filter fun line => !line.isEmpty

/-- The line that a text without breaks is, unless it is blank. -/
def lineOf (text : Text) : List Text := [Text.trim text].filter fun line => !line.isEmpty

theorem ruleLines_eq (rule : Text) : ruleLines rule = ruleLinesFrom [] rule := rfl

theorem ruleLinesFrom_nil (past : Text) : ruleLinesFrom past [] = lineOf past.reverse := by
  cases past with
  | nil => rfl
  | cons c others => simp [ruleLinesFrom, lineOf, Text.linesAux]

/-- A break ends the line in progress. -/
theorem ruleLinesFrom_break {c : Char} (breaks : Text.isBreak c = true) (past text : Text) :
    ruleLinesFrom past (c :: text) = lineOf past.reverse ++ ruleLinesFrom [] text := by
  have one (others : List Text) :
      ((past.reverse :: others).map Text.trim).filter (fun line => !line.isEmpty) =
        lineOf past.reverse ++ (others.map Text.trim).filter fun line => !line.isEmpty := by
    rw [lineOf, ← List.filter_append]
    rfl
  by_cases pair : c = '\r' ∧ ∃ rest, text = '\n' :: rest
  · obtain ⟨rfl, rest, rfl⟩ := pair
    have feed : ruleLinesFrom [] ('\n' :: rest) = ruleLinesFrom [] rest := by
      unfold ruleLinesFrom
      rw [Text.linesAux, if_pos (by decide)]
      · rfl
      · intro _ isReturn
        cases isReturn
    rw [feed]
    unfold ruleLinesFrom
    rw [Text.linesAux, one]
  · unfold ruleLinesFrom
    rw [Text.linesAux, if_pos breaks, one]
    exact fun rest isReturn isFeed => pair ⟨isReturn, rest, isFeed⟩

/-- Any other character belongs to the line in progress. -/
theorem ruleLinesFrom_char {c : Char} (unbroken : Text.isBreak c = false) (past text : Text) :
    ruleLinesFrom past (c :: text) = ruleLinesFrom (c :: past) text := by
  unfold ruleLinesFrom
  rw [Text.linesAux, if_neg (by simp [unbroken])]
  rintro rest rfl
  cases unbroken

/-- The lines of a rule are its visible parts between breaks. -/
theorem ruleLinesFrom_eq (past text : Text) :
    ruleLinesFrom past text = Text.visibleParts Text.isBreak past text := by
  induction text generalizing past with
  | nil => rw [ruleLinesFrom_nil, lineOf, Text.visibleParts_nil]
  | cons c others hypothesis =>
      cases isBreak : Text.isBreak c with
      | true =>
          rw [ruleLinesFrom_break isBreak, hypothesis, Text.visibleParts_mark isBreak, lineOf,
            Text.visibleParts_nil]
      | false =>
          rw [ruleLinesFrom_char isBreak, hypothesis, Text.visibleParts_char isBreak]

/-- Blanks around a rule belong to none of its lines. -/
theorem ruleLines_trim (rule : Text) : ruleLines (Text.trim rule) = ruleLines rule := by
  simp only [ruleLines_eq, ruleLinesFrom_eq, Text.visibleParts_trim]

/-! ### The first line -/

/-- A rule begins as its first line does. -/
theorem head?_ruleLinesFrom
    {past : Text}
    {c : Char}
    (begins : past.getLast? = some c)
    (visible : Text.isBlank c = false)
    (text : Text) :
    (ruleLinesFrom past text).head?.bind List.head? = some c := by
  have line {past : Text} (begins : past.getLast? = some c) (others : List Text) :
      (lineOf past.reverse ++ others).head?.bind List.head? = some c := by
    rw [← List.head?_reverse] at begins
    have start := Text.head?_trim begins visible
    cases trimmed : Text.trim past.reverse with
    | nil => simp [trimmed] at start
    | cons d rest =>
        rw [trimmed] at start
        simpa [lineOf, trimmed] using start
  induction text generalizing past with
  | nil => simpa [ruleLinesFrom_nil] using line begins []
  | cons d others hypothesis =>
      cases isBreak : Text.isBreak d with
      | true =>
          rw [ruleLinesFrom_break isBreak]
          exact line begins _
      | false =>
          rw [ruleLinesFrom_char isBreak]
          exact hypothesis (by rw [List.getLast?_cons, begins]; rfl)

/-- Without the blanks around it a rule begins as its first line does. -/
theorem head?_trim_of_ruleLines
    {rule first : Text}
    {rest : List Text}
    (cut : ruleLines rule = first :: rest) :
    (Text.trim rule).head? = first.head? := by
  have trimmed := Text.trimmed_trim rule
  rw [← ruleLines_trim] at cut
  cases start : Text.trim rule with
  | nil =>
      rw [start] at cut
      cases cut
  | cons c others =>
      have visible : Text.isBlank c = false := trimmed.first c (by rw [start]; rfl)
      have unbroken : Text.isBreak c = false := by
        by_contra breaks
        rw [Text.isBlank_of_isBreak (by simpa using breaks)] at visible
        cases visible
      have last : [c].getLast? = some c := rfl
      have begins := head?_ruleLinesFrom last visible others
      rw [← ruleLinesFrom_char unbroken, ← ruleLines_eq, ← start, cut] at begins
      exact begins.symm

/-! ### Joined lines -/

/-- Lines joined by breaks are the lines of the joined text. -/
theorem ruleLines_join {lines : List Text} (alone : ∀ line ∈ lines, ruleLines line = [line]) :
    ruleLines (Text.join ['\n'] lines) = lines := by
  simp only [ruleLines_eq, ruleLinesFrom_eq] at alone ⊢
  rw [Text.visibleParts_join (by decide), List.flatMap_congr alone, List.flatMap_singleton']

/-- What holds of texts, and of two of them with a mark between, holds of joined texts. -/
theorem join_of_each
    (holds : Text → Prop)
    {mark : Text}
    (empty : holds [])
    (meets : ∀ first rest, holds first → holds rest → holds (first ++ (mark ++ rest)))
    {parts : List Text}
    (each : ∀ part ∈ parts, holds part) :
    holds (Text.join mark parts) := by
  unfold Text.join
  induction parts with
  | nil => exact empty
  | cons first rest hypothesis =>
      obtain ⟨here, others⟩ := List.forall_mem_cons.mp each
      cases rest with
      | nil => simpa using here
      | cons second more =>
          rw [List.intercalate_cons_cons, List.append_assoc]
          exact meets first _ here (hypothesis others)

end Extraction

end RuleProbe

namespace RuleProbe

namespace Operator

/-- A rule without scripts in which no operator stands is not cut. -/
theorem split_of_apart
    {rule : Text}
    (scriptless : hasScript rule = false)
    (uncut : ∀ operator : Operator, Undoubled operator.mark rule) :
    split rule = (none, [rule]) := by
  have absent (operator : Operator) : ¬operator.Occurs rule := by
    rintro ⟨before, after, rfl, -⟩
    have inside : operator.symbol <:+: before ++ (operator.symbol ++ after) :=
      ⟨before, after, by simp⟩
    have both := (uncut operator).of_isInfix inside
    exact (List.isChain_cons_cons.mp both).1 ⟨rfl, rfl⟩
  have found : (every.find? fun operator => operator.Occurs rule) = none :=
    List.find?_eq_none.mpr fun operator _ => by simpa using absent operator
  rw [split_of_scriptless scriptless, found]

end Operator

namespace Extraction

/-! ## Rules that fall into lines only -/

/-- A rule falls into lines, and neither scripts nor operators nor signs stand in it. -/
structure FallsInto (rule : Text) (lines : List Text) : Prop where
  /-- The lines, without blank ones and without the blanks around each. -/
  cut : ruleLines rule = lines
  /-- No script stands in the rule. -/
  scriptless : hasScript rule = false
  /-- No operator stands in the rule, not even in a template. -/
  uncut : ∀ operator : Operator, Undoubled operator.mark rule
  /-- No line begins with a sign. -/
  unsigned : ∀ line ∈ lines, IsUnsigned line

namespace FallsInto

variable {rule : Text}
variable {lines : List Text}

theorem isLine
    (falls : FallsInto rule lines)
    {line : Text}
    (member : line ∈ lines) :
    IsRuleLine line :=
  (isRuleLine (falls.cut ▸ member)).1

/-- Some of the lines joined by breaks are a rule of these lines. -/
theorem join
    (falls : FallsInto rule lines)
    {part : List Text}
    (within : part ⊆ lines) :
    FallsInto (Text.join ['\n'] part) part := by
  have isLine (line : Text) (member : line ∈ part) : IsRuleLine line ∧ line <:+: rule :=
    isRuleLine (falls.cut ▸ within member)
  constructor
  case cut => exact ruleLines_join fun line member => (isLine line member).1.alone
  case scriptless =>
    refine join_of_each (hasScript · = false) rfl (fun first rest plainFirst plainRest => ?_)
      fun line member => hasScript_eq_false_of_isInfix (isLine line member).2 falls.scriptless
    have behind : hasScript (['\n'] ++ rest) = false :=
      hasScript_append_of_unsigned (by simp) plainRest
    exact hasScript_append plainFirst behind (by decide)
  case uncut =>
    intro operator
    have apart : '\n' ≠ operator.mark := by cases operator <;> decide
    refine join_of_each (Undoubled operator.mark) .nil (fun first rest here others => ?_)
      fun line member => (falls.uncut operator).of_isInfix (isLine line member).2
    refine here.append (.append_of_not_mem (by simpa using apart.symm) others) ?_
    simpa using apart
  case unsigned => exact fun line member => falls.unsigned line (within member)

/-- A line is a rule of one line. -/
theorem alone
    (falls : FallsInto rule lines)
    {line : Text}
    (member : line ∈ lines) :
    FallsInto line [line] := by
  have joined : FallsInto (Text.join ['\n'] [line]) [line] :=
    falls.join (List.cons_subset.mpr ⟨member, List.nil_subset _⟩)
  rwa [Text.join, List.intercalate_singleton] at joined

end FallsInto

section

variable (engine : Engine)
variable {context : Context}

/-! ## Rules, branches and lines -/

/-- A rule that falls into lines is evaluated as a single branch. -/
theorem evaluateAt_of_fallsInto
    (usable : context.Usable)
    {rule first : Text}
    {rest : List Text}
    (falls : FallsInto rule (first :: rest))
    (depth : Nat)
    (asList : Bool) :
    evaluateAt engine (depth + 1) context rule asList =
      catchFlaw (evaluateBranch engine depth context (Text.trim rule) asList) := by
  have inside := Text.trim_isInfix rule
  have given : rule.isBlankText = false := by
    by_contra blank
    have empty := (Text.trim_eq_nil_iff rule).mpr (by simpa using blank)
    have none := falls.cut
    rw [← ruleLines_trim, empty] at none
    cases none
  have unsigned : IsUnsigned (Text.trim rule) := by
    unfold IsUnsigned
    rw [head?_trim_of_ruleLines falls.cut]
    exact falls.unsigned first List.mem_cons_self
  have whole : Operator.split (Text.trim rule) = (none, [Text.trim rule]) :=
    Operator.split_of_apart (hasScript_eq_false_of_isInfix inside falls.scriptless)
      fun operator => (falls.uncut operator).of_isInfix inside
  rw [evaluateAt_of_given engine usable given, stripReverse_of_unsigned_trim unsigned, whole]
  refine congrArg catchFlaw ?_
  simp [gather, Operator.combine]

/-- A rule of several lines is evaluated line by line. -/
theorem evaluateBranch_of_fallsInto
    {rule first : Text}
    {rest : List Text}
    (falls : FallsInto rule (first :: rest))
    (several : rest ≠ [])
    (depth : Nat)
    (asList : Bool) :
    evaluateBranch engine (depth + 1) context (Text.trim rule) asList =
      evaluateLines engine depth context first rest asList := by
  obtain ⟨second, others, rfl⟩ := List.exists_cons_of_ne_nil several
  have plain := hasScript_eq_false_of_isInfix (Text.trim_isInfix rule) falls.scriptless
  rw [evaluateBranch, plain, if_neg Bool.false_ne_true, ruleLines_trim, falls.cut]

/-- A line on the results of the lines before: a filter changes them, and any other line is
evaluated on each of them. -/
def followLine
    (depth : Nat)
    (context : Context)
    (inList : Bool)
    (values : List Found)
    (line : Text) : Extract (List Found) :=
  if line.startsWith ReplaceFilter.mark then
    if inList then
      lift (filterFound context.document.serial (ReplaceFilter.split line).2 values)
    else lift (filterTexts (ReplaceFilter.split line).2 values)
  else
    List.flatten <$> values.mapM fun value =>
      evaluateBranch engine depth (context.withFound value) line inList

/-- The first line is evaluated, and the others follow in turn. -/
theorem evaluateLines_succ
    (depth : Nat)
    (context : Context)
    (first : Text)
    (rest : List Text)
    (asList : Bool) :
    evaluateLines engine (depth + 1) context first rest asList =
      evaluateSingle engine depth context first true >>= fun found =>
        rest.zipIdx.foldlM (fun values turn =>
          followLine engine depth context (asList || turn.2 + 1 < rest.length) values turn.1)
          found := by
  rw [evaluateLines]
  refine congrArg (evaluateSingle engine depth context first true >>= ·) (funext fun found => ?_)
  simp only [followLine, map_eq_pure_bind]

/-- Steps that are the same on every value are the same in a row. -/
theorem foldlM_congr
    {α β : Type}
    {items : List β}
    {step other : α → β → Extract α}
    (same : ∀ item ∈ items, ∀ value, step value item = other value item)
    (start : α) :
    items.foldlM step start = items.foldlM other start := by
  induction items generalizing start with
  | nil => rfl
  | cons item rest hypothesis =>
      rw [List.foldlM_cons, List.foldlM_cons, same item List.mem_cons_self]
      refine congrArg (_ >>= ·) (funext fun value => ?_)
      exact hypothesis (fun item member => same item (List.mem_cons_of_mem _ member)) value

/-- The last line is evaluated on each result of the lines before, and these are evaluated for
handles. -/
theorem evaluateLines_concat
    {last : Text}
    (unfiltered : last.startsWith ReplaceFilter.mark = false)
    (depth : Nat)
    (first : Text)
    (middle : List Text) :
    evaluateLines engine (depth + 1) context first (middle ++ [last]) false =
      evaluateLines engine (depth + 1) context first middle true >>= fun values =>
        List.flatten <$> values.mapM fun value =>
          evaluateBranch engine depth (context.withFound value) last false := by
  rw [evaluateLines_succ, evaluateLines_succ, bind_assoc]
  refine congrArg (evaluateSingle engine depth context first true >>= ·) (funext fun found => ?_)
  rw [List.zipIdx_append, List.foldlM_append]
  have count : (middle ++ [last]).length = middle.length + 1 := by simp
  have before (found : List Found) :
      middle.zipIdx.foldlM (fun values turn => followLine engine depth context
          (false || turn.2 + 1 < (middle ++ [last]).length) values turn.1) found =
        middle.zipIdx.foldlM (fun values turn => followLine engine depth context
          (true || turn.2 + 1 < middle.length) values turn.1) found := by
    refine foldlM_congr (fun turn member values => ?_) found
    have early := List.snd_lt_of_mem_zipIdx member
    simp only [count, Bool.false_or, Bool.true_or]
    rw [decide_eq_true (by omega)]
  rw [before]
  refine congrArg (_ >>= ·) (funext fun values => ?_)
  simp [followLine, unfiltered]

/-! ## Nested evaluation -/

/-- Evaluate a rule, and another on each of its results in turn: their results one after the other,
up to the first evaluation that fails. -/
def nested (front : Extract Result) (onEach : Found → Extract Result) : Extract Result := do
  match ← front with
  | .failed reason => return .failed reason
  | .found values => resultInTurn List.flatten <$> inTurn (values.map onEach)

/-- Rules can be evaluated on a result that belongs to the document. -/
theorem usable_withFound
    {found : Found}
    (own : found.IsOwn context.document.serial) :
    (context.withFound found).Usable := by
  refine Context.usable_withHandle ?_
  cases found with
  | plain value => rfl
  | handle pointer => exact own pointer rfl

/-- The depth that lines take when they are evaluated as a rule of their own: a single line is
evaluated at one depth less. -/
def frontDepth (depth : Nat) (lines : List Text) : Nat := depth + 1 + min lines.length 2

/-- The lines before the last one are a rule of their own. -/
theorem evaluateAt_front
    (usable : context.Usable)
    {first : Text}
    {middle : List Text}
    (falls : FallsInto (Text.join ['\n'] (first :: middle)) (first :: middle))
    (depth : Nat) :
    evaluateAt engine (frontDepth depth (first :: middle)) context
        (Text.join ['\n'] (first :: middle)) true =
      catchFlaw (evaluateLines engine (depth + 1) context first middle true) := by
  cases middle with
  | nil =>
      have same : Text.join ['\n'] [first] = first := List.intercalate_singleton
      rw [same] at falls ⊢
      have isLine : IsRuleLine first := falls.isLine List.mem_cons_self
      have single : evaluateBranch engine (depth + 1) context first true =
          evaluateSingle engine depth context first true := by
        rw [evaluateBranch, falls.scriptless, if_neg Bool.false_ne_true, falls.cut,
          isLine.trimmed.trim_eq_self]
      have deep : frontDepth depth [first] = depth + 1 + 1 := rfl
      rw [deep, evaluateAt_of_fallsInto engine usable falls, isLine.trimmed.trim_eq_self, single,
        evaluateLines_succ]
      simp
  | cons second rest =>
      have deep : frontDepth depth (first :: second :: rest) = depth + 2 + 1 := by
        simp [frontDepth]
      rw [deep, evaluateAt_of_fallsInto engine usable falls,
        evaluateBranch_of_fallsInto engine falls (List.cons_ne_nil _ _)]

/-- A rule of several lines is evaluated like the lines before the last one as a rule of their own,
for handles, and then the last one on each result. -/
theorem evaluateAt_lines
    {rule last : Text}
    {initial : List Text}
    (falls : FallsInto rule (initial ++ [last]))
    (several : initial ≠ [])
    (unfiltered : last.startsWith ReplaceFilter.mark = false)
    (context : Context)
    (depth : Nat) :
    evaluateAt engine (depth + 3) context rule false =
      nested (evaluateAt engine (frontDepth depth initial) context (Text.join ['\n'] initial) true)
        fun value => evaluateAt engine (depth + 1) (context.withFound value) last false := by
  obtain ⟨first, middle, rfl⟩ := List.exists_cons_of_ne_nil several
  by_cases usable : context.Usable
  · have front : FallsInto (Text.join ['\n'] (first :: middle)) (first :: middle) :=
      falls.join (List.subset_append_left _ _)
    have final : FallsInto last [last] := falls.alone (by simp)
    have isLine : IsRuleLine last := final.isLine List.mem_cons_self
    rw [List.cons_append] at falls
    rw [evaluateAt_of_fallsInto engine usable falls,
      evaluateBranch_of_fallsInto engine falls (by simp), evaluateLines_concat engine unfiltered,
      catchFlaw_bind, ← evaluateAt_front engine usable front]
    refine (evaluateAt_cameOf engine _ context _).bind_congr fun result came => ?_
    cases result with
    | failed reason => rfl
    | found values =>
        simp only [catchFlaw_mapM]
        refine congrArg (fun actions => _ <$> inTurn actions) (List.map_congr_left ?_)
        intro value member
        obtain ⟨branch, -, fromBranch⟩ := came value member
        rw [evaluateAt_of_fallsInto engine (usable_withFound fromBranch.isOwn) final,
          isLine.trimmed.trim_eq_self]
  · have deep : ∃ less, frontDepth depth (first :: middle) = less + 1 :=
      ⟨depth + min (first :: middle).length 2, by unfold frontDepth; omega⟩
    obtain ⟨less, deep⟩ := deep
    rw [nested, deep]
    rcases evaluateAt_unusable engine usable with ⟨fault, ends⟩ | ⟨reason, ends⟩
    · rw [ends, ends]
      rfl
    · rw [ends, ends]
      rfl

/-- Evaluations in turn settle as each of them does. -/
theorem inTurn_attains
    {values : List Found}
    {family : Nat → Found → Extract Result}
    {action : Found → Extract Result}
    (each : ∀ value, Attains (fun depth => family depth value) (action value)) :
    Attains (fun depth => inTurn (values.map (family depth))) (inTurn (values.map action)) := by
  induction values with
  | nil => exact .const _
  | cons value rest hypothesis =>
      simp only [List.map_cons, inTurn]
      refine (each value).bind fun result => ?_
      cases result with
      | failed reason => exact .const _
      | found values => exact hypothesis.bind fun _ => .const _

theorem nested_attains
    {before : Nat → Extract Result}
    {front : Extract Result}
    {family : Nat → Found → Extract Result}
    {onEach : Found → Extract Result}
    (first : Attains before front)
    (each : ∀ value, Attains (fun depth => family depth value) (onEach value)) :
    Attains (fun depth => nested (before depth) (family depth)) (nested front onEach) := by
  unfold nested
  refine first.bind fun result => ?_
  cases result with
  | failed reason => exact .const _
  | found values => exact (inTurn_attains each).map _

/-- A rule of several lines is evaluated like the rule of all lines but the last one, for handles,
and then the last line on each result in turn: the results are put together in this order, the
variables are handed on in it, and the first evaluation that fails is the one that counts.  The
depths at which the parts are evaluated are those that they have in the whole, and all the same when
the whole is not nested too deeply. -/
theorem evaluate_lines
    {rule last : Text}
    {initial : List Text}
    (falls : FallsInto rule (initial ++ [last]))
    (several : initial ≠ [])
    (unfiltered : last.startsWith ReplaceFilter.mark = false)
    (context : Context) :
    (∀ depth, evaluateAt engine (depth + 3) context rule false =
      nested (evaluateAt engine (frontDepth depth initial) context (Text.join ['\n'] initial) true)
        fun value => evaluateAt engine (depth + 1) (context.withFound value) last false) ∧
    ∀ session, Settled (runFrom (evaluate engine context rule) session) →
      runFrom (evaluate engine context rule) session =
        runFrom (nested (evaluateList engine context (Text.join ['\n'] initial))
          fun value => evaluate engine (context.withFound value) last) session := by
  refine ⟨evaluateAt_lines engine falls several unfiltered context, fun session settled => ?_⟩
  have whole : evaluate engine context rule =
      nested (evaluateAt engine (frontDepth 597 initial) context (Text.join ['\n'] initial) true)
        fun value => evaluateAt engine 598 (context.withFound value) last false :=
    evaluateAt_lines engine falls several unfiltered context 597
  have front : Attains (fun _ => evaluateList engine context (Text.join ['\n'] initial))
      (evaluateAt engine (frontDepth 597 initial) context (Text.join ['\n'] initial) true) :=
    Call.run_attains_run engine (by unfold frontDepth depthLimit; omega) (.rule context _ true)
  have onEach (value : Found) : Attains (fun _ => evaluate engine (context.withFound value) last)
      (evaluateAt engine 598 (context.withFound value) last false) :=
    Call.run_attains_run engine (by unfold depthLimit; omega) (.rule _ last false)
  rw [whole] at settled ⊢
  obtain ⟨enough, same⟩ := nested_attains front onEach session settled
  exact (same enough (Nat.le_refl enough)).symm

end

/-- A page on which lines find letters. -/
def linedPage : Context := .ofBody "axbx"

/-- A rule of two lines, with blanks and a blank line between them. -/
def linedRule : Text := " :[ab]x \n\n:[ab]"

/-- The second line is evaluated on each of the two results of the first one. -/
theorem evaluate_lines_letters :
    FallsInto linedRule [":[ab]x", ":[ab]"] ∧
      Settled (runFrom (evaluate {} linedPage linedRule) ⟨[], []⟩) ∧
      runFrom (evaluate {} linedPage linedRule) ⟨[], []⟩ =
        runFrom (nested (evaluateList {} linedPage ":[ab]x")
          fun value => evaluate {} (linedPage.withFound value) ":[ab]") ⟨[], []⟩ ∧
      (foundIn? (runFrom (evaluate {} linedPage linedRule) ⟨[], []⟩)).map (List.map Found.text) =
        some ["a".toList, "b".toList] := by
  have falls : FallsInto linedRule ([":[ab]x".toList] ++ [":[ab]".toList]) := by
    refine ⟨by decide +kernel, by decide +kernel, fun operator => ?_, by decide⟩
    cases operator <;> decide +kernel
  have settled : Settled (runFrom (evaluate {} linedPage linedRule) ⟨[], []⟩) :=
    evaluate_settles {} (Context.valid_ofBody _) (by decide +kernel) (by decide) ⟨[], []⟩
  have nested := (evaluate_lines {} falls (List.cons_ne_nil _ _) (by decide) linedPage).2
    ⟨[], []⟩ settled
  exact ⟨falls, settled, nested, by decide +kernel⟩

end Extraction

end RuleProbe
