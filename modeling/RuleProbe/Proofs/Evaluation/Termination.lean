import RuleProbe.Proofs.Effects
import RuleProbe.Proofs.Evaluation.Open
import RuleProbe.Proofs.Size.Rule

/-!
# Where evaluations end

An evaluation hands on parts of its own text, and these are shorter, except in three places: a
variable is inserted into a rule, the result of a script is inserted into a later step, and a
value that a rule stores is written out as a rule.  So an evaluation is nested without bound
only when such insertions are, and it ends exactly when they are nested to some bound.
-/

namespace RuleProbe

/-!
## Computations that settle

A computation of limited depth settles when it ends otherwise than by reaching its limit.  A
family of computations, one for every depth, attains a computation when it runs as the
computation does wherever this one settles, from some depth on.  The lemmas give the relation
for the pieces of which computations are made.
-/

variable {σ α β : Type}

/-- A run has not ended for being nested too deeply. -/
def Settled (ended : Except Fault α × σ) : Prop :=
  ended.1 ≠ .error (.defect .recursion)

/-- Wherever a computation settles, a family of computations runs as it does from some depth
on. -/
def Attains
    (family : Nat → ExceptT Fault (StateM σ) α)
    (action : ExceptT Fault (StateM σ) α) : Prop :=
  ∀ state, Settled (runFrom action state) →
    ∃ enough, ∀ depth, enough ≤ depth →
      runFrom (family depth) state = runFrom action state

namespace Attains

/-- A computation that does not depend on the depth is attained by itself. -/
theorem const (action : ExceptT Fault (StateM σ) α) : Attains (fun _ => action) action :=
  fun _ _ => ⟨0, fun _ _ => rfl⟩

/-- What never settles is attained by every family. -/
theorem exhausted (family : Nat → ExceptT Fault (StateM σ) α) :
    Attains family (throw (.defect .recursion)) :=
  fun _ settled => absurd rfl settled

/-- The first depths of a family do not count. -/
theorem of_succ
    {family : Nat → ExceptT Fault (StateM σ) α}
    {action : ExceptT Fault (StateM σ) α}
    (later : Attains (fun depth => family (depth + 1)) action) :
    Attains family action := by
  intro state settled
  obtain ⟨enough, same⟩ := later state settled
  refine ⟨enough + 1, fun depth deep => ?_⟩
  obtain ⟨below, rfl⟩ : ∃ below, depth = below + 1 := ⟨depth - 1, by omega⟩
  exact same below (by omega)

theorem bind
    {family : Nat → ExceptT Fault (StateM σ) α}
    {action : ExceptT Fault (StateM σ) α}
    {next : Nat → α → ExceptT Fault (StateM σ) β}
    {rest : α → ExceptT Fault (StateM σ) β}
    (first : Attains family action)
    (second : ∀ value, Attains (fun depth => next depth value) (rest value)) :
    Attains (fun depth => family depth >>= next depth) (action >>= rest) := by
  intro state settled
  rw [runFrom_bind] at settled
  cases ended : runFrom action state with
  | mk outcome after =>
      rw [ended] at settled
      cases outcome with
      | ok value =>
          obtain ⟨enough, same⟩ := first state (by simp [ended, Settled])
          obtain ⟨more, alike⟩ := second value after settled
          refine ⟨max enough more, fun depth deep => ?_⟩
          rw [runFrom_bind, runFrom_bind, same depth (by omega), ended]
          exact alike depth (by omega)
      | error fault =>
          have halted : Settled (runFrom action state) := by
            rw [ended]
            intro same
            cases same
            exact settled rfl
          obtain ⟨enough, same⟩ := first state halted
          refine ⟨enough, fun depth deep => ?_⟩
          rw [runFrom_bind, runFrom_bind, same depth deep, ended]

/-- What comes after a computation without effects may count on the value that it gave. -/
theorem of_except_bind
    {value : Except Fault α}
    {next : Nat → α → ExceptT Fault (StateM σ) β}
    {rest : α → ExceptT Fault (StateM σ) β}
    (second : ∀ found, value = .ok found → Attains (fun depth => next depth found) (rest found)) :
    Attains (fun depth => MonadExcept.ofExcept value >>= next depth)
      (MonadExcept.ofExcept value >>= rest) := by
  cases value with
  | ok found => exact second found rfl
  | error fault => exact const (throw fault)

theorem map
    {family : Nat → ExceptT Fault (StateM σ) α}
    {action : ExceptT Fault (StateM σ) α}
    (first : Attains family action)
    (change : α → β) :
    Attains (fun depth => change <$> family depth) (change <$> action) := by
  simp only [← bind_pure_comp]
  exact first.bind fun value => const (pure (change value))

/-- A handler that leaves exhaustion alone does not hide it. -/
theorem tryCatch
    {family : Nat → ExceptT Fault (StateM σ) α}
    {action : ExceptT Fault (StateM σ) α}
    {handler : Fault → ExceptT Fault (StateM σ) α}
    (first : Attains family action)
    (leaves : handler (.defect .recursion) = throw (.defect .recursion)) :
    Attains (fun depth => tryCatch (family depth) handler) (tryCatch action handler) := by
  intro state settled
  have halted : Settled (runFrom action state) := by
    intro same
    refine settled ?_
    rw [runFrom_tryCatch]
    cases ended : runFrom action state with
    | mk outcome after =>
        rw [ended] at same
        cases same
        simp only [leaves]
        rfl
  obtain ⟨enough, same⟩ := first state halted
  refine ⟨enough, fun depth deep => ?_⟩
  rw [runFrom_tryCatch, runFrom_tryCatch, same depth deep]

theorem mapM
    {items : List β}
    {family : Nat → β → ExceptT Fault (StateM σ) α}
    {body : β → ExceptT Fault (StateM σ) α}
    (each : ∀ item ∈ items, Attains (fun depth => family depth item) (body item)) :
    Attains (fun depth => items.mapM (family depth)) (items.mapM body) := by
  induction items with
  | nil => exact const _
  | cons item rest hypothesis =>
      simp only [List.mapM_cons]
      refine (each item List.mem_cons_self).bind fun first => ?_
      have others := hypothesis fun item member => each item (List.mem_cons_of_mem _ member)
      exact others.bind fun values => const (pure (first :: values))

theorem foldlM
    {items : List β}
    {family : Nat → α → β → ExceptT Fault (StateM σ) α}
    {body : α → β → ExceptT Fault (StateM σ) α}
    (each : ∀ item ∈ items, ∀ value,
      Attains (fun depth => family depth value item) (body value item))
    (start : α) :
    Attains (fun depth => items.foldlM (family depth) start) (items.foldlM body start) := by
  induction items generalizing start with
  | nil => exact const _
  | cons item rest hypothesis =>
      simp only [List.foldlM_cons]
      refine (each item List.mem_cons_self start).bind fun value => ?_
      exact hypothesis (fun item member => each item (List.mem_cons_of_mem _ member)) value

theorem forM
    {items : List β}
    {family : Nat → β → ExceptT Fault (StateM σ) PUnit}
    {body : β → ExceptT Fault (StateM σ) PUnit}
    (each : ∀ item ∈ items, Attains (fun depth => family depth item) (body item)) :
    Attains (fun depth => items.forM (family depth)) (items.forM body) := by
  induction items with
  | nil => exact const _
  | cons item rest hypothesis =>
      simp only [List.forM_eq_forM, List.forM_cons]
      refine (each item List.mem_cons_self).bind fun _ => ?_
      have others := hypothesis fun item member => each item (List.mem_cons_of_mem _ member)
      simpa only [List.forM_eq_forM] using others

end Attains

end RuleProbe

namespace RuleProbe

namespace Extraction

/-- What a computation settles in, it settles in when flaws are caught. -/
theorem catchFlaw_attains
    {family : Nat → Extract (List Found)}
    {action : Extract (List Found)}
    (first : Attains family action) :
    Attains (fun depth => catchFlaw (family depth)) (catchFlaw action) := by
  unfold catchFlaw
  exact (first.map Result.found).tryCatch rfl

namespace Call

/-! ## Insertions -/

/-- A text is the body of a single rule, without its directives and its filter, nothing being
inserted into it. -/
def isOwnBody (rule body : Text) : Bool :=
  match Directive.takePuts rule with
  | .ok (rest, _) => Text.trim (ReplaceFilter.split rest).1 == body
  | .error _ => false

/-- A call hands on a text into which something has been inserted: a variable into the body of
a single rule, a value that is written out as a rule to store, a result into a later step. -/
def inserts : Call → Call → Bool
  | .single _ text _, .template _ body => !isOwnBody text body
  | .single _ text _, .dialect _ _ body _ => !isOwnBody text body
  | .directives _ text, .rule _ subRule _ => Directive.writesOut text subRule
  | .steps (.rule text :: _) _ _ _, .branch _ inserted _ => inserted != text
  | _, _ => false

/-- The weight of a call: the size of its text, and among calls with one text how many calls
may still come before the text is cut. -/
def weight : Call → Nat
  | .rule _ text _ => 8 * text.length + 7
  | .branch _ text _ => 8 * text.length + 6
  | .lines _ first rest _ => 8 * (first.length + Text.joinedSize rest) + 5
  | .steps chain _ _ _ => 8 * Text.joinedSize (chain.map ScriptStep.content) + 5
  | .single _ text _ => 8 * text.length + 4
  | .dialect _ _ body _ => 8 * body.length + 3
  | .directives _ text => 8 * text.length + 3
  | .template _ text => 8 * text.length + 3

/-- A call hands a part of its own text on to another call. -/
inductive HandsOn : Call → Call → Prop
  /-- A rule falls into branches. -/
  | branch {context : Context} {text part : Text} {asList : Bool}
      (member : part ∈ (Operator.split (stripReverse text).1).2) :
      HandsOn (.rule context text asList) (.branch context part asList)
  /-- A branch with a script falls into steps. -/
  | script {context : Context} {text : Text} {asList : Bool}
      (scripted : hasScript text = true) :
      HandsOn (.branch context text asList) (.steps (ScriptStep.ofRule text) context none asList)
  /-- A branch falls into lines. -/
  | lines {context : Context} {text first : Text} {rest : List Text} {asList : Bool}
      (cut : ruleLines text = first :: rest) :
      HandsOn (.branch context text asList) (.lines context first rest asList)
  /-- A branch is a single rule. -/
  | alone {context : Context} {text : Text} {asList : Bool} :
      HandsOn (.branch context text asList) (.single context (Text.trim text) asList)
  /-- The first line is evaluated. -/
  | start {context : Context} {first : Text} {rest : List Text} {asList : Bool} :
      HandsOn (.lines context first rest asList) (.single context first true)
  /-- A later line is evaluated on a result. -/
  | line {context : Context} {first line : Text} {rest : List Text} {asList : Bool}
      (member : line ∈ rest) (value : Found) (inList : Bool) :
      HandsOn (.lines context first rest asList) (.branch (context.withFound value) line inList)
  /-- The directives of a single rule are followed. -/
  | directives {context : Context} {text : Text} {asList : Bool} :
      HandsOn (.single context text asList) (.directives context text)
  /-- The body of a single rule is a template. -/
  | template {context : Context} {text body : Text} {asList : Bool}
      (isOwn : isOwnBody text body = true) :
      HandsOn (.single context text asList) (.template context body)
  /-- The body of a single rule is evaluated in its dialect. -/
  | dialect {context : Context} {text body : Text} {asList : Bool} {isJson : Bool}
      (isOwn : isOwnBody text body = true) :
      HandsOn (.single context text asList) (.dialect context isJson body asList)
  /-- A body falls into steps. -/
  | steps {context : Context} {body : Text} {asList : Bool} {isJson : Bool}
      {chain : List ScriptStep}
      (scripted : Dialect.ofRule body isJson = .script chain) :
      HandsOn (.dialect context isJson body asList) (.steps chain context none asList)
  /-- A rule is evaluated whose result is stored. -/
  | stored {context : Context} {text rest : Text} {puts : Keyed Text} {put : Text × Text}
      (taken : Directive.takePuts text = .ok (rest, puts))
      (member : put ∈ puts)
      (own : Directive.writesOut text put.2 = false) :
      HandsOn (.directives context text) (.rule context put.2 false)
  /-- An expression of a template is evaluated. -/
  | expression {context : Context} {text inner : Text}
      (member : .expression inner ∈ Template.parts text) :
      HandsOn (.template context text) (.rule context inner false)
  /-- A step that is a rule is evaluated. -/
  | step {context : Context} {text : Text} {rest : List ScriptStep} {result : Option Json}
      {asList : Bool} (inList : Bool) :
      HandsOn (.steps (.rule text :: rest) context result asList) (.branch context text inList)
  /-- The other steps are followed on the result of the first one. -/
  | later {context : Context} {first : ScriptStep} {rest : List ScriptStep}
      {result : Option Json} {asList : Bool} (value : Json) :
      HandsOn (.steps (first :: rest) context result asList)
        (.steps rest (context.withValue value) value asList)

/-- A body of its own is no longer than the rule. -/
theorem length_le_of_isOwnBody {text body : Text} (isOwn : isOwnBody text body = true) :
    body.length ≤ text.length := by
  unfold isOwnBody at isOwn
  split at isOwn
  · rename_i rest puts taken
    rw [← eq_of_beq isOwn]
    exact (Text.trim_length_le _).trans
      ((ReplaceFilter.split_isInfix rest).length_le.trans (Directive.takePuts_sized taken).1)
  · cases isOwn

/-- A part of a text weighs less, or is handed on to a call that is nearer to cutting it. -/
theorem HandsOn.weight_lt {call callee : Call} (hands : call.HandsOn callee) :
    callee.weight < call.weight := by
  cases hands <;> simp only [weight]
  case branch text part _ member =>
    have cut := ((Operator.mem_split member).trans (stripReverse_isInfix text)).length_le
    omega
  case script scripted =>
    have shorter := ScriptStep.joinedSize_ofRule_lt scripted
    omega
  case lines text first rest _ cut =>
    have together := joinedSize_ruleLines_le text
    rw [cut, Text.joinedSize_cons] at together
    omega
  case alone text _ =>
    have trimmed := Text.trim_length_le text
    omega
  case start => omega
  case line member _ _ =>
    have among := Text.length_lt_joinedSize member
    omega
  case directives => omega
  case template isOwn =>
    have shorter := length_le_of_isOwnBody isOwn
    omega
  case dialect isOwn =>
    have shorter := length_le_of_isOwnBody isOwn
    omega
  case steps body _ _ _ scripted =>
    obtain ⟨isScript, rfl⟩ := Dialect.steps_of_script scripted
    have shorter := ScriptStep.joinedSize_ofRule_lt isScript
    have trimmed := Text.trim_length_le body
    omega
  case stored put taken member own =>
    have sized := (Directive.takePuts_sized taken).2 put member
    rw [own] at sized
    have shorter := sized.resolve_right (by simp)
    omega
  case expression member =>
    have shorter := Template.expression_length_lt member
    omega
  case step =>
    simp only [List.map_cons, ScriptStep.content, Text.joinedSize_cons]
    omega
  case later =>
    simp only [List.map_cons, Text.joinedSize_cons]
    omega

/-- A call that another one may make: something has been inserted, or the weight is less. -/
def Follows (call callee : Call) : Prop :=
  call.inserts callee = true ∨ callee.weight < call.weight

variable (engine : Engine)

/-- The answer to a call when insertions are nested to a bound, and calls otherwise as deeply
as they come. -/
def within (bound : Nat) (call : Call) : Extract call.Answer :=
  call.answer engine fun callee =>
    if call.inserts callee then
      match bound with
      | 0 => throw (.defect .recursion)
      | bound + 1 => callee.within bound
    else if _ : callee.weight < call.weight then callee.within bound
    else throw (.defect .recursion)
termination_by (bound, call.weight)

/-! ## Calls and the calls they make -/

section Answers

variable {engine}
variable {family : Nat → (call : Call) → Extract call.Answer}
variable {ask : (call : Call) → Extract call.Answer}

theorem rule_attains
    {context : Context}
    {text : Text}
    {asList : Bool}
    (asked : ∀ callee, (rule context text asList).Follows callee →
      Attains (fun depth => family depth callee) (ask callee)) :
    Attains (fun depth => (rule context text asList).answer engine (family depth))
      ((rule context text asList).answer engine ask) := by
  simp only [answer]
  split
  · exact .const _
  · split
    · exact .const _
    · split
      · exact .const _
      · refine catchFlaw_attains (Attains.map (Attains.mapM fun part member => ?_) _)
        exact asked _ (.inr (HandsOn.branch member).weight_lt)

theorem branch_attains
    {context : Context}
    {text : Text}
    {asList : Bool}
    (asked : ∀ callee, (branch context text asList).Follows callee →
      Attains (fun depth => family depth callee) (ask callee)) :
    Attains (fun depth => (branch context text asList).answer engine (family depth))
      ((branch context text asList).answer engine ask) := by
  simp only [answer]
  split
  · exact asked _ (.inr (HandsOn.script ‹_›).weight_lt)
  · split
    · exact asked _ (.inr (HandsOn.lines ‹_›).weight_lt)
    · exact asked _ (.inr HandsOn.alone.weight_lt)

theorem lines_attains
    {context : Context}
    {first : Text}
    {rest : List Text}
    {asList : Bool}
    (asked : ∀ callee, (lines context first rest asList).Follows callee →
      Attains (fun depth => family depth callee) (ask callee)) :
    Attains (fun depth => (lines context first rest asList).answer engine (family depth))
      ((lines context first rest asList).answer engine ask) := by
  simp only [answer]
  refine Attains.bind (asked _ (.inr HandsOn.start.weight_lt)) fun found => ?_
  refine Attains.foldlM (fun entry member values => ?_) found
  split
  · exact .const _
  · refine Attains.bind (Attains.mapM fun value _ => ?_) fun _ => .const _
    have among := List.fst_mem_of_mem_zipIdx member
    exact asked _ (.inr (HandsOn.line among value _).weight_lt)

theorem single_attains
    {context : Context}
    {text : Text}
    {asList : Bool}
    (asked : ∀ callee, (single context text asList).Follows callee →
      Attains (fun depth => family depth callee) (ask callee)) :
    Attains (fun depth => (single context text asList).answer engine (family depth))
      ((single context text asList).answer engine ask) := by
  simp only [answer]
  refine Attains.bind (asked _ (.inr HandsOn.directives.weight_lt)) fun directed => ?_
  refine Attains.bind ?_ fun values => .const _
  split
  · exact .const _
  · split
    · exact .const _
    · split
      · refine Attains.map (asked (.template context _) ?_) _
        by_cases isOwn : isOwnBody text (Text.trim (ReplaceFilter.split directed).1) = true
        · exact .inr (HandsOn.template isOwn).weight_lt
        · exact .inl (by simpa [inserts] using isOwn)
      · refine Attains.bind (.const _) fun isJson => asked (.dialect context isJson _ asList) ?_
        by_cases isOwn : isOwnBody text (Text.trim (ReplaceFilter.split directed).1) = true
        · exact .inr (HandsOn.dialect isOwn).weight_lt
        · exact .inl (by simpa [inserts] using isOwn)

theorem dialect_attains
    {context : Context}
    {isJson : Bool}
    {body : Text}
    {asList : Bool}
    (asked : ∀ callee, (dialect context isJson body asList).Follows callee →
      Attains (fun depth => family depth callee) (ask callee)) :
    Attains (fun depth => (dialect context isJson body asList).answer engine (family depth))
      ((dialect context isJson body asList).answer engine ask) := by
  simp only [answer]
  cases isDialect : Dialect.ofRule body isJson with
  | script chain => exact asked _ (.inr (HandsOn.steps isDialect).weight_lt)
  | _ => exact .const _

theorem directives_attains
    {context : Context}
    {text : Text}
    (asked : ∀ callee, (directives context text).Follows callee →
      Attains (fun depth => family depth callee) (ask callee)) :
    Attains (fun depth => (directives context text).answer engine (family depth))
      ((directives context text).answer engine ask) := by
  simp only [answer]
  refine Attains.of_except_bind fun found taken => ?_
  refine Attains.bind (Attains.forM fun put member => ?_) fun _ => .const _
  refine Attains.bind (asked (.rule context put.2 false) ?_) fun _ => .const _
  cases written : Directive.writesOut text put.2 with
  | true => exact .inl written
  | false => exact .inr (HandsOn.stored taken member written).weight_lt

theorem template_attains
    {context : Context}
    {text : Text}
    (asked : ∀ callee, (template context text).Follows callee →
      Attains (fun depth => family depth callee) (ask callee)) :
    Attains (fun depth => (template context text).answer engine (family depth))
      ((template context text).answer engine ask) := by
  simp only [answer]
  refine Attains.bind (Attains.mapM fun part member => ?_) fun _ => .const _
  cases part with
  | text value => exact .const _
  | expression inner =>
      dsimp only
      split
      · refine Attains.bind (asked _ (.inr ?_)) fun _ => .const _
        exact (HandsOn.expression member).weight_lt
      · exact .const _

theorem steps_attains
    {chain : List ScriptStep}
    {context : Context}
    {result : Option Json}
    {asList : Bool}
    (asked : ∀ callee, (steps chain context result asList).Follows callee →
      Attains (fun depth => family depth callee) (ask callee)) :
    Attains (fun depth => (steps chain context result asList).answer engine (family depth))
      ((steps chain context result asList).answer engine ask) := by
  cases chain with
  | nil => exact .const _
  | cons step rest =>
      cases step with
      | code code =>
          simp only [answer]
          refine Attains.bind (.const _) fun value => ?_
          split
          · exact .const _
          · exact asked _ (.inr (HandsOn.later _).weight_lt)
      | rule text =>
          simp only [answer]
          refine Attains.bind (asked (.branch context (insertResult result text) _) ?_)
            fun values => ?_
          · by_cases inserted : insertResult result text = text
            · rw [inserted]
              exact .inr (HandsOn.step _).weight_lt
            · exact .inl (by simpa [inserts] using inserted)
          · split
            · exact .const _
            · split
              · exact .const _
              · exact asked _ (.inr (HandsOn.later _).weight_lt)

/-- The answer to a call is attained when those to the calls that it makes are. -/
theorem answer_attains
    (call : Call)
    (asked : ∀ callee, call.Follows callee →
      Attains (fun depth => family depth callee) (ask callee)) :
    Attains (fun depth => call.answer engine (family depth)) (call.answer engine ask) := by
  cases call with
  | rule context text asList => exact rule_attains asked
  | branch context text asList => exact branch_attains asked
  | lines context first rest asList => exact lines_attains asked
  | single context text asList => exact single_attains asked
  | dialect context isJson body asList => exact dialect_attains asked
  | directives context text => exact directives_attains asked
  | template context text => exact template_attains asked
  | steps chain context result asList => exact steps_attains asked

end Answers

/-! ## Depth and insertions -/

/-- Where a call settles with insertions nested to a bound, the evaluator gives the same answer
from some depth on.  The induction is on the bound, and below it on the weight. -/
theorem run_attains (bound : Nat) (call : Call) :
    Attains (fun depth => call.run engine depth) (call.within engine bound) := by
  refine .of_succ ?_
  simp only [run_succ]
  rw [within]
  refine answer_attains call fun callee _ => ?_
  split
  · cases bound with
    | zero => exact .exhausted _
    | succ bound => exact run_attains bound callee
  · split
    · exact run_attains bound callee
    · exact .exhausted _
termination_by (bound, call.weight)

/-- Where a call settles at a depth, so it does from some bound on when insertions are nested to
the bound. -/
theorem within_attains (depth : Nat) (call : Call) :
    Attains (fun bound => call.within engine bound) (call.run engine depth) := by
  induction depth generalizing call with
  | zero =>
      rw [run_zero]
      exact .exhausted _
  | succ depth below =>
      rw [run_succ]
      simp only [within.eq_def _ _ call]
      refine answer_attains call fun callee follows => ?_
      by_cases inserted : call.inserts callee = true
      · simp only [inserted, if_true]
        exact .of_succ (below callee)
      · simp only [inserted, dif_pos (follows.resolve_left inserted)]
        exact below callee

/-- What a call settles in at a depth, it settles in at greater depths. -/
theorem run_attains_run {depth more : Nat} (deep : depth ≤ more) (call : Call) :
    Attains (fun _ => call.run engine more) (call.run engine depth) := by
  induction depth generalizing more call with
  | zero =>
      rw [run_zero]
      exact .exhausted _
  | succ depth below =>
      obtain ⟨less, rfl⟩ : ∃ less, more = less + 1 := ⟨more - 1, by omega⟩
      simp only [run_succ]
      exact answer_attains call fun callee _ => below (by omega) callee

/-- A call ends in a session: from some depth on it ends in one way, and not for being nested
too deeply. -/
def Terminates (call : Call) (session : Session) : Prop :=
  ∃ enough ended, Settled ended ∧
    ∀ depth, enough ≤ depth → runFrom (call.run engine depth) session = ended

/-- A call that settles at one depth ends. -/
theorem terminates_of_settled
    {depth : Nat}
    {call : Call}
    {session : Session}
    (settled : Settled (runFrom (call.run engine depth) session)) :
    call.Terminates engine session := by
  obtain ⟨bound, alike⟩ := within_attains engine depth call session settled
  have atBound := alike bound (Nat.le_refl bound)
  obtain ⟨enough, same⟩ := run_attains engine bound call session (atBound ▸ settled)
  exact ⟨enough, _, atBound ▸ settled, same⟩

/-- A call of the evaluator, whatever its texts, its context and the variables are, ends exactly
when it settles with insertions nested to some bound. -/
theorem terminates_iff (call : Call) (session : Session) :
    call.Terminates engine session ↔
      ∃ bound, Settled (runFrom (call.within engine bound) session) := by
  constructor
  · rintro ⟨enough, ended, settled, same⟩
    have atEnough := same enough (Nat.le_refl enough)
    obtain ⟨bound, alike⟩ := within_attains engine enough call session (atEnough ▸ settled)
    exact ⟨bound, by rwa [alike bound (Nat.le_refl bound), atEnough]⟩
  · rintro ⟨bound, settled⟩
    obtain ⟨enough, same⟩ := run_attains engine bound call session settled
    exact ⟨enough, _, settled, same⟩

end Call

/-! ## A variable that inserts itself -/

/-- A rule that inserts a variable. -/
def selfRule : Text := "@@@get:\x7bk\x7d"

/-- A session whose variable holds a template of the rule that inserts it. -/
def selfSession : Session := ⟨[("k", .str "\x7b\x7b@@@get:\x7bk\x7d \x7d\x7d")], []⟩

/-- The rule with the variable inserted. -/
def selfBody : Text := "@@\x7b\x7b@@@get:\x7bk\x7d \x7d\x7d"

/-- The context of a letter. -/
def selfContext : Context := .ofBody ['a']

/-- Two computations in a row are exhausted when the first one is. -/
theorem runFrom_bind_of_exhausted
    {α β : Type}
    {action : Extract α}
    {session after : Session}
    (exhausted : runFrom action session = (.error (.defect .recursion), after))
    (next : α → Extract β) :
    runFrom (action >>= next) session = (.error (.defect .recursion), after) := by
  rw [runFrom_bind, exhausted]

theorem selfRule_directed (depth : Nat) :
    runFrom (applyDirectives {} (depth + 1) selfContext selfRule) selfSession =
      (.ok selfBody, selfSession) := by
  rw [applyDirectives]
  rfl

/-- The four calls through which the rule comes back to itself. -/
structure SelfExhausted (depth : Nat) : Prop where
  rule : runFrom (evaluateAt {} depth selfContext selfRule false) selfSession =
    (.error (.defect .recursion), selfSession)
  branch : runFrom (evaluateBranch {} depth selfContext selfRule false) selfSession =
    (.error (.defect .recursion), selfSession)
  single : runFrom (evaluateSingle {} depth selfContext selfRule false) selfSession =
    (.error (.defect .recursion), selfSession)
  template : runFrom (interpolateAt {} depth selfContext selfBody) selfSession =
    (.error (.defect .recursion), selfSession)

theorem selfExhausted (depth : Nat) : SelfExhausted depth := by
  induction depth with
  | zero =>
      constructor
      · rw [evaluateAt]; rfl
      · rw [evaluateBranch]; rfl
      · rw [evaluateSingle]; rfl
      · rw [interpolateAt]; rfl
  | succ depth below =>
      constructor
      · have usable : selfContext.Usable := ⟨by simp [selfContext, Context.ofBody], rfl⟩
        have trimmed : selfRule.Trimmed := by
          constructor <;> (rintro c ⟨⟩; decide)
        rw [evaluateAt_uncut {} usable trimmed (by decide) (by decide) (by decide +kernel),
          runFrom_catchFlaw, below.branch]
      · have plain : hasScript selfRule = false := by decide +kernel
        have alone : ruleLines selfRule = [selfRule] := by decide +kernel
        have same : Text.trim selfRule = selfRule := by decide +kernel
        rw [evaluateBranch, if_neg (by simp [plain]), alone]
        simp only [same]
        exact below.single
      · rw [evaluateSingle_succ]
        cases depth with
        | zero =>
            refine runFrom_bind_of_exhausted ?_ _
            rw [applyDirectives]
            rfl
        | succ depth =>
            rw [runFrom_bind_of_ok (selfRule_directed depth)]
            have parts : ReplaceFilter.split selfBody = (selfBody, none) := by decide +kernel
            have same : Text.trim selfBody = selfBody := by decide +kernel
            have template : Template.isTemplate selfBody = true := by decide +kernel
            have filled : bodyFound {} (depth + 1) selfContext false selfBody false =
                (fun text => texts [text]) <$>
                  interpolateAt {} (depth + 1) selfContext selfBody := by
              rw [bodyFound, if_neg (by decide)]
              simp [referredGroups?, selfContext, Context.ofBody, Context.handle?, template]
            refine runFrom_bind_of_exhausted ?_ _
            simp only [parts, same, Option.isSome_none]
            rw [filled, runFrom_map, below.template]
            rfl
      · have expression : expressionText {} depth selfContext selfRule =
            Result.firstText <$> evaluateAt {} depth selfContext selfRule false :=
          if_pos (by decide +kernel)
        have start : Template.parts selfBody =
            .text ['@', '@'] :: .expression selfRule :: (Template.parts selfBody).drop 2 := by
          rfl
        have exhausted : runFrom (expressionText {} depth selfContext selfRule) selfSession =
            (.error (.defect .recursion), selfSession) := by
          rw [expression, runFrom_map, below.rule]
          rfl
        rw [interpolateAt_succ, start, List.mapM_cons, List.mapM_cons, runFrom_map]
        simp only [pure_bind, bind_assoc]
        rw [runFrom_bind_of_exhausted exhausted]
        rfl

/-- The rule ends at no depth. -/
theorem selfRule_exhausts :
    ¬(Call.rule selfContext selfRule false).Terminates {} selfSession := by
  rintro ⟨enough, ended, settled, same⟩
  rw [← same enough (Nat.le_refl enough)] at settled
  exact settled (congrArg Prod.fst (selfExhausted enough).rule)

end Extraction

end RuleProbe
