import RuleProbe.Proofs.Evaluation.Fallback
import RuleProbe.Proofs.Trail

/-!
# Scripts that fail

A script that fails has no value, and a rule that comes to it has no results, which is no failure
of the rule.  What the script has put, though, is taken over before its log lines are read: a
script whose log lines cannot be read fails with its puts written.
-/

namespace RuleProbe

namespace Sandbox

variable {timeout : Float} {source : Text} {bindings : Bindings} {store puts : Json.Members}
variable {ended : Ended}

/-- What a script has put is written whatever becomes of its log lines. -/
theorem run_store_of_hasPut
    (given : (codeOf source bindings).isEmpty = false)
    (put : HasPut store bindings source puts)
    (ran : run timeout source bindings store = .ok ended) :
    ended.store = Keyed.update store puts := by
  obtain ⟨value, machine, after, evaluated, read⟩ := put
  unfold run at ran
  simp only [given, Bool.false_eq_true, if_false, evaluated, writeBack, read, takeOver] at ran
  rw [← Except.ok.inj ran]
  exact readLogs_store _ _ _ _

/-- A script that fails leaves the store as it is unless it has put something new that could be
read back. -/
theorem run_store_eq_iff
    {reason : Text}
    (ran : run timeout source bindings store = .ok ended)
    (failed : ended.outcome = .failed reason) :
    ended.store = store ↔
      ¬∃ puts, HasPut store bindings source puts ∧ Keyed.update store puts ≠ store := by
  have given : (codeOf source bindings).isEmpty = false := by
    by_contra empty
    unfold run at ran
    rw [if_pos (by simpa using empty)] at ran
    cases ran
    cases failed
  constructor
  · rintro same ⟨puts, put, changed⟩
    apply changed
    rw [← run_store_of_hasPut given put ran]
    exact same
  · intro unchanged
    obtain same | ⟨puts, put, updated⟩ := run_store ran
    · exact same
    · by_contra changed
      exact unchanged ⟨puts, put, fun same => changed (updated.trans same)⟩

end Sandbox

namespace Extraction

open Sandbox (Bindings Ended HasPut)

variable {engine : Engine}

/-! ## Failing scripts of rules -/

/-- What a script of a rule can see. -/
def bindingsOf (engine : Engine) (context : Context) (input : Json) : Bindings :=
  { result := input
    page := context.document.body
    baseUrl := context.baseUrl
    book := context.book
    chapter := context.chapter
    extra := context.extra
    library := engine.library }

/-- A script of a rule that fails. -/
structure FailedRun (engine : Engine) where
  /-- The context in which it runs. -/
  context : Context
  /-- Its code. -/
  code : Text
  /-- The value on which it runs. -/
  input : Json
  /-- The session before it. -/
  before : Session
  /-- How it ends. -/
  ended : Ended
  /-- Why it has no value. -/
  reason : Text
  /-- It ends so. -/
  ran : Sandbox.run engine.timeout code (bindingsOf engine context input) before.store = .ok ended
  /-- It ends without a value. -/
  failed : ended.outcome = .failed reason

namespace FailedRun

variable (failing : FailedRun engine)

/-- The warning that a script has failed. -/
def warning : Log :=
  { level := .warning
    topic := .script
    message := "Script failed: " ++ failing.reason
    details := [("script", .str (shownCode failing.code))] }

/-- The session after a script that fails. -/
def after : Session :=
  { store := failing.ended.store, logs := failing.warning :: failing.before.logs }

/-- A script that fails gives null where its result is not required. -/
theorem runFrom_runScript :
    runFrom (runScript engine failing.context failing.code failing.input false) failing.before =
      (.ok .null, failing.after) := by
  have ran : Sandbox.run engine.timeout failing.code _ failing.before.store = .ok failing.ended :=
    failing.ran
  unfold bindingsOf at ran
  unfold runScript liftDefect lift
  rw [runFrom_bind, runFrom_get]
  dsimp only
  rw [runFrom_bind, runFrom_ofExcept, ran]
  simp only [mapError_ok]
  rw [runFrom_bind, runFrom_modify, failing.failed]
  rfl

end FailedRun

/-! ## Rules that come to a failing script -/

/-- Following some steps comes to a script that fails: the steps before it have results. -/
inductive ComesTo (failing : FailedRun engine) :
    Nat → List ScriptStep → Context → Option Json → Bool → Session → Prop where
  /-- The script is the first step. -/
  | here {depth : Nat} {rest : List ScriptStep} {result : Option Json} {asList : Bool}
      (input : result.getD failing.context.scriptValue = failing.input) :
      ComesTo failing (depth + 1) (.code failing.code :: rest) failing.context result asList
        failing.before
  /-- Another script comes first, and gives a value. -/
  | afterCode {depth : Nat} {code : Text} {rest : List ScriptStep} {context : Context}
      {result : Option Json} {asList : Bool} {session middle : Session} {value : Json}
      (ran :
        runFrom (runScript engine context code (result.getD context.scriptValue) false) session =
        (.ok value, middle))
      (given : value ≠ .null)
      (later : ComesTo failing depth rest (context.withValue value) (some value) asList middle) :
      ComesTo failing (depth + 1) (.code code :: rest) context result asList session
  /-- A rule comes first, and has results. -/
  | afterRule {depth : Nat} {rule : Text} {rest : List ScriptStep} {context : Context}
      {result : Option Json} {asList : Bool} {session middle : Session} {values : List Found}
      (ran : runFrom (evaluateBranch engine depth context (insertResult result rule)
        (asList && rest.isEmpty)) session = (.ok values, middle))
      (given : values ≠ [])
      (later : ComesTo failing depth rest (context.withValue (stepValue values))
        (some (stepValue values)) asList middle) :
      ComesTo failing (depth + 1) (.rule rule :: rest) context result asList session

variable {failing : FailedRun engine} {depth : Nat} {steps : List ScriptStep} {context : Context}
variable {result : Option Json} {asList : Bool} {session : Session}

theorem ComesTo.steps_ne_nil (comes : ComesTo failing depth steps context result asList session) :
    steps ≠ [] := by
  cases comes <;> simp

/-- Steps that come to a script which fails have no results, and leave the session that it
leaves. -/
theorem ComesTo.runFrom_evaluateSteps
    (comes : ComesTo failing depth steps context result asList session) :
    runFrom (evaluateSteps engine depth steps context result asList) session =
      (.ok [], failing.after) := by
  induction comes with
  | here input =>
      rw [evaluateSteps, input, runFrom_bind, failing.runFrom_runScript]
      rfl
  | afterCode ran given later hypothesis =>
      rw [evaluateSteps, runFrom_bind_of_ok ran]
      split
      · exact absurd rfl given
      · exact hypothesis
  | afterRule ran given later hypothesis =>
      rw [evaluateSteps, runFrom_bind_of_ok ran, if_neg (by simpa using given),
        if_neg (by simpa using later.steps_ne_nil)]
      exact hypothesis

/-- A rule whose only branch comes to a script which fails has no results. -/
theorem ComesTo.runFrom_evaluateAt
    {rule branch : Text}
    (usable : context.Usable)
    (given : rule.isBlankText = false)
    (single : (Operator.split (stripReverse rule).1).2 = [branch])
    (scripted : hasScript branch = true)
    (comes : ComesTo failing depth (ScriptStep.ofRule branch) context none asList session) :
    runFrom (evaluateAt engine (depth + 2) context rule asList) session =
      (.ok (.found []), failing.after) := by
  have empty (operator : Option Operator) (reversed : Bool) :
      gather operator reversed [[]] = [] := by
    cases operator with
    | none => cases reversed <;> rfl
    | some operator => cases operator <;> cases reversed <;> rfl
  have branched : runFrom (evaluateBranch engine (depth + 1) context branch asList) session =
      (.ok [], failing.after) := by
    rw [evaluateBranch, if_pos scripted]
    exact comes.runFrom_evaluateSteps
  rw [evaluateAt_of_given engine usable given, runFrom_catchFlaw_eq_found_iff, single, runFrom_map]
  simp only [List.mapM_cons, List.mapM_nil]
  rw [runFrom_bind_of_ok branched]
  simp [empty, Except.map]

/-! ## Failures are contained -/

/-- A script that fails is contained.  It leaves the store as it is unless it has put something new
that could be read back, and it gives null.  Steps that come to it have no results, and neither
has a rule of such steps, which succeeds. -/
theorem failure_isContained (failing : FailedRun engine) :
    (failing.ended.store = failing.before.store ↔
      ¬∃ puts, HasPut failing.before.store (bindingsOf engine failing.context failing.input)
        failing.code puts ∧ Keyed.update failing.before.store puts ≠ failing.before.store) ∧
      runFrom (runScript engine failing.context failing.code failing.input false) failing.before =
          (.ok .null, failing.after) ∧
        (∀ depth steps context result asList session,
          ComesTo failing depth steps context result asList session →
            runFrom (evaluateSteps engine depth steps context result asList) session =
              (.ok [], failing.after)) ∧
          ∀ depth context rule branch asList session,
            context.Usable → rule.isBlankText = false →
              (Operator.split (stripReverse rule).1).2 = [branch] → hasScript branch = true →
                ComesTo failing depth (ScriptStep.ofRule branch) context none asList session →
                  runFrom (evaluateAt engine (depth + 2) context rule asList) session =
                    (.ok (.found []), failing.after) := by
  refine ⟨Sandbox.run_store_eq_iff failing.ran failing.failed, failing.runFrom_runScript,
    fun _ _ _ _ _ _ comes => comes.runFrom_evaluateSteps, ?_⟩
  intro depth context rule branch asList session usable given single scripted comes
  exact comes.runFrom_evaluateAt usable given single scripted

/-- The reason for which a script has no value, if it has none. -/
def failureOf? (ran : Except Defect Ended) : Option Text :=
  match ran with
  | .ok ⟨.failed reason, _, _⟩ => some reason
  | _ => none

theorem exists_failed
    {ran : Except Defect Ended}
    (fails : (failureOf? ran).isSome = true) :
    ∃ ended reason, ran = .ok ended ∧ ended.outcome = .failed reason := by
  unfold failureOf? at fails
  split at fails
  · exact ⟨_, _, rfl, rfl⟩
  · cases fails

/-- A page on which a value has a name that no variable can have. -/
def misnamedPage : Context := { Context.ofBody "a" with extra := [("1", .null)] }

theorem misnamedPage_usable : misnamedPage.Usable where
  attached _ here := by cases here
  native := rfl

/-- A script that sees a value under such a name fails, and the rule that it makes up has no
results. -/
theorem failure_isContained_misnamed :
    ∃ failing : FailedRun {},
      (failing.ended.store = failing.before.store ↔
        ¬∃ puts, HasPut failing.before.store (bindingsOf {} failing.context failing.input)
          failing.code puts ∧ Keyed.update failing.before.store puts ≠ failing.before.store) ∧
        runFrom (evaluateAt {} 3 misnamedPage "@js:a" false) failing.before =
          (.ok (.found []), failing.after) := by
  have fails : (failureOf? (Sandbox.run Sandbox.defaultTimeout "a"
      (bindingsOf {} misnamedPage misnamedPage.scriptValue) [])).isSome = true := by
    decide +kernel
  obtain ⟨ended, reason, ran, failed⟩ := exists_failed fails
  let failing : FailedRun {} :=
    { context := misnamedPage, code := "a", input := misnamedPage.scriptValue, before := ⟨[], []⟩
      ended, reason, ran, failed }
  have comes : ComesTo failing 1 (ScriptStep.ofRule "@js:a") misnamedPage none false ⟨[], []⟩ := by
    have steps : ScriptStep.ofRule "@js:a" = [.code "a"] := by decide +kernel
    rw [steps]
    exact .here rfl
  obtain ⟨stored, -, -, rules⟩ := failure_isContained failing
  refine ⟨failing, stored, ?_⟩
  exact rules 1 misnamedPage "@js:a" "@js:a" false ⟨[], []⟩ misnamedPage_usable (by decide)
    (by decide +kernel) (by decide +kernel) comes

/-! ## A script whose log lines cannot be read -/

/-- A script that puts a variable and replaces its log lines. -/
def mutedScript : Text := "java.put('k','v'); __logs = null"

/-- It fails, and yet its variable is in the store afterwards. -/
theorem mutedScript_writes :
    ∃ ended reason,
      Sandbox.run Sandbox.defaultTimeout mutedScript {} [] = .ok ended ∧
        ended.outcome = .failed reason ∧ ended.store ≠ [] := by
  have written : (match Sandbox.run Sandbox.defaultTimeout mutedScript {} [] with
      | .ok ⟨.failed _, store, _⟩ => !store.isEmpty
      | _ => false) = true := by
    decide +kernel
  split at written
  · rename_i reason store logged ran
    exact ⟨_, reason, ran, rfl, by simpa using written⟩
  · cases written

end Extraction

end RuleProbe
