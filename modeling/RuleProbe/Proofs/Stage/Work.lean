import RuleProbe.Proofs.Effects
import RuleProbe.Proofs.Evaluation.Defects
import RuleProbe.Proofs.Evaluation.Handles
import RuleProbe.Stage.Book
import RuleProbe.Stage.Task

/-!
# Work that ends late

Once the page of a stage is there, the work of the stage goes on with evaluations, resolved
addresses and reports.  This module names the few faults in which such work may still end,
and shows for every piece of it that stages share that it ends in no other.
-/

namespace RuleProbe

namespace Stage

/-! ## Definitions of texts -/

/-- A value of a definition is a text, if it is there at all. -/
def IsField (value : Json) : Prop :=
  value = .null ∨ ∃ text, value = .str text

/-! ## Late faults -/

/-- A fault in which a stage may end although its page is there. -/
inductive Late (site : Site) : Fault → Prop where
  /-- A defect with a cause outside the engine. -/
  | caused {defect : Defect} (caused : defect.Caused) : Late site (.defect defect)
  /-- A rule for elements gave a text instead of a handle. -/
  | plainElement : Late site (.defect (.noHandle "str"))
  /-- A group that is written as a JSON text has a member that is no text. -/
  | foreignRule {name text key : Text} {members : Json.Members} {value : Json}
      (written : site.entry name = .str text)
      (read : Extraction.readJson text = .ok (some (.obj members)))
      (member : (key, value) ∈ members)
      (given : value.isGiven = true)
      (foreign : ∀ rule, value ≠ .str rule) :
      Late site (.defect (.noRule value.typeName))
  /-- The seconds to wait for a browser are no number of milliseconds. -/
  | untimed {fault : Fault}
      (refused : Book.milliseconds site.settings.requestTimeout = .error fault) :
      Late site fault

theorem Late.of_isCaused {site : Site} (fault : Fault) (caused : fault.IsCaused) :
    Late site fault := by
  obtain ⟨defect, rfl, caused⟩ := caused
  exact .caused caused

instance (site : Site) : Fault.Covers (Late site) where
  refused caused _ := .caused caused

/-- Every fault of a piece of work is a late one. -/
abbrev EndsLate (site : Site) {α : Type} (action : Work α) : Prop :=
  Ends (fun _ => True) (Late site) action

/-! ## Pieces of work -/

section

variable {α β : Type}
variable {bad : Fault → Prop}

theorem runFrom_extract (action : Extraction.Extract α) (walk : Walk) :
    runFrom (extract action) walk =
      ((runFrom action walk.session).1,
        { walk with session := (runFrom action walk.session).2 }) := by
  unfold extract lift
  rw [runFrom_bind, runFrom_get]
  unfold runFrom
  cases ended : action.run.run walk.session with
  | mk result session =>
      simp only [ended]
      cases result <;> rfl

theorem extract_ends
    {good : α → Prop}
    {action : Extraction.Extract α}
    (ends : Ends good bad action) :
    Ends good bad (extract action) := by
  intro walk
  rw [runFrom_extract]
  exact ends walk.session

theorem lift_ends
    {value : Except Fault α}
    (fails : FailsBy bad value) :
    Ends (fun _ => True) bad (lift value) :=
  .of_except (fun _ _ => trivial) fails

theorem report_ends
    (level : Log.Level)
    (topic : Log.Topic)
    (message : Text)
    (details : Json.Members) :
    Ends (fun _ => True) bad (report level topic message details) :=
  extract_ends (.of_modify _)

/-- A report changes nothing about the value that is returned after it. -/
theorem reportThen_ends
    {good : α → Prop}
    {level : Log.Level}
    {topic : Log.Topic}
    {message : Text}
    {details : Json.Members}
    {value : α}
    (holds : good value) :
    Ends good bad (report level topic message details >>= fun _ => pure value) :=
  (report_ends level topic message details).bind fun _ _ => .of_pure holds

end

variable {site : Site}

/-! ## Rules and contexts -/

/-- A rule that can be read off a definition. -/
def IsRule (site : Site) (rule : Json) : Prop :=
  FailsBy (Late site) ((Extraction.ruleOf rule).mapError Fault.defect)

theorem isRule_of_field {rule : Json} (field : IsField rule) : IsRule site rule := by
  rcases field with rfl | ⟨text, rfl⟩
  · exact .of_ok _
  · exact .of_ok _

theorem isRule_str (text : Text) : IsRule site (.str text) :=
  isRule_of_field (.inr ⟨text, rfl⟩)

theorem origin_late (isField : IsField site.url) : FailsBy (Late site) site.origin :=
  (isRule_of_field isField).bind fun url _ =>
    Url.originOf_failsBy url

/-- An address is resolved unless the origin of the source or the address itself is refused. -/
theorem resolve_ends
    {bad : Fault → Prop}
    [Fault.Covers bad]
    (origin : FailsBy bad site.origin)
    (url base : Text) :
    Ends (fun _ => True) bad (resolve site url base) := by
  unfold resolve
  split
  · refine (lift_ends origin).bind fun base _ => ?_
    exact lift_ends (Url.resolve_failsBy url base)
  · exact lift_ends (Url.resolve_failsBy url base)

theorem resolve_late (isField : IsField site.url) (url base : Text) :
    EndsLate site (resolve site url base) :=
  resolve_ends (origin_late isField) url base

end Stage

namespace Extraction

/-- A context that a stage builds: its document has been read from a body, and what is at
hand is a handle, a text or nothing. -/
structure Context.Staged (context : Context) : Prop where
  /-- The views of the document are those of its body. -/
  read : context.document = .ofBody context.document.serial context.document.body
  /-- A plain value at hand is a text. -/
  attached : ∀ value, context.element = some (.plain value) → ∃ text, value = .str text

theorem Context.Valid.staged {context : Context} (valid : context.Valid) :
    context.Staged where
  read := valid.read
  attached value here := absurd here (valid.attached value)

/-- An element of a list at hand. -/
theorem Context.Staged.withElement
    {context : Context}
    (staged : context.Staged)
    {element : Found}
    (kind : element.IsText ∨ ∃ pointer, element = .handle pointer) :
    (context.withElement element).Staged where
  read := staged.read
  attached value here := by
    rcases kind with ⟨text, rfl⟩ | ⟨pointer, rfl⟩
    · cases here
      exact ⟨text, rfl⟩
    · cases here

theorem Context.Staged.withValue
    {context : Context}
    (staged : context.Staged)
    (value : Json) :
    (context.withValue value).Staged :=
  staged.withElement (.inr ⟨_, rfl⟩)

end Extraction

namespace Stage

variable {site : Site}

open Extraction (Context)

/-- A context that can be built is a valid one. -/
theorem contextOf_ends
    {bad : Fault → Prop}
    (origin : FailsBy bad site.origin)
    (body pageUrl : Text)
    (book chapter : Json)
    (extra : Json.Members) :
    Ends Context.Valid bad (contextOf site body pageUrl book chapter extra) := by
  have built (baseUrl : Text) :
      Ends Context.Valid bad (do
        let before ← (get : Work Walk)
        modify fun walk => { walk with documents := before.documents + 1 }
        return { document := .ofBody before.documents body, baseUrl, book, chapter, extra }) := by
    refine .of_get fun walk => ?_
    refine (Ends.of_modify _).bind fun _ _ => ?_
    exact .of_pure
      { read := rfl
        attached := by simp }
  unfold contextOf
  simp only
  split
  · exact (lift_ends origin).bind fun baseUrl _ => built baseUrl
  · exact built pageUrl

theorem contextOf_late
    (isField : IsField site.url)
    (body pageUrl : Text)
    (book chapter : Json)
    (extra : Json.Members) :
    Ends Context.Valid (Late site) (contextOf site body pageUrl book chapter extra) :=
  contextOf_ends (origin_late isField) body pageUrl book chapter extra

/-- An evaluation in a context that a stage builds ends late, if it does not return. -/
theorem evaluateAt_late
    {context : Context}
    (staged : context.Staged)
    (engine : Extraction.Engine)
    (depth : Nat)
    (rule : Text)
    (asList : Bool) :
    Ends (fun _ => True) (Late site)
      (Extraction.evaluateAt engine depth context rule asList) := by
  have attached (handleOrNothing : ∀ value, context.element ≠ some (.plain value)) :
      Ends (fun _ => True) (Late site)
        (Extraction.evaluateAt engine depth context rule asList) :=
    ((Extraction.endsAt engine depth).rule ⟨staged.read, handleOrNothing⟩ rule asList).mono
      (fun _ _ => trivial) Late.of_isCaused
  match plain : context.element with
  | none => exact attached (by simp [plain])
  | some (.handle pointer) => exact attached (by simp [plain])
  | some (.plain value) =>
      obtain ⟨text, rfl⟩ := staged.attached value plain
      cases depth with
      | zero =>
          rw [Extraction.evaluateAt]
          exact .of_throw (.caused Defect.Exhausted.recursion.caused)
      | succ depth =>
          rw [Extraction.evaluateAt]
          simp only [plain]
          exact .of_throw .plainElement

end Stage

/-!
## From work to outcomes

A stage begins its log anew and does its work.  A fault in which the work ends is the last entry
of the log, and the outcome holds what the walk has come to.
-/

namespace Stage

/-- A walk as a stage begins it. -/
def Walk.begun (walk : Walk) : Walk :=
  { walk with session := { walk.session with logs := [] }, page := none, nextUrl := none }

/-- The walk after the work of a stage has ended: a fault is the last entry of the log. -/
def Walk.reported (walk : Walk) (result : Except Fault Payload) : Walk :=
  match result with
  | .ok _ => walk
  | .error fault =>
      { walk with session := { walk.session with
          logs := (reportFault fault).1 :: walk.session.logs } }

/-- How a stage ends whose work has ended. -/
def Ending.ofResult (result : Except Fault Payload) : Ending :=
  match result with
  | .ok payload => .found payload
  | .error fault => .failed (reportFault fault).2

/-- The outcome of a stage whose work has ended so. -/
def Outcome.ofEnd (stage : Text) (ended : Except Fault Payload × Walk) : Outcome :=
  { stage, ending := .ofResult ended.1
    logs := (ended.2.reported ended.1).session.logs.reverse
    page := (ended.2.reported ended.1).page
    nextUrl := (ended.2.reported ended.1).nextUrl }

@[simp] theorem Walk.reported_calls (walk : Walk) (result : Except Fault Payload) :
    (walk.reported result).calls = walk.calls := by
  cases result <;> rfl

@[simp] theorem Walk.reported_page (walk : Walk) (result : Except Fault Payload) :
    (walk.reported result).page = walk.page := by
  cases result <;> rfl

@[simp] theorem Walk.reported_nextUrl (walk : Walk) (result : Except Fault Payload) :
    (walk.reported result).nextUrl = walk.nextUrl := by
  cases result <;> rfl

/-- A stage is the work that it begins, with the end of the work reported. -/
theorem perform_eq (stage : Text) (action : Work Payload) (walk : Walk) :
    (perform stage action).run walk =
      (.ofEnd stage (runFrom action walk.begun),
        (runFrom action walk.begun).2.reported (runFrom action walk.begun).1) := by
  cases ended : runFrom action walk.begun with
  | mk result after =>
      have ran : StateT.run (ExceptT.run action) walk.begun = (result, after) := ended
      simp only [Walk.begun] at ran
      unfold perform
      simp only [StateT.run_bind, StateT.run_modify, pure_bind, ran]
      cases result with
      | ok payload => rfl
      | error fault => rfl

theorem perform_run
    (stage : Text)
    {action : Work Payload}
    {walk after : Walk}
    {result : Except Fault Payload}
    (ended : runFrom action walk.begun = (result, after)) :
    ((perform stage action).run walk).1 =
      { stage, ending := .ofResult result
        logs := (after.reported result).session.logs.reverse
        page := (after.reported result).page
        nextUrl := (after.reported result).nextUrl } := by
  rw [perform_eq, ended]
  rfl

end Stage

end RuleProbe
