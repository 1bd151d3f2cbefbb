import RuleProbe.Proofs.Stage.Work

/-!
# Runs of readings

What a stage reads changes nothing about a walk but its variables and its log.  The equations of
this module give the run of reading a field by that of evaluating its rule.
-/

namespace RuleProbe

namespace Stage

open Extraction (Context)

variable {site : Site}

/-! ## Work that changes the session only -/

/-- The second walk differs from the first one in its session at most. -/
def SameButSession (before after : Walk) : Prop :=
  ∃ session, after = { before with session }

instance : IsPreorder Walk SameButSession where
  refl walk := ⟨walk.session, rfl⟩
  trans _ _ _ := by
    rintro ⟨_, rfl⟩ ⟨session, rfl⟩
    exact ⟨session, rfl⟩

theorem lift_changesSession {α : Type} (value : Except Fault α) :
    Leads SameButSession (lift value) :=
  .of_except value

/-- The absolute address of an address, without any effect. -/
def resolved (site : Site) (url base : Text) : Except Fault Text :=
  (if base.isEmpty then site.origin else .ok base) >>= Url.resolve url

theorem lift_bind
    {α β : Type}
    (value : Except Fault α)
    (next : α → Except Fault β) :
    (lift value >>= fun found => lift (next found)) = lift (value >>= next) := by
  cases value <;> rfl

theorem resolve_eq_lift (url base : Text) :
    resolve site url base = lift (resolved site url base) := by
  unfold resolve resolved
  simp only
  split
  · exact lift_bind _ _
  · rfl

theorem resolve_changesSession (url base : Text) :
    Leads SameButSession (resolve site url base) := by
  rw [resolve_eq_lift]
  exact lift_changesSession _

/-- The walk with an entry on top of its log. -/
def Walk.logged (walk : Walk) (entry : Log) : Walk :=
  { walk with session := { walk.session with logs := entry :: walk.session.logs } }

theorem runFrom_report
    (level : Log.Level)
    (topic : Log.Topic)
    (message : Text)
    (details : Json.Members)
    (walk : Walk) :
    runFrom (report level topic message details) walk =
      (.ok (), walk.logged { level, topic, message, details }) := rfl

theorem runFrom_lift {α : Type} (value : Except Fault α) (walk : Walk) :
    runFrom (lift value) walk = (value, walk) :=
  runFrom_ofExcept value walk

/-! ## Fields -/

/-- The value of a field whose rule has been evaluated: none without a text. -/
def FieldStyle.read? (style : FieldStyle) (result : Extraction.Result) : Option Text :=
  if result.givenTexts.isEmpty then none else some (style.value result.givenTexts)

/-- A field without a rule has no value and leaves the walk as it is. -/
theorem readField_of_not_given
    {rule : Json}
    (missing : rule.isGiven = false)
    (context : Context)
    (name : Text)
    (style : FieldStyle) :
    readField site context name rule style = pure none := by
  unfold readField
  rw [missing]
  rfl

/-- A field with a rule is read by evaluating the rule, and reported. -/
theorem runFrom_readField
    (site : Site)
    {rule : Json}
    (given : rule.isGiven = true)
    {text : Text}
    (isText : Extraction.ruleOf rule = .ok text)
    (context : Context)
    (name : Text)
    (style : FieldStyle)
    (walk : Walk) :
    ∃ logs,
      runFrom (readField site context name rule style) walk =
        ((runFrom (Extraction.evaluate site.engine context text) walk.session).1.map style.read?,
          { walk with session :=
            { store :=
                (runFrom (Extraction.evaluate site.engine context text) walk.session).2.store
              logs } }) := by
  unfold readField
  rw [given, isText]
  simp only [Bool.not_true, Bool.false_eq_true, if_false, mapError_ok, runFrom_bind, runFrom_lift,
    runFrom_extract]
  obtain ⟨ended, after⟩ := runFrom (Extraction.evaluate site.engine context text) walk.session
  cases ended with
  | error fault => exact ⟨after.logs, rfl⟩
  | ok result =>
      cases result with
      | failed reason =>
          simp only [Extraction.Result.reason?, runFrom_bind, runFrom_report, runFrom_pure]
          exact ⟨_, rfl⟩
      | found values =>
          simp only [Extraction.Result.reason?, Except.map, FieldStyle.read?]
          cases (Extraction.Result.found values).givenTexts.isEmpty with
          | true =>
              simp only [if_true]
              cases style.quiet with
              | true => exact ⟨_, rfl⟩
              | false => exact ⟨_, rfl⟩
          | false =>
              cases style.quiet with
              | true => exact ⟨_, rfl⟩
              | false => exact ⟨_, rfl⟩

/-- A field with a rule that has been read is the value of what its rule has come to. -/
theorem exists_evaluated
    {rule : Json}
    (given : rule.isGiven = true)
    {context : Context}
    {name : Text}
    {style : FieldStyle}
    {walk after : Walk}
    {value? : Option Text}
    (returned : runFrom (readField site context name rule style) walk = (.ok value?, after)) :
    ∃ text result session,
      Extraction.ruleOf rule = .ok text ∧
        runFrom (Extraction.evaluate site.engine context text) walk.session =
          (.ok result, session) ∧
        value? = style.read? result := by
  cases isText : Extraction.ruleOf rule with
  | error defect =>
      unfold readField at returned
      rw [given, isText] at returned
      cases returned
  | ok text =>
      obtain ⟨logs, ran⟩ := runFrom_readField site given isText context name style walk
      rw [ran] at returned
      cases evaluated : runFrom (Extraction.evaluate site.engine context text) walk.session with
      | mk ended session =>
          rw [evaluated] at returned
          cases ended with
          | error fault => cases returned
          | ok result =>
              cases returned
              exact ⟨text, result, session, rfl, evaluated, rfl⟩

theorem readField_changesSession
    (context : Context)
    (name : Text)
    (rule : Json)
    (style : FieldStyle) :
    Leads SameButSession (readField site context name rule style) := by
  cases given : rule.isGiven with
  | false =>
      rw [readField_of_not_given given]
      exact .of_pure none
  | true =>
      cases read : Extraction.ruleOf rule with
      | error defect =>
          intro walk
          unfold readField
          rw [given, read]
          exact refl_of SameButSession walk
      | ok text =>
          intro walk
          obtain ⟨logs, ran⟩ := runFrom_readField site given read context name style walk
          rw [ran]
          exact ⟨_, rfl⟩

/-! ## Records -/

/-- Read a field of an element into its record. -/
def addField (site : Site) (context : Context) (label : Text) (record : Record)
    (rule : Text × Json) : Work Record := do
  match ← readField site context rule.1 rule.2 (styleOf rule.1 label) with
  | none => return record
  | some value =>
      let value ←
        if rule.1 == "coverUrl".toList then resolve site value context.baseUrl else pure value
      return Record.put record rule.1 value

/-- The fields of an element are read into its record one by one. -/
theorem readFields_eq (context : Context) (label : Text) (rules : Keyed Json) :
    readFields site context label rules = rules.foldlM (addField site context label) [] := rfl

end Stage

end RuleProbe
