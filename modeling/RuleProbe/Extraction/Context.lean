import RuleProbe.Extraction.Handle
import RuleProbe.Extraction.Template
import RuleProbe.Log
import RuleProbe.Sandbox

/-!
# Where rules are evaluated

An evaluation sees a document, perhaps one result inside it, and the records around it.
It changes the variable store and writes log entries, which it keeps even when it fails.
-/

namespace RuleProbe

namespace Extraction

/-- How scripts are run. -/
structure Engine where
  /-- A script that runs before every script, unless it is empty. -/
  library : Json := .null
  /-- The time that a script may take, in seconds. -/
  timeout : Float := Sandbox.defaultTimeout

/-- What a rule can see. -/
structure Context where
  /-- The document. -/
  document : Document
  /-- The address of the document. -/
  baseUrl : Text
  /-- The result at hand, if the rule works on one. -/
  element : Option Found := none
  /-- The record of the book. -/
  book : Json := .null
  /-- The record of the chapter. -/
  chapter : Json := .null
  /-- Further values under their names. -/
  extra : Json.Members := []

namespace Context

/-- The handle at hand. -/
def handle? (context : Context) : Option Handle :=
  match context.element with
  | some (.handle handle) => some handle
  | _ => none

/-- The context with a result at hand. -/
def withElement (context : Context) (element : Found) : Context :=
  { context with element := some element }

/-- The context with a value at hand, as a handle. -/
def withValue (context : Context) (value : Json) : Context :=
  context.withElement (.handle ⟨context.document.serial, .value value⟩)

/-- The context with a result at hand, as a handle. -/
def withFound (context : Context) (found : Found) : Context :=
  context.withElement (.handle (found.toHandle context.document.serial))

/-- The text of what is at hand. -/
def content (context : Context) : Text :=
  match context.handle? with
  | some handle => handle.markup
  | none => context.document.body

/-- The value for a script of what is at hand. -/
def scriptValue (context : Context) : Json :=
  match context.handle? with
  | some handle => handle.scriptValue
  | none => .str context.document.body

/-- What is at hand is JSON. -/
def isJson (context : Context) : Except Defect Bool :=
  match context.handle? with
  | some handle => .ok handle.isContainer
  | none => context.document.json.map Option.isSome

end Context

/-! ## Effects -/

/-- What evaluations change. -/
structure Session where
  /-- The variable store. -/
  store : Json.Members
  /-- The log entries, the latest first. -/
  logs : List Log
  deriving Inhabited

/-- An evaluation. -/
abbrev Extract := ExceptT Fault (StateM Session)

/-- Take over a computation without effects. -/
def lift {α : Type} (value : Except Fault α) : Extract α := MonadExcept.ofExcept value

/-- Take over a computation that only a defect ends. -/
def liftDefect {α : Type} (value : Except Defect α) : Extract α :=
  lift (value.mapError Fault.defect)

/-- Write a log entry. -/
def report (entry : Log) : Extract Unit :=
  modify fun session => { session with logs := entry :: session.logs }

/-- The value of a variable. -/
def stored? (key : Text) : Extract (Option Json) := do
  return Keyed.get? (← get).store key

/-- Set a variable. -/
def setVariable (key : Text) (value : Json) : Extract Unit :=
  modify fun session => { session with store := Keyed.put session.store key value }

/-- Turn a flaw of a rule into a result. -/
def catchFlaw (action : Extract (List Found)) : Extract Result :=
  tryCatch (Result.found <$> action) fun fault =>
    match fault with
    | .rule flaw => pure (.failed flaw.message)
    | other => throw other

/-! ## Scripts -/

/-- The part of a script that is shown in a log. -/
def shownCode (code : Text) : Text := (Text.trim code).take 200

/-- Run a script on a value.  One that fails gives null, or fails the evaluation when its
result is required. -/
def runScript (engine : Engine) (context : Context) (code : Text) (input : Json)
    (required : Bool) : Extract Json := do
  let bindings : Sandbox.Bindings :=
    { result := input
      page := context.document.body
      baseUrl := context.baseUrl
      book := context.book
      chapter := context.chapter
      extra := context.extra
      library := engine.library }
  let ended ← liftDefect (Sandbox.run engine.timeout code bindings (← get).store)
  modify fun session => { session with store := ended.store }
  match ended.outcome with
  | .value value => return value
  | .failed reason =>
      report
        { level := .warning
          topic := .script
          message := "Script failed: " ++ reason
          details := [("script", .str (shownCode code))] }
      if required then
        throw (.script (if reason.isEmpty then "script failed".toList else reason))
      else return .null

end Extraction

end RuleProbe
