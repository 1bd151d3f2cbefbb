import RuleProbe.Stage.Field

/-!
# Tasks and outcomes

A task says which stage to walk, and from where.  Its outcome holds what the stage found,
or why it ended early, together with what it reported.
-/

namespace RuleProbe

/-- What a stage is asked to do. -/
inductive Task where
  /-- Search for a keyword. -/
  | search (keyword : Text) (page : Int)
  /-- Read what a page tells of a book. -/
  | detail (url : Text) (book : Json)
  /-- Read the chapters of a book. -/
  | chapters (url : Text) (book : Json)
  /-- Read the content of a chapter, perhaps as a browser renders it. -/
  | content (url : Text) (chapter book : Json) (rendered : Bool)
  /-- Read a page to explore, the first one when no address is given. -/
  | explore (url : Text)
  deriving Inhabited

/-- The name of the stage of a task. -/
def Task.name : Task → Text
  | search _ _ => "search"
  | detail _ _ => "detail"
  | chapters _ _ => "toc"
  | content _ _ _ _ => "content"
  | explore _ => "explore"

namespace Stage

/-- What a stage finds. -/
inductive Payload where
  /-- Books or chapters. -/
  | records (records : List Record)
  /-- What is known of one book. -/
  | record (record : Record)
  /-- The text of a chapter. -/
  | text (text : Text)
  /-- The addresses of images. -/
  | images (urls : List Text)
  deriving Inhabited

/-- A payload as a JSON value. -/
def Payload.toJson : Payload → Json
  | records found => .arr (found.map Json.obj)
  | record found => .obj found
  | text found => .str found
  | images urls => .arr (urls.map Json.str)

/-- How a stage ended. -/
inductive Ending where
  /-- With what it found. -/
  | found (payload : Payload)
  /-- Early, for a reason. -/
  | failed (reason : Text)
  deriving Inhabited

/-- The outcome of a stage. -/
structure Outcome where
  /-- The name of the stage. -/
  stage : Text
  /-- How it ended. -/
  ending : Ending
  /-- What it reported. -/
  logs : List Log
  /-- The page on which it depended. -/
  page : Option Page
  /-- The address of the page that continues that one. -/
  nextUrl : Option Text

namespace Outcome

/-- The stage came to its end. -/
def success (outcome : Outcome) : Bool :=
  match outcome.ending with
  | .found _ => true
  | .failed _ => false

/-- The reason for which the stage ended early. -/
def reason? (outcome : Outcome) : Option Text :=
  match outcome.ending with
  | .found _ => none
  | .failed reason => some reason

/-- What the stage found, as a JSON value. -/
def payload (outcome : Outcome) : Json :=
  match outcome.ending with
  | .found payload => payload.toJson
  | .failed _ => .null

/-- The records that the stage found. -/
def records (outcome : Outcome) : List Record :=
  match outcome.ending with
  | .found (.records records) => records
  | _ => []

end Outcome

/-- Report that a fault ended a stage, and give the reason. -/
def reportFault (fault : Fault) : Log × Text :=
  match fault with
  | .template flaw =>
      ({ level := .error, topic := .error
         message := "URL template error: ".toList ++ flaw.message }, flaw.message)
  | .network message => ({ level := .error, topic := .request, message }, message)
  | fault =>
      let message : Text := "Unexpected error: ".toList ++ fault.name
      ({ level := .error, topic := .error, message }, message)

/-- Carry out the work of a stage: its log begins anew, and a fault ends it. -/
def perform (stage : Text) (work : Work Payload) : StateM Walk Outcome := do
  modify fun walk =>
    { walk with session := { walk.session with logs := [] }, page := none, nextUrl := none }
  let ending ←
    match ← work.run with
    | .ok payload => pure (Ending.found payload)
    | .error fault => do
        let (entry, reason) := reportFault fault
        modify fun walk =>
          { walk with session := { walk.session with logs := entry :: walk.session.logs } }
        pure (Ending.failed reason)
  let walk ← get
  return { stage, ending
           logs := walk.session.logs.reverse, page := walk.page, nextUrl := walk.nextUrl }

end Stage

end RuleProbe
