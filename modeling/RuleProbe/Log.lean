import RuleProbe.Json.Value

/-!
# Log entries

What is reported while rules are evaluated and stages run.
-/

namespace RuleProbe

namespace Log

/-- The weight of an entry. -/
inductive Level where
  /-- A step. -/
  | info
  /-- A step that brought a result. -/
  | success
  /-- A step that brought none. -/
  | warning
  /-- The end of a stage. -/
  | error
  deriving DecidableEq, Inhabited

/-- What an entry is about. -/
inductive Topic where
  /-- The network. -/
  | request
  /-- Rules and lists. -/
  | parse
  /-- The value of a field. -/
  | field
  /-- Scripts. -/
  | script
  /-- A stage that ends. -/
  | error
  deriving DecidableEq, Inhabited

/-- The name of a level. -/
def Level.name : Level → Text
  | info => "info"
  | success => "success"
  | warning => "warning"
  | error => "error"

/-- The name of a topic. -/
def Topic.name : Topic → Text
  | request => "request"
  | parse => "parse"
  | field => "field"
  | script => "script"
  | error => "error"

end Log

/-- An entry of a log. -/
structure Log where
  /-- Its weight. -/
  level : Log.Level
  /-- What it is about. -/
  topic : Log.Topic
  /-- The message. -/
  message : Text
  /-- Further values, under their names. -/
  details : Json.Members := []
  deriving Inhabited

end RuleProbe
