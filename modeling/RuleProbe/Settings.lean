import RuleProbe.Keyed
import RuleProbe.Numeral.Written
import RuleProbe.Text.Case

/-!
# Settings

How long requests and scripts may take, how many items of a list are read, and whether
a browser may help.  Settings are read from the environment; one that cannot be read
keeps its usual value.
-/

namespace RuleProbe

/-- The settings of a session. -/
structure Settings where
  /-- The seconds to wait for an answer. -/
  requestTimeout : Float := 30
  /-- The number of redirections to follow. -/
  maxRedirects : Int := 5
  /-- The seconds that a script may take. -/
  scriptTimeout : Float := 5
  /-- The number of items of a list that are read. -/
  itemLimit : Int := 20
  /-- A browser may render pages without content. -/
  useBrowser : Bool := false
  /-- The address of a proxy. -/
  proxy : Option Text := none
  /-- The level from which on log entries are kept. -/
  logLevel : Text := "INFO"
  deriving Inhabited

namespace Settings

/-- The words that switch a setting on. -/
def switchWords : List Text := ["1".toList, "true".toList, "yes".toList, "on".toList]

/-- A setting is switched on. -/
def isSwitched (environment : Keyed Text) (key : Text) : Bool :=
  match Keyed.get? environment key with
  | some value => switchWords.elem (Text.lower value.trim)
  | none => false

/-- A number among the settings. -/
def number {α : Type} (read? : Text → Option α) (environment : Keyed Text) (key : Text)
    (usual : α) : α :=
  match Keyed.get? environment key with
  | some value => (read? value.trim).getD usual
  | none => usual

/-- The settings of an environment. -/
def ofEnvironment (environment : Keyed Text) : Settings :=
  { requestTimeout := number Decimal.read? environment "RULE_DEBUG_TIMEOUT" 30
    maxRedirects := number Integer.read? environment "RULE_DEBUG_MAX_REDIRECTS" 5
    scriptTimeout := number Decimal.read? environment "RULE_DEBUG_SCRIPT_TIMEOUT" 5
    itemLimit := number Integer.read? environment "RULE_DEBUG_ITEM_LIMIT" 20
    useBrowser := isSwitched environment "RULE_DEBUG_WEBVIEW"
    proxy := (Keyed.get? environment "PROXY_URL").filter fun url => !url.isEmpty
    logLevel :=
      ((Keyed.get? environment "RULE_DEBUG_LOG_LEVEL").map Text.upper).getD "INFO".toList }

end Settings

end RuleProbe
