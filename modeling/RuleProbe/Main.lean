import RuleProbe.CommandLine

/-!
# The program

Reads the file and the environment, runs the command, and prints what it reports.  The
program has no network of its own: only addresses that hold their data are answered.
-/

namespace RuleProbe

namespace Program

/-- The variables of the environment that settings are read from. -/
def variableNames : List Text :=
  ["RULE_DEBUG_TIMEOUT".toList, "RULE_DEBUG_MAX_REDIRECTS".toList,
    "RULE_DEBUG_SCRIPT_TIMEOUT".toList, "RULE_DEBUG_ITEM_LIMIT".toList,
    "RULE_DEBUG_WEBVIEW".toList, "PROXY_URL".toList, "RULE_DEBUG_LOG_LEVEL".toList]

/-- A network that answers nothing. -/
def offline : Http.Network := fun _ =>
  .failure "ConnectionError" "unreachable"

/-- A browser that renders nothing. -/
def noBrowser : Stage.Browser := fun _ => none

/-- The variables of the environment that are set. -/
def readEnvironment : IO (Keyed Text) :=
  variableNames.filterMapM fun name => do
    return (← IO.getEnv (String.ofList name)).map fun value => (name, value.toList)

/-- The text of a file, if it can be read. -/
def readFile? (path : Text) : IO (Option Text) := do
  try
    let content ← IO.FS.readFile (String.ofList path)
    return some content.toList
  catch _ => return none

/-- The path of the file that a command names. -/
def pathOf (arguments : List Text) : Text :=
  match Invocation.ofArguments arguments with
  | .ok invocation => invocation.path
  | .error _ => []

end Program

end RuleProbe

open RuleProbe Program in
/-- Run the command with the arguments of the program. -/
def main (arguments : List String) : IO UInt32 := do
  let arguments := arguments.map String.toList
  let content ← readFile? (pathOf arguments)
  let world : CommandLine.World :=
    { file := fun _ => content
      environment := ← readEnvironment
      network := offline
      browser := noBrowser }
  let ended := CommandLine.run world arguments
  IO.print (String.ofList ended.output)
  return ended.exit.toUInt32
