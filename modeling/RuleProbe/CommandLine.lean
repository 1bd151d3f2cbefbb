import RuleProbe.CommandLine.Arguments
import RuleProbe.Source
import RuleProbe.Stage
import RuleProbe.Stage.Task

/-!
# The command line

A command names the file with a definition and what to do with the source.  It prints a
report for each stage, and its exit code tells whether all of them came to their end.
-/

namespace RuleProbe

/-!
## Reports

The outcome of a stage is written as a headline, a line for each log entry, the reason of
a failure and the next address, and what the stage found, as indented JSON.
-/

namespace Report

/-- A line of a log. -/
structure Line where
  /-- The name of its level. -/
  level : Text
  /-- The name of its topic. -/
  topic : Text
  /-- The message. -/
  message : Text
  deriving Inhabited

/-- The line of a log entry. -/
def Line.ofLog (entry : Log) : Line := ⟨entry.level.name, entry.topic.name, entry.message⟩

/-- What is written of a stage. -/
structure Summary where
  /-- The name of the stage. -/
  stage : Text
  /-- The stage came to its end. -/
  success : Bool
  /-- The lines of its log. -/
  lines : List Line
  /-- The reason of a failure; empty when there is none. -/
  reason : Text
  /-- The next address; empty when there is none. -/
  nextUrl : Text
  /-- What the stage found. -/
  payload : Json
  deriving Inhabited

/-- The summary of an outcome. -/
def Summary.ofOutcome (outcome : Stage.Outcome) : Summary :=
  { stage := outcome.stage
    success := outcome.success
    lines := outcome.logs.map Line.ofLog
    reason := outcome.reason?.getD []
    nextUrl := outcome.nextUrl.getD []
    payload := outcome.payload }

/-- The mark of a level. -/
def mark (level : Text) : Char :=
  if level == Log.Level.name .success then '+'
  else if level == Log.Level.name .warning then '!'
  else if level == Log.Level.name .error then 'x'
  else ' '

/-- The text of a line. -/
def Line.write (line : Line) : Text :=
  mark line.level :: " [".toList ++ line.topic ++ "] ".toList ++ line.message

/-- A line under a label, unless it is empty. -/
def labelled (label text : Text) : List Text := if text.isEmpty then [] else [label ++ text]

/-- The first line of a summary. -/
def headline (summary : Summary) : Text :=
  "=== ".toList ++ summary.stage ++
    (if summary.success then " [OK] ===".toList else " [FAILED] ===".toList)

/-- The text of a summary. -/
def Summary.write (summary : Summary) : Text :=
  let lines :=
    [headline summary] ++ summary.lines.map Line.write ++ labelled "error: " summary.reason ++
      labelled "next: " summary.nextUrl ++ [summary.payload.toIndentedText]
  lines.flatMap fun line => line ++ ['\n']

end Report

namespace CommandLine

/-- The world of a command. -/
structure World where
  /-- The texts of files, by path. -/
  file : Text → Option Text
  /-- The variables of the environment. -/
  environment : Keyed Text
  /-- The network. -/
  network : Http.Network
  /-- The browser. -/
  browser : Stage.Browser

/-- What a command leaves behind. -/
structure Ended where
  /-- The exit code. -/
  exit : Nat
  /-- What it printed. -/
  output : Text
  /-- What the world was asked for, in order. -/
  calls : List Stage.Call

/-- The exit code of a command that was not carried out. -/
def refusedExit : Nat := 2

/-- The exit code for some outcomes. -/
def exitCode (outcomes : List Stage.Outcome) : Nat :=
  if outcomes.all Stage.Outcome.success then 0 else 1

/-- The site of a definition. -/
def siteOf (world : World) (definition : Json.Members) : Stage.Site :=
  { kind := .ofDefinition definition
    definition
    settings := .ofEnvironment world.environment
    network := world.network
    browser := world.browser }

/-- The outcomes of what is asked for. -/
def outcomesOf (site : Stage.Site) : Errand → StateM Stage.Walk (List Stage.Outcome)
  | .task task => (fun outcome => [outcome]) <$> Stage.run site task
  | .walk keyword rendered => Stage.walk site keyword rendered

/-- Carry out a command. -/
def carryOut (world : World) (invocation : Invocation) : Ended :=
  match Definition.load (world.file invocation.path) invocation.index with
  | .error _ => ⟨refusedExit, [], []⟩
  | .ok definition =>
      let (outcomes, walk) := (outcomesOf (siteOf world definition) invocation.errand).run {}
      { exit := exitCode outcomes
        output := outcomes.flatMap fun outcome => (Report.Summary.ofOutcome outcome).write
        calls := walk.calls.reverse }

/-- Run a command with some arguments. -/
def run (world : World) (arguments : List Text) : Ended :=
  match Invocation.ofArguments arguments with
  | .ok invocation => carryOut world invocation
  | .error (.helpWanted page) => ⟨0, page, []⟩
  | .error .wrong => ⟨refusedExit, [], []⟩

end CommandLine

end RuleProbe
