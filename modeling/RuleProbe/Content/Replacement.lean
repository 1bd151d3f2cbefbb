import RuleProbe.Rule.Replace
import RuleProbe.Pattern.Matcher
import RuleProbe.Text.Blank

/-!
# Replacements in content

A source may list replacements for the text of its chapters, one a line.  They are
applied in order; a line whose pattern cannot be read is passed over.
-/

namespace RuleProbe

namespace Replacement

/-- The mark between a pattern and what replaces it. -/
def mark : Text := ['#', '#']

/-- The pattern of a line and what replaces it; nothing for a line without pattern. -/
def ofLine? (line : Text) : Option (Text × Text) :=
  let line := line.trim
  let line := (line.dropStart? mark).getD line
  let (pattern, replacement) := (Text.cut? mark line).getD (line, [])
  if pattern.isEmpty then none else some (pattern, replacement)

/-- Apply a replacement to content. -/
def apply (content : Text) (rule : Text × Text) : Except Fault Text :=
  match RuleRegex.compile {} rule.1 with
  | .ok pattern => .ok (Pattern.replaceAll pattern (fun _ _ => rule.2) content)
  | .error (.rule _) => .ok content
  | .error fault => .error fault

/-- Apply replacements in order. -/
def applyAll : Text → List (Text × Text) → Except Fault Text
  | content, [] => .ok content
  | content, rule :: rest => do applyAll (← apply content rule) rest

/-- Apply the replacements that lines list. -/
def applyLines (content lines : Text) : Except Fault Text :=
  if content.isEmpty then .ok content
  else applyAll content ((Text.lines lines).filterMap ofLine?)

end Replacement

end RuleProbe
