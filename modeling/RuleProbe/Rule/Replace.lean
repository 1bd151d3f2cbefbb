import RuleProbe.Fault
import RuleProbe.Pattern.Matcher
import RuleProbe.Pattern.Reader

/-!
# Regular expressions and filters of rules

Rules write regular expressions in a notation of their own, and end in filters that replace their
matches.
-/

namespace RuleProbe

/-!
## Regular expressions of rules

Rules write named groups as `(?<name>…)`; reading one turns them into the groups of
the pattern notation first.
-/

namespace RuleRegex

/-- The name that a text begins with, closed by an angle bracket: the name and the
rest. -/
def groupName? (text : Text) : Option (Text × Text) :=
  match text with
  | c :: rest =>
      if Letter.isAsciiLetter c.toNat || c == '_' then
        let (part, rest) := rest.span fun d => Letter.isWord d.toNat
        match rest with
        | '>' :: rest => some (c :: part, rest)
        | _ => none
      else none
  | [] => none

/-- Mark each named group as one. -/
def markNames : Text → Text
  | '(' :: '?' :: rest =>
      if Text.startsWith rest ['<'] && (groupName? (rest.drop 1)).isSome then
        '(' :: '?' :: 'P' :: markNames rest
      else '(' :: markNames ('?' :: rest)
  | c :: rest => c :: markNames rest
  | [] => []

/-- The pattern of a regular expression in a rule. -/
def compile (flags : Pattern.Flags) (text : Text) : Except Fault Pattern :=
  match Pattern.read flags (markNames text) with
  | .ok pattern => .ok pattern
  | .error .malformed => .error (.rule (.regex text))
  | .error .countTooLarge => .error (.defect (.hugeCount text))
  | .error .flagsClash => .error (.defect (.clashingFlags text))

end RuleRegex

/-!
## Replacing filters

A rule may end in `##pattern##replacement`: every match in a result is replaced.  A
further `##` keeps the first match only, with references `$1` to its groups
expanded, and gives nothing when there is no match.
-/

/-- A filter that replaces matches. -/
structure ReplaceFilter where
  /-- What is replaced. -/
  pattern : Text
  /-- What stands in its place. -/
  replacement : Text
  /-- Only the first match counts, and nothing else is kept. -/
  firstOnly : Bool
  deriving DecidableEq, Inhabited

namespace ReplaceFilter

/-- The mark between the parts of a rule. -/
def mark : Text := ['#', '#']

/-- A rule without its filter, and the filter. -/
def split (rule : Text) : Text × Option ReplaceFilter :=
  match Text.splitOn mark rule with
  | body :: pattern :: rest =>
      if pattern.isEmpty then (body, none)
      else (body, some ⟨pattern, rest.headD [], 1 < rest.length⟩)
  | _ => (rule, none)

/-- A template with each reference `$n` replaced by what `group` gives for it; a
reference for which it gives nothing stays. -/
def expand (group : Nat → Option Text) : Text → Text
  | [] => []
  | [c] => [c]
  | c :: d :: rest =>
      match if c == '$' then Letter.decimalValue? d.toNat else none with
      | some index =>
          match group index with
          | some text => text ++ expand group rest
          | none => c :: d :: expand group rest
      | none => c :: expand group (d :: rest)

/-- The text of a group of a match, empty for a group without a span; nothing for a
number that no group has. -/
def groupText (pattern : Pattern) (subject : Pattern.Subject) (found : Pattern.Match)
    (index : Nat) : Option Text :=
  if pattern.groupCount < index then none
  else some ((found.group? subject index).getD [])

/-- A text filtered by a pattern that has been read. -/
def run (filter : ReplaceFilter) (pattern : Pattern) (text : Text) : Text :=
  if filter.firstOnly then
    let subject := Pattern.subjectOf text
    match Pattern.search pattern subject 0 with
    | some found => expand (groupText pattern subject found) filter.replacement
    | none => []
  else Pattern.replaceAll pattern (fun _ _ => filter.replacement) text

/-- A text filtered. -/
def apply (filter : ReplaceFilter) (text : Text) : Except Fault Text :=
  (RuleRegex.compile {} filter.pattern).map fun pattern => filter.run pattern text

/-- A text filtered, when there is a filter. -/
def applyOptional (filter : Option ReplaceFilter) (text : Text) : Except Fault Text :=
  match filter with
  | none => .ok text
  | some filter => filter.apply text

end ReplaceFilter

end RuleProbe
