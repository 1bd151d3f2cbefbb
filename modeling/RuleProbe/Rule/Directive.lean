import RuleProbe.Fault
import RuleProbe.Json.Reader
import RuleProbe.Json.Writer
import RuleProbe.Rule.Dialect

/-!
# Directives and suffixes

A rule may store results under names, `@put:{name:rule}`, insert what is stored,
`@get:{name}`, and end in headers for a request, `@Header:{Name:value}`.  Directive
names are read without regard to case.
-/

namespace RuleProbe

namespace Directive

/-- `text` begins with `mark`, ASCII letters compared without case. -/
def beginsWith (mark text : Text) : Bool :=
  mark.length ≤ text.length &&
    (mark.zip text).all fun pair => pair.1.toLower == pair.2.toLower

/-- What stands in braces at the beginning of a text, up to the first closing brace,
and the rest. -/
def braced? (text : Text) : Option (Text × Text) :=
  match text with
  | '{' :: rest =>
      match rest.span (· != '}') with
      | (inner, '}' :: rest) => some (inner, rest)
      | _ => none
  | _ => none

/-- The directive with a mark at the beginning of a text: what its braces hold, and
the rest. -/
def directive? (mark text : Text) : Option (Text × Text) :=
  if beginsWith mark text then braced? (text.drop mark.length) else none

/-- A part of a rule. -/
inductive Part where
  /-- A character outside directives. -/
  | char (c : Char)
  /-- A directive, by what its braces hold. -/
  | body (inner : Text)
  deriving DecidableEq

/-- The parts of a rule, as characters and directives with a mark. -/
def parts (mark : Text) : Nat → Text → List Part
  | 0, _ => []
  | _, [] => []
  | fuel + 1, c :: rest =>
      match directive? mark (c :: rest) with
      | some (inner, rest) => .body inner :: parts mark fuel rest
      | none => .char c :: parts mark fuel rest

/-- The mark of a directive that stores a result. -/
def putMark : Text := "@put:"

/-- The mark of a directive that inserts what is stored. -/
def getMark : Text := "@get:"

/-- The mark of a suffix with headers. -/
def headerMark : Text := "@Header:"

/-- The pairs of items `name:value`, quotation marks around either dropped. -/
def pairs : List Text → Keyed Text → Keyed Text
  | [], read => read
  | item :: rest, read =>
      match item.span (· != ':') with
      | (key, ':' :: value) =>
          let key := Text.trimQuotes (Text.trim key)
          if key.isEmpty then pairs rest read
          else pairs rest (Keyed.put read key (Text.trimQuotes (Text.trim value)))
      | _ => pairs rest read

/-- The names and rules that braces hold, when they are not a JSON object. -/
def looseBindings (body : Text) : Keyed Text :=
  let inner := Text.trimWhere (fun c => c == '{' || c == '}') (Text.trim body)
  pairs (Text.splitWhere (· == ',') [] inner) []

/-- The names and rules of a directive that stores results, braces included. -/
def bindings (body : Text) : Except Fault (Keyed Text) :=
  match Json.read body with
  | .ok (.obj members) =>
      .ok (members.foldl (fun read member => Keyed.put read member.1 member.2.display) [])
  | .ok _ => .ok (looseBindings body)
  | .error .malformed => .ok (looseBindings body)
  | .error .integerTooLong => .error (.defect (.longInteger body))
  | .error .tooDeep => .error (.defect (.deepNesting body))

/-- The bindings of all directives among some parts, later ones winning. -/
def gatherBindings : List Part → Keyed Text → Except Fault (Keyed Text)
  | [], read => .ok read
  | .char _ :: rest, read => gatherBindings rest read
  | .body inner :: rest, read => do
      let more ← bindings ('{' :: inner ++ ['}'])
      gatherBindings rest (Keyed.update read more)

/-- The characters outside directives. -/
def outside (parts : List Part) : Text :=
  parts.filterMap fun part =>
    match part with
    | .char c => some c
    | .body _ => none

/-- A rule without the directives that store results, and the rules to store by name. -/
def takePuts (rule : Text) : Except Fault (Text × Keyed Text) := do
  let found := parts putMark (rule.length + 1) rule
  let puts ← gatherBindings found []
  .ok (Text.trim (outside found), puts)

/-- Parts with what `lookup` gives in place of each directive. -/
def fill (lookup : Text → Text) : List Part → Text
  | [] => []
  | .char c :: rest => c :: fill lookup rest
  | .body inner :: rest => lookup inner.trim ++ fill lookup rest

/-- A rule with what is stored in place of each directive that inserts it. -/
def substituteGet (lookup : Text → Text) (rule : Text) : Text :=
  fill lookup (parts getMark (rule.length + 1) rule)

/-- A rule before its suffix with headers, given as a reversed accumulator, and what
the braces of the suffix hold. -/
def findSuffix : Text → Text → Option (Text × Text)
  | _, [] => none
  | before, c :: rest =>
      match directive? headerMark (c :: rest) with
      | some (inner, after) =>
          if !inner.isEmpty && after.isBlankText then some (before.reverse, inner)
          else findSuffix (c :: before) rest
      | none => findSuffix (c :: before) rest

/-- A rule without the headers it ends in, and the headers. -/
def splitHeaders (rule : Text) : Text × Keyed Text :=
  match findSuffix [] rule with
  | none => (rule, [])
  | some (body, inner) =>
      (Text.trim body, pairs (Text.splitWhere (fun c => c == ';' || c == ',') [] inner) [])

/-- The first line that is not blank, unless the rule holds a script. -/
def firstLine (rule : Text) : Text :=
  if hasScript rule then rule
  else
    match (Text.lines rule).find? fun line => !line.isBlankText with
    | some line => line.trim
    | none => []

end Directive

end RuleProbe
