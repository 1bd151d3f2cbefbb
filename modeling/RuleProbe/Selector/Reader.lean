import RuleProbe.Selector.Token

/-!
# Reading selectors

The tokens of a selector form alternatives separated by commas.  An alternative is
read from left to right: each combinator makes what stands before it the related
element of what follows.  Inside `:has` the relation points the other way.
-/

namespace RuleProbe

namespace Selector

/-- The kinds of lists of alternatives. -/
structure ListKind where
  /-- The list stands in brackets. -/
  nested : Bool
  /-- The alternatives are about elements that follow or lie inside. -/
  forward : Bool
  /-- An empty alternative is allowed, and never holds. -/
  lenient : Bool
  deriving Inhabited

/-- What has been read of a list of alternatives. -/
structure Draft where
  /-- The finished alternatives, last first. -/
  finished : List Alternative
  /-- The tests of the current part, last first. -/
  tests : List Test
  /-- The current part holds for no element. -/
  never : Bool
  /-- The current part has begun. -/
  begun : Bool
  /-- The parts of the current alternative before the current one, last first, each
  with the relation that leads to it. -/
  parts : List (Relation × Bool × List Test)
  /-- The relation that leads to the current part. -/
  relation : Relation
  deriving Inhabited

namespace Draft

/-- A list of which nothing has been read. -/
def start : Draft := ⟨[], [], false, false, [], .descendant⟩

/-- Add a test to the current part. -/
def add (draft : Draft) (test : Test) : Draft :=
  { draft with tests := test :: draft.tests, begun := true }

/-- Make the current part hold for no element. -/
def forbid (draft : Draft) : Draft := { draft with never := true, begun := true }

/-- An alternative of tests, or one that never holds. -/
def alternative (never : Bool) (tests : List Test)
    (related : Option (Relation × Alternative)) : Alternative :=
  if never then .never else .tests tests.reverse related

/-- The alternative whose related elements lie before it: `parts` hold the last one
first, each with the relation from its successor to it. -/
def backward : List (Relation × Bool × List Test) → Option (Relation × Alternative)
  | [] => none
  | (relation, never, tests) :: rest =>
      some (relation, alternative never tests (backward rest))

/-- The alternative whose related elements lie after it: the parts in order, each with
the relation that leads to it. -/
def forward : List (Relation × Bool × List Test) → Option (Relation × Alternative)
  | [] => none
  | (relation, never, tests) :: rest =>
      some (relation, alternative never tests (forward rest))

/-- The current alternative. -/
def current (draft : Draft) (kind : ListKind) : Alternative :=
  if kind.forward then
    .tests [] (forward (((draft.relation, draft.never, draft.tests) :: draft.parts).reverse))
  else alternative draft.never draft.tests (backward draft.parts)

/-- Finish the current alternative. -/
def finish (draft : Draft) (kind : ListKind) : Draft :=
  { Draft.start with finished := draft.current kind :: draft.finished }

/-- Finish an alternative that is empty. -/
def finishEmpty (draft : Draft) : Draft :=
  { Draft.start with finished := .never :: draft.finished }

/-- The relation from an element to the one before a combinator. -/
def backwardRelation : Combinator → Relation
  | .child => .parent
  | .previous => .previous
  | .earlier => .earlier
  | _ => .ancestor

/-- The relation from an element to the one after a combinator. -/
def forwardRelation : Combinator → Relation
  | .child => .child
  | .previous => .following
  | .earlier => .later
  | _ => .descendant

/-- Follow a combinator. -/
def combine (draft : Draft) (kind : ListKind) (combinator : Combinator) : Option Draft :=
  if combinator == .comma then
    if draft.begun then some (draft.finish kind)
    else if kind.lenient then some draft.finishEmpty
    else none
  else if kind.forward then
    if draft.begun then
      some { draft with
        parts := (draft.relation, draft.never, draft.tests) :: draft.parts
        tests := [], never := false, begun := false
        relation := forwardRelation combinator }
    else if draft.relation == .descendant then
      some { draft with relation := forwardRelation combinator }
    else none
  else if draft.begun then
    some { draft with
      parts := (backwardRelation combinator, draft.never, draft.tests) :: draft.parts
      tests := [], never := false, begun := false }
  else none

/-- The alternatives, at the end of the list. -/
def close (draft : Draft) (kind : ListKind) : Option Selector :=
  if draft.begun then some (draft.finish kind).finished.reverse
  else if kind.lenient && (draft.finished.isEmpty || draft.parts.isEmpty) then
    some (draft.finishEmpty).finished.reverse
  else none

end Draft

/-- Pseudo-classes that hold for no element of a page that is only read. -/
def inertNames : List String :=
  ["active", "autofill", "current", "focus", "focus-visible", "focus-within", "future", "host",
    "hover", "local-link", "past", "paused", "playing", "target", "target-within",
    "user-invalid", "visited", "default", "indeterminate", "in-range", "out-of-range",
    "placeholder-shown", "defined", "open", "muted"]

/-- The notation of pseudo-classes that stand for a selector. -/
def shorthand? : String → Option String
  | "link" => some ":is(a, area)[href]"
  | "any-link" => some ":is(a, area)[href]"
  | "checked" =>
      some ":is(input[type=checkbox], input[type=radio])[checked], option[selected]"
  | "disabled" =>
      some ":is(input:not([type=hidden]), button, select, textarea, fieldset, optgroup, option)[disabled],
optgroup[disabled] > option,
fieldset[disabled] > :is(input:not([type=hidden]), button, select, textarea, fieldset),
fieldset[disabled] > :not(legend:nth-of-type(1)) :is(input:not([type=hidden]), button, select, textarea, fieldset)"
  | "enabled" =>
      some ":is(input:not([type=hidden]), button, select, textarea, fieldset, optgroup, option):not(:disabled)"
  | "required" => some ":is(input, select, textarea)[required]"
  | "optional" => some ":is(input, select, textarea):not([required])"
  | _ => none

/-- The positions that a pseudo-class without brackets asks for. -/
def edgePositions : String → List Positions
  | "first-child" => [⟨1, false, 0, false, false⟩]
  | "last-child" => [⟨1, false, 0, false, true⟩]
  | "first-of-type" => [⟨1, false, 0, true, false⟩]
  | "last-of-type" => [⟨1, false, 0, true, true⟩]
  | "only-child" => [⟨1, false, 0, false, false⟩, ⟨1, false, 0, false, true⟩]
  | "only-of-type" => [⟨1, false, 0, true, false⟩, ⟨1, false, 0, true, true⟩]
  | _ => []

/-- The kind of list that a pseudo-class opens, and whether it is negated; nothing for
one that opens none. -/
def opened? : String → Option (ListKind × Bool)
  | "is" => some (⟨true, false, true⟩, false)
  | "where" => some (⟨true, false, true⟩, false)
  | "matches" => some (⟨true, false, false⟩, false)
  | "contains" => some (⟨true, false, false⟩, false)
  | "-soup-contains" => some (⟨true, false, false⟩, false)
  | "-soup-contains-own" => some (⟨true, false, false⟩, false)
  | "not" => some (⟨true, false, false⟩, true)
  | "has" => some (⟨true, true, false⟩, false)
  | _ => none

/-- Read a list of alternatives, with the tokens that follow it.  `fuel` bounds the
number of tokens and the depth of lists. -/
def readTokens : Nat → ListKind → Draft → List Token → Option (Selector × List Token)
  | 0, _, _, _ => none
  | fuel + 1, kind, draft, tokens =>
      let go (draft : Draft) (rest : List Token) := readTokens fuel kind draft rest
      match tokens with
      | [] => if kind.nested then none else (draft.close kind).map fun found => (found, [])
      | token :: rest =>
          match token with
          | .close =>
              if !draft.begun && !kind.lenient then none
              else if kind.nested then (draft.close kind).map fun found => (found, rest)
              else none
          | .combinator combinator =>
              (draft.combine kind combinator).bind fun draft => go draft rest
          | .name space name =>
              if draft.begun then none
              else if space == none || space == some ['*'] then go (draft.add (.name name)) rest
              else go draft.forbid rest
          | .identifier value => go (draft.add (.identifier value)) rest
          | .ofClass value => go (draft.add (.ofClass value)) rest
          | .attributeIs test negated =>
              if negated then
                go (draft.add (.holdsOne true [.tests [.attributeIs test] none])) rest
              else go (draft.add (.attributeIs test)) rest
          | .contains own texts => go (draft.add (.contains own texts)) rest
          | .language languages => go (draft.add (.language languages)) rest
          | .direction => go draft.forbid rest
          | .scope => go (draft.add .scope) rest
          | .position positions opens =>
              if opens then
                (readTokens fuel ⟨true, false, false⟩ .start rest).bind fun found =>
                  go (draft.add (.position positions (some found.1))) found.2
              else go (draft.add (.position positions none)) rest
          | .pseudo name opens =>
              let name := String.ofList name
              if opens then
                match opened? name with
                | some (inner, negated) =>
                    (readTokens fuel inner .start rest).bind fun found =>
                      go (draft.add (.holdsOne negated found.1)) found.2
                | none =>
                    if name == "current" || name == "host" || name == "host-context" then
                      (readTokens fuel ⟨true, false, false⟩ .start rest).bind fun found =>
                        go draft.forbid found.2
                    else none
              else if name == "root" then go (draft.add .root) rest
              else if name == "scope" then go (draft.add .scope) rest
              else if name == "empty" then go (draft.add .hollow) rest
              else
                match edgePositions name with
                | position :: more =>
                    go (more.foldl (fun draft p => draft.add (.position p none))
                      (draft.add (.position position none))) rest
                | [] =>
                    match (shorthand? name).bind fun text => Token.scan text.toList with
                    | some tokens =>
                        (readTokens fuel ⟨false, false, false⟩ .start tokens).bind fun found =>
                          go (draft.add (.holdsOne false found.1)) rest
                    | none => if inertNames.elem name then go draft.forbid rest else none

/-- Read a selector. -/
def read? (text : Text) : Option Selector := do
  let tokens ← Token.scan text
  let (selector, _) ← readTokens (2 * text.length + 400) ⟨false, false, false⟩ .start tokens
  some selector

end Selector

end RuleProbe
