import RuleProbe.Text.Basic

/-!
# Selectors

A selector is a list of alternatives.  Each alternative tests an element and may ask
for another element that stands in a relation to it.
-/

namespace RuleProbe

namespace Selector

/-- How the value of an attribute is compared. -/
inductive Comparison where
  /-- The attribute is there. -/
  | present
  /-- The value is the given one. -/
  | equal
  /-- The value begins with the given one. -/
  | beginning
  /-- The value ends with the given one. -/
  | ending
  /-- The value contains the given one. -/
  | containing
  /-- The given one is a word of the value. -/
  | word
  /-- The value is the given one, or begins with it and a hyphen. -/
  | dashed
  deriving DecidableEq, Inhabited

/-- A test of an attribute. -/
structure AttributeTest where
  /-- The name of the attribute. -/
  name : Text
  /-- How its value is compared. -/
  comparison : Comparison
  /-- What it is compared with. -/
  value : Text
  /-- Letter case does not count. -/
  ignoreCase : Bool
  deriving DecidableEq, Inhabited

/-- Where another element stands. -/
inductive Relation where
  /-- It is an ancestor. -/
  | ancestor
  /-- It is the parent. -/
  | parent
  /-- It is a sibling before. -/
  | earlier
  /-- It is the sibling directly before. -/
  | previous
  /-- It is a descendant. -/
  | descendant
  /-- It is a child. -/
  | child
  /-- It is a sibling after. -/
  | later
  /-- It is the sibling directly after. -/
  | following
  deriving DecidableEq, Inhabited

/-- Positions among siblings: `step * n + offset` for every `n`, or `step` alone. -/
structure Positions where
  /-- The distance between positions, or the only position. -/
  step : Int
  /-- There is more than one position. -/
  repeats : Bool
  /-- The position for zero. -/
  offset : Int
  /-- Only siblings of the same name count. -/
  sameName : Bool
  /-- Positions are counted from the last sibling. -/
  fromEnd : Bool
  deriving DecidableEq, Inhabited

mutual

/-- One alternative of a selector. -/
inductive Alternative where
  /-- It holds for no element. -/
  | never
  /-- All tests hold, and a related element satisfies an alternative of its own. -/
  | tests (tests : List Test) (related : Option (Relation × Alternative))

/-- A test of an element. -/
inductive Test where
  /-- The element has a name. -/
  | name (name : Text)
  /-- The element has an identifier. -/
  | identifier (value : Text)
  /-- The element has a class. -/
  | ofClass (value : Text)
  /-- An attribute passes a test. -/
  | attributeIs (test : AttributeTest)
  /-- The position of the element among its siblings, or among those that satisfy one
  of the alternatives. -/
  | position (positions : Positions) (among : Option (List Alternative))
  /-- One of the alternatives holds; or none does, when `negated`. -/
  | holdsOne (negated : Bool) (alternatives : List Alternative)
  /-- The text contains one of some texts; only the text directly inside, when `own`. -/
  | contains (own : Bool) (texts : List Text)
  /-- The language of the element is one of some. -/
  | language (languages : List Text)
  /-- The element stands alone at the top of the document. -/
  | root
  /-- The search began at the element. -/
  | scope
  /-- The element has no content but blanks. -/
  | hollow

end

instance : Inhabited Alternative := ⟨.never⟩

instance : Inhabited Test := ⟨.root⟩

end Selector

/-- A selector: its alternatives. -/
abbrev Selector := List Selector.Alternative

end RuleProbe
