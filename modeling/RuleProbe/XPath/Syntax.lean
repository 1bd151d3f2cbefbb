import RuleProbe.Text.Basic

/-!
# Paths into documents

The expressions of XPath: paths of steps along axes, and operators and functions on the
node sets, numbers, texts and truth values that they give.
-/

namespace RuleProbe

namespace XPath

/-- The direction of a step. -/
inductive Axis where
  | ancestor
  | ancestorOrSelf
  | attributes
  | child
  | descendant
  | descendantOrSelf
  | following
  | followingSibling
  | namespaces
  | parent
  | preceding
  | precedingSibling
  | self
  deriving DecidableEq, Inhabited

namespace Axis

/-- The axes by their names. -/
def named : List (Text × Axis) :=
  [ ("ancestor".toList, ancestor),
    ("ancestor-or-self".toList, ancestorOrSelf),
    ("attribute".toList, attributes),
    ("child".toList, child),
    ("descendant".toList, descendant),
    ("descendant-or-self".toList, descendantOrSelf),
    ("following".toList, following),
    ("following-sibling".toList, followingSibling),
    ("namespace".toList, namespaces),
    ("parent".toList, parent),
    ("preceding".toList, preceding),
    ("preceding-sibling".toList, precedingSibling),
    ("self".toList, self) ]

/-- The axis runs against the order of the document. -/
def isReverse : Axis → Bool
  | ancestor => true
  | ancestorOrSelf => true
  | parent => true
  | preceding => true
  | precedingSibling => true
  | _ => false

end Axis

/-- What a step keeps of the nodes on its axis. -/
inductive NodeTest where
  /-- Every element, or every attribute. -/
  | any
  /-- The elements or attributes of a name. -/
  | named (name : Text)
  /-- Names with a mark that nothing declares. -/
  | foreign
  /-- Every node. -/
  | node
  /-- Runs of text. -/
  | text
  /-- Comments. -/
  | comment
  /-- Processing instructions. -/
  | instruction
  deriving DecidableEq, Inhabited

/-- An operator between two expressions. -/
inductive Operator where
  | or
  | and
  | equal
  | unequal
  | less
  | lessEqual
  | greater
  | greaterEqual
  | plus
  | minus
  | times
  | divide
  | remainder
  | union
  deriving DecidableEq, Inhabited

/-- An expression. -/
inductive Expr where
  /-- A number. -/
  | number (value : Float)
  /-- A text between quotation marks. -/
  | literal (value : Text)
  /-- A variable; none is ever bound. -/
  | unbound
  /-- A call of a function. -/
  | call (name : Text) (arguments : List Expr)
  /-- The opposite number. -/
  | negate (inner : Expr)
  /-- An operator and its operands. -/
  | binary (operator : Operator) (left right : Expr)
  /-- The document. -/
  | document
  /-- The node at which the expression is evaluated. -/
  | here
  /-- A step from every node of a set, with its predicates. -/
  | step (origin : Expr) (axis : Axis) (test : NodeTest) (predicates : List Expr)
  /-- The nodes of a set, taken together, that satisfy a predicate. -/
  | filter (inner : Expr) (predicate : Expr)
  deriving Inhabited

/-- Every descendant of the nodes of a set, and these nodes themselves. -/
def Expr.andBelow (origin : Expr) : Expr := .step origin .descendantOrSelf .node []

end XPath

end RuleProbe
