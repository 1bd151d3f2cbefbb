import RuleProbe.XPath.Value

/-!
# Evaluating paths

An expression is evaluated at a place of a document: paths are followed, and functions called.
-/

namespace RuleProbe

namespace XPath

open Mended (Document)

/-!
## Functions of paths

The functions that expressions may call.  A call with the wrong number of arguments, or
with a value where a set of places is needed, has no value.
-/

/-- Where an expression is evaluated. -/
structure Scope where
  /-- The document. -/
  document : Document
  /-- The place at which the expression is evaluated. -/
  place : Place
  /-- The number of the place among those that are tried, from one. -/
  position : Nat
  /-- How many places are tried. -/
  size : Nat
  deriving Inhabited

namespace Library

/-- The words of a text between single blanks. -/
def normalize (text : Text) : Text :=
  Text.join [' '] ((Text.splitWhere Reader.isSpace [] text).filter fun word => !word.isEmpty)

/-- A text with each character of a list replaced by the one at the same position of
another, or dropped when there is none. -/
def translate (text old new : Text) : Text :=
  text.filterMap fun c =>
    match old.idxOf? c with
    | some i => new[i]?
    | none => some c

/-- A number rounded to the nearest integer; a half goes up. -/
def round (x : Float) : Float :=
  if -0.5 ≤ x && x < 0.5 then x * 0
  else if x - x.floor ≥ 0.5 then x.floor + 1
  else x.floor

/-- Characters of a text from a position on, up to a length when one is given; both are
rounded first. -/
def substring (text : Text) (start : Float) (length : Option Float) : Text :=
  let bound : Float := 2147483647.0
  if !(start < bound) then []
  else
    let first : Nat := if start ≥ 1 then (round start).toUInt64.toNat else 1
    let rest := text.drop (first - 1)
    match length with
    | none => rest
    | some length =>
        let stop := round start + round length
        if !(stop ≥ 1) then []
        else if stop < bound then rest.take (stop.toUInt64.toNat - first)
        else rest

/-- The first element that each of some words identifies. -/
def identified (document : Document) (words : List Text) : List Place :=
  let marks (i : Nat) (word : Text) : Bool :=
    (document.tree.attributes i).any fun entry =>
      entry.2 == word &&
        (entry.1 == "id".toList ||
          (entry.1 == "name".toList && document.tree.name? i == some ['a']))
  words.foldl
    (fun all word =>
      match (document.tree.elements 0).find? fun i => marks i word with
      | some i => Place.insert (.ofNode i) all
      | none => all) []

/-- The first of two parts of a text around a mark, or the second. -/
def part (mark text : Text) (second : Bool) : Text :=
  match Text.cut? mark text with
  | some (before, after) => if second then after else before
  | none => []

/-- The set that a call works on: its argument, or the place itself. -/
def setOf? (scope : Scope) : List Value → Option (List Place)
  | [] => some [scope.place]
  | [.places set] => some set
  | _ => none

/-- The value that a call works on: its argument, or the place itself. -/
def valueOf? (scope : Scope) : List Value → Option Value
  | [] => some (.places [scope.place])
  | [value] => some value
  | _ => none

/-- Call a function. -/
def call (scope : Scope) (name : Text) (arguments : List Value) : Option Value :=
  let document := scope.document
  let text := fun (value : Value) => value.toText document
  let number := fun (value : Value) => value.toNumber document
  match String.ofList name, arguments with
  | "last", [] => some (.number scope.size.toFloat)
  | "position", [] => some (.number scope.position.toFloat)
  | "count", [.places set] => some (.number set.length.toFloat)
  | "id", [.places set] =>
      some (.places (identified document
        (set.flatMap fun place => Text.splitWhere Reader.isSpace [] (place.text document))))
  | "id", [value] =>
      some (.places (identified document (Text.splitWhere Reader.isSpace [] (text value))))
  | "local-name", arguments =>
      (setOf? scope arguments).map fun set =>
        .text ((set.head?.map fun place => place.name document).getD [])
  | "name", arguments =>
      (setOf? scope arguments).map fun set =>
        .text ((set.head?.map fun place => place.name document).getD [])
  | "namespace-uri", arguments => (setOf? scope arguments).map fun _ => .text []
  | "string", arguments => (valueOf? scope arguments).map fun value => .text (text value)
  | "concat", first :: second :: rest =>
      some (.text ((first :: second :: rest).flatMap text))
  | "starts-with", [a, b] => some (.truth ((text a).startsWith (text b)))
  | "contains", [a, b] => some (.truth ((text a).contains (text b)))
  | "substring-before", [a, b] => some (.text (part (text b) (text a) false))
  | "substring-after", [a, b] => some (.text (part (text b) (text a) true))
  | "substring", [a, b] => some (.text (substring (text a) (number b) none))
  | "substring", [a, b, c] => some (.text (substring (text a) (number b) (some (number c))))
  | "string-length", arguments =>
      (valueOf? scope arguments).map fun value => .number (text value).length.toFloat
  | "normalize-space", arguments =>
      (valueOf? scope arguments).map fun value => .text (normalize (text value))
  | "translate", [a, b, c] => some (.text (translate (text a) (text b) (text c)))
  | "boolean", [a] => some (.truth a.toTruth)
  | "not", [a] => some (.truth (!a.toTruth))
  | "true", [] => some (.truth true)
  | "false", [] => some (.truth false)
  | "lang", [_] => some (.truth false)
  | "number", arguments => (valueOf? scope arguments).map fun value => .number (number value)
  | "sum", [.places set] =>
      some (.number (set.foldl (fun total place => total + readNumber (place.text document)) 0))
  | "floor", [a] => some (.number (number a).floor)
  | "ceiling", [a] => some (.number (number a).ceil)
  | "round", [a] => some (.number (round (number a)))
  | _, _ => none

end Library

/-!
## Following paths

A step leads from each place of a set to the places on its axis that pass its test and
its predicates; predicates count places in the direction of the axis.  Every set is kept
in document order.  An expression that mistakes a value for a set has no value.
-/

open Markup (Tree)

namespace Axis

/-- The nodes before a node that are not around it, the nearest first. -/
def nodesBefore (tree : Tree) (i : Nat) : List Nat :=
  ((List.range i).filter fun j => j != 0 && tree.stop j ≤ i).reverse

/-- The nodes after a node that are not inside it. -/
def nodesAfter (tree : Tree) (i : Nat) : List Nat :=
  List.range' (tree.stop i) (tree.nodes.size - tree.stop i)

/-- The children of the parent of a node. -/
def family (tree : Tree) (i : Nat) : List Nat :=
  if i == 0 then [] else tree.children (tree.parent i)

/-- The nodes on an axis from a node, in the direction of the axis. -/
def nodes (tree : Tree) (i : Nat) : Axis → List Nat
  | ancestor => tree.ancestors i
  | ancestorOrSelf => i :: tree.ancestors i
  | child => tree.children i
  | descendant => tree.descendants i
  | descendantOrSelf => i :: tree.descendants i
  | following => nodesAfter tree i
  | followingSibling => (family tree i).filter fun j => i < j
  | parent => if i == 0 then [] else [tree.parent i]
  | preceding => nodesBefore tree i
  | precedingSibling => ((family tree i).filter fun j => j < i).reverse
  | self => [i]
  | _ => []

/-- The attributes of a node. -/
def entries (tree : Tree) (i : Nat) : List Place :=
  (List.range (tree.attributes i).length).map fun k => ⟨i, some k⟩

/-- The places on an axis from a place, in the direction of the axis. -/
def places (tree : Tree) (axis : Axis) (place : Place) : List Place :=
  match place.entry, axis with
  | none, attributes => entries tree place.node
  | none, axis => (nodes tree place.node axis).map Place.ofNode
  | some _, ancestor => (place.node :: tree.ancestors place.node).map Place.ofNode
  | some _, ancestorOrSelf =>
      place :: (place.node :: tree.ancestors place.node).map Place.ofNode
  | some _, descendantOrSelf => [place]
  | some _, following => (nodesAfter tree place.node).map Place.ofNode
  | some _, parent => [.ofNode place.node]
  | some _, preceding => (nodesBefore tree place.node).map Place.ofNode
  | some _, self => [place]
  | some _, _ => []

end Axis

/-- A place passes a test on an axis; nothing is given for a name whose mark nothing
declares. -/
def NodeTest.passes (document : Document) (axis : Axis) (place : Place) : NodeTest → Bool
  | any =>
      if axis == .attributes then place.entry.isSome
      else place.entry.isNone && document.tree.isElement place.node
  | named name =>
      if axis == .attributes then place.entry.isSome && place.name document == name
      else place.entry.isNone && document.tree.name? place.node == some name
  | foreign => false
  | node => true
  | text =>
      place.entry.isNone &&
        match document.tree.text? place.node with
        | some (kind, _) => kind != .comment
        | none => false
  | comment =>
      place.entry.isNone &&
        match document.tree.text? place.node with
        | some (kind, _) => kind == .comment
        | none => false
  | instruction => false

/-- A predicate holds of a place: a number is compared with its position. -/
def Value.selects (position : Nat) : Value → Bool
  | number value => value == position.toFloat
  | value => value.toTruth

/-- The places for which a predicate holds. -/
def keep (predicate : Scope → Option Value) (document : Document) (places : List Place) :
    Option (List Place) :=
  let size := places.length
  (places.zipIdx 1).filterMapM fun (place, position) => do
    let value ← predicate ⟨document, place, position, size⟩
    pure (if value.selects position then some place else none)

/-- An operator on two values. -/
def Operator.apply (document : Document) (left right : Value) : Operator → Option Value
  | or => some (.truth (left.toTruth || right.toTruth))
  | and => some (.truth (left.toTruth && right.toTruth))
  | equal => some (.truth (Value.equal document left right))
  | unequal => some (.truth (Value.unequal document left right))
  | less => some (.truth (Value.ordered document (fun a b => a < b) left right))
  | lessEqual => some (.truth (Value.ordered document (fun a b => a ≤ b) left right))
  | greater => some (.truth (Value.ordered document (fun a b => b < a) left right))
  | greaterEqual => some (.truth (Value.ordered document (fun a b => b ≤ a) left right))
  | plus => some (.number (left.toNumber document + right.toNumber document))
  | minus => some (.number (left.toNumber document - right.toNumber document))
  | times => some (.number (left.toNumber document * right.toNumber document))
  | divide => some (.number (left.toNumber document / right.toNumber document))
  | remainder =>
      some (.number (Exact.remainder (left.toNumber document) (right.toNumber document)))
  | union =>
      match left, right with
      | .places left, .places right => some (.places (Place.merge left right))
      | _, _ => none

/-- The left operand decides, and the right one is not evaluated. -/
def Operator.decides (left : Value) : Operator → Bool
  | or => left.toTruth
  | and => !left.toTruth
  | _ => false

mutual

/-- The value of an expression. -/
def evaluate : Expr → Scope → Option Value
  | .number value, _ => some (.number value)
  | .literal value, _ => some (.text value)
  | .unbound, _ => none
  | .call name arguments, scope =>
      match evaluateAll arguments scope with
      | some values => Library.call scope name values
      | none => none
  | .negate inner, scope =>
      match evaluate inner scope with
      | some value => some (.number (-(value.toNumber scope.document)))
      | none => none
  | .binary operator left right, scope =>
      match evaluate left scope with
      | none => none
      | some first =>
          if operator.decides first then some (.truth first.toTruth)
          else
            match evaluate right scope with
            | some second => operator.apply scope.document first second
            | none => none
  | .document, _ => some (.places [.ofNode 0])
  | .here, scope => some (.places [scope.place])
  | .step origin axis test predicates, scope =>
      match evaluate origin scope with
      | some (.places set) =>
          if test == .foreign then none
          else
            let found := set.mapM fun place =>
              selectAll predicates scope.document
                ((axis.places scope.document.tree place).filter fun candidate =>
                  test.passes scope.document axis candidate)
            found.map fun sets => .places (sets.foldl Place.merge [])
      | _ => none
  | .filter inner predicate, scope =>
      match evaluate inner scope with
      | some (.places set) => (keep (evaluate predicate) scope.document set).map .places
      | _ => none
termination_by structural expression => expression

/-- The values of expressions. -/
def evaluateAll : List Expr → Scope → Option (List Value)
  | [], _ => some []
  | first :: rest, scope =>
      match evaluate first scope with
      | some value => (evaluateAll rest scope).map (value :: ·)
      | none => none
termination_by structural expressions => expressions

/-- The places for which some predicates hold, one after the other. -/
def selectAll : List Expr → Document → List Place → Option (List Place)
  | [], _, set => some set
  | first :: rest, document, set =>
      match keep (evaluate first) document set with
      | some set => selectAll rest document set
      | none => none
termination_by structural predicates => predicates

end

end XPath

end RuleProbe
