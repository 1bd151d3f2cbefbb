import RuleProbe.Mended.Writer
import RuleProbe.Numeral.Double
import RuleProbe.XPath.Reader

/-!
# Values of paths

A path gives a set of places in document order; other expressions give a number, a text
or a truth value.  Each kind of value can be read as each of the others but as a set of
places.
-/

namespace RuleProbe

namespace XPath

open Markup (Tree TextKind)
open Mended (Document)

/-- A place in a document: a node, or an attribute of one by its position. -/
structure Place where
  /-- The node. -/
  node : Nat
  /-- The attribute, when the place is one. -/
  entry : Option Nat
  deriving DecidableEq, Inhabited

namespace Place

/-- The place of a node. -/
def ofNode (i : Nat) : Place := ⟨i, none⟩

/-- The position of a place among those of the same node: the node stands before its
attributes. -/
def rank (place : Place) : Nat :=
  match place.entry with
  | some k => k + 1
  | none => 0

/-- A place stands before another. -/
def precedes (left right : Place) : Bool :=
  left.node < right.node || (left.node == right.node && left.rank < right.rank)

/-- Put a place into a set that is in order. -/
def insert (place : Place) : List Place → List Place
  | [] => [place]
  | other :: rest =>
      if place == other then other :: rest
      else if precedes place other then place :: other :: rest
      else other :: insert place rest

/-- The union of two sets in document order. -/
def merge (left right : List Place) : List Place := right.foldl (fun all place => insert place all) left

/-- The attribute at a place. -/
def attribute? (document : Document) (place : Place) : Option (Text × Text) :=
  match place.entry with
  | some k => (document.tree.attributes place.node)[k]?
  | none => none

/-- The name of an element or an attribute. -/
def name (document : Document) (place : Place) : Text :=
  match place.entry with
  | some _ => ((place.attribute? document).map (·.1)).getD []
  | none => (document.tree.name? place.node).getD []

/-- The text that a place stands for. -/
def text (document : Document) (place : Place) : Text :=
  match place.attribute? document with
  | some (_, value) => value
  | none =>
      match document.tree.text? place.node with
      | some (_, value) => value
      | none => document.textOf place.node

end Place

/-- A value. -/
inductive Value where
  /-- A set of places, in document order. -/
  | places (set : List Place)
  /-- A number. -/
  | number (value : Float)
  /-- A text. -/
  | text (value : Text)
  /-- A truth value. -/
  | truth (value : Bool)
  deriving Inhabited

/-- The bounds of the integers that are written without a point, but for their ends. -/
def isSmallInteger (x : Float) : Bool := x.abs < 2147483647.0 && x.floor == x

/-- Digits of a fraction without the zeros at its end. -/
def dropZeros (digits : Text) : Text :=
  if digits.elem '.' then
    Text.trimRightWhere (· == '.') (Text.trimRightWhere (· == '0') digits)
  else digits

/-- The text of a number: fifteen digits, with an exponent above a milliard and below a
hundred thousandth. -/
def writeNumber (x : Float) : Text :=
  if x.isNaN then "NaN".toList
  else if x.isInf then (if x < 0 then "-Infinity".toList else "Infinity".toList)
  else if x == 0 then ['0']
  else
    let sign : Text := if x < 0 then ['-'] else []
    if isSmallInteger x then sign ++ Integer.writeNat x.abs.toUInt64.toNat
    else if 1e9 < x.abs || x.abs < 1e-5 then
      let (exponent, digits) := Exact.roundedDigits x 15
      let mantissa :=
        match digits with
        | [] => []
        | d :: rest => dropZeros (d :: '.' :: rest)
      let size := Integer.writeNat exponent.natAbs
      sign ++ mantissa ++ ['e', if exponent < 0 then '-' else '+'] ++
        List.replicate (2 - size.length) '0' ++ size
    else
      let exponent := (Exact.roundedDigits x 17).1
      let places := if 0 < exponent then (14 - exponent).toNat else (15 - exponent).toNat
      sign ++ dropZeros (Exact.withPoint (Integer.writeNat (Exact.roundedUnits x places)) places)

/-- The number that a text writes, blanks around it aside. -/
def readNumber (text : Text) : Float :=
  let text := Text.trimWhere Reader.isSpace text
  let unsigned (text : Text) : Float :=
    match Decimal.readPrefix? text with
    | some (value, []) => value
    | _ => Exact.nan
  match text with
  | '-' :: rest => -(unsigned rest)
  | rest => unsigned rest

namespace Value

/-- A value as a text: a set stands for its first place. -/
def toText (document : Document) : Value → Text
  | places set => (set.head?.map fun place => place.text document).getD []
  | number value => writeNumber value
  | text value => value
  | truth value => if value then "true".toList else "false".toList

/-- A value as a number. -/
def toNumber (document : Document) : Value → Float
  | number value => value
  | truth value => if value then 1 else 0
  | value => readNumber (value.toText document)

/-- A value as a truth value. -/
def toTruth : Value → Bool
  | places set => !set.isEmpty
  | number value => !(value == 0 || value.isNaN)
  | text value => !value.isEmpty
  | truth value => value

/-- Two values that are no sets are equal. -/
def plainEqual (document : Document) (left right : Value) : Bool :=
  match left, right with
  | truth value, other => value == other.toTruth
  | other, truth value => value == other.toTruth
  | number value, other => value == other.toNumber document
  | other, number value => value == other.toNumber document
  | left, right => left.toText document == right.toText document

/-- The values that a value stands for in a comparison: a set stands for the texts of
its places. -/
def candidates (document : Document) : Value → List Value
  | places set => set.map fun place => text (place.text document)
  | value => [value]

/-- The value as it is compared with a truth value. -/
def beside (other : Value) (value : Value) : Value :=
  match other, value with
  | truth _, places set => truth (!set.isEmpty)
  | _, value => value

/-- Some candidates of two values satisfy a relation. -/
def someRelated (document : Document) (related : Value → Value → Bool) (left right : Value) :
    Bool :=
  ((beside right left).candidates document).any fun a =>
    ((beside left right).candidates document).any fun b => related a b

/-- Two values are equal. -/
def equal (document : Document) (left right : Value) : Bool :=
  someRelated document (plainEqual document) left right

/-- Two values differ. -/
def unequal (document : Document) (left right : Value) : Bool :=
  someRelated document (fun a b => !plainEqual document a b) left right

/-- Two values are in order as numbers. -/
def ordered (document : Document) (related : Float → Float → Bool) (left right : Value) : Bool :=
  someRelated document
    (fun a b => related (a.toNumber document) (b.toNumber document)) left right

end Value

end XPath

end RuleProbe
