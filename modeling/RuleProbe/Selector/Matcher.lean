import RuleProbe.Markup.Writer
import RuleProbe.Selector.Reader

/-!
# Matching selectors

Whether an element of a document satisfies a selector.  The document itself counts as
the parent of its top elements.
-/

namespace RuleProbe

namespace Selector

open Markup

/-- Where a search takes place. -/
structure Place where
  /-- The document. -/
  tree : Tree
  /-- The node where the search begins. -/
  start : Nat
  deriving Inhabited

namespace Place

variable (place : Place)

/-- The name of a node; the document has a name of its own. -/
def nameOf (i : Nat) : Text := (place.tree.name? i).getD "[document]".toList

/-- The elements beside a node, itself included, in order. -/
def siblings (i : Nat) : List Nat :=
  if i == 0 then [0] else place.tree.childElements (place.tree.parent i)

/-- The elements before a node with the same parent, the nearest first. -/
def earlier (i : Nat) : List Nat := ((place.siblings i).filter (· < i)).reverse

/-- The elements after a node with the same parent, the nearest first. -/
def later (i : Nat) : List Nat := (place.siblings i).filter (i < ·)

/-- The nodes that stand in a relation to a node, the nearest first. -/
def related (relation : Relation) (i : Nat) : List Nat :=
  match relation with
  | .ancestor => place.tree.ancestors i
  | .parent => (place.tree.ancestors i).take 1
  | .earlier => place.earlier i
  | .previous => (place.earlier i).take 1
  | .descendant => place.tree.elements i
  | .child => place.tree.childElements i
  | .later => place.later i
  | .following => (place.later i).take 1

/-- The top element that a document is named after. -/
def topElement? : Option Nat := (place.tree.childElements 0).head?

/-- A run of characters that counts as content. -/
def contentText? (i : Nat) : Option Text :=
  match place.tree.text? i with
  | some (.plain, value) => some value
  | some (.enclosed _, value) => some value
  | _ => none

/-- A node is an element, or text that is not blank. -/
def isSolid (i : Nat) : Bool :=
  place.tree.isElement i ||
    match place.tree.text? i with
    | some (.cdata, _) => true
    | _ => (place.contentText? i).any fun value => !value.isBlankText

/-- The node is the only solid one at the top of the document. -/
def isRoot (i : Nat) : Bool :=
  let others := (place.tree.children (place.tree.parent i)).filter (· != i)
  (place.topElement? == some i ||
      (i != 0 && Text.lower (place.nameOf (place.tree.parent i)) == "iframe".toList)) &&
    !others.any place.isSolid

/-- The node holds neither elements nor text other than blanks. -/
def isHollow (i : Nat) : Bool :=
  (place.tree.children i).all fun j =>
    !place.tree.isElement j &&
      !((place.contentText? j).any fun value => value.any fun c => !Token.isBlank c)

/-- The texts below a node that count as content, frames aside. -/
def contentTexts (own : Bool) (i : Nat) : List Text :=
  let isFrame (j : Nat) : Bool := Text.lower (place.nameOf j) == "iframe".toList
  if isFrame i then []
  else if own then (place.tree.children i).filterMap place.contentText?
  else
    let visible := (place.tree.descendants i).filter fun j =>
      !((place.tree.ancestors j).takeWhile (· != i)).any isFrame
    visible.filterMap place.contentText?

/-- The text of a node contains one of some texts. -/
def hasText (own : Bool) (texts : List Text) (i : Nat) : Bool :=
  let contents := place.contentTexts own i
  let contents := if own then contents else [contents.flatten]
  texts.any fun text => contents.any fun content => Text.contains content text

/-- The language that an element declares, or the nearest one around it. -/
def languageOf (i : Nat) : Option Text :=
  (i :: place.tree.ancestors i).findSome? fun j => place.tree.attribute? j "lang"

/-- A language is one that a range names: the same one, or a variety of it. -/
def inRange (language range : Text) : Bool :=
  let language := language.lower
  let range := range.lower
  if range == ['*'] then !language.isEmpty
  else language == range || Text.startsWith language (range ++ ['-'])

/-- The position of an element among its siblings that satisfy a test. -/
def position (positions : Positions) (counts : Nat → Bool) (i : Nat) : Int :=
  let line := if positions.fromEnd then (place.siblings i).reverse else place.siblings i
  let counted := line.filter fun j =>
    counts j && (!positions.sameName || place.nameOf j == place.nameOf i)
  (counted.findIdx (· == i) : Int) + 1

end Place

/-- The value of an attribute of an element, whatever the case of its name. -/
def attributeOf? (tree : Tree) (i : Nat) (key : Text) : Option Text :=
  let key := key.lower
  ((tree.attributes i).find? fun entry => entry.1.lower == key).map fun entry =>
    attributeText ((tree.name? i).getD []) entry.1 entry.2

/-- A value without a line feed at its end. -/
def dropFeed (value : Text) : Text := if value.endsWith ['\n'] then value.dropLast else value

/-- The words of a value, blanks as in selectors. -/
def wordsOf (value : Text) : List Text := Text.splitWhere Token.isBlank [] value

/-- Compare the value of an attribute. -/
def Comparison.holds (comparison : Comparison) (expected value : Text) : Bool :=
  match comparison with
  | .present => true
  | .equal => value == expected || dropFeed value == expected
  | .beginning => value.startsWith expected
  | .ending => value.endsWith expected || (dropFeed value).endsWith expected
  | .containing => value.contains expected
  | .word =>
      !expected.isEmpty && !expected.any Token.isBlank && (wordsOf value).elem expected
  | .dashed =>
      value == expected || dropFeed value == expected || value.startsWith (expected ++ ['-'])

/-- An attribute passes its test. -/
def AttributeTest.holds (test : AttributeTest) (tree : Tree) (i : Nat) : Bool :=
  match attributeOf? tree i test.name with
  | none => false
  | some value =>
      if test.ignoreCase then test.comparison.holds test.value.lower value.lower
      else test.comparison.holds test.value value

/-- A position is one of some positions. -/
def Positions.holds (positions : Positions) (position : Int) : Bool :=
  if positions.repeats then
    let distance := position - positions.offset
    if positions.step == 0 then distance == 0
    else distance % positions.step == 0 && 0 ≤ distance / positions.step
  else position == positions.step

mutual

/-- An alternative holds for a node. -/
def Alternative.holds (place : Place) : Alternative → Nat → Bool
  | .never => fun _ => false
  | .tests tests none => fun i => allHold place tests i
  | .tests tests (some related) => fun i => allHold place tests i && relatedHolds place related i
  termination_by structural alternative => alternative

/-- A node stands in a relation to one that satisfies an alternative. -/
def relatedHolds (place : Place) : Relation × Alternative → Nat → Bool
  | (relation, alternative) => fun i =>
      (place.related relation i).any fun j => alternative.holds place j
  termination_by structural related => related

/-- All tests hold for a node. -/
def allHold (place : Place) : List Test → Nat → Bool
  | [] => fun _ => true
  | test :: rest => fun i => test.holds place i && allHold place rest i
  termination_by structural tests => tests

/-- One of some alternatives holds for a node. -/
def oneHolds (place : Place) : List Alternative → Nat → Bool
  | [] => fun _ => false
  | alternative :: rest => fun i => alternative.holds place i || oneHolds place rest i
  termination_by structural alternatives => alternatives

/-- A test holds for a node. -/
def Test.holds (place : Place) : Test → Nat → Bool
  | .name name => fun i => name == ['*'] || place.nameOf i == name.lower
  | .identifier value => fun i =>
      ((place.tree.attribute? i "id").getD []) == value
  | .ofClass value => fun i => (place.tree.classes i).elem value
  | .attributeIs test => fun i => test.holds place.tree i
  | .position positions among => fun i =>
      match among with
      | none => positions.holds (place.position positions (fun _ => true) i)
      | some alternatives =>
          oneHolds place alternatives i &&
            positions.holds (place.position positions (oneHolds place alternatives) i)
  | .holdsOne negated alternatives => fun i => oneHolds place alternatives i != negated
  | .contains own texts => fun i => place.hasText own texts i
  | .language languages => fun i =>
      (place.languageOf i).any fun language => languages.any (Place.inRange language)
  | .root => fun i => place.isRoot i
  | .scope => fun i =>
      (if place.start == 0 then place.topElement? == some i else place.start == i)
  | .hollow => fun i => place.isHollow i
  termination_by structural test => test

end

/-- An element satisfies a selector. -/
def holds (selector : Selector) (tree : Tree) (start i : Nat) : Bool :=
  oneHolds ⟨tree, start⟩ selector i

/-- The elements below a node that satisfy a selector, in document order. -/
def select (selector : Selector) (tree : Tree) (start : Nat) : List Nat :=
  (tree.elements start).filter fun i => selector.holds tree start i

end Selector

end RuleProbe
