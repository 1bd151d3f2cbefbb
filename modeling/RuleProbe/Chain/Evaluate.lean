import RuleProbe.Chain.Segment
import RuleProbe.Selector.Matcher
import RuleProbe.Url

/-!
# Evaluating chains

A chain starts from elements of one document.  Its selectors narrow them one after the
other, and its accessor reads a text off each element that is left.
-/

namespace RuleProbe

namespace Chain

open Markup

/-! ## Selection -/

/-- Nodes without repetitions, in the order of their first occurrence. -/
def distinct (nodes : List Nat) : List Nat := nodes.eraseDups

/-- The element has every one of some classes. -/
def hasClasses (tree : Tree) (names : List Text) (i : Nat) : Bool :=
  names.all fun name => (tree.classes i).elem name

/-- The selector of a base, or the flaw of one that cannot be read. -/
def readSelector (base : Text) : Except Fault Selector :=
  match Selector.read? base with
  | some selector => .ok selector
  | none => .error (.rule (.selector base))

/-- What a base without an index selects below the elements that it starts from. -/
inductive Base where
  /-- Elements with some classes. -/
  | classes (names : List Text)
  /-- Elements with an identifier. -/
  | identifier (value : Text)
  /-- Elements of a name. -/
  | name (name : Text)
  /-- Elements that satisfy a selector. -/
  | selector (text : Text)
  deriving DecidableEq, Inhabited

/-- The base that a text writes. -/
def Base.ofText (text : Text) : Base :=
  match text.dropStart? "class." with
  | some rest => .classes (Text.words rest)
  | none =>
      match text.dropStart? "id." with
      | some rest => .identifier rest
      | none =>
          match text.dropStart? "tag." with
          | some rest => .name rest
          | none => .selector text

/-- The elements below some elements that a base selects. -/
def Base.select (base : Base) (tree : Tree) (nodes : List Nat) : Except Fault (List Nat) :=
  let below (test : Nat → Bool) : List Nat :=
    distinct (nodes.flatMap fun i => (tree.elements i).filter test)
  match base with
  | .classes names => .ok (below (hasClasses tree names))
  | .identifier value => .ok (below fun i => tree.attribute? i "id" == some value)
  | .name value => .ok (below fun i => tree.name? i == some value)
  | .selector text =>
      if nodes.isEmpty then .ok []
      else
        (readSelector text).map fun selector =>
          distinct (nodes.flatMap (selector.select tree))

/-- An element satisfies a base itself. -/
def Base.holds (base : Base) (tree : Tree) (i : Nat) : Bool :=
  !tree.isRoot i &&
    match base with
    | .classes names => hasClasses tree names i
    | .identifier value => tree.attribute? i "id" == some value
    | .name value => tree.name? i == some value
    | .selector text => (Selector.read? text).any fun selector => selector.holds tree i i

/-- The plain text directly inside an element. -/
def ownText (tree : Tree) (i : Nat) : Text := (tree.ownTexts i).flatten

/-- Pick the children of each of some elements by an index. -/
def pickChildren (tree : Tree) (index : Text) : List Nat → Except Fault (List Nat)
  | [] => .ok []
  | i :: rest => do
      let picked ← IndexExpression.select (tree.childElements i) index
      let others ← pickChildren tree index rest
      .ok (picked ++ others)

/-- An index that stands alone in brackets. -/
def bareIndex? (segment : Text) : Option Text :=
  if segment.startsWith ['['] && segment.endsWith [']'] then
    let inside := (segment.drop 1).dropLast
    if IndexExpression.recognises inside then some inside else none
  else none

/-- The elements that one segment selects.  With `includeSelf`, elements that satisfy
the segment themselves are taken when there are none below them. -/
def selectSegment (tree : Tree) (nodes : List Nat) (segment : Text) (includeSelf : Bool) :
    Except Fault (List Nat) :=
  if segment == "children".toList then .ok (distinct (nodes.flatMap tree.childElements))
  else
    match bareIndex? segment with
    | some index => pickChildren tree index nodes
    | none =>
        match segment.dropStart? "text." with
        | some needle =>
            .ok (distinct (nodes.filterMap fun i =>
              (tree.elements i).find? fun j => Text.contains (ownText tree j) needle))
        | none => do
            let (text, index) := splitIndex segment
            let base := Base.ofText text
            let below ← base.select tree nodes
            let found :=
              if below.isEmpty && includeSelf then nodes.filter (base.holds tree) else below
            match index with
            | none => .ok found
            | some index => IndexExpression.select found index

/-! ## Accessors -/

/-- The attributes that hold addresses. -/
def isAddressName (name : Text) : Bool := name == "href".toList || name == "src".toList

/-- The text that an accessor reads off a node. -/
def readAccessor (tree : Tree) (i : Nat) (accessor baseUrl : Text) : Except Fault Text :=
  let name := accessor.lower
  let isOne (names : List String) : Bool := names.any fun n => n.toList == name
  if isOne ["text"] then .ok (Text.trim (tree.textOf i))
  else if isOne ["textnodes"] then
    let parts := (tree.ownTexts i).map Text.trim
    .ok (Text.join ['\n'] (parts.filter fun part => !part.isEmpty))
  else if isOne ["owntext"] then .ok (Text.trim (ownText tree i))
  else if isOne ["html", "innerhtml"] then .ok (tree.innerMarkup i)
  else if isOne ["outerhtml", "all"] then .ok (tree.markup i)
  else
    match (tree.attribute? i name).or (tree.attribute? i accessor) with
    | none => .ok []
    | some value =>
        if isAddressName name then Url.resolve value.trim baseUrl else .ok value.trim

/-! ## Evaluation -/

/-- What a chain gives. -/
inductive Outcome where
  /-- Elements. -/
  | nodes (nodes : List Nat)
  /-- Texts, none of them empty. -/
  | texts (texts : List Text)
  deriving Inhabited

/-- Follow selectors from some elements.  The first one may select the elements
themselves, with `includeSelf`. -/
def walk (tree : Tree) : Bool → List Nat → List Text → Except Fault (List Nat)
  | _, nodes, [] => .ok nodes
  | includeSelf, nodes, segment :: rest => do
      let found ← selectSegment tree nodes segment includeSelf
      if found.isEmpty then .ok [] else walk tree false found rest

/-- The texts that an accessor reads off nodes, empty ones left out. -/
def readAll (tree : Tree) (accessor baseUrl : Text) : List Nat → Except Fault (List Text)
  | [] => .ok []
  | i :: rest => do
      let value ← readAccessor tree i accessor baseUrl
      let others ← readAll tree accessor baseUrl rest
      .ok (if value.isEmpty then others else value :: others)

/-- How a chain is evaluated. -/
structure Mode where
  /-- The address of the page. -/
  baseUrl : Text
  /-- Texts are asked for, instead of elements. -/
  scalar : Bool
  /-- The chain starts from elements, which its first segment may name. -/
  fromElement : Bool
  deriving Inhabited

/-- Evaluate a chain from some nodes of a document.  A chain without selectors reads
the body instead of the document. -/
def evaluate (tree : Tree) (start : List Nat) (chain : Text) (mode : Mode) :
    Except Fault Outcome := do
  let (selectors, accessor) := splitAccessor (split chain) mode.scalar
  let start :=
    if selectors.isEmpty then
      start.map fun i => if tree.isRoot i then (tree.body? i).getD i else i
    else start
  let nodes ← walk tree mode.fromElement start selectors
  match accessor with
  | none =>
      if mode.scalar then
        (readAll tree "text" mode.baseUrl nodes).map .texts
      else .ok (.nodes nodes)
  | some accessor => (readAll tree accessor mode.baseUrl nodes).map .texts

end Chain

end RuleProbe
