import RuleProbe.Markup.Tree
import RuleProbe.Mended.Token

/-!
# Reading mended documents

A mended document has one root with a head and a body: what a page leaves out is put
in.  Content that needs a head or a body opens it, text at the top opens a body, a
start tag ends the elements that it closes, and an end tag without an open element is
skipped.
-/

namespace RuleProbe

namespace Mended

open Markup (Builder Tree)

/-- The state of the reader. -/
structure State where
  /-- The tree in the making. -/
  builder : Builder
  /-- A head has been opened. -/
  sawHead : Bool
  /-- A body has been opened. -/
  sawBody : Bool
  /-- Start tags that were left out, and whose end tags are still to come. -/
  leftOut : Nat
  /-- The attributes without a value, by the position of their element. -/
  bare : List (Nat × Text)
  deriving Inhabited

namespace State

/-- The reader before the first token. -/
def initial : State := ⟨.empty, false, false, 0, []⟩

/-- The names of the open elements, innermost first. -/
def opened (state : State) : List Text := state.builder.openNames

/-- The name of the innermost open element. -/
def current? (state : State) : Option Text := state.opened.head?

/-- The value of an attribute as the tree keeps it: a flag without a value is set to its
name. -/
def valueOf (entry : Attribute) : Text :=
  match entry.value with
  | some value => value
  | none => if flagNames.elem entry.name then entry.name else []

/-- Open an element. -/
def enter (state : State) (name : Text) (attributes : List Attribute) : State :=
  let bare := attributes.filter fun entry =>
    entry.value.isNone || flagNames.elem entry.name
  { state with
    builder := state.builder.enter name
      (attributes.map fun entry => (entry.name, valueOf entry))
    sawHead := state.sawHead || name == "head".toList || name == "body".toList
    sawBody := state.sawBody || name == "body".toList
    bare := bare.map (fun entry => (state.builder.nodes.size, entry.name)) ++ state.bare }

/-- Close the innermost open elements. -/
def leave (count : Nat) (state : State) : State :=
  { state with builder := Builder.leaveMany count state.builder }

/-- End what a start tag closes. -/
def closeFor (state : State) (name : Text) : State := state.leave (closedBy name state.opened)

/-- Open the elements that one of a name needs around it. -/
def imply (state : State) (name : Text) : State :=
  if name == "html".toList then state
  else
    let state := if state.opened.isEmpty then state.enter "html".toList [] else state
    if name == "body".toList || name == "head".toList then state
    else if state.opened.length ≤ 1 && headNames.elem name then
      if state.sawHead then state else state.enter "head".toList []
    else if (names "noframes frame frameset").elem name then state
    else if state.sawBody || state.opened.any (names "head body").elem then state
    else state.enter "body".toList []

/-- A start tag is out of place: the root, the head and the body stand where they
belong or not at all. -/
def isMisplaced (state : State) (name : Text) : Bool :=
  (name == "html".toList && !state.opened.isEmpty) ||
    (name == "head".toList && state.opened.length != 1) ||
    (name == "body".toList && state.opened.elem "body".toList)

/-- Follow a start tag. -/
def startTag (state : State) (name : Text) (attributes : List Attribute) (closed : Bool) :
    State :=
  let state := (state.closeFor name).imply name
  if state.isMisplaced name then { state with leftOut := state.leftOut + 1 }
  else
    let state := state.enter name attributes
    if closed || voidNames.elem name then state.leave 1 else state

/-- Follow an end tag. -/
def endTag (state : State) (name : Text) : State :=
  if 0 < state.leftOut && (names "html body head").elem name then
    { state with leftOut := state.leftOut - 1 }
  else state.leave (endedBy name state.opened)

/-- Add text, joined to the text that stands directly before it; text without an open
element is dropped. -/
def insert (state : State) (value : Text) : State :=
  let builder := state.builder
  if builder.opened.isEmpty || value.isEmpty then state
  else
    match builder.nodes.back? with
    | some ⟨parent, stop, .text .plain before⟩ =>
        if parent == builder.current then
          { state with
            builder := { builder with
              nodes := builder.nodes.pop.push ⟨parent, stop, .text .plain (before ++ value)⟩ } }
        else { state with builder := builder.addText .plain value }
    | _ => { state with builder := builder.addText .plain value }

/-- Open the elements that text at the top needs around it: those of a paragraph. -/
def beginText (state : State) : State := (state.closeFor "p".toList).imply "p".toList

/-- Follow text.  Blanks at the top stay where they are. -/
def text (state : State) (value : Text) : State :=
  let atTop :=
    match state.current? with
    | none => true
    | some name => (names "html head").elem name
  if atTop then
    let blanks := value.takeWhile Token.isSpace
    let rest := value.drop blanks.length
    let state := state.insert blanks
    if rest.isEmpty then state else state.beginText.insert rest
  else state.insert value

/-- Follow a token. -/
def step (state : State) : Token → State
  | .text value => state.text value
  | .raw value => { state with builder := state.builder.addText .cdata value }
  | .start name attributes closed => state.startTag name attributes closed
  | .stop name => state.endTag name
  | .comment value => { state with builder := state.builder.addText .comment value }

end State

/-- A document: its tree, and the attributes that are written without a value, by the
position of their element. -/
structure Document where
  /-- The tree. -/
  tree : Tree
  /-- The attributes without a value. -/
  bare : List (Nat × Text)
  deriving Inhabited

/-- Read a document. -/
def read (text : Text) : Document :=
  let state := (Token.scan text).foldl State.step .initial
  ⟨state.builder.finish, state.bare⟩

end Mended

end RuleProbe
