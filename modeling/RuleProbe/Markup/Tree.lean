import RuleProbe.Keyed
import RuleProbe.Text.Blank

/-!
# Document trees

A document is an array of nodes in document order.  Each node knows its parent and
the position after its last descendant, so that the descendants of a node are the
positions in between.  Node zero is the document itself.
-/

namespace RuleProbe

namespace Markup

/-- What a run of characters in a document is. -/
inductive TextKind where
  /-- Text to be read. -/
  | plain
  /-- Text inside an element whose text is no part of the text around it. -/
  | enclosed (element : Text)
  /-- Text of a marked section. -/
  | cdata
  /-- A comment. -/
  | comment
  /-- A document type. -/
  | doctype
  /-- Any other declaration. -/
  | declaration
  /-- A processing instruction. -/
  | instruction
  deriving DecidableEq, Inhabited

/-- What a node is. -/
inductive Content where
  /-- The document. -/
  | root
  /-- An element with its attributes. -/
  | element (name : Text) (attributes : Keyed Text)
  /-- A run of characters. -/
  | text (kind : TextKind) (value : Text)
  deriving DecidableEq, Inhabited

/-- A node of a tree. -/
structure Node where
  /-- The position of the parent. -/
  parent : Nat
  /-- The position after the last descendant. -/
  stop : Nat
  /-- What the node is. -/
  content : Content
  deriving DecidableEq, Inhabited

/-- A document. -/
structure Tree where
  /-- The nodes in document order. -/
  nodes : Array Node
  deriving DecidableEq, Inhabited

namespace Tree

/-- What the node at a position is. -/
def content (tree : Tree) (i : Nat) : Content := (tree.nodes[i]?.map (·.content)).getD .root

/-- The parent of a node. -/
def parent (tree : Tree) (i : Nat) : Nat := (tree.nodes[i]?.map (·.parent)).getD 0

/-- The position after the last descendant of a node. -/
def stop (tree : Tree) (i : Nat) : Nat := (tree.nodes[i]?.map (·.stop)).getD (i + 1)

/-- The name of an element; nothing for other nodes. -/
def name? (tree : Tree) (i : Nat) : Option Text :=
  match tree.content i with
  | .element name _ => some name
  | _ => none

/-- The node is an element. -/
def isElement (tree : Tree) (i : Nat) : Bool := (tree.name? i).isSome

/-- The node is the document. -/
def isRoot (tree : Tree) (i : Nat) : Bool :=
  match tree.content i with
  | .root => true
  | _ => false

/-- The attributes of an element. -/
def attributes (tree : Tree) (i : Nat) : Keyed Text :=
  match tree.content i with
  | .element _ attributes => attributes
  | _ => []

/-- The kind and the characters of a run of text. -/
def text? (tree : Tree) (i : Nat) : Option (TextKind × Text) :=
  match tree.content i with
  | .text kind value => some (kind, value)
  | _ => none

/-- The descendants of a node, in document order. -/
def descendants (tree : Tree) (i : Nat) : List Nat :=
  List.range' (i + 1) (tree.stop i - (i + 1))

/-- The elements below a node, in document order. -/
def elements (tree : Tree) (i : Nat) : List Nat := (tree.descendants i).filter tree.isElement

/-- The children of a node. -/
def children (tree : Tree) (i : Nat) : List Nat :=
  (tree.descendants i).filter fun j => tree.parent j == i

/-- The children of a node that are elements. -/
def childElements (tree : Tree) (i : Nat) : List Nat := (tree.children i).filter tree.isElement

/-- The ancestors of a node, the nearest first; `fuel` bounds their number. -/
def ancestorsAux (tree : Tree) : Nat → Nat → List Nat
  | 0, _ => []
  | fuel + 1, i => if i == 0 then [] else tree.parent i :: ancestorsAux tree fuel (tree.parent i)

/-- The ancestors of a node, the nearest first, the document last. -/
def ancestors (tree : Tree) (i : Nat) : List Nat := tree.ancestorsAux i i

end Tree

/-! ## Building -/

/-- A tree in the making: the nodes so far, and the open ones, innermost first. -/
structure Builder where
  /-- The nodes so far. -/
  nodes : Array Node
  /-- The positions of the open elements, innermost first. -/
  opened : List Nat
  deriving Inhabited

namespace Builder

/-- A document without content. -/
def empty : Builder := ⟨#[⟨0, 1, .root⟩], []⟩

/-- The tree of the nodes so far. -/
def soFar (builder : Builder) : Tree := ⟨builder.nodes⟩

/-- The innermost open node. -/
def current (builder : Builder) : Nat := builder.opened.headD 0

/-- The name of an open element. -/
def nameAt (builder : Builder) (i : Nat) : Text := (builder.soFar.name? i).getD []

/-- The names of the open elements, innermost first. -/
def openNames (builder : Builder) : List Text := builder.opened.map builder.nameAt

/-- Add a run of characters to the innermost open node. -/
def addText (builder : Builder) (kind : TextKind) (value : Text) : Builder :=
  { builder with
    nodes := builder.nodes.push
      ⟨builder.current, builder.nodes.size + 1, .text kind value⟩ }

/-- Open an element inside the innermost open node. -/
def enter (builder : Builder) (name : Text) (attributes : Keyed Text) : Builder :=
  { nodes := builder.nodes.push
      ⟨builder.current, builder.nodes.size + 1, .element name attributes⟩
    opened := builder.nodes.size :: builder.opened }

/-- Close the innermost open element. -/
def leave (builder : Builder) : Builder :=
  match builder.opened with
  | [] => builder
  | i :: rest =>
      { nodes := builder.nodes.modify i fun node => { node with stop := builder.nodes.size }
        opened := rest }

/-- Close the `count` innermost open elements. -/
def leaveMany : Nat → Builder → Builder
  | 0, builder => builder
  | count + 1, builder => leaveMany count builder.leave

/-- Close what is open, and give the tree. -/
def finish (builder : Builder) : Tree :=
  let closed := leaveMany builder.opened.length builder
  ⟨closed.nodes.modify 0 fun node => { node with stop := closed.nodes.size }⟩

end Builder

end Markup

end RuleProbe
