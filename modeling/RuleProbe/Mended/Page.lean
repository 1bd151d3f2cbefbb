import RuleProbe.Mended.Reader
import RuleProbe.Text.Basic

/-!
# Pages and fragments

Paths are followed from the root of a page.  A page that does not begin like a whole
document is a fragment: its single element is the root, or, when there are several or
text between them, its body, which then counts as a plain container.
-/

namespace RuleProbe

namespace Mended

open Markup (Tree Content TextKind)

/-- A page: a document, and the node from which paths are followed. -/
structure Page where
  /-- The document. -/
  document : Document
  /-- The node from which paths are followed. -/
  start : Nat
  deriving Inhabited

namespace Page

/-- The page begins like a whole document. -/
def isWhole (text : Text) : Bool :=
  match text.dropWhile Text.isBlank with
  | '<' :: rest => Text.beginsFolded rest "html".toList || Text.beginsFolded rest "!doctype".toList
  | _ => false

/-- A page without the declaration that other markup begins with. -/
def dropDeclaration (text : Text) : Text :=
  match Text.dropStart? (text.dropWhile Text.isBlank) "<?xml".toList with
  | some rest =>
      match Text.cut? ['>'] rest with
      | some (inside, after) => if inside.endsWith ['?'] then after else text
      | none => text
  | none => text

/-- A declared encoding stands at the beginning of a text. -/
def beginsWithEncoding (text : Text) : Bool :=
  let value := text.dropWhile Text.isBlank
  match value with
  | '=' :: rest =>
      match rest.dropWhile Text.isBlank with
      | quote :: rest =>
          (quote == '"' || quote == '\'') && rest.any fun c => c == '"' || c == '\''
      | [] => false
  | _ => false

/-- A declared encoding stands in a text, after a blank that is not its first
character. -/
def holdsEncoding : Bool → Text → Bool
  | _, [] => false
  | inside, c :: rest =>
      if c == '>' then false
      else if inside && Text.isBlank c &&
          (match Text.dropStart? (rest.dropWhile Text.isBlank) "encoding".toList with
            | some after => beginsWithEncoding after
            | none => false) then true
      else holdsEncoding true rest

/-- The page declares the encoding of its bytes, which a text does not have. -/
def declaresEncoding (text : Text) : Bool :=
  match Text.dropStart? text "<?xml".toList with
  | some rest => holdsEncoding false rest
  | none => false

/-- The elements that stand for themselves, not inside a line of text. -/
def blockNames : List Text :=
  names ("address article aside blockquote center dir div dl fieldset figure footer form "
    ++ "h1 h2 h3 h4 h5 h6 header hgroup hr isindex menu nav noframes noscript ol p pre "
    ++ "section table ul")

/-- A child counts as a node of its own, and not as text of its parent. -/
def isOwnNode (tree : Tree) (i : Nat) : Bool :=
  match tree.content i with
  | .element _ _ => true
  | .text .comment _ => true
  | _ => false

/-- A child that is nothing but blanks. -/
def isBlankText (tree : Tree) (i : Nat) : Bool :=
  match tree.text? i with
  | some (_, value) => Text.isBlankText value
  | none => false

/-- Give an element another name. -/
def rename (tree : Tree) (i : Nat) (name : Text) : Tree :=
  ⟨tree.nodes.modify i fun node =>
    { node with
      content :=
        match node.content with
        | .element _ attributes => .element name attributes
        | other => other }⟩

/-- The root of a fragment with a body. -/
def ofBody (document : Document) (body : Nat) : Page :=
  let tree := document.tree
  let (own, texts) := (tree.children body).partition (isOwnNode tree)
  match own with
  | [only] =>
      if texts.all (isBlankText tree) then ⟨document, only⟩ else contained document body
  | _ => contained document body
where
  /-- The body as a plain container. -/
  contained (document : Document) (body : Nat) : Page :=
    let tree := document.tree
    let isBlock := (tree.elements body).any fun i => ((tree.name? i).map blockNames.elem).getD false
    let name := if isBlock then "div".toList else "span".toList
    ⟨{ document with tree := rename tree body name }, body⟩

/-- The root of the page of a document. -/
def ofDocument? (whole : Bool) (document : Document) : Option Page :=
  let tree := document.tree
  match tree.childElements 0 with
  | [] => none
  | root :: _ =>
      if whole then some ⟨document, root⟩
      else
        let named := fun (name : String) =>
          (tree.childElements root).find? fun i => tree.name? i == some name.toList
        match named "head", named "body" with
        | some _, _ => some ⟨document, root⟩
        | none, some body => some (ofBody document body)
        | none, none => none

/-- Read a page; nothing is given for one without content. -/
def read? (text : Text) : Option Page :=
  let text := dropDeclaration text
  if Text.isBlankText text || declaresEncoding text then none
  else ofDocument? (isWhole text) (Mended.read text)

end Page

end Mended

end RuleProbe
