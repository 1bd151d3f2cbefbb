import RuleProbe.Charset.Bytes
import RuleProbe.Markup.Writer
import RuleProbe.Mended.Reader

/-!
# Writing mended documents

The markup of a node keeps the attributes in their order and is followed by the text
behind the node.  Addresses are written with the characters that addresses may hold.
The text of a node is all text inside it; comments have none.
-/

namespace RuleProbe

namespace Mended

open Markup (Tree)

namespace Document

/-- The characters of markup by name. -/
def escape (text : Text) : Text :=
  text.flatMap fun c =>
    if c == '&' then "&amp;".toList
    else if c == '<' then "&lt;".toList
    else if c == '>' then "&gt;".toList
    else [c]

/-- The characters of markup by name, in the value of an attribute. -/
def escapeValue (text : Text) : Text :=
  text.flatMap fun c => if c == '"' then "&quot;".toList else escape [c]

/-- The attribute holds an address. -/
def isAddress (element name : Text) : Bool :=
  (names "href action src").elem name || (element == "a".toList && name == "name".toList)

/-- The characters that stand for themselves in a written address, apart from letters
and digits. -/
def plainInAddress : Text := "!*'()\"#$%&+,/:;<=>?@[\\]^\x60\x7b|\x7d".toList

/-- An address as it is written. -/
def writeAddress (value : Text) : Text :=
  Percent.encode plainInAddress (Utf8.encode (value.dropWhile Token.isSpace))

variable (document : Document)

/-- The attributes of an element as they are written. -/
def writeAttributes (i : Nat) (element : Text) : Text :=
  (document.tree.attributes i).flatMap fun entry =>
    let value := if isAddress element entry.1 then writeAddress entry.2 else entry.2
    let assigned :=
      if document.bare.elem (i, entry.1) then [] else "=\"".toList ++ escapeValue value ++ ['"']
    ' ' :: entry.1 ++ assigned

/-- The elements whose text is written as it stands. -/
def isRaw (name : Text) : Bool := rawNames.elem name

/-- The markup of nodes in document order.  `opened` are the open elements, innermost
first, and `stop` is where the last node ends. -/
def writeNodes (stop : Nat) : List Nat → List Nat → Text
  | opened, [] => (document.tree.closeBefore stop opened).1
  | opened, i :: rest =>
      let (ends, opened) := document.tree.closeBefore i opened
      ends ++
        match document.tree.content i with
        | .root => writeNodes stop opened rest
        | .text .comment value =>
            "<!--".toList ++ value ++ "-->".toList ++ writeNodes stop opened rest
        | .text .cdata value => value ++ writeNodes stop opened rest
        | .text _ value =>
            (if isRaw ((document.tree.name? (document.tree.parent i)).getD []) then value
              else escape value) ++ writeNodes stop opened rest
        | .element name _ =>
            let tag := '<' :: name ++ document.writeAttributes i name ++ ['>']
            if voidNames.elem name then tag ++ writeNodes stop opened rest
            else tag ++ writeNodes stop (i :: opened) rest

/-- The text directly behind a node. -/
def textAfter (i : Nat) : Text :=
  let stop := document.tree.stop i
  if document.tree.parent stop == document.tree.parent i then
    match document.tree.text? stop with
    | some (.comment, _) => []
    | some (_, value) => value
    | none => []
  else []

/-- The markup of a node, without the text behind it. -/
def markupInside (i : Nat) : Text :=
  document.writeNodes (document.tree.stop i) []
    (List.range' i (document.tree.stop i - i))

/-- The markup of a node, with the text behind it. -/
def markup (i : Nat) : Text := document.markupInside i ++ escape (document.textAfter i)

/-- The text of a node. -/
def textOf (i : Nat) : Text :=
  (document.tree.descendants i).flatMap fun j =>
    match document.tree.text? j with
    | some (.comment, _) => []
    | some (_, value) => value
    | none => []

end Document

end Mended

end RuleProbe
