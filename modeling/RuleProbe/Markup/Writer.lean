import RuleProbe.Markup.Reader

/-!
# Writing pages

The markup of a node names the attributes of an element in alphabetical order.  Angle
brackets and ampersands are written by name, but for the content of scripts and styles,
and a declared charset is written as the one in which pages are handled.  The text of a
node leaves out comments, and text that is kept apart unless the node keeps it.
-/

namespace RuleProbe

namespace Markup

/-! ## Attributes -/

/-- The attributes that hold a list of words in the elements of a name. -/
def wordAttributes (name : Text) : List String :=
  let specific :=
    match String.ofList name with
    | "a" => ["rel", "rev"]
    | "link" => ["rel", "rev"]
    | "td" => ["headers"]
    | "th" => ["headers"]
    | "form" => ["accept-charset"]
    | "object" => ["archive"]
    | "area" => ["rel"]
    | "icon" => ["sizes"]
    | "iframe" => ["sandbox"]
    | "output" => ["for"]
    | _ => []
  ["class", "accesskey", "dropzone"] ++ specific

/-- An attribute holds a list of words. -/
def isWordAttribute (element key : Text) : Bool :=
  (wordAttributes element).any fun name => name.toList == key

/-- The value of an attribute as it counts: words are separated by single blanks. -/
def attributeText (element key value : Text) : Text :=
  if isWordAttribute element key then Text.join [' '] (Text.words value) else value

/-- The charset in which pages are handled. -/
def pageCharset : Text := "utf-8".toList

/-- Skip what belongs to the value of a parameter. -/
def dropParameter (text : Text) : Text := text.dropWhile fun c => c != ';'

/-- A content type with its charsets replaced by the one in which pages are handled.
A charset stands at the beginning of a line, after a blank or after a semicolon;
`fuel` bounds the number of characters. -/
def replaceCharset : Nat → Bool → Text → Text
  | 0, _, text => text
  | _, _, [] => []
  | fuel + 1, atStart, c :: rest =>
      let mark := "charset=".toList
      if atStart && Text.startsWith (c :: rest) mark then
        mark ++ pageCharset ++ replaceCharset fuel false
          (dropParameter ((c :: rest).drop mark.length))
      else c :: replaceCharset fuel (c == ';' || Text.isBlank c) rest

/-- The value of an attribute as it is written.  The charset that a page declares is
replaced by the one in which pages are handled. -/
def writtenValue (element : Text) (attributes : Keyed Text) (key value : Text) : Text :=
  if element == "meta".toList then
    if Keyed.has attributes "charset" then
      if key == "charset".toList then pageCharset else attributeText element key value
    else
      let declares := ((Keyed.get? attributes "http-equiv").map Text.lower) ==
        some "content-type".toList
      if declares && key == "content".toList then
        replaceCharset (value.length + 1) true value
      else attributeText element key value
  else attributeText element key value

/-- Angle brackets and ampersands by name. -/
def escape (text : Text) : Text :=
  text.flatMap fun c =>
    if c == '&' then "&amp;".toList
    else if c == '<' then "&lt;".toList
    else if c == '>' then "&gt;".toList
    else [c]

/-- A value between the quotation marks that suit it. -/
def quote (value : Text) : Text :=
  if !value.elem '"' then '"' :: value ++ ['"']
  else if !value.elem '\'' then '\'' :: value ++ ['\'']
  else '"' :: Text.replaceAll ['"'] "&quot;".toList value ++ ['"']

/-- Texts in the order of their characters. -/
def precedes : Text → Text → Bool
  | [], _ => true
  | _, [] => false
  | a :: as, b :: bs => if a == b then precedes as bs else a.toNat < b.toNat

/-- Attributes as they are written. -/
def writeAttributes (element : Text) (attributes : Keyed Text) : Text :=
  let sorted := attributes.mergeSort fun a b => precedes a.1 b.1
  sorted.flatMap fun entry =>
    let value := writtenValue element attributes entry.1 entry.2
    ' ' :: entry.1 ++ ['='] ++ quote (escape value)

/-! ## Nodes -/

/-- A run of characters as it is written inside an element. -/
def writeText (parent : Text) (kind : TextKind) (value : Text) : Text :=
  match kind with
  | .plain => if Token.isRawName parent then value else escape value
  | .enclosed _ => if Token.isRawName parent then value else escape value
  | .cdata => "<![CDATA[".toList ++ value ++ "]]>".toList
  | .comment => "<!--".toList ++ value ++ "-->".toList
  | .doctype => "<!DOCTYPE ".toList ++ value ++ ">\n".toList
  | .declaration => "<?".toList ++ value ++ "?>".toList
  | .instruction => "<?".toList ++ value ++ ">".toList

namespace Tree

variable (tree : Tree)

/-- The end tags of the open elements that end before a position, innermost first, and
the elements that stay open. -/
def closeBefore (i : Nat) : List Nat → Text × List Nat
  | [] => ([], [])
  | j :: rest =>
      if tree.stop j ≤ i then
        let (text, left) := closeBefore i rest
        ("</".toList ++ (tree.name? j).getD [] ++ '>' :: text, left)
      else ([], j :: rest)

/-- The markup of nodes in document order.  `opened` are the open elements, innermost
first, `skipped` tells where the last element that is left out ends, and `stop` is
where the last node ends. -/
def writeNodes (leaveOut : Text → Bool) (stop : Nat) : Nat → List Nat → List Nat → Text
  | _, opened, [] => (tree.closeBefore stop opened).1
  | skipped, opened, i :: rest =>
      if i < skipped then writeNodes leaveOut stop skipped opened rest
      else
        let (ends, opened) := tree.closeBefore i opened
        ends ++
          match tree.content i with
          | .root => writeNodes leaveOut stop skipped opened rest
          | .text kind value =>
              writeText ((tree.name? (tree.parent i)).getD []) kind value ++
                writeNodes leaveOut stop skipped opened rest
          | .element name attributes =>
              if leaveOut name then writeNodes leaveOut stop (tree.stop i) opened rest
              else
                let tag := '<' :: name ++ writeAttributes name attributes
                let isEmpty := (tree.children i).all fun j =>
                  ((tree.name? j).map leaveOut).getD false
                if isEmpty && isVoidName name then
                  tag ++ "/>".toList ++ writeNodes leaveOut stop skipped opened rest
                else
                  tag ++ '>' :: writeNodes leaveOut stop skipped (i :: opened) rest

/-- The markup of a node. -/
def markup (i : Nat) : Text :=
  tree.writeNodes (fun _ => false) (tree.stop i) 0 []
    (List.range' i (tree.stop i - i))

/-- The markup of a child without scripts and styles.  A run of characters stands for
itself. -/
def readableMarkup (i : Nat) : Text :=
  match tree.text? i with
  | some (_, value) => value
  | none =>
      tree.writeNodes Token.isRawName (tree.stop i) 0 []
        (List.range' i (tree.stop i - i))

/-- The markup inside a node, without scripts and styles. -/
def innerMarkup (i : Nat) : Text :=
  Text.trim ((tree.children i).flatMap tree.readableMarkup)

/-- The kinds of text that belong to the text of a node. -/
def countsFor (i : Nat) (kind : TextKind) : Bool :=
  match (tree.name? i).filter fun name => enclosingNames.elem name with
  | some name => kind == .enclosed name
  | none => kind == .plain || kind == .cdata

/-- The text of a node. -/
def textOf (i : Nat) : Text :=
  (tree.descendants i).flatMap fun j =>
    match tree.text? j with
    | some (kind, value) => if tree.countsFor i kind then value else []
    | none => []

/-- The runs of plain text directly inside a node. -/
def ownTexts (i : Nat) : List Text :=
  (tree.children i).filterMap fun j =>
    match tree.text? j with
    | some (.plain, value) => some value
    | _ => none

/-- The value of an attribute of an element. -/
def attribute? (i : Nat) (key : Text) : Option Text :=
  (Keyed.get? (tree.attributes i) key).map fun value =>
    attributeText ((tree.name? i).getD []) key value

/-- The classes of an element. -/
def classes (i : Nat) : List Text :=
  match Keyed.get? (tree.attributes i) "class" with
  | some value => Text.words value
  | none => []

/-- The first body element below a node. -/
def body? (i : Nat) : Option Nat :=
  (tree.elements i).find? fun j => tree.name? j == some "body".toList

end Tree

end Markup

end RuleProbe
