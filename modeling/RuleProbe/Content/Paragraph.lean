import RuleProbe.Markup.Entity
import RuleProbe.Text.Letter
import RuleProbe.Text.Basic

/-!
# Paragraphs

The body of a chapter is shown as indented paragraphs, one a line.  Tags that end a
block end the paragraph, all other tags go, and so do scripts, styles and comments.
Blanks around a line break count as part of it.
-/

namespace RuleProbe

namespace Paragraph

/-- What stands before each paragraph. -/
def indent : Text := ['\u3000', '\u3000']

/-! ## Markup -/

/-- The length of a reference at the beginning of a text; zero when there is none. -/
def referenceLength (names : List Text) (text : Text) : Nat :=
  match names.find? fun name => Text.beginsFolded text name with
  | some name => name.length
  | none => 0

/-- The length of a run of the reference to a blank that does not break. -/
def hardBlankLength : Nat → Text → Nat
  | 0, _ => 0
  | fuel + 1, text =>
      let length := referenceLength ["&nbsp;".toList] text
      if length == 0 then 0 else length + hardBlankLength fuel (text.drop length)

/-- A replacement, unless nothing is replaced. -/
def replacing (value : Text) (length : Nat) : Option (Text × Nat) :=
  if length == 0 then none else some (value, length)

/-- Runs of blanks that do not break become one blank. -/
def softenBlanks : Text → Text :=
  Text.rewrite fun text => replacing [' '] (hardBlankLength text.length text)

/-- Wide blanks become blanks. -/
def narrowBlanks : Text → Text :=
  Text.rewrite fun text => replacing [' ']
    (referenceLength ["&ensp;".toList, "&emsp;".toList] text)

/-- A character that takes hardly any width. -/
def isThin (c : Char) : Bool := c == '\u2009' || c == '\u200c' || c == '\u200d'

/-- Characters without width go. -/
def dropThin : Text → Text :=
  Text.rewrite fun text =>
    replacing []
      (if text.head?.any isThin then 1
      else referenceLength ["&thinsp;".toList, "&zwnj;".toList, "&zwj;".toList] text)

/-- The length of a text up to the end of the first occurrence of `mark`; nothing when
there is none. -/
def lengthThrough? (mark text : Text) : Option Nat :=
  (Text.cut? mark text).map fun parts => parts.1.length + mark.length

/-- The length of a comment at the beginning of a text. -/
def commentLength (text : Text) : Nat :=
  let opening := "<!--".toList
  if text.startsWith opening then
    match lengthThrough? "-->".toList (text.drop opening.length) with
    | some length => opening.length + length
    | none => 0
  else 0

/-- Comments go. -/
def dropComments : Text → Text := Text.rewrite fun text => replacing [] (commentLength text)

/-- The length of a text up to the end of the first occurrence of `mark`, case aside. -/
def foldedLengthThrough? (mark : Text) : Text → Option Nat
  | [] => none
  | c :: rest =>
      if Text.beginsFolded (c :: rest) mark then some mark.length
      else (foldedLengthThrough? mark rest).map (· + 1)

/-- The length of an element of a name at the beginning of a text, up to its end tag. -/
def elementLength (name text : Text) : Nat :=
  let opening := '<' :: name
  if Text.beginsFolded text opening then
    match lengthThrough? ['>'] (text.drop opening.length) with
    | some tag =>
        let start := opening.length + tag
        match foldedLengthThrough? ("</".toList ++ name ++ ['>']) (text.drop start) with
        | some length => start + length
        | none => 0
    | none => 0
  else 0

/-- Scripts and styles go, with their content. -/
def dropScripts : Text → Text :=
  Text.rewrite fun text =>
    replacing [] (max (elementLength "script".toList text) (elementLength "style".toList text))

/-- A letter, a digit or an underscore. -/
def isWord (c : Char) : Bool := Letter.isWord c.toNat

/-- The name of a tag that ends a paragraph. -/
def endsParagraph (name : Text) : Bool :=
  (Text.splitOn [' '] "div p br hr article dd dl li section".toList).elem name ||
    match name with
    | ['h', c] => Letter.isDecimal c.toNat
    | _ => false

/-- The characters between an angle bracket, or one with a slash, and the rest. -/
def dropOpening (text : Text) : Option (Nat × Text) :=
  match text with
  | '<' :: '/' :: rest => some (2, rest)
  | '<' :: rest => some (1, rest)
  | _ => none

/-- The length of a tag at the beginning of a text that ends a paragraph. -/
def blockTagLength (text : Text) : Nat :=
  match dropOpening text with
  | none => 0
  | some (opening, rest) =>
      let name := rest.takeWhile isWord
      if endsParagraph (name.map Text.foldLetter) then
        match lengthThrough? ['>'] (rest.drop name.length) with
        | some length => opening + name.length + length
        | none => 0
      else 0

/-- Tags that end a paragraph become line breaks. -/
def breakBlocks : Text → Text := Text.rewrite fun text => replacing ['\n'] (blockTagLength text)

/-- A letter or a digit of the basic alphabet. -/
def isAlphanumeric (c : Char) : Bool :=
  Letter.isAsciiLetter c.toNat || Letter.isAsciiDigit c.toNat

/-- The length of a tag at the beginning of a text. -/
def tagLength (text : Text) : Nat :=
  match dropOpening text with
  | none => 0
  | some (opening, rest) =>
      if rest.head?.any fun c => Letter.isAsciiLetter c.toNat then
        let name := rest.takeWhile isAlphanumeric
        let after := rest.drop name.length
        let inside := after.takeWhile fun c => c != '<' && c != '>'
        let separated := after.head?.any fun c => Text.isBlank c || c == '/' || c == '>'
        if separated && (after.drop inside.length).head? == some '>' then
          opening + name.length + inside.length + 1
        else 0
      else 0

/-- Tags go. -/
def dropTags : Text → Text := Text.rewrite fun text => replacing [] (tagLength text)

/-! ## Line breaks -/

/-- What a run of blanks becomes, given last character first: with a line break in it,
a break and an indent. -/
def closeRun (run : Text) : Text := if run.elem '\n' then '\n' :: indent else run.reverse

/-- Reduce runs of blanks with a line break in them; `run` is the one in progress, last
character first. -/
def reduceBreaks : Text → Text → Text
  | run, [] => closeRun run
  | run, c :: rest =>
      if Text.isBlank c then reduceBreaks (c :: run) rest
      else closeRun run ++ c :: reduceBreaks [] rest

/-- Indent a text that begins with blanks. -/
def indentStart (text : Text) : Text :=
  if text.head?.any Text.isBlank then indent ++ text.trimLeft else text

/-! ## Formatting -/

/-- A page without its markup: tags that end a paragraph as line breaks, references
still in place. -/
def dropMarkup (page : Text) : Text :=
  dropTags (breakBlocks (dropScripts (dropComments (dropThin (narrowBlanks
    (softenBlanks page))))))

/-- A page as indented paragraphs, references still in place. -/
def layOut (page : Text) : Text := (indentStart (reduceBreaks [] (dropMarkup page))).trimRight

/-- A page as indented paragraphs, when its references can be read. -/
def ofPage (page : Text) : Text := Entity.decode (layOut page)

/-- A page as indented paragraphs. -/
def readPage (page : Text) : Except Fault Text := do
  Entity.check (layOut page)
  return ofPage page

/-- The paragraph of a line; nothing when it is blank. -/
def ofLine? (line : Text) : Option Text :=
  let line := line.trim
  if line.isEmpty then none
  else some (if line.startsWith indent then line else indent ++ line)

/-- The body of a chapter as indented paragraphs, blank ones left out, when its references
can be read. -/
def ofContent (content : Text) : Text :=
  Text.join ['\n'] ((Text.splitWhere (· == '\n') [] (ofPage content)).filterMap ofLine?)

/-- The body of a chapter as indented paragraphs, blank ones left out. -/
def readContent (content : Text) : Except Fault Text := do
  Entity.check (layOut content)
  return ofContent content

end Paragraph

end RuleProbe
