import RuleProbe.Text.Basic

/-!
# Blanks and line breaks

The blank characters of Unicode decide what trimming removes, what `\s` matches
and where words end.  Line breaks are a class of their own: a text falls into
lines at each of them, and a carriage return joins a following line feed.
-/

namespace RuleProbe

namespace Blank

/-- A blank character. -/
def isBlankCode (code : Nat) : Bool :=
  if code < 128 then (9 ≤ code && code ≤ 13) || (28 ≤ code && code ≤ 32)
  else code == 0x85 || code == 0xa0 || code == 0x1680 ||
    (0x2000 ≤ code && code ≤ 0x200a) || code == 0x2028 || code == 0x2029 ||
    code == 0x202f || code == 0x205f || code == 0x3000

/-- A character at which a line ends. -/
def isBreakCode (code : Nat) : Bool :=
  (10 ≤ code && code ≤ 13) || (28 ≤ code && code ≤ 30) || code == 0x85 ||
    code == 0x2028 || code == 0x2029

end Blank

namespace Text

/-- A blank character. -/
def isBlank (c : Char) : Bool := Blank.isBlankCode c.toNat

/-- A character at which a line ends. -/
def isBreak (c : Char) : Bool := Blank.isBreakCode c.toNat

/-- Drop the blanks around a text. -/
def trim (text : Text) : Text := trimWhere isBlank text

/-- Drop the blanks before a text. -/
def trimLeft (text : Text) : Text := trimLeftWhere isBlank text

/-- Drop the blanks after a text. -/
def trimRight (text : Text) : Text := trimRightWhere isBlank text

/-- The text holds nothing but blanks. -/
def isBlankText (text : Text) : Bool := text.all isBlank

/-- The lines of a text, `line` being the one in progress, last character first. -/
def linesAux : Text → Text → List Text
  | [], [] => []
  | line, [] => [line.reverse]
  | line, '\r' :: '\n' :: rest => line.reverse :: linesAux [] rest
  | line, c :: rest =>
      if isBreak c then line.reverse :: linesAux [] rest else linesAux (c :: line) rest

/-- The lines of a text, without their breaks; a final break opens no line. -/
def lines (text : Text) : List Text := linesAux [] text

/-- The words of a text: its longest runs without blanks. -/
def words (text : Text) : List Text :=
  (splitWhere isBlank [] text).filter fun word => !word.isEmpty

end Text

end RuleProbe
