import RuleProbe.Text.Letter

/-!
# Quoted texts

A message that names a text quotes it.  Single quotes are used unless the text
holds a single quote and no double quote.  The quote, the backslash and characters
that do not print are escaped.
-/

namespace RuleProbe

namespace Quoted

/-- A number in at least `width` hexadecimal digits. -/
def hex (width : Nat) (n : Nat) : Text :=
  let digits := Nat.toDigits 16 n
  List.replicate (width - digits.length) '0' ++ digits

/-- One character inside quotes of the given kind. -/
def escape (quote : Char) (c : Char) : Text :=
  if c == quote || c == '\\' then ['\\', c]
  else if c == '\n' then ['\\', 'n']
  else if c == '\r' then ['\\', 'r']
  else if c == '\t' then ['\\', 't']
  else if Letter.isPrintable c.toNat then [c]
  else if c.toNat < 0x100 then '\\' :: 'x' :: hex 2 c.toNat
  else if c.toNat < 0x10000 then '\\' :: 'u' :: hex 4 c.toNat
  else '\\' :: 'U' :: hex 8 c.toNat

/-- The quote for a text: single, unless only double quotes avoid an escape. -/
def quoteFor (text : Text) : Char :=
  if text.elem '\'' && !text.elem '"' then '"' else '\''

/-- A text in quotes. -/
def write (text : Text) : Text :=
  let quote := quoteFor text
  quote :: text.flatMap (escape quote) ++ [quote]

end Quoted

end RuleProbe
