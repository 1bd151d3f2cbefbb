/-!
# Texts

A text is a list of characters.  This module holds the cutting, trimming and
joining operations that every notation of the library is read with.  Each one
recurses on the text itself, so that facts about it follow by induction.
-/

namespace RuleProbe

/-- A text: a list of characters. -/
abbrev Text := List Char

instance : Coe String Text := ⟨String.toList⟩

namespace Text

/-- `text` begins with `start`. -/
def startsWith (text start : Text) : Bool := start.isPrefixOf text

/-- `text` ends with `ending`. -/
def endsWith (text ending : Text) : Bool := ending.isSuffixOf text

/-- `text` begins with one of `starts`. -/
def startsWithAny (text : Text) (starts : List Text) : Bool :=
  starts.any fun start => text.startsWith start

/-- Remove `start` from the beginning of `text`, when it is there. -/
def dropStart? (text start : Text) : Option Text :=
  if text.startsWith start then some (text.drop start.length) else none

/-- Cut `text` at the first occurrence of `mark`: what stands before it, given
as reversed accumulator, and what stands after it. -/
def cutAux (mark : Text) : Text → Text → Option (Text × Text)
  | before, [] => if mark.isEmpty then some (before.reverse, []) else none
  | before, c :: rest =>
      if mark.isPrefixOf (c :: rest) then
        some (before.reverse, (c :: rest).drop mark.length)
      else cutAux mark (c :: before) rest

/-- Cut `text` at the first occurrence of `mark`, which belongs to neither part. -/
def cut? (mark text : Text) : Option (Text × Text) := cutAux mark [] text

/-- `mark` occurs in `text`. -/
def contains (text mark : Text) : Bool := (cut? mark text).isSome

/-- The parts of a text between the occurrences of `mark`.  The counter tells how
many characters of the last occurrence are still to be skipped, and `part` is the
current part, last character first. -/
def splitAux (mark : Text) : Nat → Text → Text → List Text
  | _, part, [] => [part.reverse]
  | skip + 1, part, _ :: rest => splitAux mark skip part rest
  | 0, part, c :: rest =>
      if mark.isPrefixOf (c :: rest) then
        part.reverse :: splitAux mark (mark.length - 1) [] rest
      else splitAux mark 0 (c :: part) rest

/-- The parts of `text` between the occurrences of the non-empty `mark`, found
from left to right without overlap. -/
def splitOn (mark text : Text) : List Text := splitAux mark 0 [] text

/-- The parts of a text between the characters that satisfy `isMark`. -/
def splitWhere (isMark : Char → Bool) : Text → Text → List Text
  | part, [] => [part.reverse]
  | part, c :: rest =>
      if isMark c then part.reverse :: splitWhere isMark [] rest
      else splitWhere isMark (c :: part) rest

/-- The parts of `text` joined by `mark`. -/
def join (mark : Text) (parts : List Text) : Text := mark.intercalate parts

/-- `text` with each occurrence of the non-empty `old` replaced by `new`. -/
def replaceAll (old new text : Text) : Text := join new (splitOn old text)

/-- Drop the leading characters that satisfy `drop`. -/
def trimLeftWhere (drop : Char → Bool) (text : Text) : Text := text.dropWhile drop

/-- Drop the trailing characters that satisfy `drop`. -/
def trimRightWhere (drop : Char → Bool) (text : Text) : Text :=
  (text.reverse.dropWhile drop).reverse

/-- Drop the leading and trailing characters that satisfy `drop`. -/
def trimWhere (drop : Char → Bool) (text : Text) : Text :=
  trimRightWhere drop (trimLeftWhere drop text)

/-- Drop the quotation marks around a text. -/
def trimQuotes (text : Text) : Text := trimWhere (fun c => c == '"' || c == '\'') text

/-- The first `limit` characters, followed by an ellipsis when there are more. -/
def shorten (limit : Nat) (text : Text) : Text :=
  if text.length ≤ limit then text else text.take limit ++ ['…']

/-- The index of the first occurrence of `mark` in `text` at or after `start`. -/
def indexFrom? (mark text : Text) (start : Nat) : Option Nat :=
  if text.length < start then none
  else (cut? mark (text.drop start)).map fun parts => start + parts.1.length

end Text

/-!
## Rewriting texts

A text is rewritten from left to right: wherever a rule finds something, what it finds
is replaced, and the search goes on behind it.
-/

namespace Text

/-- The letter of the basic alphabet that a character stands for, case aside; other
characters stand for themselves. -/
def foldLetter (c : Char) : Char :=
  if 65 ≤ c.toNat && c.toNat ≤ 90 then Char.ofNat (c.toNat + 32)
  else if c.toNat == 0x130 || c.toNat == 0x131 then 'i'
  else if c.toNat == 0x17f then 's'
  else if c.toNat == 0x212a then 'k'
  else c

/-- `text` begins with `start`, which is written in small letters, case aside. -/
def beginsFolded (text start : Text) : Bool :=
  start.isPrefixOf ((text.take start.length).map foldLetter)

/-- Rewrite a text, skipping `skip` characters of the last match. -/
def rewriteAux (find : Text → Option (Text × Nat)) : Nat → Text → Text
  | _, [] => []
  | skip + 1, _ :: rest => rewriteAux find skip rest
  | 0, c :: rest =>
      match find (c :: rest) with
      | some (value, length + 1) => value ++ rewriteAux find length rest
      | _ => c :: rewriteAux find 0 rest

/-- A text with everything that `find` finds replaced.  Given the text from some
position on, `find` tells what replaces its beginning, and how long that is. -/
def rewrite (find : Text → Option (Text × Nat)) (text : Text) : Text := rewriteAux find 0 text

end Text

end RuleProbe
