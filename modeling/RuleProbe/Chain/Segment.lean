import RuleProbe.Rule.Index
import RuleProbe.Text.Case

/-!
# Segments of chains

A chain is a list of segments separated by `@`.  A segment narrows a selection of
elements, and may end in an index; the last one may be an accessor, which reads a text
off each element.
-/

namespace RuleProbe

namespace Chain

/-- The segments of a chain, blank ones left out. -/
def split (chain : Text) : List Text :=
  ((Text.splitWhere (· == '@') [] chain).map Text.trim).filter fun part => !part.isEmpty

/-- The names that are always accessors. -/
def accessorNames : List Text := Text.words
  ("text textnodes owntext html innerhtml outerhtml all href src content alt title value"
    ).toList

/-- Names of elements, which are never read as attributes at the end of a chain. -/
def elementNames : List Text := Text.words
  ("a p b i em strong span div font small label ul ol li dl dt dd img table thead tbody tr "
    ++ "td th h1 h2 h3 h4 h5 h6 section article nav header footer main figure pre code "
    ++ "option select input button form body head meta link script style iframe picture "
    ++ "source video audio aside cite children").toList

/-- A letter followed by letters, digits, underscores and hyphens; a line feed may end
it. -/
def isPlainName (text : Text) : Bool :=
  match text with
  | c :: rest =>
      Letter.isAsciiLetter c.toNat &&
        match rest.dropWhile fun d => Letter.isWord d.toNat || d == '-' with
        | [] => true
        | ['\n'] => true
        | _ => false
  | [] => false

/-- A segment is an accessor.  At the end of a chain that is to give texts, any plain
name is the name of an attribute unless it is the name of an element. -/
def isAccessor (segment : Text) (endsScalarChain : Bool) : Bool :=
  let name := Text.lower segment
  accessorNames.elem name || Text.startsWith name "data-" ||
    (endsScalarChain && isPlainName segment && !elementNames.elem name)

/-- The segments of a chain without its accessor, and the accessor. -/
def splitAccessor (segments : List Text) (scalar : Bool) : List Text × Option Text :=
  match segments.getLast? with
  | none => ([], none)
  | some last =>
      if isAccessor last (scalar && 1 < segments.length) then (segments.dropLast, some last)
      else (segments, none)

/-! ## Indices -/

/-- Text without line breaks, a line feed at its end aside. -/
def isOneLine (text : Text) : Bool := !text.elem '\n'

/-- A segment without a line feed at its end. -/
def dropFeed (segment : Text) : Text :=
  if segment.endsWith ['\n'] then segment.dropLast else segment

/-- An index in brackets at the end of a segment, and what stands before it; a point
before the brackets belongs to neither. -/
def bracketIndex? (segment : Text) : Option (Text × Text) :=
  let segment := dropFeed segment
  if !Text.endsWith segment [']'] then none
  else
    let inside := (segment.dropLast.reverse.takeWhile fun c => c != '[' && c != ']').reverse
    let before := segment.take (segment.length - inside.length - 1)
    if !Text.endsWith before ['['] then none
    else
      let base := before.dropLast
      let base := if Text.endsWith base ['.'] && 1 < base.length then base.dropLast else base
      if base.isEmpty || !isOneLine base then none else some (base, inside)

/-- An index after the last point of a segment, and what stands before it. -/
def dotIndex? (segment : Text) : Option (Text × Text) :=
  let tail := (segment.reverse.takeWhile (· != '.')).reverse
  let base := segment.take (segment.length - tail.length - 1)
  if tail.isEmpty || tail.length == segment.length || base.isEmpty || !isOneLine base then none
  else some (base, tail)

/-- A character of an index after an exclamation mark. -/
def isMarkIndexChar (c : Char) : Bool :=
  c == '-' || c == ',' || c == ':' || Letter.isDecimal c.toNat

/-- An index after an exclamation mark, and what stands before it. -/
def markIndex? (segment : Text) : Option (Text × Text) :=
  let segment := dropFeed segment
  let tail := (segment.reverse.takeWhile isMarkIndexChar).reverse
  let before := segment.take (segment.length - tail.length)
  let base := before.dropLast
  if tail.isEmpty || !Text.endsWith before ['!'] || base.isEmpty || !isOneLine base then none
  else some (base, tail)

/-- A text without the brackets around it. -/
def dropBrackets (text : Text) : Text :=
  if text.startsWith ['['] && text.endsWith [']'] then (text.drop 1).dropLast else text

/-- The selector of a segment and its index. -/
def splitIndex (segment : Text) : Text × Option Text :=
  let accepted (found : Text × Text) : Bool := IndexExpression.recognises found.2
  match (bracketIndex? segment).filter accepted with
  | some (base, index) => (base, some index)
  | none =>
      match ((dotIndex? segment).map fun found => (found.1, dropBrackets found.2)).filter accepted with
      | some (base, index) => (base, some index)
      | none =>
          match (markIndex? segment).filter accepted with
          | some (base, index) => (base, some ('!' :: index))
          | none => (segment, none)

end Chain

end RuleProbe
