import RuleProbe.Json.Value
import RuleProbe.Numeral.Double
import RuleProbe.Text.Quoted

/-!
# JSON texts of values

A value is written on one line, with a blank after each comma and colon, or
indented with one item a line.  Characters outside ASCII stand for themselves.
-/

namespace RuleProbe

namespace Json

/-- Floating-point numbers in JSON texts and fields: positional from `0.0001` to
below ten to the sixteenth, with a fraction throughout. -/
def floatLayout : FloatLayout :=
  { positionalFrom := -4
    positionalBelow := 16
    fraction := true
    exponentDigits := 2
    signedZero := true
    infinity := "Infinity"
    notANumber := "NaN" }

/-- One character of a JSON string. -/
def escapeChar (c : Char) : Text :=
  if c == '"' then ['\\', '"']
  else if c == '\\' then ['\\', '\\']
  else if c == '\n' then ['\\', 'n']
  else if c == '\r' then ['\\', 'r']
  else if c == '\t' then ['\\', 't']
  else if c == '\x0c' then ['\\', 'f']
  else if c == '\x08' then ['\\', 'b']
  else if c.toNat < 32 then '\\' :: 'u' :: Quoted.hex 4 c.toNat
  else [c]

/-- A JSON string. -/
def writeString (text : Text) : Text := '"' :: text.flatMap escapeChar ++ ['"']

/-- Where the breaks between the items of a container go. -/
inductive Layout where
  /-- All on one line. -/
  | compact
  /-- One item a line, indented by this many blanks. -/
  | indented (depth : Nat)

namespace Layout

/-- The layout inside a container. -/
def inner : Layout → Layout
  | compact => compact
  | indented depth => indented (depth + 2)

/-- What stands between an opening bracket and the first item, or before the
closing one. -/
def lineBreak : Layout → Text
  | compact => []
  | indented depth => '\n' :: List.replicate depth ' '

/-- What stands between two items. -/
def separator : Layout → Text
  | compact => [',', ' ']
  | indented depth => ',' :: '\n' :: List.replicate depth ' '

end Layout

mutual

/-- The JSON text of a value. -/
def write (layout : Layout) : Json → Text
  | .null => "null"
  | .bool true => "true"
  | .bool false => "false"
  | .int value => Integer.write value
  | .float value => floatLayout.write value
  | .str value => writeString value
  | .arr items =>
      if items.isEmpty then "[]"
      else '[' :: layout.inner.lineBreak ++ writeItems layout.inner true items ++
        layout.lineBreak ++ [']']
  | .obj members =>
      if members.isEmpty then ['{', '}']
      else '{' :: layout.inner.lineBreak ++ writeMembers layout.inner true members ++
        layout.lineBreak ++ ['}']
  termination_by structural value => value

/-- Items with separators before all but the first. -/
def writeItems (layout : Layout) (first : Bool) : List Json → Text
  | [] => []
  | item :: rest =>
      (if first then [] else layout.separator) ++ write layout item ++
        writeItems layout false rest
  termination_by structural items => items

/-- Members with separators before all but the first. -/
def writeMembers (layout : Layout) (first : Bool) : List (Text × Json) → Text
  | [] => []
  | member :: rest =>
      (if first then [] else layout.separator) ++ writeMember layout member ++
        writeMembers layout false rest
  termination_by structural members => members

/-- A key and its value. -/
def writeMember (layout : Layout) : Text × Json → Text
  | (key, value) => writeString key ++ [':', ' '] ++ write layout value
  termination_by structural member => member

end

/-- The JSON text of a value on one line. -/
def toJsonText (value : Json) : Text := write .compact value

/-- The JSON text of a value, indented. -/
def toIndentedText (value : Json) : Text := write (.indented 0) value

/-- Floating-point numbers outside JSON texts: as inside, except for the words. -/
def plainFloatLayout : FloatLayout :=
  { floatLayout with infinity := "inf", notANumber := "nan" }

mutual

/-- The notation of a value inside another: quoted strings and capitalised words. -/
def inspect : Json → Text
  | .null => "None"
  | .bool true => "True"
  | .bool false => "False"
  | .int value => Integer.write value
  | .float value => plainFloatLayout.write value
  | .str value => Quoted.write value
  | .arr items => '[' :: inspectItems true items ++ [']']
  | .obj members => '{' :: inspectMembers true members ++ ['}']
  termination_by structural value => value

/-- Items with separators before all but the first. -/
def inspectItems (first : Bool) : List Json → Text
  | [] => []
  | item :: rest =>
      (if first then [] else [',', ' ']) ++ inspect item ++ inspectItems false rest
  termination_by structural items => items

/-- Members with separators before all but the first. -/
def inspectMembers (first : Bool) : List (Text × Json) → Text
  | [] => []
  | member :: rest =>
      (if first then [] else [',', ' ']) ++ inspectMember member ++
        inspectMembers false rest
  termination_by structural members => members

/-- A key and its value. -/
def inspectMember : Text × Json → Text
  | (key, value) => Quoted.write key ++ [':', ' '] ++ inspect value
  termination_by structural member => member

end

/-- A value as plain text: a string as itself, anything else inspected. -/
def display : Json → Text
  | .str value => value
  | value => inspect value

/-- A value as the text of a field: nothing for null, a number without an empty
fraction, and JSON for containers. -/
def fieldText : Json → Text
  | .null => []
  | .bool true => "true"
  | .bool false => "false"
  | .int value => Integer.write value
  | .float value =>
      if isIntegral value then Integer.write (integralValue value)
      else plainFloatLayout.write value
  | .str value => value
  | value => toJsonText value

end Json

/-!
## Previews

A value in a log is shown on one line, and cut when it is long.
-/

/-- The items up to a limit; a negative limit counts from the end. -/
def takeUpTo {α : Type} (limit : Int) (items : List α) : List α :=
  if 0 ≤ limit then items.take limit.toNat
  else items.take (items.length - limit.natAbs)

namespace Json

/-- The number of characters that a preview shows unless another is given. -/
def previewLimit : Int := 80

/-- A text on one line, with an ellipsis when there is more of it. -/
def previewText (limit : Int) (text : Text) : Text :=
  let line := text.map fun c => if c == '\n' then ' ' else c
  if (line.length : Int) ≤ limit then line else takeUpTo limit line ++ ['…']

/-- The preview of a value. -/
def preview (limit : Int) (value : Json) : Text := previewText limit value.fieldText

end Json

end RuleProbe
