import RuleProbe.Json.Value
import RuleProbe.Numeral.Written

/-!
# Reading JSON texts

The grammar is that of JSON with the words `NaN`, `Infinity` and `-Infinity` as
numbers.  When an object repeats a key its last value counts, in the place of the
first.  Three things can be wrong with a text: it is malformed, it holds an integer
with too many digits, or its containers are nested too deeply.
-/

namespace RuleProbe

namespace Json

/-- Why a text could not be read as JSON. -/
inductive ReadError where
  /-- The text does not follow the grammar. -/
  | malformed
  /-- An integer has more digits than can be converted. -/
  | integerTooLong
  /-- Containers are nested too deeply. -/
  | tooDeep
  deriving DecidableEq, Inhabited

namespace Reader

/-- The deepest nesting of containers that can be read. -/
def depthLimit : Nat := 980

/-- A blank between tokens. -/
def isSpace (c : Char) : Bool := c == ' ' || c == '\t' || c == '\n' || c == '\r'

/-- Drop the blanks before a token. -/
def skipSpace (text : Text) : Text := text.dropWhile isSpace

/-- The value of a hexadecimal digit. -/
def hexDigit? (c : Char) : Option Nat :=
  let code := c.toNat
  if 48 ≤ code && code ≤ 57 then some (code - 48)
  else if 97 ≤ code && code ≤ 102 then some (code - 87)
  else if 65 ≤ code && code ≤ 70 then some (code - 55)
  else none

/-- The value of four hexadecimal digits, and the rest. -/
def readHex4 : Text → Option (Nat × Text)
  | a :: b :: c :: d :: rest => do
      let a ← hexDigit? a
      let b ← hexDigit? b
      let c ← hexDigit? c
      let d ← hexDigit? d
      some (((a * 16 + b) * 16 + c) * 16 + d, rest)
  | _ => none

/-- The character of an escape with a single letter. -/
def simpleEscape? : Char → Option Char
  | '"' => some '"'
  | '\\' => some '\\'
  | '/' => some '/'
  | 'b' => some '\x08'
  | 'f' => some '\x0c'
  | 'n' => some '\n'
  | 'r' => some '\r'
  | 't' => some '\t'
  | _ => none

/-- The high half of a surrogate pair. -/
def isHighSurrogate (code : Nat) : Bool := 0xd800 ≤ code && code ≤ 0xdbff

/-- The low half of a surrogate pair. -/
def isLowSurrogate (code : Nat) : Bool := 0xdc00 ≤ code && code ≤ 0xdfff

/-- The code point of a surrogate pair. -/
def joinSurrogates (high low : Nat) : Nat :=
  0x10000 + (high - 0xd800) * 0x400 + (low - 0xdc00)

/-- The code point of a `\u` escape, `first` being its number: two escapes that form
a surrogate pair are one code point. -/
def readUnicode (first : Nat) (rest : Text) : Nat × Text :=
  if isHighSurrogate first then
    match rest with
    | '\\' :: 'u' :: more =>
        match readHex4 more with
        | some (second, after) =>
            if isLowSurrogate second then (joinSurrogates first second, after)
            else (first, rest)
        | none => (first, rest)
    | _ => (first, rest)
  else (first, rest)

/-- A character by its code point, or the replacement character for half a pair. -/
def charOf (code : Nat) : Char :=
  if isHighSurrogate code || isLowSurrogate code then '\ufffd' else Char.ofNat code

/-- The characters of a string up to its closing quote, after those in `read`, which
stand last first. -/
def readChars : Nat → Text → Text → Except ReadError (Text × Text)
  | 0, _, _ => .error .malformed
  | fuel + 1, read, text =>
      match text with
      | [] => .error .malformed
      | '"' :: rest => .ok (read.reverse, rest)
      | '\\' :: 'u' :: rest =>
          match readHex4 rest with
          | none => .error .malformed
          | some (first, rest) =>
              let (code, rest) := readUnicode first rest
              readChars fuel (charOf code :: read) rest
      | '\\' :: c :: rest =>
          match simpleEscape? c with
          | none => .error .malformed
          | some c => readChars fuel (c :: read) rest
      | c :: rest =>
          if c.toNat < 32 || c == '\\' then .error .malformed
          else readChars fuel (c :: read) rest

/-- A string after its opening quote. -/
def readString (text : Text) : Except ReadError (Text × Text) := readChars (text.length + 1) [] text

/-- Digits of a whole part: a zero alone, or digits that do not begin with one. -/
def readWhole (text : Text) : Option (Text × Text) :=
  match text with
  | '0' :: rest => some (['0'], rest)
  | _ =>
      let (digits, rest) := Decimal.spanDigits text
      if digits.isEmpty then none else some (digits, rest)

/-- The fraction of a number, when one stands there. -/
def readFraction (text : Text) : Option (Text × Text) :=
  match text with
  | '.' :: rest =>
      let (digits, rest) := Decimal.spanDigits rest
      if digits.isEmpty then none else some (digits, rest)
  | _ => none

/-- An unsigned number. -/
def readUnsigned (negative : Bool) (text : Text) : Except ReadError (Json × Text) :=
  match readWhole text with
  | none => .error .malformed
  | some (whole, rest) =>
      let fraction := readFraction rest
      let afterFraction := (fraction.map (·.2)).getD rest
      let exponent := Decimal.readExponent afterFraction
      if fraction.isNone && exponent.isNone then
        if Integer.digitLimit < whole.length then .error .integerTooLong
        else
          let size : Int := Integer.readAscii whole
          .ok (.int (if negative then -size else size), rest)
      else
        let size := Decimal.ofParts whole ((fraction.map (·.1)).getD [])
          ((exponent.map (·.1)).getD 0)
        .ok (.float (if negative then -size else size),
          (exponent.map (·.2)).getD afterFraction)

/-- A value that is not a container: a word or a number. -/
def readScalar (text : Text) : Except ReadError (Json × Text) :=
  if let some rest := Text.dropStart? text "null" then .ok (.null, rest)
  else if let some rest := Text.dropStart? text "true" then .ok (.bool true, rest)
  else if let some rest := Text.dropStart? text "false" then .ok (.bool false, rest)
  else if let some rest := Text.dropStart? text "NaN" then
    .ok (.float (Float.ofBits 0x7ff8000000000000), rest)
  else if let some rest := Text.dropStart? text "Infinity" then
    .ok (.float (Float.ofBits 0x7ff0000000000000), rest)
  else if let some rest := Text.dropStart? text "-Infinity" then
    .ok (.float (Float.ofBits 0xfff0000000000000), rest)
  else
    match text with
    | '-' :: rest => readUnsigned true rest
    | _ => readUnsigned false text

mutual

/-- A value at the beginning of a text; `depth` containers are open around it. -/
def readValue : Nat → Nat → Text → Except ReadError (Json × Text)
  | 0, _, _ => .error .malformed
  | fuel + 1, depth, text =>
      match text with
      | '"' :: rest => do
          let (value, rest) ← readString rest
          .ok (.str value, rest)
      | '[' :: rest =>
          if depthLimit < depth then .error .tooDeep
          else
            match skipSpace rest with
            | ']' :: rest => .ok (.arr [], rest)
            | rest => do
                let (items, rest) ← readItems fuel (depth + 1) rest
                .ok (.arr items, rest)
      | '{' :: rest =>
          if depthLimit < depth then .error .tooDeep
          else
            match skipSpace rest with
            | '}' :: rest => .ok (.obj [], rest)
            | rest => do
                let (members, rest) ← readMembers fuel (depth + 1) [] rest
                .ok (.obj members, rest)
      | _ => readScalar text

/-- The items of an array up to its closing bracket. -/
def readItems : Nat → Nat → Text → Except ReadError (List Json × Text)
  | 0, _, _ => .error .malformed
  | fuel + 1, depth, text => do
      let (item, rest) ← readValue fuel depth text
      match skipSpace rest with
      | ']' :: rest => .ok ([item], rest)
      | ',' :: rest => do
          let (items, rest) ← readItems fuel depth (skipSpace rest)
          .ok (item :: items, rest)
      | _ => .error .malformed

/-- The members of an object up to its closing brace, after those already read. -/
def readMembers : Nat → Nat → Members → Text → Except ReadError (Members × Text)
  | 0, _, _, _ => .error .malformed
  | fuel + 1, depth, read, text =>
      match text with
      | '"' :: rest => do
          let (key, rest) ← readString rest
          match skipSpace rest with
          | ':' :: rest => do
              let (value, rest) ← readValue fuel depth (skipSpace rest)
              let read := Keyed.put read key value
              match skipSpace rest with
              | '}' :: rest => .ok (read, rest)
              | ',' :: rest => readMembers fuel depth read (skipSpace rest)
              | _ => .error .malformed
          | _ => .error .malformed
      | _ => .error .malformed

end

end Reader

/-- Read the one value that a text holds, blanks around it aside. -/
def read (text : Text) : Except ReadError Json := do
  let (value, rest) ← Reader.readValue (2 * text.length + 2) 0 (Reader.skipSpace text)
  if (Reader.skipSpace rest).isEmpty then .ok value else .error .malformed

end Json

end RuleProbe
