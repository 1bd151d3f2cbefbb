import RuleProbe.Json.Value
import RuleProbe.Numeral.Double
import RuleProbe.Script.Token

/-!
# Numbers of scripts

How numbers are written and read, rounded to fixed places, and cut to words of
thirty-two bits.
-/

namespace RuleProbe

namespace Script

namespace Number

open Exact

/-- Numbers as texts: positional from a millionth to below ten to the twenty-first. -/
def layout : FloatLayout :=
  { positionalFrom := -6
    positionalBelow := 21
    fraction := false
    exponentDigits := 1
    signedZero := false
    infinity := "Infinity"
    notANumber := "NaN" }

/-- The text of a number. -/
def write (x : Float) : Text := layout.write x

/-- A blank around a written number. -/
def isBlank (c : Char) : Bool := Token.isSpace c || Token.isLineBreak c

/-- Read an unsigned number at the beginning of a text, a word for infinity included. -/
def readUnsigned? (text : Text) : Option (Float × Text) :=
  match Text.dropStart? text "Infinity" with
  | some rest => some (infinity, rest)
  | none => Decimal.readPrefix? text

/-- Read a number with its sign at the beginning of a text. -/
def readSigned? : Text → Option (Float × Text)
  | '-' :: rest => (readUnsigned? rest).map fun found => (-found.1, found.2)
  | '+' :: rest => readUnsigned? rest
  | text => readUnsigned? text

/-- The number that a whole text writes, blanks around it aside. -/
def read (text : Text) : Float :=
  let text := Text.trimWhere isBlank text
  let based (base : Nat) (rest : Text) : Float :=
    match Token.readBased? base rest with
    | some (value, []) => value
    | _ => nan
  match text with
  | [] => 0
  | '0' :: 'x' :: rest => based 16 rest
  | '0' :: 'X' :: rest => based 16 rest
  | '0' :: 'o' :: rest => based 8 rest
  | '0' :: 'O' :: rest => based 8 rest
  | '0' :: 'b' :: rest => based 2 rest
  | '0' :: 'B' :: rest => based 2 rest
  | text =>
      match readSigned? text with
      | some (value, []) => value
      | _ => nan

/-- The number at the beginning of a text, blanks before it aside. -/
def readLeading (text : Text) : Float :=
  match readSigned? (Text.trimLeftWhere isBlank text) with
  | some (value, _) => value
  | none => nan

/-- The integer at the beginning of a text in a base; base zero stands for ten, or
sixteen after its mark. -/
def readInteger (text : Text) (base : Int) : Float :=
  let text := Text.trimLeftWhere isBlank text
  let (negative, text) : Bool × Text :=
    match text with
    | '-' :: rest => (true, rest)
    | '+' :: rest => (false, rest)
    | text => (false, text)
  if base != 0 && (base < 2 || 36 < base) then nan
  else
    let (base, text) : Nat × Text :=
      if base == 0 || base == 16 then
        match text with
        | '0' :: 'x' :: rest => (16, rest)
        | '0' :: 'X' :: rest => (16, rest)
        | text => (if base == 0 then 10 else 16, text)
      else (base.toNat, text)
    let (digits, _) := Token.spanDigits base text
    if digits.isEmpty then nan
    else
      let size := Decimal.toFloat (Token.numberIn base digits) 0
      if negative then -size else size

/-- A number without its fraction. -/
def truncate (x : Float) : Float := if isNegative x then x.ceil else x.floor

/-- The integer of a number without its fraction; zero for what is not finite. -/
def toInt (x : Float) : Int :=
  if x.isFinite then Json.integralValue (truncate x) else 0

/-- A number as a word of thirty-two bits. -/
def toWord (x : Float) : UInt32 :=
  if x.abs < 4611686018427387904.0 then x.toInt64.toUInt64.toUInt32
  else UInt32.ofNat ((toInt x) % 4294967296).toNat

/-- A word as a signed number. -/
def ofSigned (word : UInt32) : Float :=
  if word < 0x80000000 then word.toNat.toFloat else -(4294967296 - word.toNat).toFloat

/-- A word as an unsigned number. -/
def ofUnsigned (word : UInt32) : Float := word.toNat.toFloat

/-- A power. -/
def power (x y : Float) : Float :=
  if y.isNaN then nan
  else if y == 0 then 1
  else if y.isInf && x.abs == 1 then nan
  else Float.pow x y

/-- The sign of a number that is not a zero. -/
def signText (x : Float) : Text := if x < 0 then ['-'] else []

/-- A number with a fixed count of places. -/
def writeFixed (x : Float) (places : Nat) : Text :=
  if !x.isFinite || 1e21 ≤ x.abs then write x
  else signText x ++ withPoint (Integer.writeNat (roundedUnits x places)) places

/-- A number in exponential notation with a count of places, or as many as needed. -/
def writeExponential (x : Float) (places : Option Nat) : Text :=
  if !x.isFinite then write x
  else
    match places with
    | some places =>
        let (exponent, digits) := roundedDigits x (places + 1)
        signText x ++ exponential digits exponent
    | none =>
        let found := Shortest.ofBits (x.toBits.toNat % Nat.pow 2 63)
        signText x ++ exponential found.digits found.exponent

/-- A number with a count of significant digits. -/
def writePrecision (x : Float) (count : Nat) : Text :=
  if !x.isFinite then write x
  else
    let (exponent, digits) := roundedDigits x count
    if exponent < -6 || (count : Int) ≤ exponent then signText x ++ exponential digits exponent
    else if exponent < 0 then
      signText x ++ ['0', '.'] ++ List.replicate (-exponent - 1).toNat '0' ++ digits
    else signText x ++ withPoint digits (count - 1 - exponent.toNat)

/-- Digits of a fraction in a base, at most so many. -/
def fractionDigits (base : Nat) : Nat → Float → Text
  | 0, _ => []
  | count + 1, x =>
      if x == 0 then []
      else
        let scaled := x * Float.ofNat base
        let digit := scaled.floor
        (Integer.digitsIn base digit.toUInt64.toNat) ++ fractionDigits base count (scaled - digit)

/-- The text of a number in a base. -/
def writeIn (base : Nat) (x : Float) : Text :=
  if base == 10 || !x.isFinite then write x
  else
    let size := x.abs
    let whole := size.floor
    let front := Integer.digitsIn base (Json.integralValue whole).toNat
    let back := fractionDigits base 52 (size - whole)
    signText x ++ front ++ (if back.isEmpty then [] else '.' :: back)

end Number

end Script

end RuleProbe
