import RuleProbe.Text.Blank
import RuleProbe.Text.Letter

/-!
# Written numbers

Numbers are read from texts, and integers are written as texts.
-/

namespace RuleProbe

/-!
## Written integers

An integer is written in decimal digits without leading zeros, after a minus
sign when it is negative.  Reading is more generous: blanks around the number, a
sign, decimal digits of any script and single underscores between digits are all
accepted, up to a limit on the number of digits.
-/

namespace Integer

/-- The digits of a natural number in a base up to 36. -/
def digitsIn (base : Nat) (n : Nat) : Text :=
  (Nat.toDigits base n).map fun c => if c == '*' then 'z' else c

/-- A natural number in decimal digits. -/
def writeNat (n : Nat) : Text := Nat.toDigits 10 n

/-- An integer in decimal digits. -/
def write (n : Int) : Text :=
  match n with
  | .ofNat m => writeNat m
  | .negSucc m => '-' :: writeNat (m + 1)

/-- The most digits that a written integer may have. -/
def digitLimit : Nat := 4300

/-- Read decimal digits with single underscores between them into `value`.  The
flag tells that a digit stands directly before. -/
def readDigits : Bool → Nat → Text → Option Nat
  | afterDigit, value, [] => if afterDigit then some value else none
  | afterDigit, value, c :: rest =>
      if c == '_' then
        if afterDigit then readDigits false value rest else none
      else
        match Letter.decimalValue? c.toNat with
        | some digit => readDigits true (value * 10 + digit) rest
        | none => none

/-- Read digits that begin with a digit. -/
def readUnsigned (text : Text) : Option Nat :=
  if digitLimit < (text.filter fun c => c != '_').length then none
  else readDigits false 0 text

/-- Read an integer from a text without blanks around it. -/
def readSigned : Text → Option Int
  | '-' :: rest => (readUnsigned rest).map fun n => -(n : Int)
  | '+' :: rest => (readUnsigned rest).map fun n => (n : Int)
  | text => (readUnsigned text).map fun n => (n : Int)

/-- Read an integer, blanks around it aside. -/
def read? (text : Text) : Option Int := readSigned text.trim

/-- Read plain ASCII digits into a number. -/
def readAscii (text : Text) : Nat :=
  text.foldl (fun value c => value * 10 + (c.toNat - 48)) 0

end Integer

/-!
## Written decimal numbers

A decimal number has an integer part, a fraction and an exponent, of which some
may be missing.  Reading one gives the nearest floating-point number.
-/

namespace Decimal

/-- The longest prefix of ASCII digits, and the rest. -/
def spanDigits (text : Text) : Text × Text :=
  text.span fun c => Letter.isAsciiDigit c.toNat

/-- The number `digits * 10 ^ exponent`, rounded to the nearest double. -/
def toFloat (digits : Nat) (exponent : Int) : Float :=
  if digits == 0 then 0
  else if exponent < -400 - (Nat.log2 digits : Int) then 0
  else if 400 < exponent then Float.ofBits 0x7ff0000000000000
  else Float.ofScientific digits (decide (exponent < 0)) exponent.natAbs

/-- The double nearest to a number given by the digits of its whole part, those of
its fraction, and an exponent of ten. -/
def ofParts (whole fraction : Text) (exponent : Int) : Float :=
  toFloat (Integer.readAscii (whole ++ fraction)) (exponent - (fraction.length : Int))

/-- An exponent part: the value and the rest, or nothing when none stands there. -/
def readExponent : Text → Option (Int × Text)
  | mark :: rest =>
      if mark == 'e' || mark == 'E' then
        let (sign, rest) : Int × Text :=
          match rest with
          | '-' :: more => (-1, more)
          | '+' :: more => (1, more)
          | more => (1, more)
        let (digits, rest) := spanDigits rest
        if digits.isEmpty then none
        else
          let size := if 8 < digits.length then 99999999 else Integer.readAscii digits
          some (sign * size, rest)
      else none
  | [] => none

/-- Read an unsigned decimal number at the beginning of a text.  At least one digit
must stand before or after the point. -/
def readPrefix? (text : Text) : Option (Float × Text) :=
  let (whole, rest) := spanDigits text
  let (fraction, rest) :=
    match rest with
    | '.' :: more => spanDigits more
    | more => ([], more)
  let rest := if whole.isEmpty && fraction.isEmpty then text else rest
  if whole.isEmpty && fraction.isEmpty then none
  else
    match readExponent rest with
    | some (exponent, rest) => some (ofParts whole fraction exponent, rest)
    | none => some (ofParts whole fraction 0, rest)

/-- Single underscores stand only between digits. -/
def underscoresSeparate : Option Char → Text → Bool
  | _, [] => true
  | before, '_' :: rest =>
      (before.any fun c => Letter.isAsciiDigit c.toNat) &&
        (rest.head?.any fun c => Letter.isAsciiDigit c.toNat) &&
        underscoresSeparate (some '_') rest
  | _, c :: rest => underscoresSeparate (some c) rest

/-- Decimal digits of every script as ASCII digits. -/
def asciiDigits (text : Text) : Text :=
  text.map fun c =>
    match Letter.decimalValue? c.toNat with
    | some digit => Char.ofNat (48 + digit)
    | none => c

/-- The value of an unsigned number that fills the text, or of a word for one. -/
def readWhole? (text : Text) : Option Float :=
  let word := text.map fun c => c.toLower
  if word == ("inf" : Text) || word == ("infinity" : Text) then
    some (Float.ofBits 0x7ff0000000000000)
  else if word == ("nan" : Text) then some (Float.ofBits 0x7ff8000000000000)
  else
    match readPrefix? text with
    | some (value, []) => some value
    | _ => none

/-- Read a floating-point number, blanks around it aside.  A sign, underscores
between digits, digits of any script and the words for infinity and for no number
are accepted. -/
def read? (text : Text) : Option Float :=
  let text := asciiDigits text.trim
  if !underscoresSeparate none text then none
  else
    match text.filter fun c => c != '_' with
    | '-' :: rest => (readWhole? rest).map fun x => -x
    | '+' :: rest => readWhole? rest
    | rest => readWhole? rest

end Decimal

end RuleProbe
