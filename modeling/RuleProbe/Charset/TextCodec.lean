import RuleProbe.Charset.Bytes
import RuleProbe.Digest

/-!
# Texts as digits

A text may be carried in digits of base sixty-four or sixteen, by way of its bytes.
Reading never fails: characters that are no digits are passed over or count as zero, and
bytes that are no UTF-8 stand for one character each.
-/

namespace RuleProbe

namespace TextCodec

/-- The text of bytes: as UTF-8 when they are, else one character a byte. -/
def textOfBytes (bytes : Bytes) : Text :=
  (Utf8.decode? bytes).getD (bytes.map fun b => Char.ofNat b.toNat)

/-- A text in base sixty-four. -/
def toBase64 (text : Text) : Text := Base64.encode (Utf8.encode text)

/-- The number of a digit; two digits may be written in another way. -/
def base64Value? (c : Char) : Option Nat :=
  if c == '-' then some 62 else if c == '_' then some 63 else Base64.value? c

/-- The bytes of digits: bits are gathered until there are eight of them. -/
def gather : Nat → Nat → List Nat → Bytes
  | _, _, [] => []
  | held, count, n :: rest =>
      let held := held * 64 + n
      let count := count + 6
      if 8 ≤ count then
        UInt8.ofNat (held / Nat.pow 2 (count - 8)) ::
          gather (held % Nat.pow 2 (count - 8)) (count - 8) rest
      else gather held count rest

/-- The text that digits in base sixty-four carry. -/
def ofBase64 (text : Text) : Text := textOfBytes (gather 0 0 (text.filterMap base64Value?))

/-- A text in base sixteen. -/
def toHex (text : Text) : Text := (Utf8.encode text).flatMap Digest.hexOfByte

/-- The number of a digit in base sixteen. -/
def hexValue? (c : Char) : Option Nat :=
  let n := c.toNat
  if 48 ≤ n && n ≤ 57 then some (n - 48)
  else if 97 ≤ n && n ≤ 102 then some (n - 87)
  else if 65 ≤ n && n ≤ 70 then some (n - 55)
  else none

/-- The number that two characters begin with: two digits, one digit before something
else, or one digit after a sign or a blank; zero when they begin with none. -/
def pairValue (isBlank : Char → Bool) (a b : Char) : Int :=
  match hexValue? a, hexValue? b with
  | some x, some y => 16 * x + y
  | some x, none => if x == 0 && (b == 'x' || b == 'X') then 0 else x
  | none, some y =>
      if a == '-' then -(y : Int) else if a == '+' || isBlank a then y else 0
  | none, none => 0

/-- The numbers of characters, two at a time. -/
def pairValues (isBlank : Char → Bool) : Text → List Int
  | a :: b :: rest => pairValue isBlank a b :: pairValues isBlank rest
  | _ => []

/-- The text that numbers stand for: of bytes if they are, else one character each. -/
def textOfNumbers (numbers : List Int) : Text :=
  if numbers.all fun n => 0 ≤ n && n < 256 then
    textOfBytes (numbers.map fun n => UInt8.ofNat n.toNat)
  else numbers.map fun n => Char.ofNat (n % 65536).toNat

/-- The text that digits in base sixteen carry. -/
def ofHex (isBlank : Char → Bool) (text : Text) : Text := textOfNumbers (pairValues isBlank text)

end TextCodec

end RuleProbe
