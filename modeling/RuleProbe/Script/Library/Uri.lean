import RuleProbe.Charset.Bytes
import RuleProbe.Script.Convert

/-!
# Escapes in addresses

Characters that an address cannot hold are escaped byte by byte in UTF-8.  An older
notation escapes unit by unit.
-/

namespace RuleProbe

namespace Script

namespace Library

variable (host : Caller)

/-- Characters that stay as they are in a part of an address. -/
def isPartChar (c : Char) : Bool :=
  Letter.isAsciiLetter c.toNat || Letter.isAsciiDigit c.toNat || ("-_.!~*'()".toList).elem c

/-- Characters that structure an address. -/
def isAddressMark (c : Char) : Bool := (";/?:@&=+$,#".toList).elem c

/-- Escape a text, a class of characters aside. -/
def encodeText (keep : Char → Bool) (text : Text) : Text :=
  text.flatMap fun c => if keep c then [c] else (Utf8.encodeChar c).flatMap Percent.escape

/-- Escape a string; half pairs cannot be. -/
def encodeUnits (keep : Char → Bool) (value : Value) : Run Value := do
  match (← Convert.toUnits host value).toText? with
  | some text => return Value.ofText (encodeText keep text)
  | none => Run.fail .uriError "invalid character"

/-- An escaped byte at the beginning of units. -/
def escapedByte? : List UInt16 → Option (UInt8 × List UInt16)
  | 37 :: a :: b :: rest =>
      if a < 128 && b < 128 then
        match Percent.hexValue? a.toUInt8, Percent.hexValue? b.toUInt8 with
        | some high, some low => some (UInt8.ofNat (high * 16 + low), rest)
        | _, _ => none
      else none
  | _ => none

/-- The number of bytes of a character that begins with a byte. -/
def byteCount (first : UInt8) : Nat :=
  if first < 0x80 then 1 else if first < 0xe0 then 2 else if first < 0xf0 then 3 else 4

/-- So many escaped bytes. -/
def escapedBytes : Nat → List UInt16 → Option (Bytes × List UInt16)
  | 0, rest => some ([], rest)
  | count + 1, units =>
      match escapedByte? units with
      | some (byte, rest) =>
          (escapedBytes count rest).map fun found => (byte :: found.1, found.2)
      | none => none

/-- Read escapes, those of a class of characters aside; nothing when one is broken. -/
def decodeUnits (keep : Char → Bool) : Nat → List UInt16 → Option (List UInt16)
  | 0, _ => some []
  | _ + 1, [] => some []
  | fuel + 1, unit :: rest =>
      if unit != 37 then (decodeUnits keep fuel rest).map (unit :: ·)
      else
        match escapedByte? (unit :: rest) with
        | none => none
        | some (first, _) =>
            match escapedBytes (byteCount first) (unit :: rest) with
            | none => none
            | some (bytes, after) =>
                match Utf8.decode? bytes with
                | some [c] =>
                    if keep c then (decodeUnits keep fuel rest).map (unit :: ·)
                    else (decodeUnits keep fuel after).map (Units.ofChar c ++ ·)
                | _ => none

/-- Read the escapes of a string. -/
def decodeString (keep : Char → Bool) (value : Value) : Run Value := do
  let units ← Convert.toUnits host value
  match decodeUnits keep (units.size + 1) units.toList with
  | some found => return .string found.toArray
  | none => Run.fail .uriError "malformed UTF-8"

/-- Digits of a unit in base sixteen. -/
def hexDigits (count : Nat) (n : Nat) : Text :=
  let digits := (Nat.toDigits 16 n).map Char.toUpper
  List.replicate (count - digits.length) '0' ++ digits

/-- Escape a string unit by unit. -/
def escapeUnits (units : Units) : Text :=
  units.toList.flatMap fun unit =>
    let c := Char.ofNat unit.toNat
    let plain := unit < 128 && (Letter.isAsciiLetter c.toNat || Letter.isAsciiDigit c.toNat ||
      ("@*_+-./".toList).elem c)
    if plain then [c]
    else if unit < 256 then '%' :: hexDigits 2 unit.toNat
    else '%' :: 'u' :: hexDigits 4 unit.toNat

/-- The number of digits in base sixteen. -/
def hexNumber? (digits : List UInt16) (count : Nat) : Option Nat :=
  if digits.length != count then none
  else
    digits.foldlM (fun value unit =>
      if unit < 128 then (Percent.hexValue? unit.toUInt8).map fun digit => value * 16 + digit
      else none) 0

/-- Read the escapes of single units; the counter tells how many units are passed over. -/
def unescapeUnits : Nat → List UInt16 → List UInt16
  | _, [] => []
  | skip + 1, _ :: rest => unescapeUnits skip rest
  | 0, unit :: rest =>
      if unit != 37 then unit :: unescapeUnits 0 rest
      else if rest.head? == some 117 then
        match hexNumber? ((rest.drop 1).take 4) 4 with
        | some n => UInt16.ofNat n :: unescapeUnits 5 rest
        | none => unit :: unescapeUnits 0 rest
      else
        match hexNumber? (rest.take 2) 2 with
        | some n => UInt16.ofNat n :: unescapeUnits 2 rest
        | none => unit :: unescapeUnits 0 rest

/-- Functions that are found without an object. -/
def callGlobal (name : String) (args : Array Value) : Run Value := do
  let first := argument args 0
  match name with
  | "parseInt" =>
      let text := (← Convert.toUnits host first).toText
      let base := Number.ofSigned (Number.toWord (← Convert.toNumber host (argument args 1)))
      return .number (Number.readInteger text (Number.toInt base))
  | "parseFloat" => return .number (Number.readLeading (← Convert.toUnits host first).toText)
  | "isNaN" => return .bool (← Convert.toNumber host first).isNaN
  | "isFinite" => return .bool (← Convert.toNumber host first).isFinite
  | "encodeURIComponent" => encodeUnits host isPartChar first
  | "encodeURI" => encodeUnits host (fun c => isPartChar c || isAddressMark c) first
  | "decodeURIComponent" => decodeString host (fun _ => false) first
  | "decodeURI" => decodeString host isAddressMark first
  | "escape" => return Value.ofText (escapeUnits (← Convert.toUnits host first))
  | "unescape" =>
      let units ← Convert.toUnits host first
      return .string (unescapeUnits 0 units.toList).toArray
  | _ => return .undefined

end Library

end Script

end RuleProbe
