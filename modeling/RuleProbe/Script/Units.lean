import RuleProbe.Text.Basic

/-!
# Strings of scripts

A string of a script is a sequence of units of sixteen bits.  A character beyond the
basic plane takes two of them, which need not stay together.
-/

namespace RuleProbe

namespace Script

/-- A string of a script. -/
abbrev Units := Array UInt16

namespace Units

/-- The units of a character. -/
def ofChar (c : Char) : List UInt16 :=
  if c.toNat < 0x10000 then [UInt16.ofNat c.toNat]
  else
    let n := c.toNat - 0x10000
    [UInt16.ofNat (0xd800 + n / 0x400), UInt16.ofNat (0xdc00 + n % 0x400)]

/-- The units of a text. -/
def ofText (text : Text) : Units := (text.flatMap ofChar).toArray

/-- The units of a name. -/
def ofName (name : String) : Units := ofText name.toList

/-- The first half of a pair. -/
def isHigh (unit : UInt16) : Bool := 0xd800 ≤ unit && unit < 0xdc00

/-- The second half of a pair. -/
def isLow (unit : UInt16) : Bool := 0xdc00 ≤ unit && unit < 0xe000

/-- The code of a pair. -/
def joinPair (high low : UInt16) : Nat :=
  0x10000 + (high.toNat - 0xd800) * 0x400 + (low.toNat - 0xdc00)

/-- The codes of units: pairs joined, single halves by their own numbers.  The option
is a first half that waits for the second. -/
def codesFrom : Option UInt16 → List UInt16 → List Nat
  | none, [] => []
  | some high, [] => [high.toNat]
  | none, unit :: rest =>
      if isHigh unit then codesFrom (some unit) rest else unit.toNat :: codesFrom none rest
  | some high, unit :: rest =>
      if isLow unit then joinPair high unit :: codesFrom none rest
      else if isHigh unit then high.toNat :: codesFrom (some unit) rest
      else high.toNat :: unit.toNat :: codesFrom none rest

/-- The codes of a string. -/
def codes (units : Units) : List Nat := codesFrom none units.toList

/-- A code that is half of a pair. -/
def isHalf (code : Nat) : Bool := 0xd800 ≤ code && code < 0xe000

/-- The text of a string; nothing when half of a pair stands alone. -/
def toText? (units : Units) : Option Text :=
  let found := units.codes
  if found.any isHalf then none else some (found.map Char.ofNat)

/-- The text of a string, halves of pairs that stand alone replaced. -/
def toText (units : Units) : Text :=
  units.codes.map fun code => if isHalf code then '\uFFFD' else Char.ofNat code

/-- The units of codes. -/
def ofCodes (codes : List Nat) : Units :=
  (codes.flatMap fun code =>
    if code < 0x10000 then [UInt16.ofNat code]
    else
      let n := code - 0x10000
      [UInt16.ofNat (0xd800 + n / 0x400), UInt16.ofNat (0xdc00 + n % 0x400)]).toArray

/-- The position of a part in a string at or after a position, tried `count` times. -/
def indexFrom (part units : Units) : Nat → Nat → Option Nat
  | 0, _ => none
  | count + 1, i =>
      if units.extract i (i + part.size) == part then some i else indexFrom part units count (i + 1)

/-- The first position of a part in a string at or after a position. -/
def indexOf? (units part : Units) (start : Nat) : Option Nat :=
  if units.size < part.size + start then none
  else indexFrom part units (units.size - part.size - start + 1) start

/-- The last position of a part in a string at or before a position. -/
def lastIndexFrom (part units : Units) : Nat → Option Nat
  | 0 => if units.extract 0 part.size == part then some 0 else none
  | i + 1 =>
      if units.extract (i + 1) (i + 1 + part.size) == part then some (i + 1)
      else lastIndexFrom part units i

/-- A string before another in the order of their units. -/
def precedes : List UInt16 → List UInt16 → Bool
  | [], b => !b.isEmpty
  | _ :: _, [] => false
  | x :: a, y :: b => if x == y then precedes a b else x < y

end Units

end Script

end RuleProbe
