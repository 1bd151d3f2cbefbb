import RuleProbe.Numeral.Written

/-!
# Floating-point numbers

Doubles in decimal digits and in exact arithmetic.
-/

namespace RuleProbe

/-!
## Shortest decimal digits of a floating-point number

A finite double is `m * 2 ^ q`, and the reals that round to it form an interval
around it.  Its shortest digits are the fewest decimal digits that name a number
of that interval, and among those the nearest to the double; an exact tie goes to
the even digit.  All comparisons are made in natural numbers.
-/

/-- A decimal number `d₁.d₂d₃… * 10 ^ exponent` by its digits. -/
structure DecimalDigits where
  /-- The digits, without trailing zeros. -/
  digits : Text
  /-- The power of ten of the first digit. -/
  exponent : Int

namespace Shortest

/-- A positive number as a quotient, with the ends of the interval of reals that
round to it over the same denominator. -/
structure Interval where
  /-- Numerator of the number. -/
  value : Nat
  /-- Numerator of the lower end. -/
  low : Nat
  /-- Numerator of the upper end. -/
  high : Nat
  /-- The common denominator. -/
  denominator : Nat
  /-- Whether the ends themselves round to the number. -/
  closed : Bool

/-- The interval of a positive finite double, from its exponent and fraction fields. -/
def intervalOf (exponentField fraction : Nat) : Interval :=
  let mantissa := if exponentField == 0 then fraction else fraction + Nat.pow 2 52
  let exponent : Int := (max exponentField 1 : Nat) - 1075
  -- Below a power of two the neighbours are twice as dense.
  let dense := fraction == 0 && 1 < exponentField
  let value := 4 * mantissa
  let low := if dense then value - 1 else value - 2
  let high := value + 2
  let up := Nat.pow 2 (exponent - 2).toNat
  { value := value * up
    low := low * up
    high := high * up
    denominator := Nat.pow 2 (2 - exponent).toNat
    closed := mantissa % 2 == 0 }

/-- `c * 10 ^ k`, over `denominator`, lies in the interval. -/
def Interval.admits (interval : Interval) (c : Nat) (k : Int) : Bool :=
  let left := c * Nat.pow 10 k.toNat * interval.denominator
  let scale := Nat.pow 10 (-k).toNat
  if interval.closed then interval.low * scale ≤ left && left ≤ interval.high * scale
  else interval.low * scale < left && left < interval.high * scale

/-- The decimal exponent of the first digit of the number: the last one of `steps`
candidates from `candidate` downward at which the power of ten does not exceed it. -/
def leadingExponent (interval : Interval) : Nat → Int → Int
  | 0, candidate => candidate
  | steps + 1, candidate =>
      if Nat.pow 10 candidate.toNat * interval.denominator ≤
          interval.value * Nat.pow 10 (-candidate).toNat
      then candidate
      else leadingExponent interval steps (candidate - 1)

/-- An exponent of ten that is at most two above that of the number. -/
def exponentGuess (interval : Interval) : Int :=
  let bits : Int := (interval.value.log2 : Int) - interval.denominator.log2
  (bits * 30103).fdiv 100000 + 2

/-- The neighbour of the number on the grid of multiples of `10 ^ k` that rounds to
it, the nearer one if both do. -/
def nearestOnGrid (interval : Interval) (k : Int) : Option Nat :=
  let numerator := interval.value * Nat.pow 10 (-k).toNat
  let unit := interval.denominator * Nat.pow 10 k.toNat
  let below := numerator / unit
  let excess := 2 * (numerator % unit)
  match interval.admits below k && below != 0, interval.admits (below + 1) k with
  | true, true =>
      if excess < unit then some below
      else if unit < excess then some (below + 1)
      else some (if below % 2 == 0 then below else below + 1)
  | true, false => some below
  | false, true => some (below + 1)
  | false, false => none

/-- Try `count` digits, then one more, until a grid has a number of the interval. -/
def search (interval : Interval) (exponent : Int) : Nat → Nat → Nat × Int
  | 0, _ => (0, 0)
  | steps + 1, count =>
      let k := exponent - (count : Int) + 1
      match nearestOnGrid interval k with
      | some c => (c, k)
      | none => search interval exponent steps (count + 1)

/-- The digits of `c * 10 ^ k` without trailing zeros. -/
def digitsOf (c : Nat) (k : Int) : DecimalDigits :=
  let written := Integer.writeNat c
  let kept := Text.trimRightWhere (· == '0') written
  { digits := if kept.isEmpty then ['0'] else kept
    exponent := k + (written.length : Int) - 1 }

/-- The shortest digits of the finite double whose bits, sign aside, are `bits`. -/
def ofBits (bits : Nat) : DecimalDigits :=
  if bits == 0 then { digits := ['0'], exponent := 0 }
  else
    let interval := intervalOf (bits / Nat.pow 2 52) (bits % Nat.pow 2 52)
    let exponent := leadingExponent interval 5 (exponentGuess interval)
    let found := search interval exponent 18 1
    digitsOf found.1 found.2

end Shortest

/-- How a floating-point number is laid out in a text. -/
structure FloatLayout where
  /-- The least exponent that is written positionally. -/
  positionalFrom : Int
  /-- The least exponent above those that are written positionally. -/
  positionalBelow : Int
  /-- Whether an integral number keeps a fraction `.0`. -/
  fraction : Bool
  /-- The least number of digits of an exponent. -/
  exponentDigits : Nat
  /-- Whether a negative zero keeps its sign. -/
  signedZero : Bool
  /-- The text of positive infinity. -/
  infinity : Text
  /-- The text of a value that is not a number. -/
  notANumber : Text

namespace FloatLayout

/-- Digits with the point after the first `whole` of them, zeros filling the gaps. -/
def placePoint (layout : FloatLayout) (digits : Text) (whole : Int) : Text :=
  if whole ≤ 0 then ['0', '.'] ++ List.replicate (-whole).toNat '0' ++ digits
  else
    let width := whole.toNat
    let front := digits.take width ++ List.replicate (width - digits.length) '0'
    let back := digits.drop width
    if back.isEmpty then front ++ (if layout.fraction then ['.', '0'] else [])
    else front ++ '.' :: back

/-- A number by its shortest digits, in this layout. -/
def writeDigits (layout : FloatLayout) (number : DecimalDigits) : Text :=
  if layout.positionalFrom ≤ number.exponent && number.exponent < layout.positionalBelow then
    placePoint layout number.digits (number.exponent + 1)
  else
    let mantissa :=
      match number.digits with
      | [] => []
      | [d] => [d]
      | d :: rest => d :: '.' :: rest
    let size := Integer.writeNat number.exponent.natAbs
    mantissa ++ ['e', if number.exponent < 0 then '-' else '+'] ++
      List.replicate (layout.exponentDigits - size.length) '0' ++ size

/-- The text of a floating-point number in this layout. -/
def write (layout : FloatLayout) (x : Float) : Text :=
  let bits := x.toBits.toNat
  let negative := Nat.pow 2 63 ≤ bits
  let magnitude := bits % Nat.pow 2 63
  if 0x7ff0000000000000 < magnitude then layout.notANumber
  else
    let sign : Text :=
      if negative && (magnitude != 0 || layout.signedZero) then ['-'] else []
    if magnitude == 0x7ff0000000000000 then sign ++ layout.infinity
    else sign ++ layout.writeDigits (Shortest.ofBits magnitude)

end FloatLayout

/-!
## Doubles in exact arithmetic

A finite double is `m * 2 ^ q`.  Here it is rounded to a decimal grid that is given
beforehand, a count of places or a count of digits, where a half goes away from zero;
and it is divided with remainder.
-/

namespace Exact

/-- The value that is not a number. -/
def nan : Float := Float.ofBits 0x7ff8000000000000

/-- Positive infinity. -/
def infinity : Float := Float.ofBits 0x7ff0000000000000

/-- A number has a minus sign. -/
def isNegative (x : Float) : Bool := Nat.pow 2 63 ≤ x.toBits.toNat

/-- The magnitude of a finite number as `mantissa * 2 ^ exponent`. -/
def parts (x : Float) : Nat × Int :=
  let bits : Nat := x.toBits.toNat % Nat.pow 2 63
  let field : Nat := bits / Nat.pow 2 52
  let fraction : Nat := bits % Nat.pow 2 52
  if field == 0 then (fraction, -1074) else (fraction + Nat.pow 2 52, (field : Int) - 1075)

/-- The multiple of `10 ^ (-places)` nearest to the magnitude of a number, counted in
that unit; a half goes up. -/
def roundedUnits (x : Float) (places : Int) : Nat :=
  let (m, e) := parts x
  let num := m * Nat.pow 2 e.toNat * Nat.pow 10 places.toNat
  let den := Nat.pow 2 (-e).toNat * Nat.pow 10 (-places).toNat
  (2 * num + den) / (2 * den)

/-- Digits with the point before the last `places` of them. -/
def withPoint (digits : Text) (places : Nat) : Text :=
  let padded := List.replicate (places + 1 - digits.length) '0' ++ digits
  if places == 0 then padded
  else padded.take (padded.length - places) ++ '.' :: padded.drop (padded.length - places)

/-- The exponent of the first of `count` digits to which a number is rounded, and the
digits. -/
def roundedDigits (x : Float) (count : Nat) : Int × Text :=
  if x == 0 then (0, List.replicate count '0')
  else
    let exponent := (Shortest.ofBits (x.toBits.toNat % Nat.pow 2 63)).exponent
    let units := roundedUnits x ((count : Int) - 1 - exponent)
    let digits := Integer.writeNat units
    -- Rounding may carry into one more digit.
    if count < digits.length then (exponent + 1, digits.take count) else (exponent, digits)

/-- Digits in exponential notation. -/
def exponential (digits : Text) (exponent : Int) : Text :=
  let mantissa :=
    match digits with
    | [] => []
    | [d] => [d]
    | d :: rest => d :: '.' :: rest
  mantissa ++ ['e', if exponent < 0 then '-' else '+'] ++ Integer.writeNat exponent.natAbs

/-- The remainder of a division, with the sign of the dividend. -/
def remainder (x y : Float) : Float :=
  if x.isNaN || y.isNaN || x.isInf || y == 0 then nan
  else if y.isInf || x == 0 then x
  else
    let (m, e) := parts x
    let (n, f) := parts y
    let least := min e f
    let rest := (m * Nat.pow 2 (e - least).toNat) % (n * Nat.pow 2 (f - least).toNat)
    let size := (Float.ofNat rest).scaleB least
    if isNegative x then -size else size

end Exact

end RuleProbe
