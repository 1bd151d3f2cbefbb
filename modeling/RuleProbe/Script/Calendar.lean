import RuleProbe.Script.Number

/-!
# Moments and days

A moment is a number of milliseconds since the beginning of 1970; a day of the calendar
has a year, a month and a number in the month.  There is one time zone.
-/

namespace RuleProbe

namespace Script

namespace Calendar

/-- The number of days before a day, counted from the beginning of 1970; months count
from zero. -/
def dayNumber (year month day : Int) : Int :=
  let year := year + month.fdiv 12
  let month := month.fmod 12
  -- Years are counted from March, so that the odd day comes last.
  let shifted := if month < 2 then year - 1 else year
  let era := shifted.fdiv 400
  let ofEra := shifted.fmod 400
  let dayOfYear := (153 * (month + if month < 2 then 10 else -2) + 2).fdiv 5
  era * 146097 + ofEra * 365 + ofEra.fdiv 4 - ofEra.fdiv 100 + dayOfYear - 719468 + day - 1

/-- The year, the month and the day of a number of days. -/
def ofDayNumber (number : Int) : Int × Int × Int :=
  let shifted := number + 719468
  let era := shifted.fdiv 146097
  let ofEra := shifted.fmod 146097
  let year := (ofEra - ofEra.fdiv 1460 + ofEra.fdiv 36524 - ofEra.fdiv 146096).fdiv 365
  let dayOfYear := ofEra - (365 * year + year.fdiv 4 - year.fdiv 100)
  let part := (5 * dayOfYear + 2).fdiv 153
  let day := dayOfYear - (153 * part + 2).fdiv 5 + 1
  let month := if part < 10 then part + 2 else part - 10
  (year + era * 400 + (if month < 2 then 1 else 0), month, day)

/-- The parts of a moment. -/
structure Parts where
  year : Int
  /-- Counted from zero. -/
  month : Int
  day : Int
  hour : Int
  minute : Int
  second : Int
  millisecond : Int
  /-- The day of the week; Sunday is zero. -/
  weekday : Int

/-- The number of milliseconds of a day. -/
def dayLength : Int := 86400000

/-- The parts of a moment. -/
def partsOf (time : Int) : Parts :=
  let number := time.fdiv dayLength
  let rest := time.fmod dayLength
  let (year, month, day) := ofDayNumber number
  { year, month, day
    hour := rest / 3600000
    minute := rest / 60000 % 60
    second := rest / 1000 % 60
    millisecond := rest % 1000
    weekday := (number + 4).fmod 7 }

/-- The moment with the given parts; the day of the week is not looked at. -/
def timeOf (parts : Parts) : Int :=
  dayNumber parts.year parts.month parts.day * dayLength + parts.hour * 3600000 +
    parts.minute * 60000 + parts.second * 1000 + parts.millisecond

/-- The greatest distance of a moment from the beginning of 1970. -/
def timeLimit : Int := 8640000000000000

/-- A moment, or not a number when it is too far away. -/
def clip (time : Int) : Float :=
  if timeLimit < time.natAbs then Exact.nan else Float.ofInt time

/-- The moment of numbers for its parts, from the year on. -/
def ofNumbers (numbers : List Float) : Float :=
  if numbers.any fun x => !x.isFinite || 1e15 < x.abs then Exact.nan
  else
    let part (i : Nat) (default : Int) : Int := (numbers[i]?.map Number.toInt).getD default
    let year := part 0 1970
    clip (timeOf
      { year := if 0 ≤ year && year ≤ 99 then year + 1900 else year
        month := part 1 0, day := part 2 1, hour := part 3 0, minute := part 4 0
        second := part 5 0, millisecond := part 6 0, weekday := 0 })

/-- Two digits. -/
def two (n : Int) : Text :=
  let digits := Integer.write n
  if digits.length < 2 then '0' :: digits else digits

/-- A number with at least a count of digits. -/
def padded (count : Nat) (n : Int) : Text :=
  let digits := Integer.writeNat n.natAbs
  List.replicate (count - digits.length) '0' ++ digits

/-- The name of a day of the week. -/
def weekdayName (n : Int) : Text := ("SunMonTueWedThuFriSat".toList.drop (3 * n.toNat)).take 3

/-- The name of a month. -/
def monthName (n : Int) : Text :=
  ("JanFebMarAprMayJunJulAugSepOctNovDec".toList.drop (3 * n.toNat)).take 3

/-- A year with its sign. -/
def yearText (year : Int) : Text := (if year < 0 then ['-'] else []) ++ padded 4 year

/-- The time of a day. -/
def clock (p : Parts) : Text := two p.hour ++ [':'] ++ two p.minute ++ [':'] ++ two p.second

/-- The form in which moments are exchanged. -/
def isoText (p : Parts) : Text :=
  let year :=
    if 0 ≤ p.year && p.year ≤ 9999 then padded 4 p.year
    else (if p.year < 0 then ['-'] else ['+']) ++ padded 6 p.year
  year ++ ['-'] ++ two (p.month + 1) ++ ['-'] ++ two p.day ++ ['T'] ++ clock p ++ ['.'] ++
    padded 3 p.millisecond ++ ['Z']

/-- A day in words. -/
def dateText (p : Parts) : Text :=
  weekdayName p.weekday ++ [' '] ++ monthName p.month ++ [' '] ++ two p.day ++ [' '] ++
    yearText p.year

/-- A time in words. -/
def timeText (p : Parts) : Text := clock p ++ " GMT+0000".toList

/-- A moment in the words of mail. -/
def mailText (p : Parts) : Text :=
  weekdayName p.weekday ++ [',', ' '] ++ two p.day ++ [' '] ++ monthName p.month ++ [' '] ++
    yearText p.year ++ [' '] ++ clock p ++ " GMT".toList

/-- A day in numbers. -/
def numericDate (p : Parts) : Text :=
  two (p.month + 1) ++ ['/'] ++ two p.day ++ ['/'] ++ yearText p.year

/-- A time on a clock with twelve hours. -/
def numericTime (p : Parts) : Text :=
  let hour := if p.hour % 12 == 0 then 12 else p.hour % 12
  two hour ++ [':'] ++ two p.minute ++ [':'] ++ two p.second ++
    (if p.hour < 12 then " AM".toList else " PM".toList)

/-- Digits at the beginning of a text, at most so many. -/
def takeNumber (count : Nat) (text : Text) : Option (Nat × Text) :=
  let digits := (text.take count).takeWhile fun c => Letter.isAsciiDigit c.toNat
  if digits.isEmpty then none
  else some (Integer.readAscii digits, text.drop digits.length)

/-- A number after one of some marks. -/
def markedNumber (marks : Text) (text : Text) : Option (Nat × Text) :=
  match text with
  | c :: rest => if marks.elem c then takeNumber 2 rest else none
  | [] => none

/-- The minutes by which a zone is ahead, and what follows. -/
def readZone (text : Text) : Option (Int × Text) :=
  match text with
  | 'Z' :: rest => some (0, rest)
  | sign :: rest =>
      if sign == '+' || sign == '-' then
        match takeNumber 2 rest with
        | some (hours, rest) =>
            let rest := match rest with | ':' :: more => more | more => more
            match takeNumber 2 rest with
            | some (minutes, rest) =>
                let size : Int := hours * 60 + minutes
                some (if sign == '-' then -size else size, rest)
            | none => none
        | none => none
      else none
  | [] => some (0, [])

/-- Thousandths of a second from the digits after a point. -/
def readFraction (text : Text) : Nat × Text :=
  match text with
  | '.' :: rest =>
      let digits := rest.takeWhile fun c => Letter.isAsciiDigit c.toNat
      let three := (digits ++ ['0', '0', '0']).take 3
      (Integer.readAscii three, rest.drop digits.length)
  | rest => (0, rest)

/-- Read a moment that begins with its year. -/
def readNumeric (text : Text) : Option Int := do
  let (year, rest) ← takeNumber 6 text
  let (month, rest) := (markedNumber ['-', '/'] rest).getD (1, rest)
  let (day, rest) := (markedNumber ['-', '/'] rest).getD (1, rest)
  let (hour, minute, second, millisecond, rest) :=
    match markedNumber ['T', ' '] rest with
    | some (hour, rest) =>
        let (minute, rest) := (markedNumber [':'] rest).getD (0, rest)
        let (second, rest) := (markedNumber [':'] rest).getD (0, rest)
        let (millisecond, rest) := readFraction rest
        (hour, minute, second, millisecond, rest)
    | none => (0, 0, 0, 0, rest)
  let (zone, rest) ← readZone rest
  if !rest.isEmpty || month < 1 || 12 < month || day < 1 || 31 < day || 24 < hour ||
      59 < minute || 59 < second then none
  else
    some (timeOf
      { year, month := (month : Int) - 1, day, hour, minute, second, millisecond, weekday := 0 }
        - zone * 60000)

/-- The month that a name begins with. -/
def monthOf (name : Text) : Option Int :=
  ((List.range 12).find? fun i => monthName (Int.ofNat i) == name.take 3).map Int.ofNat

/-- Read a moment in words: the day and the month in either order, the year, and perhaps
the time. -/
def readWords (text : Text) : Option Int := do
  let words := Text.words (text.map fun c => if c == ',' then ' ' else c)
  let isWeekday : Text → Bool := fun word =>
    (List.range 7).any fun i => weekdayName (Int.ofNat i) == word.take 3
  let words := match words with
    | first :: rest => if isWeekday first then rest else words
    | [] => []
  let (month, day, rest) ←
    match words with
    | a :: b :: rest =>
        match monthOf a, takeNumber 2 b with
        | some month, some (day, []) => some (month, (day : Int), rest)
        | _, _ =>
            match takeNumber 2 a, monthOf b with
            | some (day, []), some month => some (month, (day : Int), rest)
            | _, _ => none
    | _ => none
  let (year, rest) ← match rest with
    | word :: rest => (takeNumber 6 word).map fun found => (found.1, rest)
    | [] => none
  let clock := rest.head?.getD []
  let (hour, minute, second) :=
    match takeNumber 2 clock with
    | some (hour, more) =>
        let (minute, more) := (markedNumber [':'] more).getD (0, more)
        (hour, minute, ((markedNumber [':'] more).getD (0, more)).1)
    | none => (0, 0, 0)
  some (timeOf
    { year, month, day, hour, minute, second, millisecond := 0, weekday := 0 })

/-- The moment that a text gives. -/
def read (text : Text) : Float :=
  match readNumeric text with
  | some time => clip time
  | none =>
      match readWords text with
      | some time => clip time
      | none => Exact.nan

end Calendar

end Script

end RuleProbe
