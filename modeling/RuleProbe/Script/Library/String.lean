import RuleProbe.Script.Library.Regex

/-!
# Functions on strings
-/

namespace RuleProbe

namespace Script

namespace Library

variable (host : Caller)

/-- Functions of the constructor of strings. -/
def callString (name : String) (args : Array Value) : Run Value := do
  match name with
  | "fromCharCode" =>
      let units ← args.mapM fun value => do
        return (Number.toWord (← Convert.toNumber host value)).toUInt16
      return .string units
  | "fromCodePoint" =>
      let codes ← args.toList.mapM fun value => do
        let x ← Convert.toNumber host value
        let code := Number.toInt x
        if code < 0 || 0x10ffff < code || x != Float.ofInt code then
          Run.rangeError "invalid code point"
        return code.toNat
      return .string (Units.ofCodes codes)
  | _ => return .undefined

/-- The value that a string's function works on. -/
def stringReceiver (receiver : Value) : Run Units := do
  match receiver with
  | .string units => return units
  | .undefined => Run.typeError "null or undefined are forbidden"
  | .null => Run.typeError "null or undefined are forbidden"
  | .object ref =>
      match (← Run.object ref).kind with
      | .wrapper (.string units) => return units
      | _ => Convert.toUnits host receiver
  | value => Convert.toUnits host value

/-- A string with its cases changed, half pairs kept. -/
def mapCodes (change : Nat → List Nat) (units : Units) : Units :=
  Units.ofCodes (units.codes.flatMap change)

/-- The lower case of a string. -/
def lowerUnits (units : Units) : Units :=
  match units.toText? with
  | some text => Units.ofText (Text.lower text)
  | none => mapCodes (fun code => [Case.lowerCode code]) units

/-- A blank unit at an end of a string. -/
def isBlankUnit (unit : UInt16) : Bool :=
  !(Units.isHigh unit) && !(Units.isLow unit) && Number.isBlank (Char.ofNat unit.toNat)

/-- A string without the blanks at its beginning. -/
def trimStart (units : Units) : Units := (units.toList.dropWhile isBlankUnit).toArray

/-- A string without the blanks at its end. -/
def trimEnd (units : Units) : Units :=
  (units.toList.reverse.dropWhile isBlankUnit).reverse.toArray

/-- A filler repeated to a number of units. -/
def fillTo (filler : Units) (count : Nat) : Units :=
  if filler.isEmpty then #[]
  else
    let turns := count / filler.size + 1
    ((List.replicate turns filler).foldl (· ++ ·) #[]).extract 0 count

/-- The filling of a string up to a length. -/
def padding (units : Units) (args : Array Value) : Run Units := do
  let x ← Convert.toInteger host (argument args 0)
  let length := (Number.toInt x).toNat
  if length ≤ units.size then return #[]
  if Convert.lengthLimit < length then Property.exhausted
  let filler ←
    match argument args 1 with
    | .undefined => pure (Units.ofName " ")
    | value => Convert.toUnits host value
  return fillTo filler (length - units.size)

/-- The text that must be no regular expression. -/
def plainPart (value : Value) : Run Units := do
  if (← matcherOf? value).isSome then Run.typeError "regexp not supported"
  Convert.toUnits host value

/-- The matcher that a value stands for in a search. -/
def searchMatcher (value : Value) (flags : RegexFlags) : Run (Nat × Matcher) := do
  match ← matcherOf? value with
  | some found => return found
  | none =>
      let source ←
        match value with
        | .undefined => pure (#[] : Units)
        | value => Convert.toUnits host value
      match Regex.read? flags (Units.toText source) with
      | some pattern => return (0, ⟨flags, pattern⟩)
      | none => Run.fail .syntaxError "invalid regular expression"

/-- Functions that search a string for a pattern or a part. -/
def searchString (name : String) (units : Units) (args : Array Value) : Run Value := do
  let first := argument args 0
  match name with
  | "match" =>
      let (ref, matcher) ← searchMatcher host first {}
      if matcher.flags.global then
        setLastIndex ref 0
        let found := matcher.searchAll units (units.size + 2) 0
        if found.isEmpty then return .null
        Run.arrayOf (found.map fun one => Value.string (units.extract one.start one.stop)).toArray
      else
        let found ← if ref == 0 then pure (matcher.search units 0)
          else execRegex host ref matcher units
        match found with
        | some found => matchArray matcher units found
        | none => return .null
  | "matchAll" =>
      let (_, matcher) ← searchMatcher host first { global := true }
      if !matcher.flags.global then Run.typeError "regexp must have the 'g' flag"
      let found ← (matcher.searchAll units (units.size + 2) 0).mapM (matchArray matcher units)
      Run.add { proto := some Intrinsic.iteratorPrototype.ref, kind := .iterator found }
  | "search" =>
      let (_, matcher) ← searchMatcher host first {}
      match matcher.search units 0 with
      | some found => return Value.ofNat found.start
      | none => return .number (-1)
  | "split" =>
      let limit ←
        match argument args 1 with
        | .undefined => pure 4294967295
        | value => do pure (Number.toWord (← Convert.toNumber host value)).toNat
      let parts ←
        match ← matcherOf? first with
        | some (_, matcher) =>
            let matcher := { matcher with flags := { matcher.flags with sticky := false } }
            if units.isEmpty then
              pure (if (matcher.search units 0).isSome then [] else [Value.string #[]])
            else pure (splitRegex matcher units (units.size + 2) 0 0)
        | none =>
            match first with
            | .undefined => pure [Value.string units]
            | value => do pure (splitParts units (← Convert.toUnits host value))
      Run.arrayOf (parts.take limit).toArray
  | _ =>
      -- `replace` and `replaceAll`
      let all := name == "replaceAll"
      match ← matcherOf? first with
      | some (ref, matcher) =>
          if all && !matcher.flags.global then Run.typeError "regexp must have the 'g' flag"
          replaceRegex host ref matcher units (argument args 1)
      | none => replaceParts host units (← Convert.toUnits host first) (argument args 1) all

/-- Functions of every string. -/
def callStringPrototype (name : String) (receiver : Value) (args : Array Value) :
    Run Value := do
  let units ← stringReceiver host receiver
  let first := argument args 0
  let position : Run (Option Nat) := do
    let x ← Convert.toInteger host first
    return if x < 0 || Float.ofNat units.size ≤ x then none else some (Number.toInt x).toNat
  match name with
  | "toString" => return .string units
  | "valueOf" => return .string units
  | "charAt" =>
      match ← position with
      | some i => return .string (units.extract i (i + 1))
      | none => return .string #[]
  | "charCodeAt" =>
      match ← position with
      | some i => return Value.ofNat ((units[i]?.map UInt16.toNat).getD 0)
      | none => return .number Exact.nan
  | "codePointAt" =>
      match ← position with
      | some i => return Value.ofOption ((Units.codes (units.extract i (i + 2))).head?.map Value.ofNat)
      | none => return .undefined
  | "indexOf" =>
      let part ← Convert.toUnits host first
      let start ← Convert.clampedPosition host (argument args 1) units.size 0
      match Units.indexOf? units part start with
      | some i => return Value.ofNat i
      | none => return .number (-1)
  | "lastIndexOf" =>
      let part ← Convert.toUnits host first
      let x ← Convert.toNumber host (argument args 1)
      if units.size < part.size then return .number (-1)
      let last := units.size - part.size
      let start := if x.isNaN then last else min last (Number.toInt x).toNat
      match Units.lastIndexFrom part units start with
      | some i => return Value.ofNat i
      | none => return .number (-1)
  | "includes" =>
      let part ← plainPart host first
      let start ← Convert.clampedPosition host (argument args 1) units.size 0
      return .bool (Units.indexOf? units part start).isSome
  | "startsWith" =>
      let part ← plainPart host first
      let start ← Convert.clampedPosition host (argument args 1) units.size 0
      return .bool (units.extract start (start + part.size) == part)
  | "endsWith" =>
      let part ← plainPart host first
      let stop ← Convert.clampedPosition host (argument args 1) units.size units.size
      return .bool (part.size ≤ stop && units.extract (stop - part.size) stop == part)
  | "slice" =>
      let start ← Convert.relativePosition host first units.size 0
      let stop ← Convert.relativePosition host (argument args 1) units.size units.size
      return .string (units.extract start stop)
  | "substring" =>
      let a ← Convert.clampedPosition host first units.size 0
      let b ← Convert.clampedPosition host (argument args 1) units.size units.size
      return .string (units.extract (min a b) (max a b))
  | "substr" =>
      let start ← Convert.relativePosition host first units.size 0
      let count ← Convert.clampedPosition host (argument args 1) (units.size - start)
        (units.size - start)
      return .string (units.extract start (start + count))
  | "toUpperCase" => return .string (mapCodes Case.upperCodes units)
  | "toLocaleUpperCase" => return .string (mapCodes Case.upperCodes units)
  | "toLowerCase" => return .string (lowerUnits units)
  | "toLocaleLowerCase" => return .string (lowerUnits units)
  | "trim" => return .string (trimEnd (trimStart units))
  | "trimStart" => return .string (trimStart units)
  | "trimLeft" => return .string (trimStart units)
  | "trimEnd" => return .string (trimEnd units)
  | "trimRight" => return .string (trimEnd units)
  | "padStart" => return .string ((← padding host units args) ++ units)
  | "padEnd" => return .string (units ++ (← padding host units args))
  | "repeat" =>
      let x ← Convert.toInteger host first
      if x < 0 || 2147483647 < x then Run.rangeError "invalid repeat count"
      let count := (Number.toInt x).toNat
      if Convert.lengthLimit < count * units.size then Property.exhausted
      if units.isEmpty then return .string #[]
      return .string (fillTo units (count * units.size))
  | "concat" =>
      let mut found := units
      for value in args do
        found ← Convert.joinUnits found (← Convert.toUnits host value)
      return .string found
  | "localeCompare" =>
      let other ← Convert.toUnits host first
      if units == other then return .number 0
      return .number (if Units.precedes units.toList other.toList then -1 else 1)
  | "normalize" => return .string units
  | name => searchString host name units args

end Library

end Script

end RuleProbe
