import RuleProbe.Script.Property

/-!
# Conversions of values

Values become numbers, strings, keys and objects when operations ask for them.  An
object is asked through its own functions for a value that is no object.
-/

namespace RuleProbe

namespace Script

namespace Convert

variable (host : Caller)

/-- What an object is asked for first. -/
inductive Hint where
  | default | number | string
  deriving DecidableEq

/-- Ask an object for a plain value through functions of the given names. -/
def askFor (value : Value) : List String → Run Value
  | [] => Run.typeError "toPrimitive"
  | name :: rest => do
      let method ← Property.getNamed value name
      if Property.isCallable (← get) method then
        match ← host.call method value #[] with
        | .object _ => askFor value rest
        | found => return found
      else askFor value rest

/-- A value that is no object. -/
def toPrimitive (hint : Hint) (value : Value) : Run Value := do
  match value with
  | .object ref =>
      let isDate := match (← Run.object ref).kind with | .date _ => true | _ => false
      if hint == .string || (hint == .default && isDate) then
        askFor host value ["toString", "valueOf"]
      else askFor host value ["valueOf", "toString"]
  | value => return value

/-- The text of a value that is no object. -/
def plainText : Value → Units
  | .undefined => Units.ofName "undefined"
  | .null => Units.ofName "null"
  | .bool true => Units.ofName "true"
  | .bool false => Units.ofName "false"
  | .number value => Units.ofText (Number.write value)
  | .string value => value
  | .object _ => #[]

/-- The text of a value. -/
def toUnits (value : Value) : Run Units := do
  match value with
  | .object _ => return plainText (← toPrimitive host .string value)
  | value => return plainText value

/-- The number of a value that is no object. -/
def plainNumber : Value → Float
  | .undefined => Exact.nan
  | .null => 0
  | .bool value => if value then 1 else 0
  | .number value => value
  | .string value => Number.read value.toText
  | .object _ => Exact.nan

/-- The number of a value. -/
def toNumber (value : Value) : Run Float := do
  match value with
  | .object _ => return plainNumber (← toPrimitive host .number value)
  | value => return plainNumber value

/-- A number without its fraction; zero for what is not a number. -/
def toInteger (value : Value) : Run Float := do
  let x ← toNumber host value
  return if x.isNaN then 0 else Number.truncate x

/-- A position counted from the end when it is negative, within a length. -/
def relativePosition (value : Value) (length : Nat) (default : Nat) : Run Nat := do
  match value with
  | .undefined => return default
  | value =>
      let x ← toInteger host value
      if x < 0 then
        let y := Float.ofNat length + x
        return if y < 0 then 0 else (Number.toInt y).toNat
      else return if Float.ofNat length < x then length else (Number.toInt x).toNat

/-- A position within a length; what is before the beginning counts as it. -/
def clampedPosition (value : Value) (length : Nat) (default : Nat) : Run Nat := do
  match value with
  | .undefined => return default
  | value =>
      let x ← toInteger host value
      if x < 0 then return 0
      else return if Float.ofNat length < x then length else (Number.toInt x).toNat

/-- The key of a property. -/
def toKey (value : Value) : Run Units := toUnits host value

/-- A value as an object. -/
def toObject (value : Value) : Run Nat := do
  match value with
  | .object ref => return ref
  | .undefined => Run.typeError "cannot convert to object"
  | .null => Run.typeError "cannot convert to object"
  | value =>
      let proto := ((Property.protoOf? value).map Intrinsic.ref).getD Intrinsic.objectPrototype.ref
      match ← Run.add { proto := some proto, kind := .wrapper value } with
      | .object ref => return ref
      | _ => return 0

/-- The kind of a value, as a word. -/
def typeOf (value : Value) : Run String := do
  match value with
  | .undefined => return "undefined"
  | .null => return "object"
  | .bool _ => return "boolean"
  | .number _ => return "number"
  | .string _ => return "string"
  | .object _ => return if Property.isCallable (← get) value then "function" else "object"

/-- Two plain values are equal up to conversion. -/
def plainEqual (a b : Value) : Bool :=
  match a, b with
  | .undefined, .null => true
  | .null, .undefined => true
  | .undefined, .undefined => true
  | .null, .null => true
  | .undefined, _ => false
  | .null, _ => false
  | _, .undefined => false
  | _, .null => false
  | .string x, .string y => x == y
  | .object x, .object y => x == y
  | a, b => plainNumber a == plainNumber b

/-- Two values are equal up to conversion. -/
def looselyEqual (a b : Value) : Run Bool := do
  match a, b with
  | .object x, .object y => return x == y
  | .object _, other =>
      if other.isNullish then return false
      return plainEqual (← toPrimitive host .default a) other
  | other, .object _ =>
      if other.isNullish then return false
      return plainEqual other (← toPrimitive host .default b)
  | a, b => return plainEqual a b

/-- One value is before another; nothing when they have no order. -/
def precedes (a b : Value) : Run (Option Bool) := do
  let a ← toPrimitive host .number a
  let b ← toPrimitive host .number b
  match a, b with
  | .string x, .string y => return some (Units.precedes x.toList y.toList)
  | a, b =>
      let x := plainNumber a
      let y := plainNumber b
      return if x.isNaN || y.isNaN then none else some (x < y)

/-- The greatest length of a string. -/
def lengthLimit : Nat := 8000000

/-- Two strings joined. -/
def joinUnits (a b : Units) : Run Units := do
  if lengthLimit < a.size + b.size then Property.exhausted
  return a ++ b

/-- The sum of two values: strings are joined, and numbers added. -/
def add (a b : Value) : Run Value := do
  match a, b with
  | .number x, .number y => return .number (x + y)
  | .string x, .string y => return .string (← joinUnits x y)
  | a, b =>
      let a ← toPrimitive host .default a
      let b ← toPrimitive host .default b
      match a, b with
      | .string x, b => return .string (← joinUnits x (plainText b))
      | a, .string y => return .string (← joinUnits (plainText a) y)
      | a, b => return .number (plainNumber a + plainNumber b)

/-- What a value consists of when it is gone through. -/
def items (value : Value) : Run (List Value) := do
  match value with
  | .string units =>
      return units.codes.map fun code => .string (Units.ofCodes [code])
  | .object ref =>
      match (← Run.object ref).kind with
      | .array found => return found.toList.map Value.ofOption
      | .set entries => return entries.toList
      | .map entries => entries.toList.mapM fun entry => Run.arrayOf #[entry.1, entry.2]
      | .wrapper (.string units) =>
          return units.codes.map fun code => .string (Units.ofCodes [code])
      | .iterator found =>
          Run.modifyObject ref fun obj => { obj with kind := .iterator [] }
          return found
      | _ => Run.typeError "value is not iterable"
  | _ => Run.typeError "value is not iterable"

/-- The length of a value that has one. -/
def lengthOf (value : Value) : Run Nat := do
  let x ← toInteger host (← Property.getNamed value "length")
  if x < 0 then return 0
  if Float.ofNat Property.itemLimit < x then Property.exhausted
  return (Number.toInt x).toNat

/-- The items of a value that has a length. -/
def itemsByPosition (value : Value) : Run (Array Value) := do
  match Property.arrayItems? (← get) value with
  | some found => return found.map Value.ofOption
  | none =>
      let length ← lengthOf host value
      (Array.range length).mapM fun i => Property.get value (Property.keyOf i)

end Convert

end Script

end RuleProbe
