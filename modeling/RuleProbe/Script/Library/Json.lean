import RuleProbe.Json.Reader
import RuleProbe.Text.Quoted
import RuleProbe.Script.Convert

/-!
# JSON in scripts

Values of scripts are made from JSON values, and written as JSON texts.
-/

namespace RuleProbe

namespace Script

namespace Library

variable (host : Caller)

/-- An object with the properties that a JSON text gives it. -/
def plainObject (props : Array (Units × Slot)) : Obj :=
  { proto := some Intrinsic.objectPrototype.ref, props }

/-- The object to inherit from that a member of a literal names. -/
def literalParent (props : Array (Units × Slot)) : Option Nat :=
  let standard := some Intrinsic.objectPrototype.ref
  match props.find? fun entry => entry.1 == Units.ofName "__proto__" with
  | some (_, slot) =>
      match slot.value with
      | .object ref => some ref
      | .null => none
      | _ => standard
  | none => standard

/-- An object with the properties that a literal gives it, one of which may name what it
inherits from. -/
def literalObject (props : Array (Units × Slot)) : Obj :=
  { proto := literalParent props
    props := props.filter fun entry => entry.1 != Units.ofName "__proto__" }

section

variable (make : Array (Units × Slot) → Obj)

mutual

/-- The value of a script that a JSON value stands for; `make` gives the object for some
properties. -/
def ofJson : Json → Run Value
  | .null => return .null
  | .bool value => return .bool value
  | .int value => return .number (Float.ofInt value)
  | .float value => return .number value
  | .str value => return Value.ofText value
  | .arr items => do Run.arrayOf (← ofJsonItems items #[])
  | .obj members => do Run.add (make (← ofJsonMembers members #[]))
  termination_by structural value => value

/-- The values of items, after those made already. -/
def ofJsonItems : List Json → Array Value → Run (Array Value)
  | [], made => return made
  | item :: rest, made => do ofJsonItems rest (made.push (← ofJson item))
  termination_by structural items => items

/-- The properties of members, after those made already. -/
def ofJsonMembers : List (Text × Json) → Array (Units × Slot) → Run (Array (Units × Slot))
  | [], made => return made
  | member :: rest, made => do ofJsonMembers rest (made.push (← ofJsonMember member))
  termination_by structural members => members

/-- The property of a member. -/
def ofJsonMember : Text × Json → Run (Units × Slot)
  | (key, value) => do return (Units.ofText key, { value := ← ofJson value })
  termination_by structural member => member

end

end

mutual

/-- A JSON value without words that scripts do not know. -/
def isPlainJson : Json → Bool
  | .float value => !value.isNaN
  | .arr items => arePlainItems items
  | .obj members => arePlainMembers members
  | _ => true
  termination_by structural value => value

/-- Items without words that scripts do not know. -/
def arePlainItems : List Json → Bool
  | [] => true
  | item :: rest => isPlainJson item && arePlainItems rest
  termination_by structural items => items

/-- Members without words that scripts do not know. -/
def arePlainMembers : List (Text × Json) → Bool
  | [] => true
  | member :: rest => isPlainMember member && arePlainMembers rest
  termination_by structural members => members

/-- A member without words that scripts do not know. -/
def isPlainMember : Text × Json → Bool
  | (_, value) => isPlainJson value
  termination_by structural member => member

end

/-- Apply a function to all values inside a value, innermost first. -/
def revive (func : Value) : Nat → Value → Units → Run Value
  | 0, _, _ => Property.exhausted
  | depth + 1, holder, key => do
      let value ← Property.get holder key
      if let .object ref := value then
        for inner in Property.ownKeys (← Run.object ref) false do
          match ← revive func depth value inner with
          | .undefined =>
              let _ ← Property.remove ref inner
          | found => Property.define ref inner { value := found }
      host.call func holder #[.string key, value]

/-- Read a JSON text. -/
def parseJson (args : Array Value) : Run Value := do
  let units ← Convert.toUnits host (argument args 0)
  let func := argument args 1
  match Json.read units.toText with
  | .ok parsed =>
      if !isPlainJson parsed then Run.fail .syntaxError "unexpected token"
      let value ← ofJson plainObject parsed
      if Property.isCallable (← get) func then
        let holder ← Run.makeObject
        Property.set false holder #[] value
        revive host func 1000 holder #[]
      else return value
  | .error _ => Run.fail .syntaxError "unexpected token"

/-- A unit of a JSON string. -/
def jsonUnit (unit : UInt16) : List UInt16 :=
  let escape (c : Char) : List UInt16 := [92, UInt16.ofNat c.toNat]
  if unit == 34 then escape '"'
  else if unit == 92 then escape '\\'
  else if unit == 8 then escape 'b'
  else if unit == 9 then escape 't'
  else if unit == 10 then escape 'n'
  else if unit == 12 then escape 'f'
  else if unit == 13 then escape 'r'
  else if unit < 32 || Units.isHigh unit || Units.isLow unit then
    escape 'u' ++ (Units.ofText (Quoted.hex 4 unit.toNat)).toList
  else [unit]

/-- The units of a JSON string, pairs kept together; the option is a first half that
waits for the second. -/
def jsonUnits : Option UInt16 → List UInt16 → List UInt16
  | none, [] => []
  | some high, [] => jsonUnit high
  | none, unit :: rest =>
      if Units.isHigh unit then jsonUnits (some unit) rest else jsonUnit unit ++ jsonUnits none rest
  | some high, unit :: rest =>
      if Units.isLow unit then high :: unit :: jsonUnits none rest
      else if Units.isHigh unit then jsonUnit high ++ jsonUnits (some unit) rest
      else jsonUnit high ++ jsonUnit unit ++ jsonUnits none rest

/-- A JSON string. -/
def jsonString (units : Units) : Units :=
  (34 :: jsonUnits none units.toList ++ [34]).toArray

/-- How values are written. -/
structure JsonStyle where
  /-- What stands before each item of a container, once for each level. -/
  gap : Units
  /-- A function that replaces values, or undefined. -/
  replacer : Value
  /-- The keys that are written, if not all are. -/
  keys : Option (List Units)

/-- Lines of a container between its brackets. -/
def jsonContainer (style : JsonStyle) (indent : Units) (opening closing : UInt16)
    (parts : List Units) : Units :=
  if parts.isEmpty then #[opening, closing]
  else if style.gap.isEmpty then
    #[opening] ++ (parts.intersperse #[44]).foldl (· ++ ·) #[] ++ #[closing]
  else
    let inner := indent ++ style.gap
    let separator : Units := #[44, 10] ++ inner
    #[opening, 10] ++ inner ++ (parts.intersperse separator).foldl (· ++ ·) #[] ++
      #[10] ++ indent ++ #[closing]

/-- The value to be written for a member. -/
def jsonValue (style : JsonStyle) (holder : Value) (key : Units) (value : Value) :
    Run Value := do
  let value ←
    match value with
    | .object _ =>
        let method ← Property.getNamed value "toJSON"
        if Property.isCallable (← get) method then host.call method value #[.string key]
        else pure value
    | value => pure value
  let value ←
    match style.replacer with
    | .undefined => pure value
    | func => host.call func holder #[.string key, value]
  match value with
  | .object ref =>
      match (← Run.object ref).kind with
      | .wrapper inner => return inner
      | _ => return value
  | value => return value

/-- Write a value; nothing for what JSON cannot express.  The objects around it are
given, to refuse cycles. -/
def writeJson (style : JsonStyle) : Nat → List Nat → Units → Value → Run (Option Units)
  | 0, _, _, _ => Property.exhausted
  | depth + 1, around, indent, value => do
      match value with
      | .undefined => return none
      | .null => return some (Units.ofName "null")
      | .bool _ => return some (Convert.plainText value)
      | .number x =>
          return some (if x.isFinite then Convert.plainText value else Units.ofName "null")
      | .string units => return some (jsonString units)
      | .object ref =>
          if Property.isCallable (← get) value then return none
          if around.elem ref then Run.typeError "circular reference"
          let around := ref :: around
          let inner := indent ++ style.gap
          match Property.arrayItems? (← get) value with
          | some items =>
              let mut parts : Array Units := #[]
              for i in [0 : items.size] do
                let item ← jsonValue host style value (Property.keyOf i)
                  (Value.ofOption items[i]?.join)
                let written ← writeJson style depth around inner item
                parts := parts.push (written.getD (Units.ofName "null"))
              return some (jsonContainer style indent 91 93 parts.toList)
          | none =>
              let keys := style.keys.getD (Property.ownKeys (← Run.object ref) false)
              let mut parts : Array Units := #[]
              for key in keys do
                let item ← jsonValue host style value key (← Property.get value key)
                if let some written ← writeJson style depth around inner item then
                  let colon : Units := if style.gap.isEmpty then #[58] else #[58, 32]
                  parts := parts.push (jsonString key ++ colon ++ written)
              return some (jsonContainer style indent 123 125 parts.toList)

/-- How a call asks for values to be written. -/
def jsonStyle (args : Array Value) : Run JsonStyle := do
  let machine ← get
  let choice := argument args 1
  let replacer := if Property.isCallable machine choice then choice else .undefined
  let keys ←
    match Property.arrayItems? machine choice with
    | some items =>
        some <$> (items.toList.filterMap id).mapM (Convert.toUnits host)
    | none => pure none
  let gap : Units :=
    match argument args 2 with
    | .number x => Array.replicate (min 10 (Number.toInt x).toNat) 32
    | .string units => units.extract 0 10
    | _ => #[]
  return { gap, replacer, keys }

/-- Write a value as a JSON text; undefined for what JSON cannot express. -/
def stringifyJson (args : Array Value) : Run Value := do
  let style ← jsonStyle host args
  let holder ← Run.makeObject
  let first := argument args 0
  if let .object ref := holder then Property.define ref #[] { value := first }
  let value ← jsonValue host style holder #[] first
  return Value.ofOption ((← writeJson host style 1000 [] #[] value).map Value.string)

/-- Functions on JSON texts. -/
def callJson (name : String) (args : Array Value) : Run Value :=
  match name with
  | "parse" => parseJson host args
  | _ => stringifyJson host args

end Library

end Script

end RuleProbe
