import RuleProbe.Script.Convert

/-!
# Functions on objects and functions

What scripts find on the constructor of objects, on every object, on every function
and on errors.
-/

namespace RuleProbe

namespace Script

namespace Library

variable (host : Caller)

/-- The keys, the values or the entries of an object's listed properties. -/
def listProperties (value : Value) (entry : Units → Value → Run Value) : Run Value := do
  let ref ← Convert.toObject value
  let mut found : Array Value := #[]
  for key in Property.ownKeys (← Run.object ref) false do
    found := found.push (← entry key (← Property.get (.object ref) key))
  Run.arrayOf found

/-- Allow or forbid what may be done with every property of an object. -/
def lockProperties (obj : Obj) (keepWritable : Bool) : Obj :=
  { obj with
    extensible := false
    props := obj.props.map fun entry =>
      (entry.1, { entry.2 with
        writable := entry.2.writable && keepWritable, configurable := false }) }

/-- A property as a description gives it. -/
def readDescription (description : Value) : Run Slot := do
  let flag (name : String) : Run Bool := do
    return (← Property.getNamed description name).isTruthy
  return {
    value := ← Property.getNamed description "value"
    writable := ← flag "writable"
    enumerable := ← flag "enumerable"
    configurable := ← flag "configurable" }

/-- Functions of the constructor of objects. -/
def callObject (name : String) (args : Array Value) : Run Value := do
  let first := argument args 0
  match name with
  | "keys" => listProperties first fun key _ => return .string key
  | "values" => listProperties first fun _ value => return value
  | "entries" => listProperties first fun key value => Run.arrayOf #[.string key, value]
  | "assign" =>
      let ref ← Convert.toObject first
      for source in args.toList.drop 1 do
        if !source.isNullish then
          let from_ ← Convert.toObject source
          for key in Property.ownKeys (← Run.object from_) false do
            Property.set true (.object ref) key (← Property.get (.object from_) key)
      return .object ref
  | "create" =>
      match first with
      | .object proto => Run.add { proto := some proto }
      | .null => Run.add {}
      | _ => Run.typeError "not a prototype"
  | "freeze" =>
      if let .object ref := first then
        Run.modifyObject ref fun obj => lockProperties obj false
      return first
  | "seal" =>
      if let .object ref := first then
        Run.modifyObject ref fun obj => lockProperties obj true
      return first
  | "isFrozen" =>
      match first with
      | .object ref => return .bool (!(← Run.object ref).extensible)
      | _ => return .bool true
  | "getPrototypeOf" =>
      let ref ← Convert.toObject first
      match (← Run.object ref).proto with
      | some proto => return .object proto
      | none => return .null
  | "setPrototypeOf" =>
      Property.set false first (Units.ofName "__proto__") (argument args 1)
      return first
  | "getOwnPropertyNames" =>
      let ref ← Convert.toObject first
      Run.arrayOf ((Property.ownKeys (← Run.object ref) true).map Value.string).toArray
  | "fromEntries" =>
      let made ← Run.makeObject
      for entry in ← Convert.items first do
        let key ← Convert.toKey host (← Property.getNamed entry "0")
        let value ← Property.getNamed entry "1"
        if let .object ref := made then Property.define ref key { value }
      return made
  | "defineProperty" =>
      match first with
      | .object ref =>
          let key ← Convert.toKey host (argument args 1)
          Property.define ref key (← readDescription (argument args 2))
          return first
      | _ => Run.typeError "not an object"
  | "is" =>
      let second := argument args 1
      match first, second with
      | .number x, .number y => return .bool (x.toBits == y.toBits || (x.isNaN && y.isNaN))
      | _, _ => return .bool (first.same second)
  | _ => return .undefined

/-- The word for what an object is. -/
def tagOf (value : Value) : Run String := do
  match value with
  | .undefined => return "Undefined"
  | .null => return "Null"
  | .bool _ => return "Boolean"
  | .number _ => return "Number"
  | .string _ => return "String"
  | .object ref =>
      match (← Run.object ref).kind with
      | .array _ => return "Array"
      | .closure _ _ _ => return "Function"
      | .native _ _ => return "Function"
      | .bound _ _ _ => return "Function"
      | .error => return "Error"
      | .wrapper (.string _) => return "String"
      | .wrapper (.number _) => return "Number"
      | .wrapper _ => return "Boolean"
      | .date _ => return "Date"
      | .regex _ _ _ => return "RegExp"
      | .map _ => return "Map"
      | .set _ => return "Set"
      | _ => return if ref == Intrinsic.global.ref then "global" else "Object"

/-- Functions of every object. -/
def callObjectPrototype (name : String) (receiver : Value) (args : Array Value) : Run Value := do
  match name with
  | "hasOwnProperty" =>
      let key ← Convert.toKey host (argument args 0)
      let ref ← Convert.toObject receiver
      return .bool (Property.own? (← Run.object ref) key).isSome
  | "propertyIsEnumerable" =>
      let key ← Convert.toKey host (argument args 0)
      let ref ← Convert.toObject receiver
      return .bool ((Property.own? (← Run.object ref) key).any fun slot => slot.enumerable)
  | "isPrototypeOf" =>
      match receiver, argument args 0 with
      | .object ancestor, .object ref =>
          return .bool (Property.inherits (← get) ancestor Property.inheritanceLimit ref)
      | _, _ => return .bool false
  | "valueOf" => return .object (← Convert.toObject receiver)
  | "toString" =>
      let tag ← tagOf receiver
      return Value.ofText ("[object ".toList ++ tag.toList ++ [']'])
  | "toLocaleString" =>
      host.call (← Property.getNamed receiver "toString") receiver #[]
  | _ => return .undefined

/-- The text of a function. -/
def functionText (name : Units) : Units :=
  Units.ofName "function " ++ name ++ Units.ofName "() \x7b\n    [native code]\n\x7d"

/-- Functions of every function. -/
def callFunctionPrototype (name : String) (receiver : Value) (args : Array Value) :
    Run Value := do
  match name with
  | "call" => host.call receiver (argument args 0) (args.extract 1 args.size)
  | "apply" =>
      let list := argument args 1
      let given ← if list.isNullish then pure #[] else Convert.itemsByPosition host list
      host.call receiver (argument args 0) given
  | "bind" =>
      Run.add
        { proto := some Intrinsic.functionPrototype.ref
          kind := .bound receiver (argument args 0) (args.extract 1 args.size) }
  | "toString" =>
      let own ← Convert.toUnits host (← Property.getNamed receiver "name")
      return .string (functionText own)
  | _ => return .undefined

/-- Functions of every error. -/
def callErrorPrototype (receiver : Value) : Run Value := do
  let part (name : String) (default : Units) : Run Units := do
    match ← Property.getNamed receiver name with
    | .undefined => return default
    | value => Convert.toUnits host value
  let name ← part "name" (Units.ofName "Error")
  let message ← part "message" #[]
  if name.isEmpty then return .string message
  else if message.isEmpty then return .string name
  else return .string (name ++ Units.ofName ": " ++ message)

end Library

end Script

end RuleProbe
