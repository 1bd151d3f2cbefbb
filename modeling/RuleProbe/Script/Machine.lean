import RuleProbe.Pattern.Syntax
import RuleProbe.Script.Regex
import RuleProbe.Script.Syntax

/-!
# The machine that runs scripts

A machine holds the objects and the scopes that a script has made.  Values refer to
objects by their numbers.  A run changes the machine and ends with a result, or
abruptly: by a thrown value, or because its budget is spent.
-/

namespace RuleProbe

namespace Script

/-- A value of a script. -/
inductive Value where
  | undefined
  | null
  | bool (value : Bool)
  | number (value : Float)
  | string (value : Units)
  | object (ref : Nat)
  deriving Inhabited

/-- A property's value and what may be done with it. -/
structure Slot where
  /-- The value. -/
  value : Value
  /-- It may be assigned to. -/
  writable : Bool := true
  /-- It is listed. -/
  enumerable : Bool := true
  /-- It may be removed. -/
  configurable : Bool := true
  deriving Inhabited

/-- The objects whose functions are provided. -/
inductive Library where
  | global | object | objectPrototype | functionPrototype | array | arrayPrototype
  | string | stringPrototype | number | numberPrototype | booleanPrototype | math | json
  | regexPrototype | date | datePrototype | mapPrototype | setPrototype
  | iteratorPrototype | errorPrototype | constructor | host
  deriving DecidableEq, Inhabited

/-- What makes an object more than its properties. -/
inductive Kind where
  | plain
  /-- Items, of which some may be missing. -/
  | array (items : Array (Option Value))
  /-- A function of the script, with the scope and the receiver around it. -/
  | closure (func : Func) (scope : Nat) (receiver : Value)
  /-- A provided function. -/
  | native (library : Library) (name : String)
  /-- A function with its receiver and its first arguments. -/
  | bound (target : Value) (receiver : Value) (args : Array Value)
  | error
  /-- A value that is no object, as an object. -/
  | wrapper (value : Value)
  /-- A moment, in milliseconds. -/
  | date (time : Float)
  | regex (source : Units) (flags : RegexFlags) (pattern : Pattern)
  | map (entries : Array (Value × Value))
  | set (entries : Array Value)
  /-- What remains to be gone through. -/
  | iterator (items : List Value)
  deriving Inhabited

/-- An object. -/
structure Obj where
  /-- The object whose properties it inherits. -/
  proto : Option Nat := none
  /-- What it is. -/
  kind : Kind := .plain
  /-- Its own properties, in the order of their creation. -/
  props : Array (Units × Slot) := #[]
  /-- It may get new properties. -/
  extensible : Bool := true
  deriving Inhabited

/-- A variable. -/
structure Binding where
  /-- Its name. -/
  name : Text
  /-- Its value; nothing before it is initialized. -/
  value : Option Value
  /-- It cannot be assigned to. -/
  constant : Bool
  deriving Inhabited

/-- Variables of one block or function. -/
structure Scope where
  /-- The variables. -/
  bindings : Array Binding
  /-- The scope around. -/
  parent : Option Nat
  deriving Inhabited

/-- The state of a run. -/
structure Machine where
  /-- The objects. -/
  objects : Array Obj
  /-- The scopes; the first one holds what the script declares outside functions. -/
  scopes : Array Scope
  /-- How many turns and calls are left. -/
  budget : Nat
  /-- The value of the last statement that has one. -/
  completion : Value
  deriving Inhabited

/-- Why a run has no result. -/
inductive Abrupt where
  /-- A value was thrown. -/
  | thrown (value : Value)
  /-- The budget is spent. -/
  | interrupted
  deriving Inhabited

/-- A run of a part of a script. -/
abbrev Run := EStateM Abrupt Machine

/-- The objects that exist from the beginning. -/
inductive Intrinsic where
  | global | objectPrototype | functionPrototype | arrayPrototype | stringPrototype
  | numberPrototype | booleanPrototype | regexPrototype | datePrototype | mapPrototype
  | setPrototype | iteratorPrototype | errorPrototype | typeError | referenceError
  | syntaxError | rangeError | internalError | uriError | evalError
  deriving DecidableEq, Inhabited

/-- The number of an object that exists from the beginning. -/
def Intrinsic.ref : Intrinsic → Nat
  | global => 0
  | objectPrototype => 1
  | functionPrototype => 2
  | arrayPrototype => 3
  | stringPrototype => 4
  | numberPrototype => 5
  | booleanPrototype => 6
  | regexPrototype => 7
  | datePrototype => 8
  | mapPrototype => 9
  | setPrototype => 10
  | iteratorPrototype => 11
  | errorPrototype => 12
  | typeError => 13
  | referenceError => 14
  | syntaxError => 15
  | rangeError => 16
  | internalError => 17
  | uriError => 18
  | evalError => 19

namespace Machine

/-- An object by its number. -/
def object (machine : Machine) (ref : Nat) : Obj := machine.objects[ref]?.getD {}

/-- Change an object. -/
def modifyObject (machine : Machine) (ref : Nat) (change : Obj → Obj) : Machine :=
  { machine with objects := machine.objects.modify ref change }

/-- Add an object. -/
def add (machine : Machine) (obj : Obj) : Nat × Machine :=
  (machine.objects.size, { machine with objects := machine.objects.push obj })

end Machine

namespace Run

/-- An object by its number. -/
def object (ref : Nat) : Run Obj := do return (← get).object ref

/-- Change an object. -/
def modifyObject (ref : Nat) (change : Obj → Obj) : Run Unit :=
  modify fun machine => machine.modifyObject ref change

/-- Add an object. -/
def add (obj : Obj) : Run Value :=
  modifyGet fun machine =>
    let (ref, machine) := machine.add obj
    (.object ref, machine)

/-- Spend one turn. -/
def spend : Run Unit := do
  let left ← modifyGet fun machine =>
    (machine.budget, { machine with budget := machine.budget - 1 })
  if left == 0 then throw .interrupted

/-- Throw an error of a class with a message. -/
def fail {α : Type} (errorClass : Intrinsic) (message : Text) : Run α := do
  let slot : Slot := { value := .string (Units.ofText message), enumerable := false }
  let error ← add
    { proto := some errorClass.ref
      kind := .error
      props := #[(Units.ofName "message", slot)] }
  throw (.thrown error)

/-- Throw an error of type. -/
def typeError {α : Type} (message : String) : Run α := fail .typeError message.toList

/-- Throw an error of range. -/
def rangeError {α : Type} (message : String) : Run α := fail .rangeError message.toList

/-- Make an array of items. -/
def makeArray (items : Array (Option Value)) : Run Value :=
  add { proto := some Intrinsic.arrayPrototype.ref, kind := .array items }

/-- Make an array of values. -/
def arrayOf (items : Array Value) : Run Value := makeArray (items.map some)

/-- Make an object without properties. -/
def makeObject : Run Value := add { proto := some Intrinsic.objectPrototype.ref }

end Run

namespace Value

/-- A string by its name. -/
def ofName (name : String) : Value := .string (Units.ofName name)

/-- A string by its text. -/
def ofText (text : Text) : Value := .string (Units.ofText text)

/-- A natural number. -/
def ofNat (n : Nat) : Value := .number (Float.ofNat n)

/-- An integer. -/
def ofInt (n : Int) : Value := .number (Float.ofInt n)

/-- An optional value, undefined when there is none. -/
def ofOption (value : Option Value) : Value := value.getD .undefined

/-- It is undefined or null. -/
def isNullish : Value → Bool
  | undefined => true
  | null => true
  | _ => false

/-- It counts as true. -/
def isTruthy : Value → Bool
  | undefined => false
  | null => false
  | bool value => value
  | number value => value != 0 && !value.isNaN
  | string value => !value.isEmpty
  | object _ => true

/-- Two values are the same, numbers by value; not a number is the same as nothing. -/
def same : Value → Value → Bool
  | undefined, undefined => true
  | null, null => true
  | bool a, bool b => a == b
  | number a, number b => a == b
  | string a, string b => a == b
  | object a, object b => a == b
  | _, _ => false

/-- Two values are the same, or both are not a number. -/
def sameOrNaN : Value → Value → Bool
  | number a, number b => a == b || (a.isNaN && b.isNaN)
  | a, b => same a b

end Value

/-- The argument at a position, undefined when it is missing. -/
def argument (args : Array Value) (i : Nat) : Value := args[i]?.getD .undefined

/-- How operations call functions. -/
structure Caller where
  /-- Call a function with a receiver. -/
  call : Value → Value → Array Value → Run Value
  /-- Construct an object. -/
  construct : Value → Array Value → Run Value

end Script

end RuleProbe
