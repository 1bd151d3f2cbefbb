import RuleProbe.Script.Machine
import RuleProbe.Script.Number

/-!
# Properties of objects

Properties are found by their keys, first on an object itself and then on the objects
it inherits from.  Items of arrays and units of strings are properties under their
positions, and some objects have properties that follow from what they are.
-/

namespace RuleProbe

namespace Script

namespace Property

/-- The key of a position. -/
def keyOf (i : Nat) : Units := Units.ofText (Integer.writeNat i)

/-- The position that a key writes. -/
def position? (key : Units) : Option Nat :=
  if key.isEmpty || 10 < key.size then none
  else if key.any fun unit => unit < 48 || 57 < unit then none
  else if key[0]? == some 48 && key.size != 1 then none
  else some (key.foldl (fun value unit => value * 10 + (unit.toNat - 48)) 0)

/-- A property that follows from what an object is, under a name. -/
def fixed (value : Value) : Slot :=
  { value, writable := false, enumerable := false, configurable := false }

/-- The number of parameters before the first one with a default. -/
def parameterCount (func : Func) : Nat :=
  (func.params.takeWhile fun param =>
    match param with
    | .item _ none => true
    | _ => false).length

/-- The flags of a regular expression as a text. -/
def flagText (flags : RegexFlags) : Text :=
  (if flags.global then ['g'] else []) ++ (if flags.ignoreCase then ['i'] else []) ++
    (if flags.multiline then ['m'] else []) ++ (if flags.dotAll then ['s'] else []) ++
    (if flags.unicode then ['u'] else []) ++ (if flags.sticky then ['y'] else [])

/-- The property of a string under a key. -/
def ofString? (units : Units) (key : Units) : Option Slot :=
  match position? key with
  | some i =>
      units[i]?.map fun unit =>
        { value := .string #[unit], writable := false, enumerable := true, configurable := false }
  | none =>
      if key == Units.ofName "length" then some (fixed (Value.ofNat units.size)) else none

/-- The property that an object has because of what it is. -/
def ofKind? (kind : Kind) (key : Units) : Option Slot :=
  let is (name : String) : Bool := key == Units.ofName name
  match kind with
  | .array items =>
      match position? key with
      | some i => items[i]?.join.map fun value => { value }
      | none =>
          if is "length" then
            some { value := Value.ofNat items.size, enumerable := false, configurable := false }
          else none
  | .wrapper (.string units) => ofString? units key
  | .closure func _ _ =>
      if is "name" then some (fixed (Value.ofText func.name))
      else if is "length" then some (fixed (Value.ofNat (parameterCount func)))
      else none
  | .native _ name => if is "name" then some (fixed (Value.ofName name)) else none
  | .map entries => if is "size" then some (fixed (Value.ofNat entries.size)) else none
  | .set entries => if is "size" then some (fixed (Value.ofNat entries.size)) else none
  | .regex source flags _ =>
      if is "source" then some (fixed (.string source))
      else if is "flags" then some (fixed (Value.ofText (flagText flags)))
      else if is "global" then some (fixed (.bool flags.global))
      else if is "ignoreCase" then some (fixed (.bool flags.ignoreCase))
      else if is "multiline" then some (fixed (.bool flags.multiline))
      else none
  | _ => none

/-- The own property of an object under a key. -/
def own? (obj : Obj) (key : Units) : Option Slot :=
  match obj.props.find? fun entry => entry.1 == key with
  | some entry => some entry.2
  | none => ofKind? obj.kind key

/-- The property under a key of an object or of what it inherits from, at most `depth`
objects away. -/
def lookup (machine : Machine) (key : Units) : Nat → Nat → Option Slot
  | 0, _ => none
  | depth + 1, ref =>
      let obj := machine.object ref
      match own? obj key with
      | some slot => some slot
      | none =>
          match obj.proto with
          | some proto => lookup machine key depth proto
          | none => none

/-- The greatest number of objects inherited from in a row. -/
def inheritanceLimit : Nat := 1000

/-- The object from which a value that is no object inherits. -/
def protoOf? : Value → Option Intrinsic
  | .string _ => some .stringPrototype
  | .number _ => some .numberPrototype
  | .bool _ => some .booleanPrototype
  | _ => none

/-- The text of a key in a message. -/
def describe (key : Units) : Text := key.toText

/-- The property of a value under a key. -/
def get (value : Value) (key : Units) : Run Value := do
  let machine ← EStateM.get
  match value with
  | .object ref =>
      return Value.ofOption ((lookup machine key inheritanceLimit ref).map (·.value))
  | .undefined =>
      Run.fail .typeError ("cannot read property '" ++ describe key ++ "' of undefined")
  | .null => Run.fail .typeError ("cannot read property '" ++ describe key ++ "' of null")
  | primitive =>
      let direct : Option Slot :=
        match primitive with
        | .string units => ofString? units key
        | _ => none
      match direct with
      | some slot => return slot.value
      | none =>
          match protoOf? primitive with
          | some proto =>
              return Value.ofOption
                ((lookup machine key inheritanceLimit proto.ref).map (·.value))
          | none => return .undefined

/-- The property of a value under a name. -/
def getNamed (value : Value) (name : String) : Run Value := get value (Units.ofName name)

/-- Change or add a property of an object. -/
def putSlot (obj : Obj) (key : Units) (slot : Slot) : Obj :=
  match obj.props.findIdx? fun entry => entry.1 == key with
  | some i => { obj with props := obj.props.set! i (key, slot) }
  | none => { obj with props := obj.props.push (key, slot) }

/-- The greatest number of items of an array. -/
def itemLimit : Nat := 2500000

/-- Put a value at a position of an array. -/
def putItem (items : Array (Option Value)) (i : Nat) (value : Value) : Array (Option Value) :=
  if i < items.size then items.set! i (some value)
  else (items ++ Array.replicate (i - items.size) none).push (some value)

/-- An array with a given number of items. -/
def resize (items : Array (Option Value)) (size : Nat) : Array (Option Value) :=
  if size ≤ items.size then items.extract 0 size
  else items ++ Array.replicate (size - items.size) none

/-- Memory would not suffice. -/
def exhausted {α : Type} : Run α := Run.fail .internalError "out of memory"

/-- Change the items of an array; an object that is no array stays as it is. -/
def modifyItems (ref : Nat) (change : Array (Option Value) → Array (Option Value)) : Run Unit :=
  Run.modifyObject ref fun obj =>
    match obj with
    | ⟨proto, .array items, props, extensible⟩ =>
        ⟨proto, .array (change items), props, extensible⟩
    | obj => obj

/-- Fail where checks are strict; otherwise nothing happens. -/
def refuse (strict : Bool) (message : Text) : Run Unit := do
  if strict then Run.fail .typeError message

/-- Assign to a property of an object. -/
def setOn (strict : Bool) (ref : Nat) (key : Units) (value : Value) : Run Unit := do
  let machine ← EStateM.get
  let obj := machine.object ref
  let isArray := match obj.kind with | .array _ => true | _ => false
  let readOnly : Text := "'" ++ describe key ++ "' is read-only"
  match own? obj key with
  | some slot =>
      if !slot.writable then refuse strict readOnly
      else
        match isArray, position? key with
        | true, some i =>
            if obj.extensible then modifyItems ref fun items => putItem items i value
            else refuse strict readOnly
        | true, none =>
            if key == Units.ofName "length" then
              match value with
              | .number x =>
                  let size := Number.toInt x
                  if size < 0 || x != Float.ofInt size then Run.rangeError "invalid array length"
                  if itemLimit < size then exhausted
                  modifyItems ref fun items => resize items size.toNat
              | _ => Run.rangeError "invalid array length"
            else Run.modifyObject ref fun obj => putSlot obj key { slot with value }
        | _, _ => Run.modifyObject ref fun obj => putSlot obj key { slot with value }
  | none =>
      let inherited := obj.proto.bind fun proto => lookup machine key inheritanceLimit proto
      if inherited.any fun slot => !slot.writable then refuse strict readOnly
      else if !obj.extensible then refuse strict "object is not extensible"
      else
        match isArray, position? key with
        | true, some i =>
            if itemLimit ≤ i then exhausted
            modifyItems ref fun items => putItem items i value
        | _, _ =>
            Run.modifyObject ref fun obj =>
              { obj with props := obj.props.push (key, { value }) }

/-- Assign to a property of a value. -/
def set (strict : Bool) (target : Value) (key : Units) (value : Value) : Run Unit := do
  match target with
  | .object ref =>
      if key == Units.ofName "__proto__" then
        match value with
        | .object proto => Run.modifyObject ref fun obj => { obj with proto := some proto }
        | .null => Run.modifyObject ref fun obj => { obj with proto := none }
        | _ => return ()
      else setOn strict ref key value
  | .undefined =>
      Run.fail .typeError ("cannot set property '" ++ describe key ++ "' of undefined")
  | .null => Run.fail .typeError ("cannot set property '" ++ describe key ++ "' of null")
  | _ => refuse strict "not an object"

/-- Give an object a property, whatever it inherits. -/
def define (ref : Nat) (key : Units) (slot : Slot) : Run Unit := do
  let obj ← Run.object ref
  match obj.kind, position? key with
  | .array _, some i =>
      if itemLimit ≤ i then exhausted
      modifyItems ref fun items => putItem items i slot.value
  | _, _ => Run.modifyObject ref fun obj => putSlot obj key slot

/-- Remove a property; whether it is gone. -/
def remove (ref : Nat) (key : Units) : Run Bool := do
  let obj ← Run.object ref
  match own? obj key with
  | none => return true
  | some slot =>
      if !slot.configurable then return false
      match obj.kind, position? key with
      | .array _, some i => modifyItems ref fun items => items.setIfInBounds i none
      | _, _ =>
          Run.modifyObject ref fun obj =>
            { obj with props := obj.props.filter fun entry => entry.1 != key }
      return true

/-- Sort positions; equal ones do not occur. -/
def sortPositions (positions : List (Nat × Units)) : List Units :=
  (positions.mergeSort fun a b => a.1 ≤ b.1).map (·.2)

/-- The keys of the own properties of an object: positions in order, then the others
in the order of their creation. -/
def ownKeys (obj : Obj) (all : Bool) : List Units :=
  let stored := obj.props.toList.filter fun entry => all || entry.2.enumerable
  let items : List Units :=
    match obj.kind with
    | .array items =>
        (List.range items.size).filterMap fun i =>
          if (items[i]?.join).isSome then some (keyOf i) else none
    | .wrapper (.string units) => (List.range units.size).map keyOf
    | _ => []
  let positions := stored.filterMap fun entry =>
    (position? entry.1).map fun i => (i, entry.1)
  let others := stored.filterMap fun entry =>
    if (position? entry.1).isSome then none else some entry.1
  let extra : List Units :=
    match obj.kind with
    | .array _ => if all then [Units.ofName "length"] else []
    | .wrapper (.string _) => if all then [Units.ofName "length"] else []
    | _ => []
  items ++ sortPositions positions ++ extra ++ others

/-- The keys of the listed properties of an object and of what it inherits from, each
once. -/
def listedKeys (machine : Machine) : Nat → List Units → Nat → List Units
  | 0, found, _ => found
  | depth + 1, found, ref =>
      let obj := machine.object ref
      let keys := (ownKeys obj false).filter fun key => !found.elem key
      -- A property that is not listed hides an inherited one.
      let found := found ++ keys
      match obj.proto with
      | some proto => listedKeys machine depth found proto
      | none => found

/-- An object inherits from another. -/
def inherits (machine : Machine) (ancestor : Nat) : Nat → Nat → Bool
  | 0, _ => false
  | depth + 1, ref =>
      match (machine.object ref).proto with
      | some proto => proto == ancestor || inherits machine ancestor depth proto
      | none => false

/-- A value can be called. -/
def isCallable (machine : Machine) : Value → Bool
  | .object ref =>
      match (machine.object ref).kind with
      | .closure _ _ _ => true
      | .native _ _ => true
      | .bound _ _ _ => true
      | _ => false
  | _ => false

/-- The items of an array; nothing for another value. -/
def arrayItems? (machine : Machine) : Value → Option (Array (Option Value))
  | .object ref =>
      match (machine.object ref).kind with
      | .array items => some items
      | _ => none
  | _ => none

end Property

end Script

end RuleProbe
