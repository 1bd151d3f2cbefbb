import RuleProbe.Script.Convert

/-!
# Functions on arrays
-/

namespace RuleProbe

namespace Script

namespace Library

variable (host : Caller)

/-- Functions of the constructor of arrays. -/
def callArray (name : String) (args : Array Value) : Run Value := do
  match name with
  | "isArray" => return .bool (Property.arrayItems? (← get) (argument args 0)).isSome
  | "of" => Run.arrayOf args
  | "from" =>
      let source := argument args 0
      let found ←
        match source with
        | .string _ => (·.toArray) <$> Convert.items source
        | .object ref =>
            match (← Run.object ref).kind with
            | .set _ => (·.toArray) <$> Convert.items source
            | .map _ => (·.toArray) <$> Convert.items source
            | .iterator _ => (·.toArray) <$> Convert.items source
            | _ => Convert.itemsByPosition host source
        | .undefined => Run.typeError "value is not iterable"
        | .null => Run.typeError "value is not iterable"
        | _ => pure #[]
      match argument args 1 with
      | .undefined => Run.arrayOf found
      | func =>
          let mut mapped : Array Value := #[]
          for value in found, i in [0 : found.size] do
            mapped := mapped.push (← host.call func .undefined #[value, Value.ofNat i])
          Run.arrayOf mapped
  | _ => return .undefined

/-- Items one level out of the arrays among them, up to a depth. -/
def flatten : Nat → List (Option Value) → Run (List Value)
  | 0, items => return items.filterMap id
  | depth + 1, items => do
      let machine ← get
      let parts ← items.mapM fun item => do
        match item with
        | none => return []
        | some value =>
            match Property.arrayItems? machine value with
            | some inner => flatten depth inner.toList
            | none => return [value]
      return parts.flatten

/-- Merge two sorted lists; the flag of `after` tells that the first comes later. -/
def mergeLists (after : Value → Value → Run Bool) : Nat → List Value → List Value →
    List Value → Run (List Value)
  | 0, found, a, b => return found.reverse ++ a ++ b
  | _ + 1, found, [], b => return found.reverse ++ b
  | _ + 1, found, a, [] => return found.reverse ++ a
  | fuel + 1, found, x :: a, y :: b => do
      if ← after x y then mergeLists after fuel (y :: found) (x :: a) b
      else mergeLists after fuel (x :: found) a (y :: b)

/-- Sort values stably; `depth` bounds the halvings. -/
def sortValues (after : Value → Value → Run Bool) : Nat → List Value → Run (List Value)
  | 0, values => return values
  | depth + 1, values => do
      if values.length ≤ 1 then return values
      let half := values.length / 2
      let a ← sortValues after depth (values.take half)
      let b ← sortValues after depth (values.drop half)
      mergeLists after values.length [] a b

/-- One value comes after another in the order that a function gives, or in the order
of their texts. -/
def comesAfter (order : Value) (a b : Value) : Run Bool := do
  match order with
  | .undefined =>
      let x ← Convert.toUnits host a
      let y ← Convert.toUnits host b
      return Units.precedes y.toList x.toList
  | order => return 0 < (← Convert.toNumber host (← host.call order .undefined #[a, b]))

/-- The position of the first item that a function accepts, missing ones included. -/
def findItem (items : Array (Option Value)) (receiver func context : Value) :
    Run (Option (Nat × Value)) := do
  if !Property.isCallable (← get) func then Run.typeError "not a function"
  for i in [0 : items.size] do
    let value := Value.ofOption items[i]?.join
    if (← host.call func context #[value, Value.ofNat i, receiver]).isTruthy then
      return some (i, value)
  return none

/-- Combine items from the first or the last on. -/
def reduceItems (items : List (Nat × Value)) (receiver func : Value) (start : Option Value) :
    Run Value := do
  if !Property.isCallable (← get) func then Run.typeError "not a function"
  let (first, rest) ←
    match start, items with
    | some value, items => pure (value, items)
    | none, (_, value) :: rest => pure (value, rest)
    | none, [] => Run.typeError "empty array"
  rest.foldlM (fun found entry =>
    host.call func .undefined #[found, entry.2, Value.ofNat entry.1, receiver]) first

/-- The items that are there, with their positions. -/
def present (items : Array (Option Value)) : List (Nat × Value) :=
  (List.range items.size).filterMap fun i => items[i]?.join.map fun value => (i, value)

/-- The texts of items joined by a mark; what is missing or null leaves no text. -/
def joinItems (items : Array (Option Value)) (mark : Units) : Run Units := do
  let mut found : Units := #[]
  for i in [0 : items.size] do
    if i != 0 then found ← Convert.joinUnits found mark
    let value := Value.ofOption items[i]?.join
    if !value.isNullish then found ← Convert.joinUnits found (← Convert.toUnits host value)
  return found

/-- The first position from `start` on at which a test holds. -/
def positionFrom (items : Array (Option Value)) (start : Nat) (test : Option Value → Bool) :
    Option Nat :=
  ((List.range items.size).drop start).find? fun i => test (items[i]?.getD none)

/-- Store the items of an array, or of an object with a length. -/
def storeItems (receiver : Value) (items : Array (Option Value)) : Run Unit := do
  match receiver with
  | .object ref => Property.modifyItems ref fun _ => items
  | _ => Run.typeError "not an object"

/-- A number as the answer of a search. -/
def positionValue (found : Option Nat) : Value :=
  match found with
  | some i => Value.ofNat i
  | none => .number (-1)

/-- Remove and put in items at a position. -/
def spliceItems (receiver : Value) (items : Array (Option Value)) (args : Array Value) :
    Run Value := do
  let start ← Convert.relativePosition host (argument args 0) items.size 0
  let count ←
    if args.size == 0 then pure 0
    else if args.size == 1 then pure (items.size - start)
    else Convert.clampedPosition host (argument args 1) (items.size - start) 0
  let added := (args.extract 2 args.size).map some
  storeItems receiver
    (items.extract 0 start ++ added ++ items.extract (start + count) items.size)
  Run.makeArray (items.extract start (start + count))

/-- Functions of every array that change it. -/
def changeArray (name : String) (receiver : Value) (items : Array (Option Value))
    (args : Array Value) : Run Value := do
  match name with
  | "pop" =>
      storeItems receiver items.pop
      return Value.ofOption (items.back?.join)
  | "shift" =>
      storeItems receiver (items.extract 1 items.size)
      return Value.ofOption (items[0]?.join)
  | "unshift" =>
      storeItems receiver (args.map some ++ items)
      return Value.ofNat (items.size + args.size)
  | "splice" => spliceItems host receiver items args
  | "reverse" =>
      storeItems receiver items.reverse
      return receiver
  | "sort" =>
      let values := items.toList.filterMap id
      let isUndefined : Value → Bool := fun value => match value with | .undefined => true | _ => false
      let (last, given) := values.partition isUndefined
      let sorted ← sortValues (comesAfter host (argument args 0)) (values.length + 1) given
      let missing := items.size - values.length
      storeItems receiver
        ((sorted ++ last).map some ++ List.replicate missing none).toArray
      return receiver
  | _ =>
      -- `fill`
      let start ← Convert.relativePosition host (argument args 1) items.size 0
      let stop ← Convert.relativePosition host (argument args 2) items.size items.size
      storeItems receiver
        (items.mapIdx fun i item => if start ≤ i && i < stop then some (argument args 0) else item)
      return receiver

/-- Functions of every array that read it. -/
def readArray (name : String) (receiver : Value) (items : Array (Option Value))
    (args : Array Value) : Run Value := do
  let func := argument args 0
  let context := argument args 1
  match name with
  | "slice" =>
      let start ← Convert.relativePosition host (argument args 0) items.size 0
      let stop ← Convert.relativePosition host (argument args 1) items.size items.size
      Run.makeArray (items.extract start stop)
  | "concat" =>
      let machine ← get
      let more := args.toList.map fun value =>
        match Property.arrayItems? machine value with
        | some inner => inner
        | none => #[some value]
      Run.makeArray (more.foldl (· ++ ·) items)
  | "join" =>
      let mark ←
        match argument args 0 with
        | .undefined => pure (Units.ofName ",")
        | value => Convert.toUnits host value
      return .string (← joinItems host items mark)
  | "toString" => return .string (← joinItems host items (Units.ofName ","))
  | "indexOf" =>
      let start ← Convert.relativePosition host (argument args 1) items.size 0
      return positionValue (positionFrom items start fun item =>
        item.any fun value => value.same (argument args 0))
  | "lastIndexOf" =>
      let found := (List.range items.size).reverse.find? fun i =>
        (items[i]?.join).any fun value => value.same (argument args 0)
      return positionValue found
  | "includes" =>
      let start ← Convert.relativePosition host (argument args 1) items.size 0
      return .bool (positionFrom items start fun item =>
        (Value.ofOption item).sameOrNaN (argument args 0)).isSome
  | "forEach" =>
      if !Property.isCallable (← get) func then Run.typeError "not a function"
      for entry in present items do
        let _ ← host.call func context #[entry.2, Value.ofNat entry.1, receiver]
      return .undefined
  | "map" =>
      if !Property.isCallable (← get) func then Run.typeError "not a function"
      let mut found : Array (Option Value) := #[]
      for i in [0 : items.size] do
        match items[i]?.join with
        | some value =>
            found := found.push
              (some (← host.call func context #[value, Value.ofNat i, receiver]))
        | none => found := found.push none
      Run.makeArray found
  | "filter" =>
      if !Property.isCallable (← get) func then Run.typeError "not a function"
      let mut found : Array Value := #[]
      for entry in present items do
        let kept ← host.call func context #[entry.2, Value.ofNat entry.1, receiver]
        if kept.isTruthy then found := found.push entry.2
      Run.arrayOf found
  | "some" =>
      if !Property.isCallable (← get) func then Run.typeError "not a function"
      for entry in present items do
        let found ← host.call func context #[entry.2, Value.ofNat entry.1, receiver]
        if found.isTruthy then return .bool true
      return .bool false
  | "every" =>
      if !Property.isCallable (← get) func then Run.typeError "not a function"
      for entry in present items do
        let found ← host.call func context #[entry.2, Value.ofNat entry.1, receiver]
        if !found.isTruthy then return .bool false
      return .bool true
  | "find" =>
      match ← findItem host items receiver func context with
      | some (_, value) => return value
      | none => return .undefined
  | "findIndex" =>
      return positionValue ((← findItem host items receiver func context).map (·.1))
  | "reduce" =>
      reduceItems host (present items) receiver func
        (if 2 ≤ args.size then some context else none)
  | "reduceRight" =>
      reduceItems host (present items).reverse receiver func
        (if 2 ≤ args.size then some context else none)
  | "flat" =>
      let depth ←
        match argument args 0 with
        | .undefined => pure 1
        | value => do pure (min 1000 (Number.toInt (← Convert.toInteger host value)).toNat)
      Run.arrayOf (← flatten depth items.toList).toArray
  | "flatMap" =>
      if !Property.isCallable (← get) func then Run.typeError "not a function"
      let mut found : Array (Option Value) := #[]
      for entry in present items do
        found := found.push
          (some (← host.call func context #[entry.2, Value.ofNat entry.1, receiver]))
      Run.arrayOf (← flatten 1 found.toList).toArray
  | "keys" =>
      Run.add
        { proto := some Intrinsic.iteratorPrototype.ref
          kind := .iterator ((List.range items.size).map Value.ofNat) }
  | "values" =>
      Run.add
        { proto := some Intrinsic.iteratorPrototype.ref
          kind := .iterator (items.toList.map Value.ofOption) }
  | "entries" =>
      let entries ← (List.range items.size).mapM fun i =>
        Run.arrayOf #[Value.ofNat i, Value.ofOption items[i]?.join]
      Run.add { proto := some Intrinsic.iteratorPrototype.ref, kind := .iterator entries }
  | _ => return .undefined

/-- Functions of every array. -/
def callArrayPrototype (name : String) (receiver : Value) (args : Array Value) :
    Run Value := do
  if name == "push" then
    match receiver with
    | .object ref =>
        Property.modifyItems ref fun items => items ++ args.map some
        match Property.arrayItems? (← get) receiver with
        | some items =>
            if Property.itemLimit < items.size then Property.exhausted
            return Value.ofNat items.size
        | none => Run.typeError "not an array"
    | _ => Run.typeError "not an object"
  else
    let items ←
      match Property.arrayItems? (← get) receiver with
      | some items => pure items
      | none =>
          if receiver.isNullish then Run.typeError "cannot convert to object"
          do pure ((← Convert.itemsByPosition host receiver).map some)
    if ["pop", "shift", "unshift", "splice", "reverse", "sort", "fill"].elem name then
      changeArray host name receiver items args
    else readArray host name receiver items args

end Library

end Script

end RuleProbe
