import RuleProbe.Script.Convert

/-!
# Functions on maps and sets
-/

namespace RuleProbe

namespace Script

namespace Library

variable (host : Caller)

/-- Values one after another. -/
def makeIterator (items : List Value) : Run Value :=
  Run.add { proto := some Intrinsic.iteratorPrototype.ref, kind := .iterator items }

/-- A pair as an array. -/
def pairValue (a b : Value) : Run Value := Run.arrayOf #[a, b]

/-- Entries with a key bound to a value. -/
def putEntry (entries : Array (Value × Value)) (key value : Value) : Array (Value × Value) :=
  match entries.findIdx? fun entry => entry.1.sameOrNaN key with
  | some i => entries.set! i (key, value)
  | none => entries.push (key, value)

/-- Functions of every map. -/
def callMapPrototype (name : String) (receiver : Value) (args : Array Value) :
    Run Value := do
  let first := argument args 0
  let change (ref : Nat) (entries : Array (Value × Value)) : Run Unit :=
    Run.modifyObject ref fun obj => { obj with kind := .map entries }
  match receiver with
  | .object ref =>
      match (← Run.object ref).kind with
      | .map entries =>
          let found := entries.find? fun entry => entry.1.sameOrNaN first
          match name with
          | "get" => return Value.ofOption (found.map (·.2))
          | "has" => return .bool found.isSome
          | "set" =>
              change ref (putEntry entries first (argument args 1))
              return receiver
          | "delete" =>
              change ref (entries.filter fun entry => !entry.1.sameOrNaN first)
              return .bool found.isSome
          | "clear" =>
              change ref #[]
              return .undefined
          | "forEach" =>
              for entry in entries do
                let _ ← host.call first (argument args 1) #[entry.2, entry.1, receiver]
              return .undefined
          | "keys" => makeIterator (entries.toList.map (·.1))
          | "values" => makeIterator (entries.toList.map (·.2))
          | _ => makeIterator (← entries.toList.mapM fun entry => pairValue entry.1 entry.2)
      | _ => Run.typeError "Map object expected"
  | _ => Run.typeError "Map object expected"

/-- Functions of every set. -/
def callSetPrototype (name : String) (receiver : Value) (args : Array Value) :
    Run Value := do
  let first := argument args 0
  let change (ref : Nat) (entries : Array Value) : Run Unit :=
    Run.modifyObject ref fun obj => { obj with kind := .set entries }
  match receiver with
  | .object ref =>
      match (← Run.object ref).kind with
      | .set entries =>
          let found := entries.any fun entry => entry.sameOrNaN first
          match name with
          | "has" => return .bool found
          | "add" =>
              if !found then change ref (entries.push first)
              return receiver
          | "delete" =>
              change ref (entries.filter fun entry => !entry.sameOrNaN first)
              return .bool found
          | "clear" =>
              change ref #[]
              return .undefined
          | "forEach" =>
              for entry in entries do
                let _ ← host.call first (argument args 1) #[entry, entry, receiver]
              return .undefined
          | "entries" => makeIterator (← entries.toList.mapM fun entry => pairValue entry entry)
          | _ => makeIterator entries.toList
      | _ => Run.typeError "Set object expected"
  | _ => Run.typeError "Set object expected"

/-- The next value of what is gone through, and whether there is none. -/
def callIteratorPrototype (receiver : Value) : Run Value := do
  match receiver with
  | .object ref =>
      match (← Run.object ref).kind with
      | .iterator items =>
          Run.modifyObject ref fun obj => { obj with kind := .iterator (items.drop 1) }
          let slots : Array (Units × Slot) :=
            #[(Units.ofName "value", { value := Value.ofOption items.head? }),
              (Units.ofName "done", { value := .bool items.isEmpty })]
          Run.add { proto := some Intrinsic.objectPrototype.ref, props := slots }
      | _ => Run.typeError "not an iterator"
  | _ => Run.typeError "not an iterator"

end Library

end Script

end RuleProbe
