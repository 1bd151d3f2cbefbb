import RuleProbe.Script.Property

/-!
# Variables

A name is looked up in the scopes around, innermost first, and then among the
properties of the global object.
-/

namespace RuleProbe

namespace Script

namespace Variable

/-- The scope and the place in it of a name, at most `depth` scopes away. -/
def find? (machine : Machine) (name : Text) : Nat → Nat → Option (Nat × Nat)
  | 0, _ => none
  | depth + 1, scope =>
      match machine.scopes[scope]? with
      | none => none
      | some found =>
          match found.bindings.findIdx? fun binding => binding.name == name with
          | some i => some (scope, i)
          | none =>
              match found.parent with
              | some parent => find? machine name depth parent
              | none => none

/-- The binding of a name seen from a scope. -/
def locate (scope : Nat) (name : Text) : Run (Option (Nat × Nat × Binding)) := do
  let machine ← get
  match find? machine name (machine.scopes.size + 1) scope with
  | some (i, j) =>
      let found := (machine.scopes[i]?.getD default).bindings[j]?.getD default
      return some (i, j, found)
  | none => return none

/-- A variable is not there. -/
def undefinedName {α : Type} (name : Text) : Run α :=
  Run.fail .referenceError ("'" ++ name ++ "' is not defined")

/-- A variable has no value yet. -/
def uninitialized {α : Type} (name : Text) : Run α :=
  Run.fail .referenceError (name ++ " is not initialized")

/-- The value of a variable, or nothing when there is no such variable. -/
def read? (scope : Nat) (name : Text) : Run (Option Value) := do
  match ← locate scope name with
  | some (_, _, binding) =>
      match binding.value with
      | some value => return some value
      | none => uninitialized name
  | none =>
      let machine ← get
      return (Property.lookup machine (Units.ofText name) Property.inheritanceLimit
        Intrinsic.global.ref).map (·.value)

/-- The value of a variable. -/
def read (scope : Nat) (name : Text) : Run Value := do
  match ← read? scope name with
  | some value => return value
  | none => undefinedName name

/-- Change the binding at a place. -/
def modifyBinding (i j : Nat) (change : Binding → Binding) : Run Unit :=
  modify fun machine =>
    { machine with
      scopes := machine.scopes.modify i fun scope =>
        { scope with bindings := scope.bindings.modify j change } }

/-- Assign to a variable. -/
def write (strict : Bool) (scope : Nat) (name : Text) (value : Value) : Run Unit := do
  match ← locate scope name with
  | some (i, j, binding) =>
      if binding.value.isNone then uninitialized name
      if binding.constant then Run.fail .typeError ("'" ++ name ++ "' is read-only")
      modifyBinding i j fun binding => { binding with value := some value }
  | none =>
      let key := Units.ofText name
      if strict then
        let machine ← get
        let found := Property.lookup machine key Property.inheritanceLimit Intrinsic.global.ref
        if found.isNone then undefinedName name
      Property.setOn strict Intrinsic.global.ref key value

/-- Give a variable of a scope its first value. -/
def define (scope : Nat) (name : Text) (value : Value) : Run Unit := do
  match ← locate scope name with
  | some (i, j, _) => modifyBinding i j fun binding => { binding with value := some value }
  | none => return ()

/-- Open a scope inside another. -/
def openScope (bindings : Array Binding) (parent : Option Nat) : Run Nat :=
  modifyGet fun machine =>
    (machine.scopes.size, { machine with scopes := machine.scopes.push { bindings, parent } })

/-- Add variables to a scope. -/
def declare (scope : Nat) (bindings : List Binding) : Run Unit :=
  modify fun machine =>
    { machine with
      scopes := machine.scopes.modify scope fun found =>
        { found with bindings := found.bindings ++ bindings.toArray } }

/-- A scope with the same variables beside it. -/
def copyScope (scope : Nat) : Run Nat := do
  let found := (← get).scopes[scope]?.getD default
  openScope found.bindings found.parent

/-- The variables that the declarations of a block hold, still without values. -/
def lexicals (statements : List Stmt) : List Binding :=
  statements.flatMap fun statement =>
    match statement with
    | .declare .block names _ => names.map fun name => ⟨name, none, false⟩
    | .declare .constant names _ => names.map fun name => ⟨name, none, true⟩
    | _ => []

end Variable

end Script

end RuleProbe
