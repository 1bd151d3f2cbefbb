import RuleProbe.Keyed

/-!
# JSON values

Values of JSON texts.  Integers are unbounded and distinct from floating-point
numbers, and an object keeps its members in the order in which their keys first
appeared.
-/

namespace RuleProbe

/-- A JSON value. -/
inductive Json where
  /-- The null value. -/
  | null
  /-- A truth value. -/
  | bool (value : Bool)
  /-- An integer of any size. -/
  | int (value : Int)
  /-- A floating-point number. -/
  | float (value : Float)
  /-- A string. -/
  | str (value : Text)
  /-- An array. -/
  | arr (items : List Json)
  /-- An object, as its members in order. -/
  | obj (members : List (Text × Json))
  deriving Inhabited

namespace Json

/-- Members of an object: keys with their values, in order. -/
abbrev Members := Keyed Json

/-- The members of an object; none for any other value. -/
def members : Json → Members
  | .obj members => members
  | _ => []

/-- The value of a member; null when there is none. -/
def member (value : Json) (key : Text) : Json :=
  (Keyed.get? value.members key).getD .null

/-- The value is an object or an array. -/
def isContainer : Json → Bool
  | .obj _ => true
  | .arr _ => true
  | _ => false

/-- A floating-point number without fraction. -/
def isIntegral (x : Float) : Bool := x.isFinite && x.floor == x

/-- A value that counts as given: not null, false, zero or empty. -/
def isGiven : Json → Bool
  | .null => false
  | .bool value => value
  | .int value => value != 0
  | .float value => value != 0
  | .str value => !value.isEmpty
  | .arr items => !items.isEmpty
  | .obj members => !members.isEmpty

/-- The name of the type of a value. -/
def typeName : Json → Text
  | .null => "NoneType"
  | .bool _ => "bool"
  | .int _ => "int"
  | .float _ => "float"
  | .str _ => "str"
  | .arr _ => "list"
  | .obj _ => "dict"

/-- The integer of an integral floating-point number. -/
def integralValue (x : Float) : Int :=
  let bits := x.toBits.toNat
  let magnitude := bits % Nat.pow 2 63
  let field := magnitude / Nat.pow 2 52
  let mantissa :=
    if field == 0 then magnitude else magnitude % Nat.pow 2 52 + Nat.pow 2 52
  let size : Nat := mantissa * Nat.pow 2 (field - 1075) / Nat.pow 2 (1075 - max field 1)
  if Nat.pow 2 63 ≤ bits then -(size : Int) else size

end Json

end RuleProbe
