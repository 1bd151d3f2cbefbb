import RuleProbe.Script.Convert

/-!
# Functions on numbers
-/

namespace RuleProbe

namespace Script

namespace Library

variable (host : Caller)

/-- A number without fraction. -/
def isWhole (x : Float) : Bool := x.isFinite && x.floor == x

/-- Functions of the constructor of numbers. -/
def callNumber (name : String) (args : Array Value) : Run Value := do
  match name, argument args 0 with
  | "isInteger", .number x => return .bool (isWhole x)
  | "isSafeInteger", .number x => return .bool (isWhole x && x.abs ≤ 9007199254740991)
  | "isFinite", .number x => return .bool x.isFinite
  | "isNaN", .number x => return .bool x.isNaN
  | _, _ => return .bool false

/-- The number that a number's function works on. -/
def numberReceiver (receiver : Value) : Run Float := do
  match receiver with
  | .number x => return x
  | .object ref =>
      match (← Run.object ref).kind with
      | .wrapper (.number x) => return x
      | _ => Run.typeError "not a number"
  | _ => Run.typeError "not a number"

/-- A count of digits within bounds. -/
def digitCount (value : Value) (low high : Int) : Run Nat := do
  let x ← Convert.toInteger host value
  let n := Number.toInt x
  if n < low || high < n || !x.isFinite then Run.rangeError "invalid number of digits"
  return n.toNat

/-- Functions of every number. -/
def callNumberPrototype (name : String) (receiver : Value) (args : Array Value) :
    Run Value := do
  let x ← numberReceiver receiver
  let first := argument args 0
  match name with
  | "valueOf" => return .number x
  | "toString" =>
      match first with
      | .undefined => return Value.ofText (Number.write x)
      | value =>
          let base := Number.toInt (← Convert.toInteger host value)
          if base < 2 || 36 < base then Run.rangeError "radix must be between 2 and 36"
          return Value.ofText (Number.writeIn base.toNat x)
  | "toLocaleString" => return Value.ofText (Number.write x)
  | "toFixed" => return Value.ofText (Number.writeFixed x (← digitCount host first 0 100))
  | "toPrecision" =>
      match first with
      | .undefined => return Value.ofText (Number.write x)
      | value =>
          if !x.isFinite then return Value.ofText (Number.write x)
          return Value.ofText (Number.writePrecision x (← digitCount host value 1 100))
  | "toExponential" =>
      match first with
      | .undefined => return Value.ofText (Number.writeExponential x none)
      | value =>
          let places ← digitCount host value 0 100
          return Value.ofText (Number.writeExponential x (some places))
  | _ => return .undefined

/-- Functions of every truth value. -/
def callBooleanPrototype (name : String) (receiver : Value) : Run Value := do
  let value ←
    match receiver with
    | .bool value => pure value
    | .object ref =>
        match (← Run.object ref).kind with
        | .wrapper (.bool value) => pure value
        | _ => Run.typeError "not a boolean"
    | _ => Run.typeError "not a boolean"
  match name with
  | "toString" => return .string (Convert.plainText (.bool value))
  | _ => return .bool value

/-- The greatest or the least of numbers; not a number if one of them is not. -/
def extreme (better : Float → Float → Bool) (start : Float) (numbers : List Float) : Float :=
  numbers.foldl (fun found x =>
    if found.isNaN || x.isNaN then Exact.nan
    else if better x found then x else found) start

/-- A number is greater, positive zero being greater than negative zero. -/
def isGreater (x y : Float) : Bool :=
  y < x || (x == 0 && y == 0 && Exact.isNegative y && !Exact.isNegative x)

/-- A number rounded to the nearest integer, a half upward. -/
def roundHalfUp (x : Float) : Float :=
  if !x.isFinite || 4503599627370496 ≤ x.abs then x
  else
    let floor := x.floor
    let rounded := if 0.5 ≤ x - floor then floor + 1 else floor
    if rounded == 0 && Exact.isNegative x then -0.0 else rounded

/-- The single value of functions of one number. -/
def mathOfOne? (name : String) (x : Float) : Option Float :=
  match name with
  | "abs" => some x.abs
  | "floor" => some x.floor
  | "ceil" => some x.ceil
  | "round" => some (roundHalfUp x)
  | "trunc" => some (Number.truncate x)
  | "sign" => some (if x.isNaN || x == 0 then x else if x < 0 then -1 else 1)
  | "sqrt" => some x.sqrt
  | "cbrt" => some x.cbrt
  | "exp" => some x.exp
  | "log" => some x.log
  | "log2" => some x.log2
  | "log10" => some x.log10
  | "sin" => some x.sin
  | "cos" => some x.cos
  | "tan" => some x.tan
  | "asin" => some x.asin
  | "acos" => some x.acos
  | "atan" => some x.atan
  | "sinh" => some x.sinh
  | "cosh" => some x.cosh
  | "tanh" => some x.tanh
  | _ => none

/-- Functions on numbers. -/
def callMath (name : String) (args : Array Value) : Run Value := do
  let numbers ← args.toList.mapM (Convert.toNumber host)
  let first := numbers.head?.getD Exact.nan
  let second := (numbers.drop 1).head?.getD Exact.nan
  match mathOfOne? name first with
  | some x => return .number x
  | none =>
      match name with
      | "max" => return .number (extreme isGreater (-Exact.infinity) numbers)
      | "min" =>
          return .number (extreme (fun x y => isGreater y x) Exact.infinity numbers)
      | "pow" => return .number (Number.power first second)
      | "atan2" => return .number (Float.atan2 first second)
      | "hypot" =>
          return .number ((numbers.foldl (fun sum x => sum + x * x) 0).sqrt)
      | "imul" =>
          return .number (Number.ofSigned (Number.toWord first * Number.toWord second))
      | _ =>
          -- `random`
          return .number 0.5

end Library

end Script

end RuleProbe
