import RuleProbe.JsonPath.Order
import RuleProbe.JsonPath.Reader
import RuleProbe.Pattern.Reader
import RuleProbe.Pattern.Matcher

/-!
# Following paths into JSON values

A path leads from one value to a list of values, each of which knows the values around
it.  What is missing leads to nothing; what cannot be compared, counted or cut makes the
path fail.
-/

namespace RuleProbe

namespace JsonPath

/-- A value with the values around it, the nearest first. -/
structure Datum where
  /-- The value. -/
  value : Json
  /-- The values around it. -/
  around : List Json
  deriving Inhabited

namespace Datum

/-- A value inside another. -/
def inside (datum : Datum) (value : Json) : Datum := ⟨value, datum.value :: datum.around⟩

/-- The whole value. -/
def whole (datum : Datum) : Datum := ⟨datum.around.getLast?.getD datum.value, []⟩

/-- The fields of an object. -/
def fields (datum : Datum) (names : List Text) : List Datum :=
  let names := if names.elem ['*'] then Keyed.keys datum.value.members else names
  names.filterMap fun name => (Keyed.get? datum.value.members name).map datum.inside

/-- The item of an array at a position, which counts from the end when it is negative. -/
def position? (items : List Json) (index : Int) : Option Json :=
  if 0 ≤ index then items[index.toNat]?
  else if (items.length : Int) + index < 0 then none
  else items[((items.length : Int) + index).toNat]?

/-- The items of an array at some positions. -/
def positions (datum : Datum) (indices : List Int) : List Datum :=
  match datum.value with
  | .arr items => (indices.filterMap (position? items)).map datum.inside
  | _ => []

/-- A bound of a slice within a length. -/
def clamp (length : Nat) (low high : Int) (bound : Int) : Int :=
  let bound := if bound < 0 then bound + length else bound
  max low (min high bound)

/-- The positions of a slice; `fuel` bounds their number. -/
def steps (step stop : Int) : Nat → Int → List Int
  | 0, _ => []
  | fuel + 1, i =>
      if (0 < step && i < stop) || (step < 0 && stop < i) then i :: steps step stop fuel (i + step)
      else []

/-- The positions of a slice of a list of some length; nothing is given for a step of
zero. -/
def slicePositions (length : Nat) (start stop step : Option Int) : Option (List Int) :=
  let step := step.getD 1
  if step == 0 then none
  else if 0 < step then
    let low := clamp length 0 length (start.getD 0)
    let high := clamp length 0 length (stop.getD length)
    some (steps step high (length + 1) low)
  else
    let top : Int := (length : Int) - 1
    let low := match start with
      | some start => clamp length (-1) top start
      | none => top
    let high := match stop with
      | some stop => clamp length (-1) top stop
      | none => -1
    some (steps step high (length + 1) low)

/-- A slice of an array; a single value counts as an array of one. -/
def slice (datum : Datum) (start stop step : Option Int) : Option (List Datum) :=
  if !datum.value.isGiven then some []
  else
    let items? : Option (Datum × List Json) :=
      match datum.value with
      | .arr items => some (datum, items)
      | .float _ => none
      | value => some (⟨.arr [value], datum.around⟩, [value])
    match items? with
    | none => none
    | some (holder, items) =>
        (slicePositions items.length start stop step).map fun indices =>
          (indices.filterMap (position? items)).map holder.inside

/-- The number of items, members or characters. -/
def size (datum : Datum) : List Datum :=
  let count (n : Nat) : List Datum := [⟨.int n, []⟩]
  match datum.value with
  | .arr items => count items.length
  | .obj members => count members.length
  | .str text => count text.length
  | _ => []

/-- The keys of an object. -/
def keys (datum : Datum) : List Datum :=
  (Keyed.keys datum.value.members).map fun key => ⟨.str key, []⟩

end Datum

mutual

/-- A value with all values inside it, each with the values around it, in order. -/
def allInside (around : List Json) : Json → List Datum
  | .arr items => ⟨.arr items, around⟩ :: allInsideItems (.arr items :: around) items
  | .obj members => ⟨.obj members, around⟩ :: allInsideMembers (.obj members :: around) members
  | value => [⟨value, around⟩]
termination_by structural value => value

/-- Items with all values inside them. -/
def allInsideItems (around : List Json) : List Json → List Datum
  | [] => []
  | item :: rest => allInside around item ++ allInsideItems around rest
termination_by structural items => items

/-- Members with all values inside them. -/
def allInsideMembers (around : List Json) : List (Text × Json) → List Datum
  | [] => []
  | entry :: rest => allInsideMember around entry ++ allInsideMembers around rest
termination_by structural members => members

/-- A member with all values inside it. -/
def allInsideMember (around : List Json) : Text × Json → List Datum
  | (_, value) => allInside around value
termination_by structural entry => entry

end

/-! ## Conditions -/

/-- A value as an integer, for comparison with one: nothing is given for a value that is
none, and the comparison fails for a number without bounds. -/
def integerOf? : Json → Option (Option Int)
  | .int value => some (some value)
  | .bool value => some (some (if value then 1 else 0))
  | .float value =>
      if value.isNaN then some none
      else if value.isInf then none
      else some (some (Json.integralValue (if value < 0 then value.ceil else value.floor)))
  | .str value => some (Integer.read? value)
  | _ => some none

/-- A value beside a constant satisfies a comparison; nothing is given when it fails. -/
def compare? (comparison : Comparison) (value constant : Json) : Option Bool :=
  let before := Json.less? value constant
  let after := Json.less? constant value
  match comparison with
  | .equal => some (Json.same value constant)
  | .unequal => some (!Json.same value constant)
  | .less => before
  | .greater => after
  | .lessEqual => before.map fun before => before || Json.same value constant
  | .greaterEqual => after.map fun after => after || Json.same value constant
  | .similar =>
      match value, constant with
      | .str text, .str pattern =>
          match Pattern.read {} pattern with
          | .ok pattern => some ((Pattern.search pattern (Pattern.subjectOf text) 0).isSome)
          | .error _ => none
      | _, _ => none

/-- A value satisfies the comparison of a condition with a constant.  A number or a
truth value is compared with an integer. -/
def satisfies? (comparison : Comparison) (constant value : Json) : Option Bool :=
  let constantNumber? : Option Int :=
    match constant with
    | .int number => some number
    | .bool value => some (if value then 1 else 0)
    | _ => none
  match constantNumber? with
  | some number =>
      match integerOf? value with
      | none => none
      | some none => some false
      | some (some value) => compare? comparison (.int value) (.int number)
  | none => compare? comparison value constant

/-- Some of the values at a path satisfy the comparison of a condition. -/
def anySatisfies (test : Json → Option Bool) : List Datum → Option Bool
  | [] => some false
  | datum :: rest =>
      match test datum.value, anySatisfies test rest with
      | some first, some others => some (first || others)
      | _, _ => none

/-- Two values by one path: neither stands before the other when one of them does not
have exactly one value there.  Nothing is given for values without order. -/
def orderBy (downward : Bool) (left right : List Datum) : Option Ordering :=
  match left, right with
  | [a], [b] =>
      if Json.same a.value b.value then some .eq
      else
        match Json.less? a.value b.value with
        | some lower => some (if lower == downward then .gt else .lt)
        | none => none
  | _, _ => some .eq

/-! ## Paths -/

mutual

/-- The values to which a path leads; nothing is given when it fails. -/
def Path.find : Path → Datum → Option (List Datum)
  | .root, datum => some [datum.whole]
  | .this, datum => some [datum]
  | .parent, datum =>
      match datum.around with
      | [] => none
      | value :: around => some [⟨value, around⟩]
  | .fields names, datum => some (datum.fields names)
  | .positions indices, datum => some (datum.positions indices)
  | .slice start stop step, datum => datum.slice start stop step
  | .size, datum => some datum.size
  | .keys, datum => some datum.keys
  | .filter conditions, datum =>
      let items? : Option (List Json) :=
        match datum.value with
        | .arr items => some items
        | .obj members => some (members.map (·.2))
        | _ => none
      match items? with
      | none => some []
      | some items =>
          let holder : Datum := ⟨.arr items, datum.around⟩
          (items.filterM fun item => holdAll conditions ⟨item, []⟩).map fun found =>
            found.map holder.inside
  | .sorted orders, datum =>
      match datum.value with
      | .arr items =>
          let less := fun (a b : Json) =>
            if orders.isEmpty then Json.less? a b
            else (compareAll orders ⟨a, []⟩ ⟨b, []⟩).map fun order => order == .lt
          (Sorting.sort? less items).map fun items => [⟨.arr items, []⟩]
      | .obj members =>
          if orders.isEmpty then
            (Sorting.sort? Json.less? ((Keyed.keys members).map Json.str)).map fun items =>
              [⟨.arr items, []⟩]
          else none
      | _ => none
  | .child left right, datum =>
      match left.find datum with
      | some found => (found.mapM fun datum => right.find datum).map List.flatten
      | none => none
  | .descendants left right, datum =>
      match left.find datum with
      | some found =>
          ((found.flatMap fun datum => allInside datum.around datum.value).mapM fun datum =>
            right.find datum).map List.flatten
      | none => none
  | .union left right, datum =>
      match left.find datum, right.find datum with
      | some first, some second => some (first ++ second)
      | _, _ => none
  | .intersection _ _, _ => none
  | .having left right present, datum =>
      match left.find datum with
      | some found =>
          found.filterM fun datum =>
            (right.find datum).map fun inner => inner.isEmpty != present
      | none => none
termination_by structural path => path

/-- A value satisfies all conditions. -/
def holdAll : List (Path × Option (Comparison × Json)) → Datum → Option Bool
  | [], _ => some true
  | condition :: rest, datum =>
      match holds condition datum, holdAll rest datum with
      | some first, some others => some (first && others)
      | _, _ => none
termination_by structural conditions => conditions

/-- A value satisfies a condition. -/
def holds : Path × Option (Comparison × Json) → Datum → Option Bool
  | (path, test), datum =>
      match path.find datum, test with
      | none, _ => none
      | some found, none => some (!found.isEmpty)
      | some found, some (comparison, constant) =>
          anySatisfies (satisfies? comparison constant) found
termination_by structural condition => condition

/-- The order of two values by the first order that tells them apart. -/
def compareAll : List (Path × Bool) → Datum → Datum → Option Ordering
  | [], _, _ => some .eq
  | order :: rest, left, right =>
      match compareBy order left right with
      | some .eq => compareAll rest left right
      | other => other
termination_by structural orders => orders

/-- The order of two values by one order. -/
def compareBy : Path × Bool → Datum → Datum → Option Ordering
  | (path, downward), left, right =>
      match path.find left, path.find right with
      | some a, some b => orderBy downward a b
      | _, _ => none
termination_by structural order => order

end

/-- The values inside a value to which a path leads. -/
def find (path : Path) (value : Json) : Option (List Json) :=
  (path.find ⟨value, []⟩).map fun found => found.map Datum.value

end JsonPath

end RuleProbe
