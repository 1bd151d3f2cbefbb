import RuleProbe.Pattern.Matcher
import RuleProbe.Script.Convert

/-!
# Functions on regular expressions

Matching strings of scripts, and taking strings apart at matches.
-/

namespace RuleProbe

namespace Script

namespace Library

variable (host : Caller)

/-- A match in a string: its ends and those of its groups, in units. -/
structure Found where
  /-- Where the match begins. -/
  start : Nat
  /-- Where the match ends. -/
  stop : Nat
  /-- The ends of the groups. -/
  groups : List (Option (Nat × Nat))

/-- A regular expression ready for matching. -/
structure Matcher where
  /-- Its flags. -/
  flags : RegexFlags
  /-- Its pattern. -/
  pattern : Pattern

/-- The regular expression that an object is. -/
def matcherOf? (value : Value) : Run (Option (Nat × Matcher)) := do
  match value with
  | .object ref =>
      match (← Run.object ref).kind with
      | .regex _ flags pattern => return some (ref, ⟨flags, pattern⟩)
      | _ => return none
  | _ => return none

namespace Matcher

/-- The first match in a string at or after a position. -/
def search (matcher : Matcher) (units : Units) (start : Nat) : Option Found :=
  if units.size < start then none
  else
    let unicode := matcher.flags.unicode
    let subject := Regex.subjectOf unicode units
    let pos := Regex.positionAt unicode units start
    let found :=
      if matcher.flags.sticky then Pattern.matchAt matcher.pattern subject pos false
      else Pattern.search matcher.pattern subject pos
    found.map fun found =>
      let offset := Regex.unitOffset unicode subject
      { start := offset found.start
        stop := offset found.stop
        groups := (found.spans.toList.drop 1).map fun span =>
          span.map fun ends => (offset ends.1, offset ends.2) }

/-- The matches in a string from a position on; at most `count` of them. -/
def searchAll (matcher : Matcher) (units : Units) : Nat → Nat → List Found
  | 0, _ => []
  | count + 1, start =>
      match matcher.search units start with
      | none => []
      | some found =>
          let next := if found.stop == found.start then found.stop + 1 else found.stop
          found :: searchAll matcher units count next

end Matcher

/-- The units of a group. -/
def groupUnits (units : Units) (ends : Option (Nat × Nat)) : Option Units :=
  ends.map fun ends => units.extract ends.1 ends.2

/-- A value of a group. -/
def groupValue (units : Units) (ends : Option (Nat × Nat)) : Value :=
  Value.ofOption ((groupUnits units ends).map Value.string)

/-- The named groups of a match as an object; undefined when no group has a name. -/
def namedGroups (matcher : Matcher) (units : Units) (found : Found) : Run Value := do
  if matcher.pattern.names.isEmpty then return .undefined
  let props := matcher.pattern.names.map fun entry =>
    let slot : Slot := { value := groupValue units (found.groups[entry.2 - 1]?.join) }
    (Units.ofText entry.1, slot)
  Run.add { props := props.toArray }

/-- A match as an array. -/
def matchArray (matcher : Matcher) (units : Units) (found : Found) : Run Value := do
  let items := Value.string (units.extract found.start found.stop) ::
    found.groups.map (groupValue units)
  let made ← Run.arrayOf items.toArray
  if let .object ref := made then
    Property.define ref (Units.ofName "index") { value := Value.ofNat found.start }
    Property.define ref (Units.ofName "input") { value := .string units }
    Property.define ref (Units.ofName "groups") { value := ← namedGroups matcher units found }
  return made

/-- The position at which the next search begins. -/
def lastIndex (ref : Nat) : Run Nat := do
  let x ← Convert.toInteger host (← Property.getNamed (.object ref) "lastIndex")
  return (Number.toInt x).toNat

/-- Note the position at which the next search begins. -/
def setLastIndex (ref : Nat) (i : Nat) : Run Unit :=
  Property.setOn true ref (Units.ofName "lastIndex") (Value.ofNat i)

/-- Search on from where the last search ended. -/
def execRegex (ref : Nat) (matcher : Matcher) (units : Units) : Run (Option Found) := do
  let moves := matcher.flags.global || matcher.flags.sticky
  let start ← if moves then lastIndex host ref else pure 0
  match matcher.search units start with
  | some found =>
      if moves then setLastIndex ref found.stop
      return some found
  | none =>
      if moves then setLastIndex ref 0
      return none

/-- Functions of every regular expression. -/
def callRegexPrototype (name : String) (receiver : Value) (args : Array Value) :
    Run Value := do
  match ← matcherOf? receiver with
  | none => Run.typeError "regexp expected"
  | some (ref, matcher) =>
      match name with
      | "test" =>
          let units ← Convert.toUnits host (argument args 0)
          return .bool (← execRegex host ref matcher units).isSome
      | "exec" =>
          let units ← Convert.toUnits host (argument args 0)
          match ← execRegex host ref matcher units with
          | some found => matchArray matcher units found
          | none => return .null
      | "toString" =>
          let source ← Convert.toUnits host (← Property.getNamed receiver "source")
          return .string (#[47] ++ source ++ #[47] ++
            Units.ofText (Property.flagText matcher.flags))
      | _ => return .undefined

/-- What a replacement text says about a match. -/
structure Replaced where
  /-- The whole string. -/
  units : Units
  /-- Where the match begins. -/
  start : Nat
  /-- Where the match ends. -/
  stop : Nat
  /-- The groups. -/
  groups : List (Option Units)
  /-- The named groups; nothing when no group has a name. -/
  named : Option (List (Text × Option Units))

/-- The value of a decimal digit. -/
def digitOf (unit : UInt16) : Option Nat :=
  if 48 ≤ unit && unit ≤ 57 then some (unit.toNat - 48) else none

/-- A replacement text with its references filled in; the counter tells how many units
are passed over. -/
def expandTemplate (replaced : Replaced) : Nat → List UInt16 → List UInt16
  | _, [] => []
  | skip + 1, _ :: rest => expandTemplate replaced skip rest
  | 0, 36 :: rest =>
      let group (n : Nat) : List UInt16 :=
        ((replaced.groups[n - 1]?.join).getD #[]).toList
      let known (n : Nat) : Bool := 1 ≤ n && n ≤ replaced.groups.length
      match rest with
      | [] => [36]
      | mark :: more =>
          if mark == 36 then 36 :: expandTemplate replaced 1 rest
          else if mark == 38 then
            (replaced.units.extract replaced.start replaced.stop).toList ++
              expandTemplate replaced 1 rest
          else if mark == 96 then
            (replaced.units.extract 0 replaced.start).toList ++ expandTemplate replaced 1 rest
          else if mark == 39 then
            (replaced.units.extract replaced.stop replaced.units.size).toList ++
              expandTemplate replaced 1 rest
          else if mark == 60 then
            match replaced.named with
            | none => 36 :: expandTemplate replaced 0 rest
            | some names =>
                let name := more.takeWhile fun unit => unit != 62
                if name.length == more.length then 36 :: expandTemplate replaced 0 rest
                else
                  let found := names.find? fun entry =>
                    Units.ofText entry.1 == name.toArray
                  ((found.bind (·.2)).getD #[]).toList ++
                    expandTemplate replaced (name.length + 2) rest
          else
            match digitOf mark, more.head?.bind digitOf with
            | some a, some b =>
                if known (10 * a + b) then
                  group (10 * a + b) ++ expandTemplate replaced 2 rest
                else if known a then group a ++ expandTemplate replaced 1 rest
                else 36 :: expandTemplate replaced 0 rest
            | some a, none =>
                if known a then group a ++ expandTemplate replaced 1 rest
                else 36 :: expandTemplate replaced 0 rest
            | none, _ => 36 :: expandTemplate replaced 0 rest
  | 0, unit :: rest => unit :: expandTemplate replaced 0 rest

/-- What is put in the place of a match: a text with references, or what a function
returns. -/
def replacement (replaced : Replaced) (by_ : Value) (template : Units) : Run Units := do
  if Property.isCallable (← get) by_ then
    let groups := replaced.groups.map fun group => Value.ofOption (group.map Value.string)
    let matched := Value.string (replaced.units.extract replaced.start replaced.stop)
    let args := matched :: groups ++ [Value.ofNat replaced.start, .string replaced.units]
    let named : List Value ←
      match replaced.named with
      | none => pure []
      | some names =>
          let props := names.map fun entry =>
            let slot : Slot := { value := Value.ofOption (entry.2.map Value.string) }
            (Units.ofText entry.1, slot)
          pure [← Run.add { props := props.toArray }]
    Convert.toUnits host (← host.call by_ .undefined (args ++ named).toArray)
  else return (expandTemplate replaced 0 template.toList).toArray

/-- The template of a replacement that is no function. -/
def templateOf (by_ : Value) : Run Units := do
  if Property.isCallable (← get) by_ then return #[] else Convert.toUnits host by_

/-- A string with matches replaced, in order, from a position on. -/
def replaceFound (matcher : Matcher) (units : Units) (by_ : Value) (template : Units) :
    List Found → Nat → Units → Run Units
  | [], pos, written => Convert.joinUnits written (units.extract pos units.size)
  | found :: rest, pos, written => do
      let named :=
        if matcher.pattern.names.isEmpty then none
        else some (matcher.pattern.names.map fun entry =>
          (entry.1, groupUnits units (found.groups[entry.2 - 1]?.join)))
      let replaced : Replaced :=
        { units, start := found.start, stop := found.stop
          groups := found.groups.map (groupUnits units), named }
      let text ← replacement host replaced by_ template
      let written ← Convert.joinUnits written (units.extract pos found.start)
      let written ← Convert.joinUnits written text
      replaceFound matcher units by_ template rest found.stop written

/-- A string with the matches of a regular expression replaced. -/
def replaceRegex (ref : Nat) (matcher : Matcher) (units : Units) (by_ : Value) :
    Run Value := do
  let template ← templateOf host by_
  let found ←
    if matcher.flags.global then do
      setLastIndex ref 0
      pure (matcher.searchAll units (units.size + 2) 0)
    else do pure (← execRegex host ref matcher units).toList
  return .string (← replaceFound host matcher units by_ template found 0 #[])

/-- The positions at which a part occurs, without overlap; an empty part occurs
everywhere. -/
def occurrences (units part : Units) (all : Bool) : Nat → Nat → List Nat
  | 0, _ => []
  | count + 1, start =>
      match Units.indexOf? units part start with
      | none => []
      | some i =>
          if all then i :: occurrences units part all count (i + max part.size 1) else [i]

/-- A string with occurrences of a part replaced. -/
def replaceParts (units part : Units) (by_ : Value) (all : Bool) : Run Value := do
  let template ← templateOf host by_
  let found := (occurrences units part all (units.size + 2) 0).map fun i =>
    ({ start := i, stop := i + part.size, groups := [] } : Found)
  return .string (← replaceFound host ⟨{}, default⟩ units by_ template found 0 #[])

/-- The parts of a string between the matches of a regular expression, with the groups
of the matches; `from_` is where the current part begins. -/
def splitRegex (matcher : Matcher) (units : Units) : Nat → Nat → Nat → List Value
  | 0, from_, _ => [.string (units.extract from_ units.size)]
  | count + 1, from_, pos =>
      match matcher.search units pos with
      | none => [.string (units.extract from_ units.size)]
      | some found =>
          if units.size ≤ found.start then [.string (units.extract from_ units.size)]
          else if found.stop == from_ then
            -- An empty match where the part begins splits nothing.
            splitRegex matcher units count from_ (pos + 1)
          else
            .string (units.extract from_ found.start) ::
              found.groups.map (groupValue units) ++
              splitRegex matcher units count found.stop
                (if found.stop == found.start then found.stop + 1 else found.stop)

/-- The parts of a string between the occurrences of a part. -/
def splitParts (units part : Units) : List Value :=
  if part.isEmpty then (units.map fun unit => Value.string #[unit]).toList
  else
    let found := occurrences units part true (units.size + 2) 0
    let starts := 0 :: found.map (· + part.size)
    let stops := found ++ [units.size]
    (starts.zip stops).map fun ends => .string (units.extract ends.1 ends.2)

end Library

end Script

end RuleProbe
