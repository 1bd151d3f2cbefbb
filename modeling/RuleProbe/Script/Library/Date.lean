import RuleProbe.Script.Calendar
import RuleProbe.Script.Convert

/-!
# Functions on dates

The clock of scripts stands still.
-/

namespace RuleProbe

namespace Script

namespace Library

variable (host : Caller)

/-- The moment that the clock shows. -/
def presentTime : Float := 1700000000000

/-- Numbers of all arguments. -/
def numbersOf (args : Array Value) : Run (List Float) := args.toList.mapM (Convert.toNumber host)

/-- The moment that a new date is given. -/
def timeOfArguments (args : Array Value) : Run Float := do
  if args.isEmpty then return presentTime
  if args.size == 1 then
    let first := argument args 0
    if let .object ref := first then
      if let .date time := (← Run.object ref).kind then return time
    match ← Convert.toPrimitive host .default first with
    | .string units => return Calendar.read units.toText
    | value =>
        let x ← Convert.toNumber host value
        return if x.isFinite then Calendar.clip (Number.toInt x) else Exact.nan
  return Calendar.ofNumbers (← numbersOf host args)

/-- Functions of the constructor of dates. -/
def callDate (name : String) (args : Array Value) : Run Value := do
  match name with
  | "now" => return .number presentTime
  | "parse" => return .number (Calendar.read (← Convert.toUnits host (argument args 0)).toText)
  | _ => return .number (Calendar.ofNumbers (← numbersOf host args))

/-- A part of a moment by the name of the function that reads it. -/
def partOf? (name : String) (p : Calendar.Parts) : Option Int :=
  match name with
  | "FullYear" => some p.year
  | "Month" => some p.month
  | "Date" => some p.day
  | "Day" => some p.weekday
  | "Hours" => some p.hour
  | "Minutes" => some p.minute
  | "Seconds" => some p.second
  | "Milliseconds" => some p.millisecond
  | _ => none

/-- The parts of a moment after some of them were set, the named one first. -/
def setParts (name : String) (p : Calendar.Parts) (values : List Int) : Calendar.Parts :=
  let value (i : Nat) (default : Int) : Int := values[i]?.getD default
  match name with
  | "FullYear" =>
      { p with year := value 0 p.year, month := value 1 p.month, day := value 2 p.day }
  | "Month" => { p with month := value 0 p.month, day := value 1 p.day }
  | "Date" => { p with day := value 0 p.day }
  | "Hours" =>
      { p with
        hour := value 0 p.hour, minute := value 1 p.minute, second := value 2 p.second
        millisecond := value 3 p.millisecond }
  | "Minutes" =>
      { p with
        minute := value 0 p.minute, second := value 1 p.second
        millisecond := value 2 p.millisecond }
  | "Seconds" => { p with second := value 0 p.second, millisecond := value 1 p.millisecond }
  | _ => { p with millisecond := value 0 p.millisecond }

/-- The text of a moment by the name of the function that writes it. -/
def dateTextOf (name : String) (p : Calendar.Parts) : Text :=
  match name with
  | "toISOString" => Calendar.isoText p
  | "toJSON" => Calendar.isoText p
  | "toDateString" => Calendar.dateText p
  | "toTimeString" => Calendar.timeText p
  | "toUTCString" => Calendar.mailText p
  | "toGMTString" => Calendar.mailText p
  | "toLocaleDateString" => Calendar.numericDate p
  | "toLocaleTimeString" => Calendar.numericTime p
  | "toLocaleString" => Calendar.numericDate p ++ [',', ' '] ++ Calendar.numericTime p
  | _ => Calendar.dateText p ++ [' '] ++ Calendar.timeText p

/-- The name of a part within the name of a function. -/
def partName (name : String) : String :=
  let letters := name.toList.drop 3
  String.ofList ((Text.dropStart? letters "UTC").getD letters)

/-- Functions of every date. -/
def callDatePrototype (name : String) (receiver : Value) (args : Array Value) :
    Run Value := do
  match receiver with
  | .object ref =>
      match (← Run.object ref).kind with
      | .date time =>
          let parts := Calendar.partsOf (Number.toInt time)
          let letters := name.toList
          if name == "getTime" || name == "valueOf" then return .number time
          if name == "getTimezoneOffset" then
            return .number (if time.isNaN then Exact.nan else 0)
          if name == "getYear" then
            return if time.isNaN then .number Exact.nan else Value.ofInt (parts.year - 1900)
          if name == "setTime" then
            let x ← Convert.toNumber host (argument args 0)
            let time := if x.isFinite then Calendar.clip (Number.toInt x) else Exact.nan
            Run.modifyObject ref fun obj => { obj with kind := .date time }
            return .number time
          if Text.startsWith letters "get" then
            if time.isNaN then return .number Exact.nan
            match partOf? (partName name) parts with
            | some part => return Value.ofInt part
            | none => return .undefined
          if Text.startsWith letters "set" then
            let numbers ← numbersOf host args
            let broken := numbers.isEmpty || numbers.any fun x => !x.isFinite
            let parts := if time.isNaN then Calendar.partsOf 0 else parts
            let changed := setParts (partName name) parts (numbers.map Number.toInt)
            let time :=
              if broken || (time.isNaN && partName name != "FullYear") then Exact.nan
              else Calendar.clip (Calendar.timeOf changed)
            Run.modifyObject ref fun obj => { obj with kind := .date time }
            return .number time
          if time.isNaN then
            if name == "toISOString" then Run.rangeError "Date value is NaN"
            if name == "toJSON" then return .null
            return Value.ofName "Invalid Date"
          return Value.ofText (dateTextOf name parts)
      | _ => Run.typeError "not a Date object"
  | _ => Run.typeError "not a Date object"

end Library

end Script

end RuleProbe
