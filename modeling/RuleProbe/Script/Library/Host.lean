import RuleProbe.Charset.TextCodec
import RuleProbe.Digest
import RuleProbe.Script.Calendar
import RuleProbe.Script.Library.Json

/-!
# What the host offers to scripts

The variable store, a sink for log lines, digests and codecs.  The store and what is put
into it are objects that scripts can see under the names `__store` and `__puts`, the log
lines an array under the name `__logs`.
-/

namespace RuleProbe

namespace Script

namespace Library

variable (host : Caller)

/-- The value of a variable outside functions. -/
def hostVariable (name : String) : Run Value := do
  let key := Units.ofName name
  match Property.lookup (← get) key Property.inheritanceLimit Intrinsic.global.ref with
  | some slot => return slot.value
  | none => Run.fail .referenceError ("'".toList ++ name.toList ++ "' is not defined".toList)

/-- A copy of a value by way of its JSON text; null for what JSON cannot express. -/
def copyValue (value : Value) : Run Value := do
  match ← stringifyJson host #[value] with
  | .undefined => return .null
  | text => parseJson host #[text]

/-- The value of a variable of the store; null when there is none. -/
def getVariable (key : Value) : Run Value := do
  let key ← Convert.toKey host key
  match ← hostVariable "__store" with
  | .object ref =>
      match Property.own? (← Run.object ref) key with
      | some slot => return slot.value
      | none => return .null
  | store =>
      let ref ← Convert.toObject store
      match Property.own? (← Run.object ref) key with
      | some _ => Property.get store key
      | none => return .null

/-- Put a copy of a value into the store and note it. -/
def putVariable (key value : Value) : Run Value := do
  let key ← Convert.toKey host key
  let store ← hostVariable "__store"
  let puts ← hostVariable "__puts"
  let copy ← copyValue host value
  Property.set false puts key copy
  Property.set false store key copy
  return value

/-- Note a log line. -/
def logValue (value : Value) : Run Value := do
  let logs ← hostVariable "__logs"
  let push ← Property.getNamed logs "push"
  let line := Value.string (← Convert.toUnits host value)
  let _ ← host.call push logs #[line]
  return value

/-- The text of a value that must hold no half pairs. -/
def wholeText (value : Value) : Run Text := do
  match (← Convert.toUnits host value).toText? with
  | some text => return text
  | none => Run.fail .uriError "invalid character"

/-- The name of a digest, without case and hyphens. -/
def digestName (units : Units) : Text :=
  (Text.lower units.toText).filter fun c => c != '-'

/-- The digest of a message under a name; nothing when there is no such digest. -/
def digest? (name : Text) (message : Bytes) : Option Text :=
  if name == ("md5" : Text) then some (Digest.md5 message)
  else if name == ("sha1" : Text) then some (Digest.sha1 message)
  else if name == ("sha256" : Text) then some (Digest.sha256 message)
  else none

/-- The digest of a value's text. -/
def digestValue (value algorithm : Value) : Run Text := do
  let units ←
    if algorithm.isTruthy then Convert.toUnits host algorithm else pure (Units.ofName "md5")
  let message := Utf8.encode (← wholeText host value)
  match digest? (digestName units) message with
  | some found => return found
  | none =>
      let shown ← Convert.toUnits host algorithm
      Run.fail .errorPrototype ("Unsupported digest: ".toList ++ shown.toText)

/-- One character for each unit. -/
def unitText (units : Units) : Text :=
  units.toList.map fun unit =>
    if Units.isHigh unit || Units.isLow unit then '\uFFFD' else Char.ofNat unit.toNat

/-- The day and the time of a moment, to the minute. -/
def momentText (time : Float) : Text :=
  let clipped := if time.isFinite then Calendar.clip (Number.toInt time) else Exact.nan
  if clipped.isNaN then "NaN/NaN/NaN NaN:NaN"
  else
    let p := Calendar.partsOf (Number.toInt clipped)
    Integer.write p.year ++ ['/'] ++ Calendar.two (p.month + 1) ++ ['/'] ++
      Calendar.two p.day ++ [' '] ++ Calendar.two p.hour ++ [':'] ++ Calendar.two p.minute

/-- The bytes of an array, as numbers. -/
def byteNumbers (value : Value) : Run (List Int) := do
  let items ← Convert.itemsByPosition host value
  items.toList.mapM fun item => do return Number.toInt (← Convert.toNumber host item)

/-- Functions of the host. -/
def callHost (name : String) (args : Array Value) : Run Value := do
  let first := argument args 0
  let second := argument args 1
  match name with
  | "get" => getVariable host first
  | "put" => putVariable host first second
  | "log" => logValue host first
  | "base64Encode" => return Value.ofText (TextCodec.toBase64 (← wholeText host first))
  | "base64Decode" =>
      return Value.ofText (TextCodec.ofBase64 (unitText (← Convert.toUnits host first)))
  | "md5Encode" => return Value.ofText (← digestValue host first (Value.ofName "md5"))
  | "md5Encode16" =>
      let found ← digestValue host first (Value.ofName "md5")
      return Value.ofText ((found.drop 8).take 16)
  | "digestHex" => return Value.ofText (← digestValue host first second)
  | "encodeURI" =>
      let encode ← hostVariable "encodeURIComponent"
      host.call encode .undefined #[.string (← Convert.toUnits host first)]
  | "hexEncodeToString" => return Value.ofText (TextCodec.toHex (← wholeText host first))
  | "hexDecodeToString" =>
      let text := unitText (← Convert.toUnits host first)
      return Value.ofText (TextCodec.ofHex Number.isBlank text)
  | "randomUUID" => return Value.ofName "00000000-0000-4000-8000-000000000000"
  | "timeFormat" => return Value.ofText (momentText (← Convert.toNumber host first))
  | "copy" => copyValue host first
  | "utf8Bytes" =>
      let bytes := Utf8.encode (← wholeText host first)
      Run.arrayOf (bytes.map fun b => Value.ofNat b.toNat).toArray
  | "utf8String" => return Value.ofText (TextCodec.textOfNumbers (← byteNumbers host first))
  | "hex" =>
      let numbers ← byteNumbers host first
      return Value.ofText (numbers.flatMap fun n => Digest.hexOfByte (UInt8.ofNat n.toNat))
  | _ => return .undefined

end Library

end Script

end RuleProbe
