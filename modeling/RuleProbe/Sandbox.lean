import RuleProbe.Fault
import RuleProbe.Json.Writer
import RuleProbe.Script.Session
import RuleProbe.Text.Basic
import RuleProbe.Text.Blank
import RuleProbe.Text.Letter

/-!
# The sandbox

A script runs on a machine of its own, which starts from a snapshot of the variable
store.  What the script has put is read back once it has ended, and then the log lines.
A script that fails has no value.
-/

namespace RuleProbe

/-!
## Syntax of older scripts

Some scripts are written for another interpreter: they loop over items with the words
`for each` and name the class of strings in full.  These forms are rewritten into ones
that every interpreter knows.
-/

namespace OldSyntax

/-- What follows blanks, of which there must be one. -/
def afterBlanks (text : Text) : Option Text :=
  match text with
  | c :: _ => if Text.isBlank c then some (Text.trimLeft text) else none
  | [] => none

/-- A variable with the word that declares it, perhaps, up to the items that are gone
through: the text of both, and what follows. -/
def loopVariable (text : Text) : Option (Text × Text) :=
  let (name, rest) := text.span fun c => Letter.isWord c.toNat
  if name.isEmpty then none
  else
    match afterBlanks rest with
    | none => none
    | some rest =>
        match Text.dropStart? rest "in" with
        | none => none
        | some rest => (afterBlanks rest).map fun rest => (name, rest)

/-- A word that declares a variable, with the blanks behind it, and what follows. -/
def declaringWord (text : Text) : Option (Text × Text) :=
  (["var".toList, "let".toList, "const".toList].findSome? fun word =>
    (Text.dropStart? text word).bind fun rest =>
      (afterBlanks rest).map fun after => (text.take (text.length - after.length), after))

/-- The head of a loop over items. -/
def loopHead? (text : Text) : Option (Text × Nat) := do
  let rest ← Text.dropStart? text "for"
  let rest ← afterBlanks rest
  let rest ← Text.dropStart? rest "each"
  let rest ← Text.dropStart? (Text.trimLeft rest) ['(']
  let inner := Text.trimLeft rest
  let declared : Option (Text × Text) := do
    let (word, rest) ← declaringWord inner
    let (name, rest) ← loopVariable rest
    return (word ++ name, rest)
  let (variable_, rest) ← declared.orElse fun _ => loopVariable inner
  return ("for (".toList ++ variable_ ++ " of ".toList, text.length - rest.length)

/-- The construction of a string. -/
def newString? (text : Text) : Option (Text × Nat) := do
  let rest ← Text.dropStart? text "new"
  let rest ← afterBlanks rest
  let rest ← Text.dropStart? rest "java.lang.String"
  let rest ← Text.dropStart? (Text.trimLeft rest) ['(']
  return ("String(", text.length - rest.length)

/-- The conversion to a string. -/
def castToString? (text : Text) : Option (Text × Nat) := do
  let rest ← Text.dropStart? text ['(']
  let rest ← Text.dropStart? (Text.trimLeft rest) "java.lang.String"
  let rest ← Text.dropStart? (Text.trimLeft rest) [')']
  return ("'' + ", text.length - (Text.trimLeft rest).length)

/-- A script without the older forms. -/
def modernize (source : Text) : Text :=
  ((source.rewrite loopHead?).rewrite newString?).rewrite castToString?

end OldSyntax

/-!
## Placeholders

The source of a script may name fields of the record at hand in double braces.  A field
that the record has stands in the place of its name; a name that leads nowhere stays.
-/

namespace Placeholder

/-- The value at the end of a path of keys; null when the path leads nowhere. -/
def lookup : List Text → Json → Json
  | [], value => value
  | key :: rest, value =>
      match Keyed.get? value.members key with
      | some found => lookup rest found
      | none => .null

/-- A letter or an underscore of the basic alphabet. -/
def isFirst (c : Char) : Bool := Letter.isAsciiLetter c.toNat || c == '_'

/-- A character of a path behind the first one. -/
def isPart (c : Char) : Bool := Letter.isWord c.toNat || c == '.'

/-- The path in a placeholder at the beginning of a text, and the placeholder's length. -/
def path? (text : Text) : Option (Text × Nat) :=
  match Text.dropStart? text "\x7b\x7b" with
  | none => none
  | some rest =>
      let inner := Text.trimLeft rest
      match inner with
      | [] => none
      | c :: more =>
          if !isFirst c then none
          else
            let (part, after) := more.span isPart
            match Text.dropStart? (Text.trimLeft after) "\x7d\x7d" with
            | some after => some (c :: part, text.length - after.length)
            | none => none

/-- What stands in the place of a field's name. -/
def fieldText : Json → Text
  | .str value => value
  | value => value.toJsonText

/-- The source of a script with the fields of a record in the places of their names. -/
def fill (record : Json) (source : Text) : Text :=
  if !record.isGiven then source
  else
    source.rewrite fun text =>
      match path? text with
      | none => none
      | some (path, length) =>
          match lookup (Text.splitOn ['.'] path) record with
          | .null => none
          | value => some (fieldText value, length)

end Placeholder

namespace Sandbox

open Script

/-- What a script can see. -/
structure Bindings where
  /-- The result of the step before. -/
  result : Json := .null
  /-- The text of the page. -/
  page : Text := []
  /-- The address of the page. -/
  baseUrl : Text := []
  /-- The record of the book. -/
  book : Json := .null
  /-- The record of the chapter. -/
  chapter : Json := .null
  /-- Further values under their names. -/
  extra : Json.Members := []
  /-- A script that runs first, unless it is empty. -/
  library : Json := .null

/-- How a script ended. -/
inductive Outcome where
  /-- With a value. -/
  | value (value : Json)
  /-- Without one, for a reason. -/
  | failed (reason : Text)
  deriving Inhabited

/-- A script that has run. -/
structure Ended where
  /-- How it ended. -/
  outcome : Outcome
  /-- The variable store afterwards. -/
  store : Json.Members
  /-- The lines that it logged. -/
  logged : List Text

/-- A record, empty when there is none. -/
def recordOrEmpty (record : Json) : Json := if record.isGiven then record else .obj []

/-- The values that a script sees, under their names. -/
def assignments (store : Json.Members) (bindings : Bindings) : Json.Members :=
  Keyed.update
    [("__store", .obj store), ("result", bindings.result), ("src", .str bindings.page),
     ("baseUrl", .str bindings.baseUrl), ("book", recordOrEmpty bindings.book),
     ("chapter", recordOrEmpty bindings.chapter)]
    bindings.extra

/-- A name that a variable can have. -/
def isVariableName (name : Text) : Bool :=
  match name with
  | [] => false
  | c :: rest =>
      Token.isNameStart c && rest.all Token.isNamePart &&
        !(ScriptReader.reservedWords.elem name)

/-- Declare a variable with a value. -/
def assign (name : Text) (value : Json) : Run Unit := do
  let key := Units.ofText name
  let found ← Library.ofJson Library.literalObject value
  let global ← Run.object Intrinsic.global.ref
  match Property.own? global key with
  | some _ => Property.setOn false Intrinsic.global.ref key found
  | none =>
      Property.define Intrinsic.global.ref key { value := found, configurable := false }

/-- Show a script what it can see. -/
def install (store : Json.Members) (bindings : Bindings) : Run Unit := do
  let found := assignments store bindings
  if !found.all fun entry => isVariableName entry.1 then
    Run.fail .syntaxError "variable name expected"
  found.forM fun entry => assign entry.1 entry.2

/-- A value as a result: a number keeps its kind, and an object goes by way of JSON. -/
inductive Result where
  /-- A value. -/
  | json (value : Json)
  /-- A value that cannot be a result. -/
  | unsupported

/-- A number as a JSON value: an integer of thirty-two bits, or a floating-point number. -/
def numberResult (x : Float) : Json :=
  let whole := x.isFinite && x.floor == x && -2147483648 ≤ x && x ≤ 2147483647
  if whole && !(x == 0 && Exact.isNegative x) then .int (Number.toInt x) else .float x

/-- A string up to its first unit zero. -/
def untilZero (units : Units) : Units := (units.toList.takeWhile fun unit => unit != 0).toArray

/-- The result of a JSON text. -/
def textResult (units : Units) : Result :=
  match Json.read units.toText with
  | .ok value => .json value
  | .error _ => .unsupported

/-- A value of a script as a result. -/
def resultOf (value : Value) : Run Result := do
  match value with
  | .undefined => return .json .null
  | .null => return .json .null
  | .bool value => return .json (.bool value)
  | .number x => return .json (numberResult x)
  | .string units =>
      match Units.toText? (untilZero units) with
      | some text => return .json (.str text)
      | none => return .unsupported
  | .object _ =>
      match ← Library.stringifyJson Session.host #[value] with
      | .string units => return if units.isEmpty then .json .null else textResult units
      | _ => return .json .null

/-- A variable of the host as JSON, read by a script. -/
def readBack (name : Text) : Run Result := do
  let source : Text := "JSON.stringify(" ++ name ++ ")"
  match ← Session.runText source with
  | .string units => return textResult units
  | _ => return .unsupported

/-- Everything that happens on the machine before puts are read back. -/
def evaluate (store : Json.Members) (bindings : Bindings) (code : Text) : Run Result := do
  install store bindings
  match bindings.library with
  | .str library =>
      if !library.isEmpty then
        let _ ← Session.runText (OldSyntax.modernize library)
      resultOf (← Session.runText code)
  | library =>
      if library.isGiven then return .unsupported
      else resultOf (← Session.runText code)

/-- The classes of errors whose messages are not shown. -/
def bareClasses : List Text :=
  ["TypeError".toList, "ReferenceError".toList, "SyntaxError".toList, "RangeError".toList,
   "InternalError".toList, "URIError".toList, "EvalError".toList]

/-- The message of a failure, in short. -/
def shortMessage (message : Text) : Text :=
  (bareClasses.find? fun name => Text.startsWith message name).getD message

/-- A script took too long. -/
def timeoutMessage (timeout : Float) : Text :=
  "Script timed out after " ++ Json.plainFloatLayout.write timeout ++ ['s']

/-- The message of a failure that names an interruption, or of another one. -/
def failureMessage (timeout : Float) (message : Text) : Text :=
  if Text.contains (Text.lower message) "interrupted" then timeoutMessage timeout
  else shortMessage message

/-- Why a run ended abruptly. -/
def abruptMessage (timeout : Float) (machine : Machine) : Abrupt → Text
  | .interrupted => timeoutMessage timeout
  | .thrown value =>
      match (Session.thrownText value).run machine with
      | .ok units _ => failureMessage timeout units.toText
      | .error _ _ => failureMessage timeout "[object Object]"

/-- The wording for a result that cannot be converted. -/
def unsupportedMessage : Text := "Unsupported script result"

/-- The lines that a value of log lines holds; nothing for a value that holds none. -/
def logLines : Json → Option (List Text)
  | .arr items => some (items.map Json.display)
  | .obj members => some (members.map (·.1))
  | .str text => some (text.map fun c => [c])
  | _ => none

/-- The lines of a run as they are reported. -/
def reportLine (line : Text) : Text := "[Script] " ++ line

/-- A script that has a value ends with it, once its log lines have been read. -/
def endWith (timeout : Float) (value : Json) (store : Json.Members) :
    EStateM.Result Abrupt Machine Result → Ended
  | .error abrupt machine => ⟨.failed (abruptMessage timeout machine abrupt), store, []⟩
  | .ok .unsupported _ => ⟨.failed unsupportedMessage, store, []⟩
  | .ok (.json logs) _ =>
      match logLines logs with
      | some lines => ⟨.value value, store, lines.map reportLine⟩
      | none => ⟨.failed unsupportedMessage, store, []⟩

/-- Read the log lines of a machine, the puts having been written. -/
def readLogs (timeout : Float) (value : Json) (store : Json.Members) (machine : Machine) :
    Ended :=
  endWith timeout value store ((readBack "__logs").run machine)

/-- Take over what a script has put, once it has been read, and read its log lines. -/
def takeOver (timeout : Float) (code : Text) (value : Json) (store : Json.Members) :
    EStateM.Result Abrupt Machine Result → Except Defect Ended
  | .error abrupt machine => .ok ⟨.failed (abruptMessage timeout machine abrupt), store, []⟩
  | .ok .unsupported _ => .ok ⟨.failed unsupportedMessage, store, []⟩
  | .ok (.json (.obj puts)) machine =>
      .ok (readLogs timeout value (Keyed.update store puts) machine)
  | .ok (.json _) _ => .error (.replacedPuts code)

/-- Read what a script has put into the store, and then its log lines. -/
def writeBack (timeout : Float) (code : Text) (value : Json) (store : Json.Members)
    (machine : Machine) : Except Defect Ended :=
  takeOver timeout code value store ((readBack "__puts").run machine)

/-- The code of a script: its placeholders filled, its older forms rewritten. -/
def codeOf (source : Text) (bindings : Bindings) : Text :=
  Text.trim (OldSyntax.modernize (Placeholder.fill bindings.book source))

/-- Run a script. -/
def run (timeout : Float) (source : Text) (bindings : Bindings) (store : Json.Members) :
    Except Defect Ended :=
  let code := codeOf source bindings
  if code.isEmpty then .ok ⟨.value .null, store, []⟩
  else
    match (evaluate store bindings code).run Library.hostMachine with
    | .error abrupt machine => .ok ⟨.failed (abruptMessage timeout machine abrupt), store, []⟩
    | .ok .unsupported _ => .ok ⟨.failed unsupportedMessage, store, []⟩
    | .ok (.json value) machine => writeBack timeout code value store machine

/-- The time that a script may take, in seconds, unless another is given. -/
def defaultTimeout : Float := 5

end Sandbox

end RuleProbe
