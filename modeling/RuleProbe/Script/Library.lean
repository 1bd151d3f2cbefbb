import RuleProbe.Script.Library.Array
import RuleProbe.Script.Library.Collection
import RuleProbe.Script.Library.Date
import RuleProbe.Script.Library.Host
import RuleProbe.Script.Library.Number
import RuleProbe.Script.Library.Object
import RuleProbe.Script.Library.String
import RuleProbe.Script.Library.Uri
import RuleProbe.Script.Evaluate

/-!
# The library of scripts

Which functions scripts find where, and the machine in which a script starts.
-/

namespace RuleProbe

namespace Script

namespace Library

/-- Make a regular expression from a pattern and flags, or from another one. -/
def regexOfArguments (host : Caller) (args : Array Value) : Run Value := do
  let first := argument args 0
  let (source, own) ←
    match first with
    | .object ref =>
        match (← Run.object ref).kind with
        | .regex source flags _ => pure (source, Property.flagText flags)
        | _ => do pure (← Convert.toUnits host first, [])
    | .undefined => pure (Units.ofName "(?:)", [])
    | value => do pure (← Convert.toUnits host value, [])
  let flags ←
    match argument args 1 with
    | .undefined => pure own
    | value => do pure (← Convert.toUnits host value).toText
  Evaluator.makeRegex (if source.isEmpty then Units.ofName "(?:)" else source) flags

/-- The class of errors of a name. -/
def errorClass? (name : String) : Option Intrinsic :=
  match name with
  | "Error" => some .errorPrototype
  | "TypeError" => some .typeError
  | "ReferenceError" => some .referenceError
  | "SyntaxError" => some .syntaxError
  | "RangeError" => some .rangeError
  | "InternalError" => some .internalError
  | "URIError" => some .uriError
  | "EvalError" => some .evalError
  | _ => none

/-- Make an error. -/
def makeError (host : Caller) (errorClass : Intrinsic) (args : Array Value) : Run Value := do
  let props : Array (Units × Slot) ←
    match argument args 0 with
    | .undefined => pure #[]
    | value => do
        let message := Value.string (← Convert.toUnits host value)
        pure #[(Units.ofName "message", { value := message, enumerable := false })]
  Run.add { proto := some errorClass.ref, kind := .error, props }

/-- Construct an object by the name of what constructs it. -/
def constructProvided (host : Caller) (name : String) (args : Array Value) : Run Value := do
  let first := argument args 0
  match name with
  | "Object" => if first.isNullish then Run.makeObject else return .object (← Convert.toObject first)
  | "Array" =>
      match args.size, first with
      | 1, .number x =>
          let n := Number.toInt x
          if n < 0 || 4294967295 < n || x != Float.ofInt n then
            Run.rangeError "invalid array length"
          if Property.itemLimit < n then Property.exhausted
          Run.makeArray (Array.replicate n.toNat none)
      | _, _ => Run.arrayOf args
  | "String" =>
      let units ← if args.isEmpty then pure #[] else Convert.toUnits host first
      return .object (← Convert.toObject (.string units))
  | "Number" =>
      let x ← if args.isEmpty then pure 0 else Convert.toNumber host first
      return .object (← Convert.toObject (.number x))
  | "Boolean" => return .object (← Convert.toObject (.bool first.isTruthy))
  | "RegExp" => regexOfArguments host args
  | "Date" =>
      Run.add
        { proto := some Intrinsic.datePrototype.ref, kind := .date (← timeOfArguments host args) }
  | "Map" =>
      let mut entries : Array (Value × Value) := #[]
      if !first.isNullish then
        for entry in ← Convert.items first do
          entries := putEntry entries (← Property.getNamed entry "0")
            (← Property.getNamed entry "1")
      Run.add { proto := some Intrinsic.mapPrototype.ref, kind := .map entries }
  | "Set" =>
      let mut entries : Array Value := #[]
      if !first.isNullish then
        for value in ← Convert.items first do
          if !entries.any fun other => other.sameOrNaN value then entries := entries.push value
      Run.add { proto := some Intrinsic.setPrototype.ref, kind := .set entries }
  | name =>
      match errorClass? name with
      | some errorClass => makeError host errorClass args
      | none => Run.typeError "not a constructor"

/-- Call what constructs objects as a function. -/
def callConstructor (host : Caller) (name : String) (args : Array Value) : Run Value := do
  let first := argument args 0
  match name with
  | "String" => return .string (← if args.isEmpty then pure #[] else Convert.toUnits host first)
  | "Number" => return .number (← if args.isEmpty then pure 0 else Convert.toNumber host first)
  | "Boolean" => return .bool first.isTruthy
  | "Date" =>
      let parts := Calendar.partsOf (Number.toInt presentTime)
      return Value.ofText (dateTextOf "toString" parts)
  | "Map" => Run.typeError "constructor requires 'new'"
  | "Set" => Run.typeError "constructor requires 'new'"
  | name => constructProvided host name args

/-- Call a provided function. -/
def callProvided (host : Caller) (library : Library) (name : String) (receiver : Value)
    (args : Array Value) : Run Value :=
  match library with
  | .global => callGlobal host name args
  | .object => callObject host name args
  | .objectPrototype => callObjectPrototype host name receiver args
  | .functionPrototype => callFunctionPrototype host name receiver args
  | .array => callArray host name args
  | .arrayPrototype => callArrayPrototype host name receiver args
  | .string => callString host name args
  | .stringPrototype => callStringPrototype host name receiver args
  | .number => callNumber name args
  | .numberPrototype => callNumberPrototype host name receiver args
  | .booleanPrototype => callBooleanPrototype name receiver
  | .math => callMath host name args
  | .json => callJson host name args
  | .regexPrototype => callRegexPrototype host name receiver args
  | .date => callDate host name args
  | .datePrototype => callDatePrototype host name receiver args
  | .mapPrototype => callMapPrototype host name receiver args
  | .setPrototype => callSetPrototype host name receiver args
  | .iteratorPrototype => callIteratorPrototype receiver
  | .errorPrototype => callErrorPrototype host receiver
  | .constructor => callConstructor host name args
  | .host => callHost host name args

/-- The names of the functions of a library. -/
def names : Library → List String
  | .global =>
      ["parseInt", "parseFloat", "isNaN", "isFinite", "encodeURIComponent", "encodeURI",
       "decodeURIComponent", "decodeURI", "escape", "unescape"]
  | .object =>
      ["keys", "values", "entries", "assign", "create", "freeze", "seal", "isFrozen",
       "getPrototypeOf", "setPrototypeOf", "getOwnPropertyNames", "fromEntries", "defineProperty",
       "is"]
  | .objectPrototype =>
      ["hasOwnProperty", "propertyIsEnumerable", "isPrototypeOf", "valueOf", "toString",
       "toLocaleString"]
  | .functionPrototype => ["call", "apply", "bind", "toString"]
  | .array => ["isArray", "of", "from"]
  | .arrayPrototype =>
      ["push", "pop", "shift", "unshift", "splice", "reverse", "sort", "fill", "slice", "concat",
       "join", "toString", "indexOf", "lastIndexOf", "includes", "forEach", "map", "filter",
       "some", "every", "find", "findIndex", "reduce", "reduceRight", "flat", "flatMap", "keys",
       "values", "entries"]
  | .string => ["fromCharCode", "fromCodePoint"]
  | .stringPrototype =>
      ["toString", "valueOf", "charAt", "charCodeAt", "codePointAt", "indexOf", "lastIndexOf",
       "includes", "startsWith", "endsWith", "slice", "substring", "substr", "toUpperCase",
       "toLocaleUpperCase", "toLowerCase", "toLocaleLowerCase", "trim", "trimStart", "trimLeft",
       "trimEnd", "trimRight", "padStart", "padEnd", "repeat", "concat", "localeCompare",
       "normalize", "match", "matchAll", "search", "split", "replace", "replaceAll"]
  | .number => ["isInteger", "isSafeInteger", "isFinite", "isNaN"]
  | .numberPrototype =>
      ["valueOf", "toString", "toLocaleString", "toFixed", "toPrecision", "toExponential"]
  | .booleanPrototype => ["valueOf", "toString"]
  | .math =>
      ["abs", "floor", "ceil", "round", "trunc", "sign", "sqrt", "cbrt", "exp", "log", "log2",
       "log10", "sin", "cos", "tan", "asin", "acos", "atan", "sinh", "cosh", "tanh", "max", "min",
       "pow", "atan2", "hypot", "imul", "random"]
  | .json => ["parse", "stringify"]
  | .regexPrototype => ["test", "exec", "toString"]
  | .date => ["now", "parse", "UTC"]
  | .datePrototype =>
      ["getTime", "valueOf", "getTimezoneOffset", "getYear", "setTime", "getFullYear", "getMonth",
       "getDate", "getDay", "getHours", "getMinutes", "getSeconds", "getMilliseconds",
       "getUTCFullYear", "getUTCMonth", "getUTCDate", "getUTCDay", "getUTCHours", "getUTCMinutes",
       "getUTCSeconds", "getUTCMilliseconds", "setFullYear", "setMonth", "setDate", "setHours",
       "setMinutes", "setSeconds", "setMilliseconds", "setUTCFullYear", "setUTCMonth",
       "setUTCDate", "setUTCHours", "setUTCMinutes", "setUTCSeconds", "setUTCMilliseconds",
       "toISOString", "toJSON", "toString", "toDateString", "toTimeString", "toUTCString",
       "toGMTString", "toLocaleString", "toLocaleDateString", "toLocaleTimeString"]
  | .mapPrototype =>
      ["get", "has", "set", "delete", "clear", "forEach", "keys", "values", "entries"]
  | .setPrototype => ["has", "add", "delete", "clear", "forEach", "keys", "values", "entries"]
  | .iteratorPrototype => ["next"]
  | .errorPrototype => ["toString"]
  | .constructor => []
  | .host =>
      ["get", "put", "log", "base64Encode", "base64Decode", "md5Encode", "md5Encode16",
       "digestHex", "encodeURI", "hexEncodeToString", "hexDecodeToString", "randomUUID",
       "timeFormat"]

/-- A function under a name. -/
def nativeOf (library : Library) (name : String) : Obj :=
  { proto := some Intrinsic.functionPrototype.ref, kind := .native library name }

/-- A property that is not listed. -/
def hidden (value : Value) : Slot := { value, enumerable := false }

/-- Add the functions of a library to an object. -/
def install (library : Library) (ref : Nat) (listed : Bool) (machine : Machine) : Machine :=
  (names library).foldl (fun machine name =>
    let (func, machine) := machine.add (nativeOf library name)
    machine.modifyObject ref fun obj =>
      { obj with
        props := obj.props.push
          (Units.ofName name, { value := .object func, enumerable := listed }) }) machine

/-- Add a value under a name outside functions. -/
def addGlobal (name : String) (slot : Slot) (machine : Machine) : Machine :=
  machine.modifyObject Intrinsic.global.ref fun obj =>
    { obj with props := obj.props.push (Units.ofName name, slot) }

/-- Add an object with the functions of a library under a name outside functions. -/
def addNamespace (name : String) (library : Library) (listed : Bool) (machine : Machine) :
    Nat × Machine :=
  let (ref, machine) := machine.add { proto := some Intrinsic.objectPrototype.ref }
  (ref, addGlobal name (hidden (.object ref)) (install library ref listed machine))

/-- Add what constructs objects of a kind, with its functions and what its objects
inherit from. -/
def addConstructor (name : String) (proto : Intrinsic) (library : Option Library)
    (machine : Machine) : Machine :=
  let (ref, machine) := machine.add (nativeOf .constructor name)
  let machine := machine.modifyObject ref fun obj =>
    { obj with
      props := obj.props.push (Units.ofName "prototype",
        { value := .object proto.ref, writable := false, enumerable := false
          configurable := false }) }
  let machine := machine.modifyObject proto.ref fun obj =>
    { obj with props := obj.props.push (Units.ofName "constructor", hidden (.object ref)) }
  let machine := match library with
    | some library => install library ref false machine
    | none => machine
  addGlobal name (hidden (.object ref)) machine

/-- The objects that exist from the beginning, without their functions. -/
def intrinsics : List Obj :=
  let child : Obj := { proto := some Intrinsic.objectPrototype.ref }
  let error (name : String) (proto : Intrinsic) : Obj :=
    { proto := some proto.ref
      props := #[(Units.ofName "name", hidden (Value.ofName name)),
        (Units.ofName "message", hidden (Value.ofName ""))] }
  [child, {}, child, { child with kind := .array #[] },
   { child with kind := .wrapper (.string #[]) }, { child with kind := .wrapper (.number 0) },
   { child with kind := .wrapper (.bool false) }, child, child, child, child, child,
   error "Error" .objectPrototype, error "TypeError" .errorPrototype,
   error "ReferenceError" .errorPrototype, error "SyntaxError" .errorPrototype,
   error "RangeError" .errorPrototype, error "InternalError" .errorPrototype,
   error "URIError" .errorPrototype, error "EvalError" .errorPrototype]

/-- How many turns and calls a script may take. -/
def turnLimit : Nat := 1000000

/-- A constant number under a name. -/
def addNumbers (ref : Nat) (entries : List (String × Float)) (machine : Machine) : Machine :=
  machine.modifyObject ref fun obj =>
    { obj with
      props := obj.props ++ (entries.map fun entry =>
        (Units.ofName entry.1, Property.fixed (.number entry.2))).toArray }

/-- The machine with what the language itself provides. -/
def languageMachine : Machine :=
  let machine : Machine :=
    { objects := intrinsics.toArray
      scopes := #[{ bindings := #[], parent := none }]
      budget := turnLimit
      completion := .undefined }
  let prototypes : List (Library × Intrinsic) :=
    [(.objectPrototype, .objectPrototype), (.functionPrototype, .functionPrototype),
     (.arrayPrototype, .arrayPrototype), (.stringPrototype, .stringPrototype),
     (.numberPrototype, .numberPrototype), (.booleanPrototype, .booleanPrototype),
     (.regexPrototype, .regexPrototype), (.datePrototype, .datePrototype),
     (.mapPrototype, .mapPrototype), (.setPrototype, .setPrototype),
     (.iteratorPrototype, .iteratorPrototype), (.errorPrototype, .errorPrototype),
     (.global, .global)]
  let machine := prototypes.foldl (fun machine entry =>
    install entry.1 entry.2.ref false machine) machine
  let constructors : List (String × Intrinsic × Option Library) :=
    [("Object", .objectPrototype, some .object), ("Array", .arrayPrototype, some .array),
     ("String", .stringPrototype, some .string), ("Number", .numberPrototype, some .number),
     ("Boolean", .booleanPrototype, none), ("RegExp", .regexPrototype, none),
     ("Date", .datePrototype, some .date), ("Map", .mapPrototype, none),
     ("Set", .setPrototype, none), ("Error", .errorPrototype, none),
     ("TypeError", .typeError, none), ("ReferenceError", .referenceError, none),
     ("SyntaxError", .syntaxError, none), ("RangeError", .rangeError, none),
     ("InternalError", .internalError, none), ("URIError", .uriError, none),
     ("EvalError", .evalError, none)]
  let machine := constructors.foldl (fun machine entry =>
    addConstructor entry.1 entry.2.1 entry.2.2 machine) machine
  let (mathRef, machine) := addNamespace "Math" .math false machine
  let machine := addNumbers mathRef
    [("PI", 3.141592653589793), ("E", 2.718281828459045), ("LN2", 0.6931471805599453),
     ("LN10", 2.302585092994046), ("LOG2E", 1.4426950408889634),
     ("LOG10E", 0.4342944819032518), ("SQRT2", 1.4142135623730951),
     ("SQRT1_2", 0.7071067811865476)] machine
  let (_, machine) := addNamespace "JSON" .json false machine
  let machine := addGlobal "undefined" (Property.fixed .undefined) machine
  let machine := addGlobal "NaN" (Property.fixed (.number Exact.nan)) machine
  let machine := addGlobal "Infinity" (Property.fixed (.number Exact.infinity)) machine
  addGlobal "globalThis" (hidden (.object Intrinsic.global.ref)) machine

/-- A variable outside functions. -/
def globalVariable (value : Value) : Slot := { value, configurable := false }

/-- A property of an object that was installed. -/
def installed (machine : Machine) (ref : Nat) (name : String) : Value :=
  Value.ofOption ((Property.own? (machine.object ref) (Units.ofName name)).map (·.value))

/-- The machine with what the host provides as well. -/
def hostMachine : Machine :=
  let (puts, machine) := languageMachine.add { proto := some Intrinsic.objectPrototype.ref }
  let (logs, machine) :=
    machine.add { proto := some Intrinsic.arrayPrototype.ref, kind := .array #[] }
  let machine := addGlobal "__puts" (globalVariable (.object puts)) machine
  let machine := addGlobal "__logs" (globalVariable (.object logs)) machine
  let (java, machine) := machine.add { proto := some Intrinsic.objectPrototype.ref }
  let machine := install .host java true machine
  let machine := addGlobal "java" (globalVariable (.object java)) machine
  let rename (machine : Machine) (entry : String × String) : Machine :=
    machine.modifyObject java fun obj =>
      { obj with
        props := obj.props.push
          (Units.ofName entry.1, { value := installed machine java entry.2 }) }
  let machine := [("getVar", "get"), ("hexEncode", "hexEncodeToString"),
    ("hexDecode", "hexDecodeToString"), ("toast", "log"), ("longToast", "log")].foldl rename machine
  let getter := installed machine java "get"
  let putter := installed machine java "put"
  let store (name : String) (machine : Machine) : Machine :=
    let (ref, machine) := machine.add
      { proto := some Intrinsic.objectPrototype.ref
        props := #[(Units.ofName "get", { value := getter }),
          (Units.ofName "put", { value := putter })] }
    addGlobal name (globalVariable (.object ref)) machine
  let machine := store "cache" (store "source" machine)
  let machine := [("get", getter), ("put", putter), ("Get", getter), ("Put", putter)].foldl
    (fun machine entry => addGlobal entry.1 (globalVariable entry.2) machine) machine
  [("__copy", "copy"), ("__utf8Bytes", "utf8Bytes"), ("__utf8String", "utf8String"),
   ("__hex", "hex"), ("__b64encode", "base64Encode"), ("__b64decode", "base64Decode"),
   ("__hexDecode", "hexDecodeToString"), ("__digest", "digestHex")].foldl
    (fun machine entry =>
      let (ref, machine) := machine.add (nativeOf .host entry.2)
      addGlobal entry.1 (globalVariable (.object ref)) machine) machine

end Library

/-- How constructs are evaluated up to a depth of nesting. -/
def evaluator : Nat → Evaluator
  | 0 =>
      { eval := fun _ _ => Run.fail .internalError "stack overflow"
        exec := fun _ _ => Run.fail .internalError "stack overflow"
        bind := fun _ _ _ _ => Run.fail .internalError "stack overflow"
        call := fun _ _ _ => Run.fail .internalError "stack overflow"
        construct := fun _ _ => Run.fail .internalError "stack overflow" }
  | depth + 1 =>
      { eval := fun env expr => (evaluator depth).evalOf env expr
        exec := fun env statement => (evaluator depth).execOf env statement
        bind := fun env mode target value => (evaluator depth).bindOf env mode target value
        call := fun callee receiver args =>
          (evaluator depth).callOf Library.callProvided callee receiver args
        construct := fun callee args =>
          (evaluator depth).constructOf Library.constructProvided callee args }

end Script

end RuleProbe
