import RuleProbe.Script.Convert
import RuleProbe.Script.Variable

/-!
# Evaluation

Expressions have values, statements have effects and may jump, and functions run in
scopes of their own.  Every function below evaluates one construct and is given the
evaluation of the constructs inside it as an `Evaluator`; what ties them together
bounds the depth to which evaluation nests.
-/

namespace RuleProbe

namespace Script

/-- Where a construct is evaluated. -/
structure Env where
  /-- The innermost scope. -/
  scope : Nat
  /-- The receiver of the function around. -/
  receiver : Value
  /-- Checks are strict. -/
  strict : Bool
  /-- Outside functions, where statements leave values. -/
  outermost : Bool
  /-- The labels of the statement itself. -/
  labels : List Text

/-- How a statement ends. -/
inductive Signal where
  /-- The next statement follows. -/
  | normal
  /-- The function ends with a value. -/
  | returned (value : Value)
  /-- A statement around ends. -/
  | broke (label : Option Text)
  /-- A loop around goes on with its next turn. -/
  | continued (label : Option Text)

/-- How a target gets its value. -/
inductive BindMode where
  /-- By assignment. -/
  | assign
  /-- As the first value of a variable. -/
  | define
  deriving DecidableEq

/-- How the constructs inside a construct are evaluated. -/
structure Evaluator where
  /-- Evaluate an expression; nothing when the rest of its chain is skipped. -/
  eval : Env → Expr → Run (Option Value)
  /-- Execute a statement. -/
  exec : Env → Stmt → Run Signal
  /-- Give a target its value. -/
  bind : Env → BindMode → Target → Value → Run Unit
  /-- Call a function with a receiver. -/
  call : Value → Value → Array Value → Run Value
  /-- Construct an object. -/
  construct : Value → Array Value → Run Value

namespace Evaluator

variable (self : Evaluator)

/-- How operations call functions. -/
def caller : Caller := ⟨self.call, self.construct⟩

/-- The value of an expression that is no part of a chain. -/
def value (env : Env) (expr : Expr) : Run Value := do
  return Value.ofOption (← self.eval env expr)

/-- The values of arguments. -/
def arguments (env : Env) (args : List Item) : Run (Array Value) :=
  args.foldlM (fun found item => do
    match item with
    | .value expr => return found.push (← self.value env expr)
    | .spread expr => return found ++ (← Convert.items (← self.value env expr)).toArray
    | .hole => return found) #[]

/-- The items of an array that is written out. -/
def arrayItems (env : Env) (items : List Item) : Run (Array (Option Value)) :=
  items.foldlM (fun found item => do
    match item with
    | .value expr => return found.push (some (← self.value env expr))
    | .spread expr =>
        let more ← Convert.items (← self.value env expr)
        return found ++ (more.map some).toArray
    | .hole => return found.push none) #[]

/-- Copy the listed properties of a value to an object, some keys aside. -/
def copyProperties (target : Nat) (source : Value) (except : List Units) : Run Unit := do
  let copy (ref : Nat) : Run Unit := do
    for key in Property.ownKeys (← Run.object ref) false do
      if !except.elem key then
        Property.define target key { value := ← Property.get (.object ref) key }
  match source with
  | .object ref => copy ref
  | .string units =>
      for i in [0 : units.size] do
        Property.define target (Property.keyOf i) { value := .string (units.extract i (i + 1)) }
  | _ => return ()

/-- Give an object a member that is written out. -/
def addMember (env : Env) (ref : Nat) : Member → Run Unit
  | .property key expr => do
      let key ← Convert.toKey self.caller (← self.value env key)
      Property.define ref key { value := ← self.value env expr }
  | .parent expr => do
      match ← self.value env expr with
      | .object proto => Run.modifyObject ref fun obj => { obj with proto := some proto }
      | .null => Run.modifyObject ref fun obj => { obj with proto := none }
      | _ => return ()
  | .spread expr => do copyProperties ref (← self.value env expr) []
  | .withDefault _ _ => return ()

/-- Make a function. -/
def makeFunction (env : Env) (func : Func) : Run Value := do
  let bare := func.info.isArrow || func.info.isMethod
  let scope ←
    if func.info.bindsName then
      Variable.openScope #[⟨func.name, some .undefined, false⟩] (some env.scope)
    else pure env.scope
  let made ← Run.add
    { proto := some Intrinsic.functionPrototype.ref
      kind := .closure func scope (if func.info.isArrow then env.receiver else .undefined) }
  if func.info.bindsName then Variable.define scope func.name made
  if let .object ref := made then
    if !bare then
      let back : Slot := { value := made, enumerable := false }
      let proto ← Run.add
        { proto := some Intrinsic.objectPrototype.ref
          props := #[(Units.ofName "constructor", back)] }
      Run.modifyObject ref fun obj =>
        Property.putSlot obj (Units.ofName "prototype")
          { value := proto, enumerable := false, configurable := false }
  return made

/-- What can be read and assigned to. -/
inductive Place where
  | variable (name : Text)
  | property (object : Value) (key : Units)

/-- The place that an expression names. -/
def place (env : Env) : Expr → Run Place
  | .name name => return .variable name
  | .member object key _ => do
      let target ← self.value env object
      let key ← Convert.toKey self.caller (← self.value env key)
      return .property target key
  | _ => Run.fail .syntaxError "invalid assignment left-hand side"

/-- The value at a place. -/
def readPlace (env : Env) : Place → Run Value
  | .variable name => Variable.read env.scope name
  | .property object key => Property.get object key

/-- Assign to a place. -/
def writePlace (env : Env) (target : Place) (value : Value) : Run Unit :=
  match target with
  | .variable name => Variable.write env.strict env.scope name value
  | .property object key => Property.set env.strict object key value

/-- An object was constructed by a function, or by one that inherits from it. -/
def isInstance (value callee : Value) : Run Bool := do
  if !Property.isCallable (← get) callee then
    Run.typeError "invalid 'instanceof' right operand"
  match value, ← Property.getNamed callee "prototype" with
  | .object ref, .object proto =>
      return Property.inherits (← get) proto Property.inheritanceLimit ref
  | .object _, _ => Run.typeError "operand 'prototype' property is not an object"
  | _, _ => return false

/-- A value has a property under a key. -/
def hasProperty (key value : Value) : Run Bool := do
  match value with
  | .object ref =>
      let key ← Convert.toKey self.caller key
      return (Property.lookup (← get) key Property.inheritanceLimit ref).isSome
  | _ => Run.typeError "invalid 'in' operand"

/-- The number of places by which words are shifted. -/
def shiftAmount (x : Float) : UInt32 := Number.toWord x &&& 31

/-- A word shifted to the right, its sign kept. -/
def shiftSigned (word amount : UInt32) : UInt32 :=
  let shifted := word >>> amount
  if word < 0x80000000 || amount == 0 then shifted
  else shifted ||| ~~~((0xffffffff : UInt32) >>> amount)

/-- An operation on two numbers. -/
def arithmetic (op : BinaryOp) (x y : Float) : Float :=
  match op with
  | .subtract => x - y
  | .multiply => x * y
  | .divide => x / y
  | .remainder => Exact.remainder x y
  | .power => Number.power x y
  | .shiftLeft => Number.ofSigned (Number.toWord x <<< shiftAmount y)
  | .shiftRight => Number.ofSigned (shiftSigned (Number.toWord x) (shiftAmount y))
  | .shiftRightZero => Number.ofUnsigned (Number.toWord x >>> shiftAmount y)
  | .bitAnd => Number.ofSigned (Number.toWord x &&& Number.toWord y)
  | .bitOr => Number.ofSigned (Number.toWord x ||| Number.toWord y)
  | .bitXor => Number.ofSigned (Number.toWord x ^^^ Number.toWord y)
  | _ => x + y

/-- An operation on two values. -/
def binary (op : BinaryOp) (a b : Value) : Run Value := do
  let host := self.caller
  match op with
  | .add => Convert.add host a b
  | .less => return .bool ((← Convert.precedes host a b) == some true)
  | .greater => return .bool ((← Convert.precedes host b a) == some true)
  | .lessEqual => return .bool ((← Convert.precedes host b a) == some false)
  | .greaterEqual => return .bool ((← Convert.precedes host a b) == some false)
  | .equal => return .bool (← Convert.looselyEqual host a b)
  | .notEqual => return .bool (!(← Convert.looselyEqual host a b))
  | .same => return .bool (a.same b)
  | .notSame => return .bool (!a.same b)
  | .instanceOf => return .bool (← isInstance a b)
  | .inside => return .bool (← self.hasProperty a b)
  | op =>
      let x ← Convert.toNumber host a
      let y ← Convert.toNumber host b
      return .number (arithmetic op x y)

/-- The value that decides a logical operation without its second operand. -/
def decides (op : LogicalOp) (value : Value) : Bool :=
  match op with
  | .and => !value.isTruthy
  | .or => value.isTruthy
  | .nullish => !value.isNullish

/-- An operation on one operand. -/
def unary (env : Env) (op : UnaryOp) (operand : Expr) : Run Value := do
  let host := self.caller
  match op with
  | .negate => return .number (-(← Convert.toNumber host (← self.value env operand)))
  | .plus => return .number (← Convert.toNumber host (← self.value env operand))
  | .not => return .bool (!(← self.value env operand).isTruthy)
  | .bitNot =>
      let x ← Convert.toNumber host (← self.value env operand)
      return .number (Number.ofSigned (~~~(Number.toWord x)))
  | .void =>
      let _ ← self.value env operand
      return .undefined
  | .typeOf =>
      let value ←
        match operand with
        | .name name => do pure (Value.ofOption (← Variable.read? env.scope name))
        | operand => self.value env operand
      return Value.ofName (← Convert.typeOf value)
  | .delete =>
      match operand with
      | .member object key _ =>
          let target ← self.value env object
          let key ← Convert.toKey host (← self.value env key)
          if target.isNullish then Run.typeError "cannot convert to object"
          match target with
          | .object ref =>
              let gone ← Property.remove ref key
              if !gone && env.strict then Run.typeError "could not delete property"
              return .bool gone
          | _ => return .bool true
      | .name name =>
          if (← Variable.locate env.scope name).isSome then return .bool false
          return .bool (← Property.remove Intrinsic.global.ref (Units.ofText name))
      | operand =>
          let _ ← self.value env operand
          return .bool true

/-- A function and its receiver; nothing when the rest of the chain is skipped. -/
def callee (env : Env) (expr : Expr) : Run (Option (Value × Value)) := do
  match expr with
  | .member object key optional =>
      match ← self.eval env object with
      | none => return none
      | some target =>
          if optional && target.isNullish then return none
          let key ← Convert.toKey self.caller (← self.value env key)
          return some (← Property.get target key, target)
  | expr =>
      match ← self.eval env expr with
      | none => return none
      | some func => return some (func, .undefined)

/-- The property of a value under a key that may be a position. -/
def member (target key : Value) : Run Value := do
  match target, key with
  | .object ref, .number x =>
      -- Items of arrays are found without writing their positions.
      match (← Run.object ref).kind with
      | .array items =>
          let i := x.toUInt64.toNat
          if Float.ofNat i == x && i < items.size then
            match items[i]?.join with
            | some value => return value
            | none => Property.get target (Property.keyOf i)
          else Property.get target (← Convert.toKey self.caller key)
      | _ => Property.get target (← Convert.toKey self.caller key)
  | target, key =>
      if target.isNullish then
        let _ ← Property.get target (Convert.plainText key)
      Property.get target (← Convert.toKey self.caller key)

/-- Make a regular expression. -/
def makeRegex (source : Units) (flagText : Text) : Run Value := do
  match RegexFlags.read? {} flagText with
  | none => Run.fail .syntaxError "invalid regular expression flags"
  | some flags =>
      match Regex.read? flags source.toText with
      | none => Run.fail .syntaxError "invalid regular expression"
      | some pattern =>
          let last : Slot :=
            { value := .number 0, enumerable := false, configurable := false }
          Run.add
            { proto := some Intrinsic.regexPrototype.ref
              kind := .regex source flags pattern
              props := #[(Units.ofName "lastIndex", last)] }

/-- The pieces of a template joined with its values. -/
def template (env : Env) : List Units → List Expr → Units → Run Units
  | piece :: pieces, expr :: exprs, found => do
      let text ← Convert.toUnits self.caller (← self.value env expr)
      template env pieces exprs (found ++ piece ++ text)
  | piece :: _, [], found => return found ++ piece
  | [], _, found => return found

/-- Evaluate an expression; nothing when the rest of its chain is skipped. -/
def evalOf (env : Env) (expr : Expr) : Run (Option Value) := do
  match expr with
  | .undefined => return some .undefined
  | .null => return some .null
  | .bool value => return some (.bool value)
  | .number value => return some (.number value)
  | .string value => return some (.string value)
  | .name name => return some (← Variable.read env.scope name)
  | .this => return some env.receiver
  | .template strings values => return some (.string (← self.template env strings values #[]))
  | .regex source flags => return some (← makeRegex source flags.toText)
  | .array items => return some (← Run.makeArray (← self.arrayItems env items))
  | .object members =>
      let made ← Run.makeObject
      if let .object ref := made then members.forM fun member => self.addMember env ref member
      return some made
  | .function func => return some (← makeFunction env func)
  | .unary op operand => return some (← self.unary env op operand)
  | .update increment isPrefix operand =>
      let target ← self.place env operand
      let old ← Convert.toNumber self.caller (← readPlace env target)
      let new := if increment then old + 1 else old - 1
      writePlace env target (.number new)
      return some (.number (if isPrefix then new else old))
  | .binary op left right =>
      let a ← self.value env left
      let b ← self.value env right
      return some (← self.binary op a b)
  | .logical op left right =>
      let a ← self.value env left
      if decides op a then return some a else return some (← self.value env right)
  | .assign (.place expr) value =>
      let target ← self.place env expr
      let found ← self.value env value
      writePlace env target found
      return some found
  | .assign target value =>
      let found ← self.value env value
      self.bind env .assign target found
      return some found
  | .assignOp op target value =>
      let target ← self.place env target
      let old ← readPlace env target
      let found ← self.value env value
      let new ← self.binary op old found
      writePlace env target new
      return some new
  | .assignLogical op target value =>
      let target ← self.place env target
      let old ← readPlace env target
      if decides op old then return some old
      let found ← self.value env value
      writePlace env target found
      return some found
  | .conditional test yes no =>
      if (← self.value env test).isTruthy then return some (← self.value env yes)
      else return some (← self.value env no)
  | .call expr args optional =>
      match ← self.callee env expr with
      | none => return none
      | some (func, receiver) =>
          if optional && func.isNullish then return none
          let args ← self.arguments env args
          return some (← self.call func receiver args)
  | .construct expr args =>
      let func ← self.value env expr
      let args ← self.arguments env args
      return some (← self.construct func args)
  | .member object key optional =>
      match ← self.eval env object with
      | none => return none
      | some target =>
          if optional && target.isNullish then return none
          return some (← self.member target (← self.value env key))
  | .chain body => return some (← self.value env body)
  | .sequence first second =>
      let _ ← self.value env first
      return some (← self.value env second)

/-- Give a part of a target its value, or its default. -/
def bindPart (env : Env) (mode : BindMode) (target : Target) (default : Option Expr)
    (value : Value) : Run Unit := do
  match value, default with
  | .undefined, some expr => self.bind env mode target (← self.value env expr)
  | value, _ => self.bind env mode target value

/-- Give the items of a target their values. -/
def bindItems (env : Env) (mode : BindMode) : List TargetItem → List Value → Run Unit
  | [], _ => return ()
  | .item target default :: rest, values => do
      self.bindPart env mode target default (values.head?.getD .undefined)
      bindItems env mode rest (values.drop 1)
  | .hole :: rest, values => bindItems env mode rest (values.drop 1)
  | .rest target :: _, values => do
      self.bind env mode target (← Run.arrayOf values.toArray)

/-- Give the members of a target their values; `taken` are the keys used so far. -/
def bindMembers (env : Env) (mode : BindMode) (value : Value) :
    List TargetMember → List Units → Run Unit
  | [], _ => return ()
  | .property key target default :: rest, taken => do
      let key ← Convert.toKey self.caller (← self.value env key)
      self.bindPart env mode target default (← Property.get value key)
      bindMembers env mode value rest (key :: taken)
  | .rest target :: _, taken => do
      let made ← Run.makeObject
      if let .object ref := made then copyProperties ref value taken
      self.bind env mode target made

/-- Give a target its value. -/
def bindOf (env : Env) (mode : BindMode) (target : Target) (value : Value) : Run Unit := do
  match target with
  | .place (.name name) =>
      match mode with
      | .assign => Variable.write env.strict env.scope name value
      | .define => Variable.define env.scope name value
  | .place expr => writePlace env (← self.place env expr) value
  | .array items => self.bindItems env mode items (← Convert.items value)
  | .object members =>
      if value.isNullish then Run.typeError "cannot destructure a value that is no object"
      self.bindMembers env mode value members []

/-- Execute statements up to the first that jumps. -/
def execAll (env : Env) : List Stmt → Run Signal
  | [] => return .normal
  | statement :: rest => do
      match ← self.exec env statement with
      | .normal => execAll env rest
      | signal => return signal

/-- Make the functions that are declared among statements. -/
def hoist (env : Env) (statements : List Stmt) : Run Unit :=
  statements.forM fun statement => do
    match statement with
    | .function name func =>
        Variable.write false env.scope name (← makeFunction env func)
    | _ => return ()

/-- Execute the statements of a block. -/
def execBlock (env : Env) (statements : List Stmt) : Run Signal := do
  let bindings := Variable.lexicals statements
  let env ←
    if bindings.isEmpty then pure env
    else do
      let scope ← Variable.openScope bindings.toArray (some env.scope)
      pure { env with scope }
  hoist env statements
  self.execAll env statements

/-- What the end of a loop's body means for a loop with the given labels: nothing when
the next turn follows, else how the loop ends. -/
def afterTurn (labels : List Text) : Signal → Option Signal
  | .normal => none
  | .continued none => none
  | .continued (some label) => if labels.elem label then none else some (.continued (some label))
  | .broke none => some .normal
  | signal => some signal

/-- Repeat turns until one ends the loop; each spends a part of the budget. -/
def turns (turn : Run (Option Signal)) : Nat → Run Signal
  | 0 => throw .interrupted
  | left + 1 => do
      Run.spend
      match ← turn with
      | some signal => return signal
      | none => turns turn left

/-- Repeat turns as long as the budget lasts. -/
def loop (turn : Run (Option Signal)) : Run Signal := do
  turns turn ((← get).budget + 1)

/-- Take turns over values. -/
def overValues (turn : Value → Run (Option Signal)) : List Value → Run Signal
  | [] => return .normal
  | value :: rest => do
      Run.spend
      match ← turn value with
      | some signal => return signal
      | none => overValues turn rest

/-- Forget the value of the last statement. -/
def clearCompletion (env : Env) : Run Unit := do
  if env.outermost then modify fun machine => { machine with completion := .undefined }

/-- Variables still without values. -/
def freshBindings (constant : Bool) (names : List Text) : Array Binding :=
  (names.map fun name => ⟨name, none, constant⟩).toArray

/-- Execute a declaration of variables. -/
def execDeclaration (env : Env) (kind : VarKind) : Declaration → Run Unit
  | .mk target (some expr) => do
      let found ← self.value env expr
      self.bind env (if kind == .function then .assign else .define) target found
  | .mk target none => do
      if kind != .function then self.bind env .define target .undefined

/-- The scope in which a counting loop declares its variables. -/
def loopScope (env : Env) (start : Option Stmt) : Run (Env × Bool) := do
  match start with
  | some (.declare kind names _) =>
      if kind == .function then return (env, false)
      let scope ← Variable.openScope (freshBindings (kind == .constant) names) (some env.scope)
      return ({ env with scope }, kind == .block)
  | _ => return (env, false)

/-- A counting loop.  When it declares variables, each turn has its own. -/
def execFor (env : Env) (labels : List Text) (start : Option Stmt) (test update : Option Expr)
    (body : Stmt) : Run Signal := do
  let (env, copies) ← loopScope env start
  if let some start := start then
    match start with
    | .expression expr =>
        let _ ← self.value env expr
    | start =>
        let _ ← self.exec env start
  let next (env : Env) : Run Env := do
    if copies then
      let scope ← Variable.copyScope env.scope
      return { env with scope }
    else return env
  let passes (env : Env) : Run Bool := do
    match test with
    | some test => return (← self.value env test).isTruthy
    | none => return true
  let rec go (env : Env) : Nat → Run Signal
    | 0 => throw .interrupted
    | left + 1 => do
        Run.spend
        if !(← passes env) then return .normal
        match afterTurn labels (← self.exec env body) with
        | some signal => return signal
        | none =>
            let env ← next env
            if let some update := update then
              let _ ← self.value env update
            go env left
  go (← next env) ((← get).budget + 1)

/-- A loop over the items or the keys of a value. -/
def execForEach (env : Env) (labels : List Text) (ofItems : Bool) (kind : Option VarKind)
    (names : List Text) (target : Target) (expr : Expr) (body : Stmt) : Run Signal := do
  let source ← self.value env expr
  let lexical := kind == some .block || kind == some .constant
  let turn (value : Value) : Run (Option Signal) := do
    let inner ←
      if lexical then do
        let bindings := freshBindings (kind == some .constant) names
        let scope ← Variable.openScope bindings (some env.scope)
        pure { env with scope }
      else pure env
    self.bind inner (if lexical then .define else .assign) target value
    return afterTurn labels (← self.exec inner body)
  if ofItems then overValues turn (← Convert.items source)
  else if source.isNullish then return .normal
  else
    let ref ← Convert.toObject source
    let keys := Property.listedKeys (← get) Property.inheritanceLimit [] ref
    let turnOfKey (value : Value) : Run (Option Signal) := do
      -- A property that has been removed meanwhile is passed over.
      let key := Convert.plainText value
      if (Property.lookup (← get) key Property.inheritanceLimit ref).isNone then return none
      turn value
    overValues turnOfKey (keys.map Value.string)

/-- The cases from the first one that applies on. -/
def chooseCase (env : Env) (value : Value) : List SwitchCase → Run (Option (List SwitchCase))
  | [] => return none
  | .mk none _ :: rest => chooseCase env value rest
  | .mk (some test) body :: rest => do
      if value.same (← self.value env test) then return some (.mk (some test) body :: rest)
      else chooseCase env value rest

/-- The statements of cases, one after another. -/
def caseStatements (cases : List SwitchCase) : List Stmt :=
  cases.flatMap fun item => match item with | .mk _ body => body

/-- A choice among cases. -/
def execSwitch (env : Env) (expr : Expr) (cases : List SwitchCase) : Run Signal := do
  let value ← self.value env expr
  let all := caseStatements cases
  let bindings := Variable.lexicals all
  let env ←
    if bindings.isEmpty then pure env
    else do
      let scope ← Variable.openScope bindings.toArray (some env.scope)
      pure { env with scope }
  hoist env all
  let isDefault : SwitchCase → Bool := fun item => match item with | .mk test _ => test.isNone
  let chosen :=
    match ← self.chooseCase env value cases with
    | some found => found
    | none => cases.dropWhile fun item => !isDefault item
  match ← self.execAll env (caseStatements chosen) with
  | .broke none => return .normal
  | signal => return signal

/-- How an attempt went. -/
inductive Attempted where
  | ended (signal : Signal)
  | failed (abrupt : Abrupt)

/-- Run something and see how it went. -/
def attempted (body : Run Signal) : Run Attempted := do
  try return .ended (← body)
  catch abrupt => return .failed abrupt

/-- The handler of an attempt. -/
def execHandler (env : Env) (names : List Text) (binding : Option Target)
    (handler : List Stmt) (thrown : Value) : Run Signal := do
  match binding with
  | none => self.execBlock env handler
  | some target =>
      let scope ← Variable.openScope (freshBindings false names) (some env.scope)
      let inner := { env with scope }
      self.bind inner .define target thrown
      self.execBlock inner handler

/-- An attempt with its handler and what is done in any case. -/
def execTry (env : Env) (body : List Stmt) (names : List Text) (binding : Option Target)
    (handler finalizer : Option (List Stmt)) : Run Signal := do
  let handled : Run Signal := do
    match ← attempted (self.execBlock env body), handler with
    | .ended signal, _ => return signal
    | .failed (.thrown value), some handler => self.execHandler env names binding handler value
    | .failed abrupt, _ => throw abrupt
  match finalizer with
  | none => handled
  | some finalizer =>
      match ← attempted handled with
      | .failed .interrupted => throw .interrupted
      | outcome =>
          let completion := (← get).completion
          match ← self.execBlock env finalizer with
          | .normal =>
              modify fun machine => { machine with completion }
              match outcome with
              | .ended signal => return signal
              | .failed abrupt => throw abrupt
          | signal => return signal

/-- Execute a statement. -/
def execOf (outer : Env) (statement : Stmt) : Run Signal := do
  let labels := outer.labels
  let env := { outer with labels := [] }
  match statement with
  | .expression expr =>
      let found ← self.value env expr
      if env.outermost then modify fun machine => { machine with completion := found }
      return .normal
  | .declare kind _ declarations =>
      declarations.forM fun declaration => self.execDeclaration env kind declaration
      return .normal
  | .function _ _ => return .normal
  | .returning none => return .returned .undefined
  | .returning (some expr) => return .returned (← self.value env expr)
  | .conditional test yes no =>
      clearCompletion env
      if (← self.value env test).isTruthy then self.exec env yes
      else
        match no with
        | some no => self.exec env no
        | none => return .normal
  | .whileLoop test body =>
      clearCompletion env
      loop do
        if (← self.value env test).isTruthy then return afterTurn labels (← self.exec env body)
        else return some .normal
  | .doWhile body test =>
      clearCompletion env
      loop do
        match afterTurn labels (← self.exec env body) with
        | some signal => return some signal
        | none => if (← self.value env test).isTruthy then return none else return some .normal
  | .forLoop start test update body =>
      clearCompletion env
      self.execFor env labels start test update body
  | .forEach ofItems kind names target expr body =>
      clearCompletion env
      self.execForEach env labels ofItems kind names target expr body
  | .block body => self.execBlock env body
  | .breaking label => return .broke label
  | .continuing label => return .continued label
  | .throwing expr => throw (.thrown (← self.value env expr))
  | .attempt body names binding handler finalizer =>
      clearCompletion env
      self.execTry env body names binding handler finalizer
  | .choose expr cases =>
      clearCompletion env
      self.execSwitch env expr cases
  | .labelled label body =>
      match ← self.exec { env with labels := label :: labels } body with
      | .broke (some other) => return if other == label then .normal else .broke (some other)
      | signal => return signal
  | .empty => return .normal

/-- Run the body of a function. -/
def runBody (func : Func) (scope : Nat) (receiver : Value) (args : Array Value) : Run Value := do
  let info := func.info
  let params := info.paramNames.map fun name => (⟨name, some .undefined, false⟩ : Binding)
  let whole : List Binding ←
    if info.usesArguments then do
      pure [⟨"arguments", some (← Run.arrayOf args), false⟩]
    else pure []
  let vars := (info.vars.filter fun name => !info.paramNames.elem name).map fun name =>
    (⟨name, some .undefined, false⟩ : Binding)
  let bindings := params ++ whole ++ vars ++ Variable.lexicals func.body
  let inner ← Variable.openScope bindings.toArray (some scope)
  let env : Env :=
    { scope := inner, receiver, strict := info.strict, outermost := false, labels := [] }
  self.bindItems env .define func.params args.toList
  hoist env func.body
  match ← self.execAll env func.body with
  | .returned value => return value
  | _ => return .undefined

/-- The receiver that a function sees. -/
def receiverOf (func : Func) (own given : Value) : Value :=
  if func.info.isArrow then own
  else if func.info.strict then given
  else if given.isNullish then .object Intrinsic.global.ref
  else given

/-- Call a function with a receiver; `provided` calls the functions that are not made by
scripts. -/
def callOf (provided : Caller → Library → String → Value → Array Value → Run Value)
    (callee receiver : Value) (args : Array Value) : Run Value := do
  Run.spend
  match callee with
  | .object ref =>
      match (← Run.object ref).kind with
      | .closure func scope own => self.runBody func scope (receiverOf func own receiver) args
      | .native library name => provided self.caller library name receiver args
      | .bound target receiver first => self.call target receiver (first ++ args)
      | _ => Run.typeError "not a function"
  | _ => Run.typeError "not a function"

/-- Construct an object; `provided` constructs those that are not made by scripts. -/
def constructOf (provided : Caller → String → Array Value → Run Value)
    (callee : Value) (args : Array Value) : Run Value := do
  Run.spend
  match callee with
  | .object ref =>
      match (← Run.object ref).kind with
      | .closure func scope _ =>
          if func.info.isArrow || func.info.isMethod then Run.typeError "not a constructor"
          let proto : Nat :=
            match ← Property.getNamed callee "prototype" with
            | .object proto => proto
            | _ => Intrinsic.objectPrototype.ref
          let made ← Run.add { proto := some proto }
          match ← self.runBody func scope made args with
          | .object found => return .object found
          | _ => return made
      | .native .constructor name => provided self.caller name args
      | .bound target _ first => self.construct target (first ++ args)
      | _ => Run.typeError "not a constructor"
  | _ => Run.typeError "not a constructor"

end Evaluator

end Script

end RuleProbe
