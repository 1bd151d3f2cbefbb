import RuleProbe.Script.Regex
import RuleProbe.Script.Syntax

/-!
# Reading scripts

A script is read by descent.  Every function below reads one construct and is given
the reading of the constructs inside it as a `Grammar`; `grammar` ties them together,
up to a depth of nesting.
-/

namespace RuleProbe

namespace Script

/-- Where a construct stands. -/
structure Context where
  /-- Inside a function. -/
  inFunction : Bool := false
  /-- Inside a loop or a choice. -/
  breakable : Bool := false
  /-- Inside a loop. -/
  continuable : Bool := false
  /-- The labels of the statements around. -/
  labels : List Text := []
  /-- The word `in` ends an expression. -/
  noIn : Bool := false

/-- The names declared in a block so far. -/
structure BlockNames where
  /-- Names of the block itself. -/
  lexicals : List Text
  /-- Names of the function around that are declared in the block. -/
  vars : List Text
  /-- The block is the whole of a function or of a script. -/
  isWhole : Bool

/-- What a reader has met so far. -/
structure Progress where
  /-- The next token. -/
  current : Lexeme
  /-- The names of the blocks around, innermost first. -/
  blocks : List BlockNames
  /-- The variables of the function, last first. -/
  vars : List Text
  /-- The names met in the binding that is being read, last first. -/
  bound : List Text
  /-- The function mentions its arguments as a whole. -/
  usesArguments : Bool
  /-- The function is checked strictly. -/
  strict : Bool
  /-- Defaults in objects that have not turned out to be targets. -/
  pending : Nat

/-- A reader of a part of a script. -/
abbrev ScriptReader := StateT Progress Option

namespace ScriptReader

/-- Take the next token. -/
def advance : ScriptReader Lexeme := do
  let progress ← get
  match Lexeme.next? progress.current.rest with
  | some next =>
      set { progress with current := next }
      return progress.current
  | none => failure

/-- The next token is a mark. -/
def peekMark (punct : Punct) : ScriptReader Bool := do
  match (← get).current.token with
  | .mark other => return other == punct
  | _ => return false

/-- Take a mark that comes next. -/
def acceptMark (punct : Punct) : ScriptReader Bool := do
  if ← peekMark punct then
    let _ ← advance
    return true
  else return false

/-- Take a mark that must come next. -/
def expectMark (punct : Punct) : ScriptReader Unit := do
  if ← acceptMark punct then return () else failure

/-- The next token is a word. -/
def peekWord (word : String) : ScriptReader Bool := do
  match (← get).current.token with
  | .word name => return name == word.toList
  | _ => return false

/-- Take a word that comes next. -/
def acceptWord (word : String) : ScriptReader Bool := do
  if ← peekWord word then
    let _ ← advance
    return true
  else return false

/-- Take a word that must come next. -/
def expectWord (word : String) : ScriptReader Unit := do
  if ← acceptWord word then return () else failure

/-- The token after the next one. -/
def peekSecond : ScriptReader Lexeme := do
  match Lexeme.next? (← get).current.rest with
  | some next => return next
  | none => failure

/-- The token after the next one is a mark. -/
def secondIsMark (punct : Punct) : ScriptReader Bool := do
  match Lexeme.next? (← get).current.rest with
  | some ⟨_, .mark other, _, _⟩ => return other == punct
  | _ => return false

/-- A bound on the number of tokens still to come. -/
def fuel : ScriptReader Nat := do return (← get).current.start.length + 2

/-- End a statement: by a semicolon, or where a line, a block or the script ends. -/
def endStatement : ScriptReader Unit := do
  if ← acceptMark .semicolon then return ()
  let current := (← get).current
  if current.afterBreak then return ()
  match current.token with
  | .mark .closeBrace => return ()
  | .stop => return ()
  | _ => failure

/-- Words that cannot be names. -/
def reservedWords : List Text :=
  (["break", "case", "catch", "class", "const", "continue", "debugger", "default", "delete",
    "do", "else", "enum", "export", "extends", "false", "finally", "for", "function", "if",
    "import", "in", "instanceof", "new", "null", "return", "super", "switch", "this", "throw",
    "true", "try", "typeof", "var", "void", "while", "with"] : List String).map String.toList

/-- Words that cannot be names where checks are strict. -/
def strictWords : List Text :=
  (["implements", "interface", "let", "package", "private", "protected", "public", "static",
    "yield"] : List String).map String.toList

/-- A word that can be a name. -/
def isName (word : Text) : ScriptReader Bool := do
  return !(reservedWords.elem word) && !((← get).strict && strictWords.elem word)

/-- Take a name. -/
def takeName : ScriptReader Text := do
  match (← get).current.token with
  | .word name =>
      if !(← isName name) then failure
      let _ ← advance
      return name
  | _ => failure

/-- Open a block. -/
def openBlock : ScriptReader Unit :=
  modify fun progress => { progress with blocks := ⟨[], [], false⟩ :: progress.blocks }

/-- Close a block. -/
def closeBlock : ScriptReader Unit :=
  modify fun progress => { progress with blocks := progress.blocks.drop 1 }

/-- Read within a block of its own. -/
def inBlock {α : Type} (body : ScriptReader α) : ScriptReader α := do
  openBlock
  let result ← body
  closeBlock
  return result

/-- Blocks with a variable of the function declared in the innermost of them. -/
def addVar (name : Text) : List BlockNames → Option (List BlockNames)
  | [] => some []
  | block :: rest =>
      if block.lexicals.elem name then none
      else
        let block := { block with vars := name :: block.vars }
        if block.isWhole then some (block :: rest) else (addVar name rest).map (block :: ·)

/-- Declare a variable of the function. -/
def declareVar (name : Text) : ScriptReader Unit := do
  let progress ← get
  match addVar name progress.blocks with
  | some blocks =>
      let vars := if progress.vars.elem name then progress.vars else name :: progress.vars
      set { progress with blocks, vars }
  | none => failure

/-- Declare a name of the innermost block. -/
def declareLexical (name : Text) : ScriptReader Unit := do
  let progress ← get
  match progress.blocks with
  | [] => return ()
  | block :: rest =>
      if block.lexicals.elem name || block.vars.elem name then failure
      set { progress with
        blocks := { block with lexicals := name :: block.lexicals } :: rest }

/-- Declare names of one kind. -/
def declareAll (kind : VarKind) (names : List Text) : ScriptReader Unit :=
  names.forM fun name =>
    match kind with
    | .function => declareVar name
    | _ => declareLexical name

/-- Read a binding, and the names that it binds. -/
def collectNames {α : Type} (read : ScriptReader α) : ScriptReader (α × List Text) := do
  let outer := (← get).bound
  modify fun progress => { progress with bound := [] }
  let result ← read
  let names := (← get).bound.reverse
  modify fun progress => { progress with bound := outer }
  return (result, names)

/-- Items up to a closing mark, separated by commas. -/
def listUntil {α : Type} (close : Punct) (item : ScriptReader α) :
    Nat → ScriptReader (List α)
  | 0 => failure
  | fuel + 1 => do
      if ← acceptMark close then return []
      let first ← item
      if ← acceptMark .comma then return first :: (← listUntil close item fuel)
      expectMark close
      return [first]

/-- Repeat a reader up to a closing mark. -/
def manyUntil {α : Type} (close : Punct) (item : ScriptReader α) :
    Nat → ScriptReader (List α)
  | 0 => failure
  | fuel + 1 => do
      if ← acceptMark close then return []
      let first ← item
      return first :: (← manyUntil close item fuel)

end ScriptReader

open ScriptReader

/-- How the constructs inside a construct are read. -/
structure Grammar where
  /-- An expression without commas. -/
  assignment : Context → ScriptReader Expr
  /-- A statement; the flag tells whether it may declare names of its block. -/
  statement : Bool → Context → ScriptReader Stmt
  /-- A binding. -/
  binding : ScriptReader Target

/-- A target made of an expression, up to a depth of nesting. -/
def Target.ofExpr? : Nat → Expr → Option Target
  | 0, _ => none
  | depth + 1, expr =>
      -- A part with its default.
      let part (value : Expr) : Option (Target × Option Expr) :=
        match value with
        | .assign target default => some (target, some default)
        | value => (Target.ofExpr? depth value).map fun target => (target, none)
      match expr with
      | .name _ => some (.place expr)
      | .member _ _ false => some (.place expr)
      | .array items =>
          Target.array <$> items.mapM fun item =>
            match item with
            | .hole => some .hole
            | .spread value => TargetItem.rest <$> Target.ofExpr? depth value
            | .value value => (part value).map fun found => .item found.1 found.2
      | .object members =>
          Target.object <$> members.mapM fun member =>
            match member with
            | .property key value =>
                (part value).map fun found => .property key found.1 found.2
            | .withDefault name value =>
                some (.property (.string (Units.ofText name)) (.place (.name name)) (some value))
            | .spread value => TargetMember.rest <$> Target.ofExpr? depth value
            | .parent _ => none
      | _ => none

/-- The target that an expression turned out to be. -/
def toTarget (expr : Expr) : ScriptReader Target := do
  match Target.ofExpr? 1000 expr with
  | some target => return target
  | none => failure

/-- A value under the name that it is given to. -/
def Expr.named (name : Text) : Expr → Expr
  | .function func => .function (func.named name)
  | expr => expr

namespace Grammar

variable (self : Grammar)

/-- The further parts of an expression with commas. -/
def commaTail (ctx : Context) : Nat → Expr → ScriptReader Expr
  | 0, _ => failure
  | fuel + 1, first => do
      if ← acceptMark .comma then
        let next ← self.assignment ctx
        commaTail ctx fuel (.sequence first next)
      else return first

/-- An expression. -/
def expression (ctx : Context) : ScriptReader Expr := do
  let first ← self.assignment ctx
  self.commaTail ctx (← fuel) first

/-- An expression in parentheses. -/
def parenthesized (ctx : Context) : ScriptReader Expr := do
  expectMark .openParen
  let value ← self.expression { ctx with noIn := false }
  expectMark .closeParen
  return value

/-- An argument or an item of an array. -/
def item (ctx : Context) : ScriptReader Item := do
  if ← acceptMark .spread then return .spread (← self.assignment { ctx with noIn := false })
  else return .value (← self.assignment { ctx with noIn := false })

/-- Arguments after their opening parenthesis. -/
def arguments (ctx : Context) : ScriptReader (List Item) := do
  listUntil .closeParen (self.item ctx) (← fuel)

/-- The items of an array after its opening bracket. -/
def arrayItems (ctx : Context) : Nat → ScriptReader (List Item)
  | 0 => failure
  | fuel + 1 => do
      if ← acceptMark .closeBracket then return []
      if ← acceptMark .comma then return .hole :: (← arrayItems ctx fuel)
      let first ← self.item ctx
      if ← acceptMark .comma then return first :: (← arrayItems ctx fuel)
      expectMark .closeBracket
      return [first]

/-- The key of a property: a name, a string, a number or an expression in brackets. -/
def propertyKey (ctx : Context) : ScriptReader Expr := do
  match (← get).current.token with
  | .word name =>
      let _ ← advance
      return .string (Units.ofText name)
  | .string value =>
      let _ ← advance
      return .string value
  | .number value =>
      let _ ← advance
      return .number value
  | .mark .openBracket =>
      let _ ← advance
      let key ← self.assignment { ctx with noIn := false }
      expectMark .closeBracket
      return key
  | _ => failure

/-- A part of a binding with its default. -/
def bindingDefault : ScriptReader (Option Expr) := do
  if ← acceptMark .assign then return some (← self.assignment {}) else return none

/-- A parameter, or an item of a binding that takes an array apart. -/
def bindingItem : ScriptReader TargetItem := do
  if ← acceptMark .spread then return .rest (← self.binding)
  let target ← self.binding
  let value ← self.bindingDefault
  match target, value with
  | .place (.name name), some value => return .item target (some (value.named name))
  | _, _ => return .item target value

/-- The items of a binding after its opening bracket. -/
def bindingItems : Nat → ScriptReader (List TargetItem)
  | 0 => failure
  | fuel + 1 => do
      if ← acceptMark .closeBracket then return []
      if ← acceptMark .comma then return .hole :: (← bindingItems fuel)
      let first ← self.bindingItem
      if ← acceptMark .comma then return first :: (← bindingItems fuel)
      expectMark .closeBracket
      return [first]

/-- Note a name that is being bound. -/
def noteName (name : Text) : ScriptReader Unit :=
  modify fun progress => { progress with bound := name :: progress.bound }

/-- A member of a binding that takes an object apart. -/
def bindingMember : ScriptReader TargetMember := do
  if ← acceptMark .spread then return .rest (← self.binding)
  let current := (← get).current.token
  let key ← self.propertyKey {}
  if ← acceptMark .colon then
    let target ← self.binding
    return .property key target (← self.bindingDefault)
  match current with
  | .word name =>
      if !(← isName name) then failure
      noteName name
      return .property key (.place (.name name)) (← self.bindingDefault)
  | _ => failure

/-- A binding. -/
def bindingOf : ScriptReader Target := do
  if ← acceptMark .openBracket then return .array (← self.bindingItems (← fuel))
  if ← acceptMark .openBrace then
    return .object (← listUntil .closeBrace self.bindingMember (← fuel))
  let name ← takeName
  noteName name
  return .place (.name name)

/-- Begin a function: what belongs to the function around is given back. -/
def enterFunction : ScriptReader Progress := do
  let outer ← get
  set { outer with
    blocks := [⟨[], [], true⟩], vars := [], bound := [], usesArguments := false }
  return outer

/-- End a function. -/
def leaveFunction (outer : Progress) (isArrow : Bool) : ScriptReader Unit :=
  modify fun inner =>
    { inner with
      blocks := outer.blocks
      vars := outer.vars
      bound := outer.bound
      strict := outer.strict
      usesArguments := outer.usesArguments || (isArrow && inner.usesArguments) }

/-- Note a request for strict checks at the beginning of a body. -/
def readDirective : ScriptReader Unit := do
  match (← get).current.token with
  | .string value =>
      if value == Units.ofName "use strict" then
        match (← peekSecond) with
        | ⟨afterBreak, token, _, _⟩ =>
            let ends := match token with
              | .mark .semicolon => true
              | .mark .closeBrace => true
              | .stop => true
              | _ => afterBreak
            if ends then modify fun progress => { progress with strict := true }
  | _ => return ()

/-- The body of a function in braces. -/
def functionBody : ScriptReader (List Stmt) := do
  expectMark .openBrace
  readDirective
  manyUntil .closeBrace (self.statement true { inFunction := true }) (← fuel)

/-- Parameters after their opening parenthesis; their names are declared. -/
def parameters : ScriptReader (List TargetItem × List Text) := do
  let (params, names) ← collectNames (do listUntil .closeParen self.bindingItem (← fuel))
  modify fun progress =>
    { progress with blocks := progress.blocks.map fun block => { block with vars := names } }
  return (params, names)

/-- The function whose parts were read; `names` are those of its parameters. -/
def makeFunction (name : Text) (params : List TargetItem) (names : List Text)
    (body : List Stmt) (isArrow isMethod bindsName : Bool) : ScriptReader Func := do
  let progress ← get
  return .mk name params body
    { isArrow, isMethod, bindsName
      strict := progress.strict
      usesArguments := !isArrow && progress.usesArguments
      paramNames := names
      vars := progress.vars.reverse }

/-- A function from its parameters on. -/
def functionRest (name : Text) (isMethod bindsName : Bool) : ScriptReader Func := do
  let outer ← enterFunction
  expectMark .openParen
  let (params, names) ← self.parameters
  let body ← self.functionBody
  let func ← makeFunction name params names body false isMethod bindsName
  leaveFunction outer false
  return func

/-- The parameters of an arrow function and its arrow. -/
def arrowHead : ScriptReader (Progress × List TargetItem × List Text) := do
  let outer ← enterFunction
  let (params, names) ←
    if ← acceptMark .openParen then self.parameters
    else
      let name ← takeName
      modify fun progress =>
        { progress with blocks := progress.blocks.map fun block => { block with vars := [name] } }
      pure ([.item (.place (.name name)) none], [name])
  if (← get).current.afterBreak then failure
  expectMark .arrow
  return (outer, params, names)

/-- The rest of an arrow function. -/
def arrowRest (ctx : Context) (outer : Progress) (params : List TargetItem)
    (names : List Text) : ScriptReader Expr := do
  let body ←
    if ← peekMark .openBrace then self.functionBody
    else
      let value ← self.assignment { inFunction := true, noIn := ctx.noIn }
      pure [.returning (some value)]
  let func ← makeFunction [] params names body true false false
  leaveFunction outer true
  return .function func

/-- A member of an object. -/
def objectMember (ctx : Context) : ScriptReader Member := do
  if ← acceptMark .spread then return .spread (← self.assignment { ctx with noIn := false })
  let current := (← get).current.token
  let key ← self.propertyKey ctx
  let name : Text :=
    match current, key with
    | .mark .openBracket, _ => []
    | _, .string units => units.toText
    | _, _ => []
  if ← peekMark .openParen then
    return .property key (.function (← self.functionRest name true false))
  if ← acceptMark .colon then
    let value ← self.assignment { ctx with noIn := false }
    match current with
    | .mark _ => return .property key value
    | _ =>
        if name == ("__proto__" : Text) then return .parent value
        else return .property key (value.named name)
  match current with
  | .word name =>
      if !(← isName name) then failure
      if name == ("arguments" : Text) then
        modify fun progress => { progress with usesArguments := true }
      if ← acceptMark .assign then
        let value ← self.assignment { ctx with noIn := false }
        modify fun progress => { progress with pending := progress.pending + 1 }
        return .withDefault name value
      return .property key (.name name)
  | _ => failure

/-- The further pieces of a template, each after an expression. -/
def templateTail (ctx : Context) : Nat → List Units → List Expr → ScriptReader Expr
  | 0, _, _ => failure
  | fuel + 1, strings, values => do
      let value ← self.expression { ctx with noIn := false }
      if !(← peekMark .closeBrace) then failure
      let progress ← get
      match Token.readTemplate (progress.current.rest.length + 1) [] progress.current.rest with
      | some (.template piece last, rest) =>
          match Lexeme.next? rest with
          | none => failure
          | some next =>
              set { progress with current := next }
              let strings := piece :: strings
              let values := value :: values
              if last then return .template strings.reverse values.reverse
              else templateTail ctx fuel strings values
      | _ => failure

/-- A regular expression, from its opening slash on. -/
def regexLiteral : ScriptReader Expr := do
  let progress ← get
  match Token.readPattern false [] (progress.current.start.drop 1) with
  | none => failure
  | some (source, rest) =>
      let (flagText, rest) := rest.span Token.isNamePart
      match RegexFlags.read? {} flagText with
      | none => failure
      | some flags =>
          if (Regex.read? flags source).isNone then failure
          match Lexeme.next? rest with
          | none => failure
          | some next =>
              set { progress with current := next }
              return .regex (Units.ofText source) (Units.ofText flagText)

/-- The suffixes of an expression: members and, where allowed, calls. -/
def suffixes (ctx : Context) (calls : Bool) : Nat → Expr → Bool → ScriptReader Expr
  | 0, _, _ => failure
  | fuel + 1, value, optional => do
      let memberName : ScriptReader Expr := do
        match (← get).current.token with
        | .word name =>
            let _ ← advance
            return .string (Units.ofText name)
        | _ => failure
      if ← acceptMark .dot then
        let key ← memberName
        suffixes ctx calls fuel (.member value key false) optional
      else if ← acceptMark .openBracket then
        let key ← self.expression { ctx with noIn := false }
        expectMark .closeBracket
        suffixes ctx calls fuel (.member value key false) optional
      else if ← (if calls then acceptMark .openParen else pure false) then
        let args ← self.arguments ctx
        suffixes ctx calls fuel (.call value args false) optional
      else if ← (if calls then acceptMark .optionalDot else pure false) then
        if ← acceptMark .openParen then
          let args ← self.arguments ctx
          suffixes ctx calls fuel (.call value args true) true
        else if ← acceptMark .openBracket then
          let key ← self.expression { ctx with noIn := false }
          expectMark .closeBracket
          suffixes ctx calls fuel (.member value key true) true
        else
          let key ← memberName
          suffixes ctx calls fuel (.member value key true) true
      else
        match (← get).current.token with
        | .template _ _ => failure
        | _ => return if optional then .chain value else value

/-- An expression without operators around it. -/
def primary (ctx : Context) : ScriptReader Expr := do
  match (← get).current.token with
  | .number value =>
      let _ ← advance
      return .number value
  | .string value =>
      let _ ← advance
      return .string value
  | .template piece last =>
      if last then
        let _ ← advance
        return .string piece
      let _ ← advance
      self.templateTail ctx (← fuel) [piece] []
  | .mark .openParen => self.parenthesized ctx
  | .mark .openBracket =>
      let _ ← advance
      return .array (← self.arrayItems ctx (← fuel))
  | .mark .openBrace =>
      let _ ← advance
      return .object (← listUntil .closeBrace (self.objectMember ctx) (← fuel))
  | .mark .slash => regexLiteral
  | .mark .slashAssign => regexLiteral
  | .word word =>
      if word == ("function" : Text) then
        let _ ← advance
        if ← peekMark .openParen then return .function (← self.functionRest [] false false)
        let name ← takeName
        return .function (← self.functionRest name false true)
      let constant : Option Expr :=
        if word == ("this" : Text) then some .this
        else if word == ("null" : Text) then some .null
        else if word == ("true" : Text) then some (.bool true)
        else if word == ("false" : Text) then some (.bool false)
        else none
      match constant with
      | some value =>
          let _ ← advance
          return value
      | none =>
          let name ← takeName
          if name == ("arguments" : Text) then
            modify fun progress => { progress with usesArguments := true }
          return .name name
  | _ => failure

/-- The construction of an object after its first word; constructions may nest. -/
def construction (ctx : Context) : Nat → ScriptReader Expr
  | 0 => failure
  | fuel + 1 => do
      let callee ← if ← acceptWord "new" then construction ctx fuel else self.primary ctx
      let callee ← self.suffixes ctx false fuel callee false
      if ← acceptMark .openParen then return .construct callee (← self.arguments ctx)
      else return .construct callee []

/-- An expression with its suffixes. -/
def leftHand (ctx : Context) : ScriptReader Expr := do
  let first ← if ← acceptWord "new" then self.construction ctx (← fuel) else self.primary ctx
  self.suffixes ctx true (← fuel) first false

/-- An expression is something that can be assigned to. -/
def isPlace : Expr → Bool
  | .name _ => true
  | .member _ _ false => true
  | _ => false

/-- The operator before an operand. -/
def unaryOp? : Token → Option UnaryOp
  | .mark .minus => some .negate
  | .mark .plus => some .plus
  | .mark .not => some .not
  | .mark .bitNot => some .bitNot
  | .word word =>
      if word == ("typeof" : Text) then some .typeOf
      else if word == ("void" : Text) then some .void
      else if word == ("delete" : Text) then some .delete
      else none
  | _ => none

/-- An operand with operators before and after it; the flag tells whether one stands
before it. -/
def unary (ctx : Context) : Nat → ScriptReader (Expr × Bool)
  | 0 => failure
  | fuel + 1 => do
      match unaryOp? (← get).current.token with
      | some op =>
          let _ ← advance
          let (operand, _) ← unary ctx fuel
          if op == .delete && (← get).strict then
            if let .name _ := operand then failure
          return (.unary op operand, true)
      | none =>
          let increments ← peekMark .increment
          if increments || (← peekMark .decrement) then
            let _ ← advance
            let (operand, _) ← unary ctx fuel
            if isPlace operand then return (.update increments true operand, false) else failure
          else
            let operand ← self.leftHand ctx
            if (← get).current.afterBreak then return (operand, false)
            let increments ← peekMark .increment
            if increments || (← peekMark .decrement) then
              let _ ← advance
              if isPlace operand then return (.update increments false operand, false)
              else failure
            else return (operand, false)

/-- A power; powers nest to the right. -/
def power (ctx : Context) : Nat → ScriptReader Expr
  | 0 => failure
  | fuel + 1 => do
      let (base, hasOp) ← self.unary ctx fuel
      if ← acceptMark .power then
        if hasOp then failure
        return .binary .power base (← power ctx fuel)
      else return base

/-- What joins two operands. -/
inductive Join where
  | plain (op : BinaryOp)
  | logical (op : LogicalOp)

/-- The operators of a level, the tightest level being zero. -/
def join? (noIn : Bool) (level : Nat) : Token → Option Join
  | .mark punct =>
      let found : Option (Nat × Join) :=
        match punct with
        | .star => some (0, .plain .multiply)
        | .slash => some (0, .plain .divide)
        | .percent => some (0, .plain .remainder)
        | .plus => some (1, .plain .add)
        | .minus => some (1, .plain .subtract)
        | .shiftLeft => some (2, .plain .shiftLeft)
        | .shiftRight => some (2, .plain .shiftRight)
        | .shiftRightZero => some (2, .plain .shiftRightZero)
        | .less => some (3, .plain .less)
        | .greater => some (3, .plain .greater)
        | .lessEqual => some (3, .plain .lessEqual)
        | .greaterEqual => some (3, .plain .greaterEqual)
        | .equal => some (4, .plain .equal)
        | .notEqual => some (4, .plain .notEqual)
        | .same => some (4, .plain .same)
        | .notSame => some (4, .plain .notSame)
        | .bitAnd => some (5, .plain .bitAnd)
        | .bitXor => some (6, .plain .bitXor)
        | .bitOr => some (7, .plain .bitOr)
        | .and => some (8, .logical .and)
        | .or => some (9, .logical .or)
        | .nullish => some (9, .logical .nullish)
        | _ => none
      match found with
      | some (own, join) => if own == level then some join else none
      | none => none
  | .word word =>
      if level != 3 then none
      else if word == ("instanceof" : Text) then some (.plain .instanceOf)
      else if word == ("in" : Text) && !noIn then some (.plain .inside)
      else none
  | _ => none

/-- Further operands of a level. -/
def joinTail (ctx : Context) (operand : ScriptReader Expr) (level : Nat) :
    Nat → Expr → ScriptReader Expr
  | 0, _ => failure
  | fuel + 1, left => do
      match join? ctx.noIn level (← get).current.token with
      | none => return left
      | some join =>
          let _ ← advance
          let right ← operand
          let value : Expr :=
            match join with
            | .plain op => .binary op left right
            | .logical op => .logical op left right
          joinTail ctx operand level fuel value

/-- Operands joined by operators of the `levels` tightest levels. -/
def joined (ctx : Context) (operand : ScriptReader Expr) : Nat → ScriptReader Expr
  | 0 => operand
  | level + 1 => do
      let first ← joined ctx operand level
      joinTail ctx (joined ctx operand level) level (← fuel) first

/-- A condition with its two values, or one of the tighter constructs. -/
def conditional (ctx : Context) : ScriptReader Expr := do
  let test ← joined ctx (do self.power ctx (← fuel)) 10
  if ← acceptMark .question then
    let yes ← self.assignment { ctx with noIn := false }
    expectMark .colon
    let no ← self.assignment ctx
    return .conditional test yes no
  else return test

/-- What assigns to its left side after an operation. -/
def assignJoin? : Token → Option Join
  | .mark punct =>
      match punct with
      | .plusAssign => some (.plain .add)
      | .minusAssign => some (.plain .subtract)
      | .starAssign => some (.plain .multiply)
      | .slashAssign => some (.plain .divide)
      | .percentAssign => some (.plain .remainder)
      | .powerAssign => some (.plain .power)
      | .shiftLeftAssign => some (.plain .shiftLeft)
      | .shiftRightAssign => some (.plain .shiftRight)
      | .shiftRightZeroAssign => some (.plain .shiftRightZero)
      | .bitAndAssign => some (.plain .bitAnd)
      | .bitOrAssign => some (.plain .bitOr)
      | .bitXorAssign => some (.plain .bitXor)
      | .andAssign => some (.logical .and)
      | .orAssign => some (.logical .or)
      | .nullishAssign => some (.logical .nullish)
      | _ => none
  | _ => none

/-- An expression without commas. -/
def assignmentOf (ctx : Context) : ScriptReader Expr := do
  let current := (← get).current.token
  let mayBeArrow ←
    match current with
    | .mark .openParen => pure true
    | .word _ => secondIsMark .arrow
    | _ => pure false
  if mayBeArrow then
    if let some (outer, params, names) ← optional self.arrowHead then
      return ← self.arrowRest ctx outer params names
  let pending := (← get).pending
  let left ← self.conditional ctx
  if ← acceptMark .assign then
    let target ← toTarget left
    match target with
    | .place (.name name) =>
        let value ← self.assignment ctx
        return .assign target (value.named name)
    | .place _ => return .assign target (← self.assignment ctx)
    | _ =>
        modify fun progress => { progress with pending }
        return .assign target (← self.assignment ctx)
  match assignJoin? (← get).current.token with
  | some join =>
      if !isPlace left then failure
      let _ ← advance
      let value ← self.assignment ctx
      match join with
      | .plain op => return .assignOp op left value
      | .logical op => return .assignLogical op left value
  | none => return left

/-- One variable of a declaration; its names are declared. -/
def declaration (ctx : Context) (kind : VarKind) : ScriptReader (Declaration × List Text) := do
  let (target, names) ← collectNames self.binding
  declareAll kind names
  if ← acceptMark .assign then
    let value ← self.assignment ctx
    match target with
    | .place (.name name) => return (.mk target (some (value.named name)), names)
    | _ => return (.mk target (some value), names)
  else
    match target with
    | .place _ => if kind == .constant then failure else return (.mk target none, names)
    | _ => failure

/-- Further variables of a declaration. -/
def declarationTail (ctx : Context) (kind : VarKind) :
    Nat → List (Declaration × List Text) → ScriptReader Stmt
  | 0, _ => failure
  | fuel + 1, read => do
      if ← acceptMark .comma then
        let next ← self.declaration ctx kind
        declarationTail ctx kind fuel (read ++ [next])
      else return .declare kind (read.flatMap (·.2)) (read.map (·.1))

/-- The variables of a declaration after its word. -/
def declarations (ctx : Context) (kind : VarKind) : ScriptReader Stmt := do
  let first ← self.declaration ctx kind
  self.declarationTail ctx kind (← fuel) [first]

/-- The kind of declaration that comes next. -/
def declarationKind? : ScriptReader (Option VarKind) := do
  if ← peekWord "var" then return some .function
  if ← peekWord "const" then return some .constant
  if ← peekWord "let" then
    match (← peekSecond).token with
    | .word name =>
        let names := name == ("in" : Text) || name == ("of" : Text)
        return if names then none else some .block
    | .mark .openBracket => return some .block
    | .mark .openBrace => return some .block
    | _ => return none
  return none

/-- The statements of a block in braces. -/
def blockBody (ctx : Context) : ScriptReader (List Stmt) := do
  expectMark .openBrace
  inBlock (do manyUntil .closeBrace (self.statement true ctx) (← fuel))

/-- The context of the body of a loop. -/
def loopBody (ctx : Context) : Context :=
  { ctx with breakable := true, continuable := true, noIn := false }

/-- What a loop runs over, after what is bound in each turn. -/
def forEachRest (ctx : Context) (kind : Option VarKind) (names : List Text)
    (target : Target) : ScriptReader Stmt := do
  let ofItems ← peekWord "of"
  let _ ← advance
  let value ← if ofItems then self.assignment ctx else self.expression ctx
  expectMark .closeParen
  let body ← self.statement false (loopBody ctx)
  return .forEach ofItems kind names target value body

/-- The test, the update and the body of a loop that counts. -/
def forRest (ctx : Context) (start : Option Stmt) : ScriptReader Stmt := do
  expectMark .semicolon
  let test ← if ← peekMark .semicolon then pure none else some <$> self.expression ctx
  expectMark .semicolon
  let update ← if ← peekMark .closeParen then pure none else some <$> self.expression ctx
  expectMark .closeParen
  let body ← self.statement false (loopBody ctx)
  return .forLoop start test update body

/-- A loop that counts or runs over something, after its word. -/
def forStatement (ctx : Context) : ScriptReader Stmt := do
  expectMark .openParen
  let inner := { ctx with noIn := true }
  match ← declarationKind? with
  | some kind =>
      let _ ← advance
      let before ← get
      let (target, names) ← collectNames self.binding
      if (← peekWord "of") || (← peekWord "in") then
        declareAll kind names
        self.forEachRest ctx (some kind) names target
      else
        set before
        let start ← self.declarations inner kind
        self.forRest ctx (some start)
  | none =>
      if ← peekMark .semicolon then self.forRest ctx none
      else
        let pending := (← get).pending
        let start ← self.expression inner
        if (← peekWord "of") || (← peekWord "in") then
          let target ← toTarget start
          modify fun progress => { progress with pending }
          self.forEachRest ctx none [] target
        else self.forRest ctx (some (.expression start))

/-- The statements of a case. -/
def caseStatements (ctx : Context) : Nat → ScriptReader (List Stmt)
  | 0 => failure
  | fuel + 1 => do
      if (← peekWord "case") || (← peekWord "default") || (← peekMark .closeBrace) then
        return []
      let first ← self.statement true ctx
      return first :: (← caseStatements ctx fuel)

/-- A case of a choice. -/
def switchCase (ctx : Context) : ScriptReader SwitchCase := do
  let test ←
    if ← acceptWord "default" then pure none
    else
      expectWord "case"
      some <$> self.expression ctx
  expectMark .colon
  return .mk test (← self.caseStatements ctx (← fuel))

/-- An attempt after its word. -/
def attempt (ctx : Context) : ScriptReader Stmt := do
  let body ← self.blockBody ctx
  let (names, binding, handler) ←
    if ← acceptWord "catch" then
      openBlock
      let (binding, names) ←
        if ← acceptMark .openParen then
          let (target, names) ← collectNames self.binding
          expectMark .closeParen
          pure (some target, names)
        else pure (none, [])
      let handler ← self.blockBody ctx
      closeBlock
      pure (names, binding, some handler)
    else pure ([], none, none)
  let finalizer ← if ← acceptWord "finally" then some <$> self.blockBody ctx else pure none
  if handler.isNone && finalizer.isNone then failure
  return .attempt body names binding handler finalizer

/-- A jump out of a statement, after its word. -/
def jumpLabel : ScriptReader (Option Text) := do
  let current := (← get).current
  match current.token with
  | .word name =>
      if current.afterBreak || !(← isName name) then return none
      let _ ← advance
      return some name
  | _ => return none

/-- A statement that begins with the given word, if the word begins one. -/
def wordStatement (ctx : Context) (word : Text) : ScriptReader (Option Stmt) := do
  let is (name : String) : Bool := word == name.toList
  if is "if" then
    let _ ← advance
    let test ← self.parenthesized ctx
    let yes ← self.statement false ctx
    let no ← if ← acceptWord "else" then some <$> self.statement false ctx else pure none
    return some (.conditional test yes no)
  if is "for" then
    let _ ← advance
    return some (← inBlock (self.forStatement ctx))
  if is "while" then
    let _ ← advance
    let test ← self.parenthesized ctx
    return some (.whileLoop test (← self.statement false (loopBody ctx)))
  if is "do" then
    let _ ← advance
    let body ← self.statement false (loopBody ctx)
    expectWord "while"
    let test ← self.parenthesized ctx
    let _ ← acceptMark .semicolon
    return some (.doWhile body test)
  if is "return" then
    if !ctx.inFunction then failure
    let _ ← advance
    let current := (← get).current
    let bare := match current.token with
      | .mark .semicolon => true
      | .mark .closeBrace => true
      | .stop => true
      | _ => current.afterBreak
    let value ← if bare then pure none else some <$> self.expression ctx
    endStatement
    return some (.returning value)
  if is "break" then
    let _ ← advance
    let label ← jumpLabel
    let allowed := match label with
      | some label => ctx.labels.elem label
      | none => ctx.breakable
    if !allowed then failure
    endStatement
    return some (.breaking label)
  if is "continue" then
    let _ ← advance
    let label ← jumpLabel
    if !ctx.continuable || label.any fun label => !ctx.labels.elem label then failure
    endStatement
    return some (.continuing label)
  if is "throw" then
    let _ ← advance
    if (← get).current.afterBreak then failure
    let value ← self.expression ctx
    endStatement
    return some (.throwing value)
  if is "try" then
    let _ ← advance
    return some (← self.attempt ctx)
  if is "switch" then
    let _ ← advance
    let value ← self.parenthesized ctx
    expectMark .openBrace
    let cases ← inBlock
      (do manyUntil .closeBrace (self.switchCase { ctx with breakable := true }) (← fuel))
    let defaults := cases.filter fun item => match item with | .mk test _ => test.isNone
    if 1 < defaults.length then failure
    return some (.choose value cases)
  if is "debugger" then
    let _ ← advance
    endStatement
    return some .empty
  return none

/-- A statement; `declares` tells whether it may declare names of its block. -/
def statementOf (declares : Bool) (ctx : Context) : ScriptReader Stmt := do
  match (← get).current.token with
  | .mark .openBrace => return .block (← self.blockBody ctx)
  | .mark .semicolon =>
      let _ ← advance
      return .empty
  | .word word =>
      match ← declarationKind? with
      | some kind =>
          if kind != .function && !declares then failure
          let _ ← advance
          let found ← self.declarations ctx kind
          endStatement
          return found
      | none =>
          if word == ("function" : Text) then
            let _ ← advance
            let name ← takeName
            declareVar name
            return .function name (← self.functionRest name false false)
          match ← self.wordStatement ctx word with
          | some found => return found
          | none =>
              if (← isName word) && (← secondIsMark .colon) then
                let label ← takeName
                expectMark .colon
                if ctx.labels.elem label then failure
                let body ← self.statement false
                  { ctx with labels := label :: ctx.labels }
                return .labelled label body
              let value ← self.expression ctx
              endStatement
              return .expression value
  | _ =>
      let value ← self.expression ctx
      endStatement
      return .expression value

end Grammar

/-- How constructs are read up to a depth of nesting. -/
def grammar : Nat → Grammar
  | 0 => ⟨fun _ => failure, fun _ _ => failure, failure⟩
  | depth + 1 =>
      { assignment := fun ctx => (grammar depth).assignmentOf ctx
        statement := fun declares ctx => (grammar depth).statementOf declares ctx
        binding := (grammar depth).bindingOf }

/-- The statements of a script up to its end. -/
def readStatements : Nat → ScriptReader (List Stmt)
  | 0 => failure
  | count + 1 => do
      match (← get).current.token with
      | .stop => return []
      | _ =>
          let first ← (grammar 2000).statement true {}
          return first :: (← readStatements count)

/-- Read a whole script; nothing when the text is none. -/
def read? (text : Text) : Option Program := do
  let current ← Lexeme.next? text
  let start : Progress :=
    { current, blocks := [⟨[], [], true⟩], vars := [], bound := [], usesArguments := false
      strict := false, pending := 0 }
  let (body, progress) ← (do
    Grammar.readDirective
    readStatements (text.length + 2)).run start
  if progress.pending != 0 then none
  else some { body, vars := progress.vars.reverse, strict := progress.strict }

end Script

end RuleProbe
