import RuleProbe.Script.Units

/-!
# Syntax of scripts

Expressions, statements and functions.  What can stand on the left of an assignment is
a target; a target may take an array or an object apart.
-/

namespace RuleProbe

namespace Script

/-- Operators before one operand. -/
inductive UnaryOp where
  | negate | plus | not | bitNot | typeOf | void | delete
  deriving DecidableEq, Inhabited

/-- Operators between two operands. -/
inductive BinaryOp where
  | add | subtract | multiply | divide | remainder | power
  | shiftLeft | shiftRight | shiftRightZero
  | less | greater | lessEqual | greaterEqual
  | equal | notEqual | same | notSame
  | bitAnd | bitOr | bitXor | instanceOf | inside
  deriving DecidableEq, Inhabited

/-- Operators that may leave their second operand alone. -/
inductive LogicalOp where
  | and | or | nullish
  deriving DecidableEq, Inhabited

/-- The kinds of declarations of variables. -/
inductive VarKind where
  | function | block | constant
  deriving DecidableEq, Inhabited

/-- What is known of a function besides its parts. -/
structure FuncInfo where
  /-- It has no receiver of its own. -/
  isArrow : Bool
  /-- It is checked strictly. -/
  strict : Bool
  /-- It mentions its arguments as a whole. -/
  usesArguments : Bool
  /-- It cannot construct objects. -/
  isMethod : Bool
  /-- Its own name is bound inside it. -/
  bindsName : Bool
  /-- The names of its parameters. -/
  paramNames : List Text
  /-- The variables declared anywhere in it. -/
  vars : List Text
  deriving Inhabited

mutual

/-- An expression. -/
inductive Expr where
  | undefined
  | null
  | bool (value : Bool)
  | number (value : Float)
  | string (value : Units)
  | name (name : Text)
  | this
  | template (strings : List Units) (values : List Expr)
  | regex (source flags : Units)
  | array (items : List Item)
  | object (members : List Member)
  | function (func : Func)
  | unary (op : UnaryOp) (operand : Expr)
  | update (increment isPrefix : Bool) (operand : Expr)
  | binary (op : BinaryOp) (left right : Expr)
  | logical (op : LogicalOp) (left right : Expr)
  | assign (target : Target) (value : Expr)
  | assignOp (op : BinaryOp) (target value : Expr)
  | assignLogical (op : LogicalOp) (target value : Expr)
  | conditional (test yes no : Expr)
  | call (callee : Expr) (args : List Item) (optional : Bool)
  | construct (callee : Expr) (args : List Item)
  | member (object key : Expr) (optional : Bool)
  | chain (body : Expr)
  | sequence (first second : Expr)

/-- An item of an array or of arguments. -/
inductive Item where
  | value (value : Expr)
  | spread (value : Expr)
  | hole

/-- A member of an object. -/
inductive Member where
  | property (key value : Expr)
  /-- A name whose value is the object to inherit from. -/
  | parent (value : Expr)
  | spread (value : Expr)
  /-- A name with a default, which only a target may have. -/
  | withDefault (name : Text) (value : Expr)

/-- What is assigned to. -/
inductive Target where
  | place (place : Expr)
  | array (items : List TargetItem)
  | object (members : List TargetMember)

/-- An item of an array that is taken apart. -/
inductive TargetItem where
  | item (target : Target) (default : Option Expr)
  | rest (target : Target)
  | hole

/-- A member of an object that is taken apart. -/
inductive TargetMember where
  | property (key : Expr) (target : Target) (default : Option Expr)
  | rest (target : Target)

/-- A function. -/
inductive Func where
  | mk (name : Text) (params : List TargetItem) (body : List Stmt) (info : FuncInfo)

/-- A statement. -/
inductive Stmt where
  | expression (value : Expr)
  | declare (kind : VarKind) (names : List Text) (declarations : List Declaration)
  | function (name : Text) (func : Func)
  | returning (value : Option Expr)
  | conditional (test : Expr) (yes : Stmt) (no : Option Stmt)
  | whileLoop (test : Expr) (body : Stmt)
  | doWhile (body : Stmt) (test : Expr)
  | forLoop (start : Option Stmt) (test update : Option Expr) (body : Stmt)
  | forEach (ofItems : Bool) (kind : Option VarKind) (names : List Text) (target : Target)
      (value : Expr) (body : Stmt)
  | block (body : List Stmt)
  | breaking (label : Option Text)
  | continuing (label : Option Text)
  | throwing (value : Expr)
  | attempt (body : List Stmt) (names : List Text) (binding : Option Target)
      (handler : Option (List Stmt)) (finalizer : Option (List Stmt))
  | choose (value : Expr) (cases : List SwitchCase)
  | labelled (label : Text) (body : Stmt)
  | empty

/-- A variable that is declared. -/
inductive Declaration where
  | mk (target : Target) (value : Option Expr)

/-- A case of a choice; the default has no test. -/
inductive SwitchCase where
  | mk (test : Option Expr) (body : List Stmt)

end

instance : Inhabited Expr := ⟨.undefined⟩
instance : Inhabited Item := ⟨.hole⟩
instance : Inhabited Member := ⟨.spread .undefined⟩
instance : Inhabited Target := ⟨.place .undefined⟩
instance : Inhabited TargetItem := ⟨.hole⟩
instance : Inhabited Stmt := ⟨.empty⟩
instance : Inhabited Func := ⟨.mk [] [] [] default⟩
instance : Inhabited Declaration := ⟨.mk default none⟩
instance : Inhabited SwitchCase := ⟨.mk none []⟩

namespace Func

/-- The name of a function. -/
def name : Func → Text
  | .mk name _ _ _ => name

/-- The parameters of a function. -/
def params : Func → List TargetItem
  | .mk _ params _ _ => params

/-- The statements of a function. -/
def body : Func → List Stmt
  | .mk _ _ body _ => body

/-- What is known of a function besides its parts. -/
def info : Func → FuncInfo
  | .mk _ _ _ info => info

/-- A function under a name of its own, if it has none. -/
def named (name : Text) : Func → Func
  | .mk own params body info => .mk (if own.isEmpty then name else own) params body info

end Func

/-- A whole script. -/
structure Program where
  /-- The statements. -/
  body : List Stmt
  /-- The variables declared anywhere in it. -/
  vars : List Text
  /-- It is checked strictly. -/
  strict : Bool
  deriving Inhabited

end Script

end RuleProbe
