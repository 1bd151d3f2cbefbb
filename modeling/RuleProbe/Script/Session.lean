import RuleProbe.Script.Library
import RuleProbe.Script.Reader

/-!
# Sessions

Scripts that run one after another on one machine see each other's variables.
-/

namespace RuleProbe

namespace Script

namespace Session

/-- The depth to which evaluation may nest. -/
def depthLimit : Nat := 4000

/-- How scripts call functions. -/
def host : Caller := (evaluator depthLimit).caller

/-- Where the statements outside functions are executed. -/
def outermost (strict : Bool) : Env :=
  { scope := 0, receiver := .object Intrinsic.global.ref, strict, outermost := true, labels := [] }

/-- A name is declared already. -/
def redeclared {α : Type} (name : Text) : Run α :=
  Run.fail .syntaxError ("redeclaration of '" ++ name ++ "'")

/-- Declare what a script declares outside functions. -/
def declare (program : Program) : Run Unit := do
  let bindings := Variable.lexicals program.body
  let machine ← get
  let outer := (machine.scopes[0]?.getD default).bindings
  let global := machine.object Intrinsic.global.ref
  for binding in bindings do
    let fixed := (Property.own? global (Units.ofText binding.name)).any fun slot =>
      !slot.configurable
    if fixed || outer.any fun other => other.name == binding.name then redeclared binding.name
  for name in program.vars do
    if outer.any fun other => other.name == name then redeclared name
  Variable.declare 0 bindings
  for name in program.vars do
    let key := Units.ofText name
    if (Property.own? global key).isNone then
      Property.define Intrinsic.global.ref key { value := .undefined, configurable := false }

/-- Run a script: the value of its last statement that has one. -/
def runProgram (program : Program) : Run Value := do
  declare program
  let self := evaluator depthLimit
  let env := outermost program.strict
  modify fun machine => { machine with completion := .undefined }
  Evaluator.hoist env program.body
  let _ ← self.execAll env program.body
  return (← get).completion

/-- Run a script given by its text. -/
def runText (source : Text) : Run Value := do
  match read? source with
  | some program => runProgram program
  | none => Run.fail .syntaxError "unexpected token"

/-- The text of a thrown value. -/
def thrownText (value : Value) : Run Units := Convert.toUnits host value

end Session

end Script

end RuleProbe
