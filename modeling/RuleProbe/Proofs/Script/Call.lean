import RuleProbe.Proofs.Script.History
import RuleProbe.Proofs.Script.Reread
import RuleProbe.Script.Session

/-!
# Scripts that are one call

A script that does nothing but call a function of an object with variables finds the function
and the values, calls it, and has what the call returns for its value.  A call that puts what
mirrors a JSON value under a text is a history with one put, and a call that gets under a text is
a history with one get.
-/

namespace RuleProbe

namespace Script

open Property

/-! ## The script -/

/-- A variable as an argument. -/
def variableItem (name : Text) : Item := .value (.name name)

/-- A call of a function of an object with variables, as a script. -/
def callProgram (object key : Text) (arguments : List Text) : Program where
  body := [.expression (.call (.member (.name object) (.string (Units.ofText key)) false)
    (arguments.map variableItem) false)]
  vars := []
  strict := false

/-- Items are variables, one by one. -/
def areVariables : List Item → List Text → Bool
  | [], [] => true
  | .value (.name found) :: items, name :: names => found == name && areVariables items names
  | _, _ => false

/-- A script is a call of a function of an object with variables. -/
def isCall (object key : Text) (arguments : List Text) (program : Program) : Bool :=
  match program with
  | ⟨[.expression (.call (.member (.name found) (.string unit) false) items false)], [], false⟩ =>
      found == object && unit == Units.ofText key && areVariables items arguments
  | _ => false

theorem eq_of_areVariables
    {items : List Item}
    {names : List Text}
    (same : areVariables items names = true) :
    items = names.map variableItem := by
  fun_induction areVariables items names with
  | case1 => rfl
  | case2 found items name names ih =>
      simp only [Bool.and_eq_true, beq_iff_eq] at same
      rw [List.map_cons, same.1, ih same.2, variableItem]
  | case3 => cases same

theorem eq_callProgram_of_isCall
    {object key : Text}
    {arguments : List Text}
    {program : Program}
    (call : isCall object key arguments program = true) :
    program = callProgram object key arguments := by
  unfold isCall at call
  split at call
  case h_1 =>
    simp only [Bool.and_eq_true, beq_iff_eq] at call
    obtain ⟨⟨rfl, rfl⟩, items⟩ := call
    rw [eq_of_areVariables items]
    rfl
  case h_2 => cases call

/-- A text that is read as a call of a function with variables. -/
theorem read?_eq_callProgram
    {source object key : Text}
    {arguments : List Text}
    (checked : (read? source).any (isCall object key arguments) = true) :
    read? source = some (callProgram object key arguments) := by
  cases found : read? source with
  | none => simp [found] at checked
  | some program =>
      rw [found] at checked
      rw [eq_callProgram_of_isCall checked]

variable {machine after : Machine}

/-- A script that declares nothing leaves the machine as it is. -/
theorem returns_declare
    {object key : Text}
    {arguments : List Text}
    {done : Unit}
    (ran : Returns (Session.declare (callProgram object key arguments)) machine done after) :
    after = machine := by
  have bindings : Variable.lexicals (callProgram object key arguments).body = [] := rfl
  have vars : (callProgram object key arguments).vars = [] := rfl
  simp only [Session.declare, bindings, vars, List.forIn_nil, pure_bind, returns_bind,
    returns_get] at ran
  obtain ⟨_, _, ⟨rfl, rfl⟩, _, between, declared, ended⟩ := ran
  obtain ⟨-, rfl⟩ := returns_pure.mp ended
  rw [Variable.declare, returns_modify] at declared
  rw [declared]
  have scopes (scopes : Array Scope) : (scopes.modify 0 fun found =>
      { found with bindings := found.bindings ++ ([] : List Binding).toArray }) = scopes := by
    refine Array.ext_getElem? fun i => ?_
    rw [Array.getElem?_modify]
    split
    · simp
    · rfl
  rw [scopes]

/-! ## Variables of the host -/

/-- Outside functions a name leads to a value of the host, which no variable of a script hides. -/
structure Shown (machine : Machine) (name : String) (value : Value) : Prop where
  seen : Variable.find? machine name.toList (machine.scopes.size + 1) 0 = none
  named : hostValue? machine name = some value

/-- Where a variable is found depends on the scopes alone. -/
theorem find?_congr
    (same : after.scopes = machine.scopes)
    (name : Text)
    (depth scope : Nat) :
    Variable.find? after name depth scope = Variable.find? machine name depth scope := by
  induction depth generalizing scope with
  | zero => rfl
  | succ depth ih => simp only [Variable.find?, same, ih]

/-- The value of a statement changes no variable. -/
theorem Shown.completed
    {name : String}
    {value : Value}
    (shown : Shown machine name value)
    (completion : Value) :
    Shown { machine with completion } name value where
  seen := by
    have same : ({ machine with completion } : Machine).scopes = machine.scopes := rfl
    rw [find?_congr same]
    exact shown.seen
  named := shown.named

theorem Shown.returns_read
    {name : String}
    {value found : Value}
    (shown : Shown machine name value)
    (ran : Returns (Variable.read 0 name.toList) machine found after) :
    found = value ∧ after = machine := by
  obtain ⟨slot, own, rfl⟩ := Option.map_eq_some_iff.mp shown.named
  have first : inheritanceLimit = 999 + 1 := rfl
  have global : lookup machine (Units.ofText name.toList) inheritanceLimit
      Intrinsic.global.ref = some slot := by
    have here : own? (machine.object Intrinsic.global.ref) (Units.ofText name.toList) =
        some slot := own
    rw [first, lookup, here]
  simp only [Variable.read, Variable.read?, Variable.locate, returns_bind, returns_get] at ran
  obtain ⟨value, middle, ⟨place, early, ⟨_, _, ⟨rfl, rfl⟩, located⟩, read⟩, ran⟩ := ran
  rw [shown.seen] at located
  obtain ⟨rfl, rfl⟩ := returns_pure.mp located
  simp only [returns_bind, returns_get] at read
  obtain ⟨_, _, ⟨rfl, rfl⟩, read⟩ := read
  rw [global] at read
  obtain ⟨rfl, rfl⟩ := returns_pure.mp read
  exact returns_pure.mp ran

/-- The property of an object of its own. -/
theorem returns_get_own
    {ref : Nat}
    {key : Units}
    {value found : Value}
    (own : (own? (machine.object ref) key).map (·.value) = some value)
    (ran : Returns (Property.get (.object ref) key) machine found after) :
    found = value ∧ after = machine := by
  obtain ⟨slot, here, rfl⟩ := Option.map_eq_some_iff.mp own
  have first : inheritanceLimit = 999 + 1 := rfl
  simp only [Property.get, returns_bind, returns_getState, returns_pure] at ran
  obtain ⟨_, _, ⟨rfl, rfl⟩, rfl, rfl⟩ := ran
  rw [first, lookup, here]
  exact ⟨rfl, rfl⟩

/-- What it takes to call a function of an object with variables, outside functions. -/
structure Callable (machine : Machine) (object key : String) (arguments : List String)
    (space function : Nat) (values : List Value) : Prop where
  /-- The name leads to the object. -/
  object : Shown machine object (.object space)
  /-- The object has the function. -/
  own : (own? (machine.object space) (Units.ofName key)).map (·.value) = some (.object function)
  /-- The variables lead to the values. -/
  arguments : List.Forall₂ (Shown machine) arguments values

/-- The value of the host to which a name leads outside functions. -/
def shownAt? (machine : Machine) (name : String) : Option Value :=
  match Variable.find? machine name.toList (machine.scopes.size + 1) 0 with
  | none => hostValue? machine name
  | some _ => none

/-- The object to which a name leads outside functions, and its function under a key. -/
def calledAt? (machine : Machine) (object key : String) : Option (Nat × Nat) :=
  match shownAt? machine object with
  | some (.object space) =>
      match (own? (machine.object space) (Units.ofName key)).map Slot.value with
      | some (.object function) => some (space, function)
      | _ => none
  | _ => none

theorem shown_of_shownAt?
    {name : String}
    {value : Value}
    (found : shownAt? machine name = some value) :
    Shown machine name value := by
  unfold shownAt? at found
  split at found
  case h_1 seen => exact ⟨seen, found⟩
  case h_2 => cases found

theorem callable_of_calledAt?
    {object key : String}
    {arguments : List String}
    {space function : Nat}
    {values : List Value}
    (found : calledAt? machine object key = some (space, function))
    (shown : List.Forall₂ (Shown machine) arguments values) :
    Callable machine object key arguments space function values := by
  unfold calledAt? at found
  split at found
  case h_1 named =>
    split at found
    case h_1 own =>
      cases found
      exact ⟨shown_of_shownAt? named, own, shown⟩
    case h_2 => cases found
  case h_2 => cases found

/-! ## Its run -/

section

variable {depth space function : Nat} {object key : String} {arguments : List String}
  {values : List Value} {found : Value} {env : Env}

theorem Callable.completed
    (callable : Callable machine object key arguments space function values)
    (completion : Value) :
    Callable { machine with completion } object key arguments space function values where
  object := callable.object.completed completion
  own := callable.own
  arguments := callable.arguments.imp fun _ _ shown => shown.completed completion

theorem eval_name (name : Text) :
    (evaluator (depth + 1)).eval env (.name name) =
      (do return some (← Variable.read env.scope name)) := rfl

theorem value_string (units : Units) :
    (evaluator (depth + 1)).value env (.string units) = pure (.string units) := rfl

theorem eval_call (callee : Expr) (args : List Item) :
    (evaluator (depth + 1)).eval env (.call callee args false) = (do
      match ← (evaluator depth).callee env callee with
      | none => return none
      | some (func, receiver) =>
          let args ← (evaluator depth).arguments env args
          return some (← (evaluator depth).call func receiver args)) := rfl

theorem exec_expression (expr : Expr) :
    (evaluator (depth + 1)).exec env (.expression expr) = (do
      let found ← (evaluator depth).value { env with labels := [] } expr
      if env.outermost then modify fun machine => { machine with completion := found }
      return .normal) := rfl

theorem Callable.returns_callee
    (callable : Callable machine object key arguments space function values)
    (outside : env.scope = 0)
    {pair : Option (Value × Value)}
    (ran : Returns ((evaluator (depth + 1)).callee env
      (.member (.name object.toList) (.string (Units.ofText key.toList)) false)) machine pair
      after) :
    pair = some (.object function, .object space) ∧ after = machine := by
  simp only [Evaluator.callee, eval_name, value_string, pure_bind, Bool.false_and,
    Bool.false_eq_true, if_false, bind_assoc, returns_bind] at ran
  obtain ⟨_, _, read, ran⟩ := ran
  rw [outside] at read
  obtain ⟨rfl, rfl⟩ := callable.object.returns_read read
  simp only [Convert.toKey, Convert.toUnits, Convert.plainText, returns_pure] at ran
  obtain ⟨_, _, ⟨rfl, rfl⟩, _, _, get, rfl, rfl⟩ := ran
  obtain ⟨rfl, rfl⟩ := returns_get_own callable.own get
  exact ⟨rfl, rfl⟩

/-- The values so far with those of one more argument. -/
def addArgument (depth : Nat) (env : Env) (found : Array Value) : Item → Run (Array Value)
  | .value expr => return found.push (← (evaluator (depth + 1)).value env expr)
  | .spread expr => return found ++ (← Convert.items
      (← (evaluator (depth + 1)).value env expr)).toArray
  | .hole => return found

/-- The values of variables, in their order. -/
theorem returns_arguments
    (shown : List.Forall₂ (Shown machine) arguments values)
    (outside : env.scope = 0)
    {args : Array Value}
    (ran : Returns ((evaluator (depth + 1)).arguments env
      ((arguments.map String.toList).map variableItem)) machine args after) :
    args = values.toArray ∧ after = machine := by
  suffices behind : ∀ first, Returns (((arguments.map String.toList).map variableItem).foldlM
      (addArgument depth env) first) machine args after →
      args = first ++ values.toArray ∧ after = machine by
    simpa using behind #[] ran
  clear ran
  induction shown with
  | nil =>
      intro first ran
      simpa using ran
  | cons shown _ ih =>
      intro first ran
      simp only [List.map_cons, List.foldlM_cons, addArgument, variableItem, Evaluator.value,
        eval_name, bind_assoc, pure_bind, returns_bind] at ran ih
      obtain ⟨_, _, read, ran⟩ := ran
      rw [outside] at read
      obtain ⟨rfl, rfl⟩ := shown.returns_read read
      obtain ⟨rfl, rfl⟩ := ih _ ran
      simp [Value.ofOption]

/-- A script that is a call of a function with variables calls it with their values, and has
what the call returns. -/
theorem Callable.returns_callProgram
    (callable : Callable machine object key arguments space function values)
    (ran : Returns (Session.runProgram
      (callProgram object.toList key.toList (arguments.map String.toList))) machine found after) :
    ∃ depth called, Returns ((evaluator (depth + 1)).call (.object function) (.object space)
        values.toArray) { machine with completion := .undefined } found called ∧
      after = { called with completion := found } := by
  have limit : Session.depthLimit = 3997 + 1 + 1 + 1 := rfl
  simp only [Session.runProgram, returns_bind, limit] at ran
  obtain ⟨done, declared, declaring, _, cleared, clearing, _, hoisted, hoisting, signal, ended,
    executed, ran⟩ := ran
  obtain rfl := (returns_declare declaring).symm
  rw [returns_modify] at clearing
  have hoist : Evaluator.hoist
      (Session.outermost (callProgram object.toList key.toList
        (arguments.map String.toList)).strict)
      (callProgram object.toList key.toList (arguments.map String.toList)).body = pure () := rfl
  rw [hoist] at hoisting
  obtain ⟨-, rfl⟩ := returns_pure.mp hoisting
  simp only [callProgram, Evaluator.execAll, exec_expression, Evaluator.value, eval_call,
    bind_assoc, returns_bind] at executed
  obtain ⟨pair, _, called, result, _, calling, value, _, valued, _, _, completed, last⟩ :=
    executed
  rw [clearing] at called
  have reset := callable.completed .undefined
  obtain ⟨rfl, rfl⟩ := reset.returns_callee rfl called
  simp only [returns_bind, returns_pure] at calling
  obtain ⟨args, _, arguments, answer, between, call, rfl, rfl⟩ := calling
  obtain ⟨rfl, rfl⟩ := returns_arguments reset.arguments rfl arguments
  obtain ⟨rfl, rfl⟩ := returns_pure.mp valued
  have outermost : (Session.outermost false).outermost = true := rfl
  rw [outermost, if_pos rfl] at completed
  simp only [returns_bind, returns_modify, returns_pure] at completed
  obtain ⟨_, _, rfl, rfl, rfl⟩ := completed
  obtain ⟨-, rfl⟩ := returns_pure.mp last
  obtain ⟨_, _, ⟨rfl, rfl⟩, ended⟩ := ran
  obtain ⟨rfl, rfl⟩ := returns_pure.mp ended
  exact ⟨3997, _, call, rfl⟩

end

variable {places : Places} {held noted : Json.Members}

/-! ## Writing a JSON text -/

theorem returns_jsonStyle
    {host : Caller}
    {value : Value}
    {style : Library.JsonStyle}
    (ran : Returns (Library.jsonStyle host #[value]) machine style after) :
    style = plainStyle ∧ after = machine := by
  have choice : argument #[value] 1 = .undefined := rfl
  have gap : argument #[value] 2 = .undefined := rfl
  have items : arrayItems? machine Value.undefined = none := rfl
  simp only [Library.jsonStyle, choice, gap, returns_bind, returns_get] at ran
  obtain ⟨_, _, ⟨rfl, rfl⟩, ran⟩ := ran
  rw [items] at ran
  simp only [pure_bind, ite_self] at ran
  exact returns_pure.mp ran

/-- Defining a property of a new object makes a new object with the property. -/
theorem returns_define_new
    {obj : Obj}
    (plain : obj.kind = .plain)
    {key : Units}
    {slot : Slot}
    {done : Unit}
    (ran : Returns (define machine.objects.size key slot) (machine.add obj).2 done after) :
    after = (machine.add (putSlot obj key slot)).2 := by
  have new : (machine.add obj).2.object machine.objects.size = obj :=
    object_of_getElem? (getElem?_add machine obj)
  simp only [define, returns_bind, returns_object] at ran
  obtain ⟨_, _, ⟨rfl, rfl⟩, ran⟩ := ran
  rw [new, plain] at ran
  simp only [returns_modifyObject] at ran
  rw [ran, Machine.modifyObject, Machine.add, Machine.add]
  have objects : (machine.objects.push obj).modify machine.objects.size
      (fun obj => putSlot obj key slot) = machine.objects.push (putSlot obj key slot) := by
    refine Array.ext_getElem? fun i => ?_
    rw [Array.getElem?_modify]
    split
    case isTrue here => simp [← here]
    case isFalse other => simp [Array.getElem?_push, Ne.symm other]
  rw [objects]

/-- A script writes what mirrors a JSON value as the JSON text of the value, and makes a new
object only. -/
theorem Keeps.returns_stringifyJson
    {host : Caller}
    {free : Nat → Prop}
    {json : Json}
    {value found : Value}
    (keeps : Keeps machine places held noted)
    (mirrors : Mirrors machine free json value)
    (ran : Returns (Library.stringifyJson host #[value]) machine found after) :
    found = .string (Units.ofText (jsonText json)) ∧ Grows machine after := by
  have first : argument #[value] 0 = value := rfl
  rw [Library.stringifyJson, returns_bind] at ran
  obtain ⟨style, between, styled, ran⟩ := ran
  obtain ⟨rfl, same⟩ := returns_jsonStyle styled
  rw [same, first] at ran
  simp only [returns_bind] at ran
  obtain ⟨holder, _, made, ran⟩ := ran
  rw [Run.makeObject, returns_add] at made
  obtain ⟨rfl, rfl⟩ := made
  simp only [returns_bind] at ran
  obtain ⟨_, grown, defined, shown, _, asked, units, _, written, ended⟩ := ran
  have data : (putSlot (Library.plainObject #[]) #[] { value }).isData = true := by
    rw [putSlot_eq]
    rfl
  have grows : Grows machine grown := by
    rw [returns_define_new rfl defined]
    exact .add machine data
  have quiet := (keeps.grows grows).standing.quiet
  obtain ⟨rfl, rfl⟩ := returns_jsonValue quiet (grows.mirrors mirrors) rfl asked
  obtain ⟨rfl, rfl⟩ := writesText host json quiet (grows.mirrors mirrors) written
  obtain ⟨rfl, rfl⟩ := returns_pure.mp ended
  exact ⟨rfl, grows⟩

/-! ## Deeds -/

theorem LeavesAlone.of_grows
    (keeps : Keeps machine places held noted)
    (grows : Grows machine after) :
    LeavesAlone places machine after where
  standing := (keeps.grows grows).standing
  same := by
    rintro ref (reaches | reaches)
    · exact grows.getElem? (keeps.store.of_reaches places.store_late reaches).2
    · exact grows.getElem? (keeps.puts.of_reaches places.puts_late reaches).2

theorem returns_toKey_ofText {host : Caller} (name : Text) :
    Returns (Convert.toKey host (Value.ofText name)) machine (Units.ofText name) machine := rfl

section

variable {depth function : Nat} {receiver found : Value} {args : Array Value} {name : Text}

/-- A call that puts what mirrors a JSON value under a text puts the value, with its numbers gone
through their texts. -/
theorem Keeps.history_put
    (keeps : Keeps machine places held noted)
    (kind : (machine.object function).kind = .native .host "put")
    (key : argument args 0 = Value.ofText name)
    {free : Nat → Prop}
    {json : Json}
    (mirrors : Mirrors machine free json (argument args 1))
    (ran : Returns ((evaluator (depth + 1)).call (.object function) receiver args) machine found
      after) :
    History places machine [.put name (reread json)] after := by
  have spent := keeps.spent
  have keyed : Returns (Convert.toKey (evaluator depth).caller (argument args 0)) machine.spent
      (Units.ofText name) machine.spent := by
    rw [key]
    exact returns_toKey_ofText name
  have put : Returns (Library.putVariable (evaluator depth).caller (argument args 0)
      (argument args 1)) machine.spent found after := returns_call_native kind ran
  rw [Library.putVariable, returns_bind] at put
  obtain ⟨units, between, again, put⟩ := put
  obtain ⟨rfl, rfl⟩ := again.unique keyed
  simp only [returns_bind] at put
  obtain ⟨_, _, toStore, _, _, toPuts, copy, _, copying, -⟩ := put
  obtain ⟨rfl, rfl⟩ := returns_hostVariable spent.standing.store_named toStore
  obtain ⟨rfl, rfl⟩ := returns_hostVariable spent.standing.puts_named toPuts
  rw [Library.copyValue, returns_bind] at copying
  obtain ⟨text, copied, written, parsing⟩ := copying
  obtain ⟨rfl, grows⟩ := spent.returns_stringifyJson (mirrors.frame fun _ _ => rfl) written
  obtain ⟨read, text, -⟩ := returns_parseJson parsing
  rw [Units.toText_ofText] at text
  rw [← read_jsonText text]
  have isCopy : IsCopy (.string (Units.ofText (jsonText json))) read :=
    .text _ (by rw [Units.toText_ofText, text])
  exact .put kind ran keyed (.move (.of_objects spent.standing rfl)) written
    (.move (.of_grows spent grows)) isCopy

/-- A call that gets under a text gets. -/
theorem Keeps.history_get
    (keeps : Keeps machine places held noted)
    (kind : (machine.object function).kind = .native .host "get")
    (key : argument args 0 = Value.ofText name)
    (ran : Returns ((evaluator (depth + 1)).call (.object function) receiver args) machine found
      after) :
    History places machine [.get name found after] after := by
  have keyed : Returns (Convert.toKey (evaluator depth).caller (argument args 0)) machine.spent
      (Units.ofText name) machine.spent := by
    rw [key]
    exact returns_toKey_ofText name
  exact .get kind ran keyed (.move (.of_objects keeps.spent.standing rfl))

end

section

variable {object key : String} {space function : Nat} {found : Value} {name : Text}

/-- The value of the last statement is no object that the store and the puts are made of. -/
theorem Keeps.history_completed (keeps : Keeps machine places held noted) (completion : Value) :
    History places machine [] { machine with completion } :=
  .move (.of_objects keeps.standing rfl)

/-- A script that is one call of the function that puts is a history with one put. -/
theorem Callable.history_put
    {one two : String}
    {value : Value}
    (callable : Callable machine object key [one, two] space function [Value.ofText name, value])
    (kind : (machine.object function).kind = .native .host "put")
    (keeps : Keeps machine places held noted)
    (ordinary : name ≠ "__proto__")
    {free : Nat → Prop}
    {json : Json}
    (mirrors : Mirrors machine free json value)
    (ran : Returns (Session.runProgram
      (callProgram object.toList key.toList [one.toList, two.toList])) machine found after) :
    History places machine [.put name (reread json)] after := by
  obtain ⟨depth, called, call, rfl⟩ := callable.returns_callProgram ran
  have reset := keeps.history_completed .undefined
  have before : Keeps { machine with completion := .undefined } places held noted :=
    keeps.leavesAlone (.of_objects keeps.standing rfl)
  have inside : Mirrors { machine with completion := .undefined } free json value :=
    mirrors.frame fun _ _ => rfl
  have put := before.history_put kind rfl inside call
  have behind := (before.after_history put (by simpa [Ordinary] using ordinary)).1
  exact reset.append (put.append (behind.history_completed found))

/-- A script that is one call of the function that gets is a history with one get. -/
theorem Callable.history_get
    {one : String}
    (callable : Callable machine object key [one] space function [Value.ofText name])
    (kind : (machine.object function).kind = .native .host "get")
    (keeps : Keeps machine places held noted)
    (ran : Returns (Session.runProgram
      (callProgram object.toList key.toList [one.toList])) machine found after) :
    ∃ called, History places machine [.get name found called] after ∧
      after = { called with completion := found } := by
  obtain ⟨depth, called, call, rfl⟩ := callable.returns_callProgram ran
  have reset := keeps.history_completed .undefined
  have before : Keeps { machine with completion := .undefined } places held noted :=
    keeps.leavesAlone (.of_objects keeps.standing rfl)
  have get := before.history_get kind rfl call
  have behind := (before.after_history get (by simp [Ordinary])).1
  exact ⟨called, reset.append (get.append (behind.history_completed found)), rfl⟩

end

end Script

end RuleProbe
