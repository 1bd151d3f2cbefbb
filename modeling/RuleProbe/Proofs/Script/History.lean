import RuleProbe.Proofs.Script.Store

/-!
# Puts and gets of a run

Whatever a script does can be told as a history: it puts values, gets values and does other
things, in any order and nested in each other.  If the other things leave the store and the puts
alone, then the store and the puts are at the end what the puts of the history have made of them,
and each get has returned what was there at its time.
-/

namespace RuleProbe

namespace Script

open Property

variable {machine after : Machine} {places : Places} {held noted : Json.Members}

/-! ## Provided functions -/

/-- A machine on which one more call has been counted. -/
def Machine.spent (machine : Machine) : Machine := { machine with budget := machine.budget - 1 }

theorem returns_spend {done : Unit} (ran : Returns Run.spend machine done after) :
    after = machine.spent := by
  simp only [Run.spend, returns_bind] at ran
  obtain ⟨left, between, counted, checked⟩ := ran
  have same : between = machine.spent := by
    injection counted with _ rest
    exact rest.symm
  split at checked
  · exact absurd checked not_returns_throw
  · exact (returns_pure.mp checked).2.trans same

/-- A call of a provided function is counted, and then runs it. -/
theorem returns_call_native
    {depth function : Nat}
    {library : Library}
    {name : String}
    (kind : (machine.object function).kind = .native library name)
    {receiver found : Value}
    {args : Array Value}
    (ran : Returns ((evaluator (depth + 1)).call (.object function) receiver args) machine found
      after) :
    Returns (Library.callProvided (evaluator depth).caller library name receiver args)
      machine.spent found after := by
  rw [evaluator] at ran
  simp only [Evaluator.callOf, returns_bind, returns_object] at ran
  obtain ⟨_, between, counted, _, _, ⟨rfl, rfl⟩, ran⟩ := ran
  have same := returns_spend counted
  subst same
  have still : (machine.spent.object function).kind = .native library name := kind
  rw [still] at ran
  exact ran

theorem Keeps.spent (keeps : Keeps machine places held noted) :
    Keeps machine.spent places held noted :=
  keeps.leavesAlone (.of_objects keeps.standing rfl)

theorem returns_hostVariable
    {name : String}
    {value found : Value}
    (named : hostValue? machine name = some value)
    (ran : Returns (Library.hostVariable name) machine found after) :
    found = value ∧ after = machine := by
  obtain ⟨slot, own, rfl⟩ := Option.map_eq_some_iff.mp named
  have first : inheritanceLimit = 999 + 1 := rfl
  simp only [Library.hostVariable, returns_bind, returns_get] at ran
  obtain ⟨seen, between, ⟨sameSeen, sameBetween⟩, ran⟩ := ran
  rw [sameSeen, sameBetween, first, lookup] at ran
  have shown : own? (machine.object Intrinsic.global.ref) (Units.ofName name) = some slot := own
  rw [shown] at ran
  exact returns_pure.mp ran

/-! ## Copies -/

/-- A JSON value is the copy that is made of a value with a JSON text; a value without one has
null for a copy. -/
inductive IsCopy : Value → Json → Prop where
  /-- The value has no JSON text. -/
  | none : IsCopy .undefined .null
  /-- The value has a JSON text, which is read as the copy. -/
  | text (units : Units) {json : Json} (read : Json.read units.toText = .ok json) :
      IsCopy (.string units) json

/-- A JSON text is read, and what is read is made. -/
theorem returns_parseJson
    {host : Caller}
    {units : Units}
    {copy : Value}
    (ran : Returns (Library.parseJson host #[.string units]) machine copy after) :
    ∃ json, Json.read units.toText = .ok json ∧
      Returns (Library.ofJson Library.plainObject json) machine copy after := by
  have args : argument #[Value.string units] 0 = .string units := rfl
  have func : argument #[Value.string units] 1 = .undefined := rfl
  simp only [Library.parseJson, args, func, Convert.toUnits, Convert.plainText, returns_bind,
    returns_pure] at ran
  obtain ⟨_, _, ⟨rfl, rfl⟩, ran⟩ := ran
  split at ran
  case h_1 json read =>
    split at ran
    case isTrue => simp at ran
    case isFalse =>
      simp only [returns_bind, returns_get] at ran
      obtain ⟨value, made, copied, _, _, ⟨rfl, rfl⟩, ran⟩ := ran
      obtain ⟨rfl, rfl⟩ := returns_pure.mp ran
      exact ⟨json, read, copied⟩
  case h_2 => simp at ran

/-- A copy is made of the JSON text of a value. -/
theorem returns_copyValue
    {host : Caller}
    {value text copy : Value}
    {copied : Machine}
    {json : Json}
    (written : Returns (Library.stringifyJson host #[value]) machine text copied)
    (isCopy : IsCopy text json)
    (ran : Returns (Library.copyValue host value) machine copy after) :
    Returns (Library.ofJson Library.plainObject json) copied copy after := by
  rw [Library.copyValue, returns_bind] at ran
  obtain ⟨other, between, again, ran⟩ := ran
  obtain ⟨rfl, rfl⟩ := again.unique written
  cases isCopy with
  | none => exact ran
  | text units read =>
      obtain ⟨other, again, copied⟩ := returns_parseJson ran
      cases Except.ok.inj (again.symm.trans read)
      exact copied

/-! ## Single puts and gets -/

/-- A put binds its key to the copy of its value. -/
theorem Keeps.returns_put
    {host : Caller}
    {key value text found : Value}
    {name : Text}
    {named copied : Machine}
    {json : Json}
    {held' noted' : Json.Members}
    (ran : Returns (Library.putVariable host key value) machine found after)
    (keyed : Returns (Convert.toKey host key) machine (Units.ofText name) named)
    (before : Keeps named places held noted)
    (written : Returns (Library.stringifyJson host #[value]) named text copied)
    (keeps : Keeps copied places held' noted')
    (isCopy : IsCopy text json)
    (ordinary : name ≠ "__proto__") :
    Keeps after places (Keyed.put held' name json) (Keyed.put noted' name json) := by
  rw [Library.putVariable, returns_bind] at ran
  obtain ⟨units, between, again, ran⟩ := ran
  obtain ⟨rfl, rfl⟩ := again.unique keyed
  simp only [returns_bind] at ran
  obtain ⟨_, _, toStore, _, _, toPuts, copy, _, copying, ⟨⟩, noting, first, ⟨⟩, storing, second,
    ran⟩ := ran
  obtain ⟨rfl, rfl⟩ := returns_hostVariable before.standing.store_named toStore
  obtain ⟨rfl, rfl⟩ := returns_hostVariable before.standing.puts_named toPuts
  obtain ⟨-, rfl⟩ := returns_pure.mp ran
  refine keeps.returns_deposit ordinary ?_
  simp only [returns_bind]
  exact ⟨copy, _, returns_copyValue written isCopy copying, ⟨⟩, noting, first, second⟩

/-- What a get may return for what is held under its key: that, or else null. -/
def Answers (machine : Machine) (places : Places) (held : Option Json) (found : Value) : Prop :=
  match held with
  | some json => Mirrors machine places.Free json found
  | none => found = .null

theorem find?_of_get?_none
    {free : Nat → Prop}
    {members : Json.Members}
    {props : List (Units × Slot)}
    (mirrors : List.Forall₂ (MirrorMember machine free) members props)
    {name : Text}
    (absent : Keyed.get? members name = none) :
    (props.find? fun entry => entry.1 == Units.ofText name) = none := by
  induction mirrors with
  | nil => rfl
  | @cons member entry members props first _ ih =>
      obtain ⟨value, rfl, -⟩ := mirrorMember_iff.mp first
      rw [Keyed.get?] at absent
      by_cases same : member.1 = name
      · simp [same] at absent
      · rw [if_neg (by simpa using same)] at absent
        rw [List.find?_cons_of_neg (by simpa using same), ih absent]

/-- A get returns what the store holds, and changes nothing. -/
theorem Keeps.returns_get
    {host : Caller}
    {key found : Value}
    {name : Text}
    {named : Machine}
    (ran : Returns (Library.getVariable host key) machine found after)
    (keyed : Returns (Convert.toKey host key) machine (Units.ofText name) named)
    (keeps : Keeps named places held noted) :
    after = named ∧ Answers named places (Keyed.get? held name) found := by
  rw [Library.getVariable, returns_bind] at ran
  obtain ⟨units, between, again, ran⟩ := ran
  obtain ⟨rfl, rfl⟩ := again.unique keyed
  rw [returns_bind] at ran
  obtain ⟨_, _, toStore, ran⟩ := ran
  obtain ⟨rfl, rfl⟩ := returns_hostVariable keeps.standing.store_named toStore
  obtain ⟨props, there, mirrors⟩ := keeps.store
  simp only [returns_bind, returns_object] at ran
  obtain ⟨obj, _, ⟨rfl, rfl⟩, ran⟩ := ran
  rw [object_of_getElem? there, own?_plainObject, ← Array.find?_toList] at ran
  cases bound : Keyed.get? held name with
  | some json =>
      obtain ⟨value, same, mirrored⟩ := find?_mirrored mirrors bound
      rw [same, Option.map_some] at ran
      obtain ⟨rfl, rfl⟩ := returns_pure.mp ran
      exact ⟨rfl, mirrored⟩
  | none =>
      rw [find?_of_get?_none mirrors bound, Option.map_none] at ran
      obtain ⟨rfl, rfl⟩ := returns_pure.mp ran
      exact ⟨rfl, rfl⟩

/-! ## Histories -/

/-- What a script does with the store. -/
inductive Deed where
  /-- It puts a value, of which there is a copy. -/
  | put (name : Text) (copy : Json)
  /-- It gets a value, on a machine. -/
  | get (name : Text) (found : Value) (machine : Machine)

/-- The puts of deeds, in order. -/
def putsOf (deeds : List Deed) : Json.Members :=
  deeds.filterMap fun deed =>
    match deed with
    | .put name copy => some (name, copy)
    | .get _ _ _ => none

/-- What a run does with the store.  It may put and get values while it makes the key of a put
or of a get, or the JSON text of a value. -/
inductive History (places : Places) : Machine → List Deed → Machine → Prop where
  /-- Anything that leaves the store and the puts alone. -/
  | move {before after : Machine} (alone : LeavesAlone places before after) :
      History places before [] after
  /-- One history after another. -/
  | append {before between after : Machine} {first second : List Deed}
      (one : History places before first between)
      (two : History places between second after) :
      History places before (first ++ second) after
  /-- A call of the function that puts, under whatever name a script knows it. -/
  | put {before named copied after : Machine} {depth function : Nat}
      {receiver text found : Value} {args : Array Value} {name : Text} {copy : Json}
      {first second : List Deed}
      (kind : (before.object function).kind = .native .host "put")
      (ran : Returns ((evaluator (depth + 1)).call (.object function) receiver args) before found
        after)
      (keyed : Returns (Convert.toKey (evaluator depth).caller (argument args 0)) before.spent
        (Units.ofText name) named)
      (one : History places before.spent first named)
      (written : Returns (Library.stringifyJson (evaluator depth).caller #[argument args 1]) named
        text copied)
      (two : History places named second copied)
      (isCopy : IsCopy text copy) :
      History places before (first ++ second ++ [.put name copy]) after
  /-- A call of the function that gets, under whatever name a script knows it. -/
  | get {before named after : Machine} {depth function : Nat} {receiver found : Value}
      {args : Array Value} {name : Text} {first : List Deed}
      (kind : (before.object function).kind = .native .host "get")
      (ran : Returns ((evaluator (depth + 1)).call (.object function) receiver args) before found
        after)
      (keyed : Returns (Convert.toKey (evaluator depth).caller (argument args 0)) before.spent
        (Units.ofText name) named)
      (one : History places before.spent first named) :
      History places before (first ++ [.get name found after]) after

/-- Every get has returned what the store held when it ran. -/
def Answered (places : Places) : Json.Members → List Deed → Prop
  | _, [] => True
  | held, .put name copy :: rest => Answered places (Keyed.put held name copy) rest
  | held, .get name found machine :: rest =>
      Answers machine places (Keyed.get? held name) found ∧ Answered places held rest

theorem putsOf_append (one two : List Deed) : putsOf (one ++ two) = putsOf one ++ putsOf two :=
  List.filterMap_append

theorem answered_append {one two : List Deed} :
    Answered places held (one ++ two) ↔
      Answered places held one ∧ Answered places (Keyed.update held (putsOf one)) two := by
  induction one generalizing held with
  | nil => simp [Answered, putsOf, Keyed.update]
  | cons deed rest ih =>
      cases deed with
      | put name copy =>
          rw [List.cons_append, Answered, Answered, ih]
          rfl
      | get name found machine =>
          rw [List.cons_append, Answered, Answered, ih, and_assoc]
          rfl

/-- A key under which a script can put a value: the properties of objects have one name that is
none of their own. -/
def Ordinary (deeds : List Deed) : Prop :=
  ∀ name copy, Deed.put name copy ∈ deeds → name ≠ "__proto__"

theorem Ordinary.of_append
    {one two : List Deed}
    (ordinary : Ordinary (one ++ two)) :
    Ordinary one ∧ Ordinary two :=
  ⟨fun name copy member => ordinary name copy (List.mem_append_left two member),
    fun name copy member => ordinary name copy (List.mem_append_right one member)⟩

/-- After a history the store and the puts are what its puts have made of them, and each of its
gets has returned what the store held. -/
theorem Keeps.after_history
    {deeds : List Deed}
    (keeps : Keeps machine places held noted)
    (history : History places machine deeds after)
    (ordinary : Ordinary deeds) :
    Keeps after places (Keyed.update held (putsOf deeds)) (Keyed.update noted (putsOf deeds)) ∧
      Answered places held deeds := by
  induction history generalizing held noted with
  | move alone => exact ⟨keeps.leavesAlone alone, trivial⟩
  | append one two ihOne ihTwo =>
      obtain ⟨first, second⟩ := ordinary.of_append
      obtain ⟨between, answeredOne⟩ := ihOne keeps first
      obtain ⟨behind, answeredTwo⟩ := ihTwo between second
      rw [putsOf_append, Keyed.update_append, Keyed.update_append]
      exact ⟨behind, answered_append.mpr ⟨answeredOne, answeredTwo⟩⟩
  | @put _ _ _ _ _ _ _ _ _ _ name copy _ _ kind ran keyed one written two isCopy ihOne ihTwo =>
      obtain ⟨inner, own⟩ := ordinary.of_append
      obtain ⟨first, second⟩ := inner.of_append
      obtain ⟨before, answeredOne⟩ := ihOne keeps.spent first
      obtain ⟨between, answeredTwo⟩ := ihTwo before second
      have behind := Keeps.returns_put (returns_call_native kind ran) keyed before written between
        isCopy (own name copy List.mem_cons_self)
      rw [putsOf_append, putsOf_append]
      simp only [Keyed.update_append]
      exact ⟨behind, answered_append.mpr ⟨answered_append.mpr ⟨answeredOne, answeredTwo⟩, trivial⟩⟩
  | get kind ran keyed one ihOne =>
      obtain ⟨first, -⟩ := ordinary.of_append
      obtain ⟨before, answeredOne⟩ := ihOne keeps.spent first
      obtain ⟨rfl, answers⟩ := Keeps.returns_get (returns_call_native kind ran) keyed before
      rw [putsOf_append]
      simp only [Keyed.update_append]
      exact ⟨before, answered_append.mpr ⟨answeredOne, answers, trivial⟩⟩

end Script

end RuleProbe
