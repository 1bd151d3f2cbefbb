import RuleProbe.Proofs.Effects
import RuleProbe.Proofs.Keyed
import RuleProbe.Stage.Book

/-!
# Trails of writes

Evaluations and stages change a session step by step.  A step writes an entry to the log, begins
a log, or writes variables, and only four kinds of steps write variables: a directive of a rule,
a script, the copying of a parameter of an address, and the first rule of the details.  A trail
lists what has been written on the way from one session to another.
-/

namespace RuleProbe

namespace Sandbox

/-! ## What a script writes -/

theorem endWith_store
    (timeout : Float)
    (value : Json)
    (store : Json.Members)
    (reading : EStateM.Result Script.Abrupt Script.Machine Result) :
    (endWith timeout value store reading).store = store := by
  unfold endWith
  split
  · rfl
  · rfl
  · split <;> rfl

theorem readLogs_store
    (timeout : Float)
    (value : Json)
    (store : Json.Members)
    (machine : Script.Machine) :
    (readLogs timeout value store machine).store = store :=
  endWith_store timeout value store _

theorem takeOver_store
    {timeout : Float}
    {code : Text}
    {value : Json}
    {store : Json.Members}
    {reading : EStateM.Result Script.Abrupt Script.Machine Result}
    {ended : Ended}
    (taken : takeOver timeout code value store reading = .ok ended) :
    ended.store = store ∨
      ∃ puts machine, reading = .ok (.json (.obj puts)) machine ∧
        ended.store = Keyed.update store puts := by
  unfold takeOver at taken
  split at taken
  · cases taken
    exact .inl rfl
  · cases taken
    exact .inl rfl
  · rename_i puts machine
    have same := Except.ok.inj taken
    refine .inr ⟨puts, machine, rfl, ?_⟩
    rw [← same, readLogs_store]
  · cases taken

/-- A script has put members when its code has a value, and its puts can be read back as
these members. -/
def HasPut
    (store : Json.Members)
    (bindings : Bindings)
    (code : Text)
    (puts : Json.Members) : Prop :=
  ∃ value machine after,
    (evaluate store bindings (codeOf code bindings)).run Script.Library.hostMachine =
        .ok (.json value) machine ∧
      (readBack "__puts").run machine = .ok (.json (.obj puts)) after

/-- A script leaves the store as it is, or updates it with what it has put. -/
theorem run_store
    {timeout : Float}
    {code : Text}
    {bindings : Bindings}
    {store : Json.Members}
    {ended : Ended}
    (ran : run timeout code bindings store = .ok ended) :
    ended.store = store ∨
      ∃ puts, HasPut store bindings code puts ∧ ended.store = Keyed.update store puts := by
  unfold run at ran
  simp only at ran
  split at ran
  · cases ran
    exact .inl rfl
  · split at ran
    · cases ran
      exact .inl rfl
    · cases ran
      exact .inl rfl
    · rename_i value machine evaluated
      unfold writeBack at ran
      obtain same | ⟨puts, after, read, same⟩ := takeOver_store ran
      · exact .inl same
      · exact .inr ⟨puts, ⟨value, machine, after, evaluated, read⟩, same⟩

end Sandbox

namespace Extraction

/-! ## Trails -/

/-- The entry of a log that reports a directive. -/
def directiveEntry (key value subRule : Text) : Log :=
  { level := .info
    topic := .parse
    message := "@put " ++ key ++ " = " ++ Quoted.write (value.take 80)
    details := [("rule", .str subRule)] }

/-- A step from one session to the next, with the variables that it writes. -/
inductive Step : Session → Json.Members → Session → Prop where
  /-- An entry is written to the log. -/
  | logged (session : Session) (entry : Log) :
      Step session [] { session with logs := entry :: session.logs }
  /-- The log begins anew. -/
  | begun (session : Session) :
      Step session [] { session with logs := [] }
  /-- A directive of a rule, whose own rule has just been evaluated, stores the text of the
  result and reports it. -/
  | directive {rule rest : Text} {puts : List (Text × Text)} {key subRule : Text}
      (read : Directive.takePuts rule = .ok (rest, puts))
      (asked : (key, subRule) ∈ puts)
      {engine : Engine} {depth : Nat} {context : Context} {result : Result}
      {earlier session : Session}
      (evaluated : runFrom (evaluateAt engine depth context subRule false) earlier =
        (.ok result, session)) :
      Step session [(key, .str result.firstText)]
        { store := Keyed.put session.store key (.str result.firstText)
          logs := directiveEntry key result.firstText subRule :: session.logs }
  /-- What a script has put is taken over. -/
  | script {session : Session} {bindings : Sandbox.Bindings} {code : Text}
      {puts : Json.Members}
      (put : Sandbox.HasPut session.store bindings code puts) :
      Step session puts { session with store := Keyed.update session.store puts }
  /-- A parameter of an address is copied. -/
  | parameter (session : Session) {address key value : Text} {url : Url}
      (read : Url.read [] address = .ok url)
      (given : (key, value) ∈ Query.parameters url.query) :
      Step session [(key, .str value)]
        { session with store := Keyed.put session.store key (.str value) }
  /-- The number in the path of an address is copied. -/
  | pathId (session : Session) {address number : Text} {url : Url}
      (read : Url.read [] address = .ok url)
      (found : Stage.Book.pathId? url.path = some number) :
      Step session [("id".toList, .str number)]
        { session with store := Keyed.put session.store "id".toList (.str number) }
  /-- The groups that the first rule of the details matched are stored. -/
  | groups (session : Session) {init body : Text} {pattern : Pattern} {found : Pattern.Match}
      (compiled : RuleRegex.compile {} (init.drop 1) = .ok pattern)
      (matched : Pattern.search pattern (Pattern.subjectOf body) 0 = some found) :
      Step session
        [(Stage.Book.groupsVariable,
          .obj (Stage.Book.namedGroups ((found.groups (Pattern.subjectOf body)).drop 1)))]
        { session with
          store := Keyed.put session.store Stage.Book.groupsVariable
            (.obj (Stage.Book.namedGroups ((found.groups (Pattern.subjectOf body)).drop 1))) }

/-- A step updates the store with what it writes. -/
theorem Step.store_eq
    {first last : Session}
    {writes : Json.Members}
    (step : Step first writes last) :
    last.store = Keyed.update first.store writes := by
  cases step <;> rfl

/-- Steps from one session to another, with all the variables that they write, in order. -/
inductive Trail : Session → Json.Members → Session → Prop where
  /-- No step at all. -/
  | nil (session : Session) : Trail session [] session
  /-- A step and those after it. -/
  | cons {first middle last : Session} {early late : Json.Members}
      (step : Step first early middle)
      (rest : Trail middle late last) :
      Trail first (early ++ late) last

namespace Trail

variable {first middle last : Session}

theorem single
    {writes : Json.Members}
    (step : Step first writes last) :
    Trail first writes last := by
  simpa using cons step (nil last)

/-- Trails can be followed one after the other. -/
theorem append
    {early late : Json.Members}
    (before : Trail first early middle)
    (after : Trail middle late last) :
    Trail first (early ++ late) last := by
  induction before with
  | nil => exact after
  | cons step _ hypothesis =>
      rw [List.append_assoc]
      exact cons step (hypothesis after)

/-- The last store of a trail is the first one, updated with all that was written. -/
theorem store_eq
    {writes : Json.Members}
    (trail : Trail first writes last) :
    last.store = Keyed.update first.store writes := by
  induction trail with
  | nil => rfl
  | cons step _ hypothesis => rw [hypothesis, step.store_eq, Keyed.update_append]

end Trail

/-- Some trail leads from one session to another. -/
def Reaches (first last : Session) : Prop :=
  ∃ writes, Trail first writes last

instance : IsPreorder Session Reaches where
  refl session := ⟨[], .nil session⟩
  trans _ _ _ := by
    rintro ⟨early, before⟩ ⟨late, after⟩
    exact ⟨early ++ late, before.append after⟩

theorem Step.reaches
    {first last : Session}
    {writes : Json.Members}
    (step : Step first writes last) :
    Reaches first last :=
  ⟨writes, .single step⟩

theorem report_leads (entry : Log) : Leads Reaches (report entry) :=
  fun session => (Step.logged session entry).reaches

end Extraction

end RuleProbe
