import RuleProbe.Proofs.Script.Call
import RuleProbe.Proofs.Script.Start
import RuleProbe.Proofs.Trail
import RuleProbe.Sandbox

/-!
# What becomes of puts

A script that has a value has told the host what it has put: each key that it has put has the
last copy put under it, and all other keys have the values that they had.  While it runs, a get
returns what was put last, or else what the store had.
-/

namespace RuleProbe

/-!
## Reading the puts back

When a script has ended the host writes the puts as a JSON text by a script of its own, and
reads the text.
-/

namespace Script

open Property

variable {machine after : Machine} {places : Places} {held noted : Json.Members}

/-- The script that writes the puts. -/
theorem read?_readBack :
    read? (("JSON.stringify(" : Text) ++ ("__puts" : Text) ++ (")" : Text)) =
      some (callProgram "JSON" "stringify" ["__puts"]) :=
  read?_eq_callProgram (by decide +kernel)

/-- The function that writes JSON texts is where scripts find it, and the puts are as well. -/
structure Readable (machine : Machine) (places : Places) (space function : Nat) : Prop where
  callable : Callable machine "JSON" "stringify" ["__puts"] space function [.object places.puts]
  kind : (machine.object function).kind = .native .json "stringify"

/-! ### The puts -/

/-- What the object of the puts stands for. -/
theorem Keeps.mirrors_puts (keeps : Keeps machine places held noted) :
    Mirrors machine (fun _ => True) (.obj noted) (.object places.puts) := by
  obtain ⟨props, there, inside⟩ := keeps.puts
  refine mirrors_obj.mpr ⟨_, props, rfl, trivial, there, inside.imp fun member entry mirrored => ?_⟩
  exact mirrored.imp fun _ mirrors => mirrors.mono fun _ _ _ => trivial

/-- The host reads the text of the puts. -/
theorem Keeps.returns_readBack
    (keeps : Keeps machine places held noted)
    {space function : Nat}
    (readable : Readable machine places space function)
    {result : Sandbox.Result}
    (ran : Returns (Sandbox.readBack "__puts") machine result after) :
    result = Sandbox.textResult (Units.ofText (jsonText (.obj noted))) := by
  simp only [Sandbox.readBack, Session.runText, read?_readBack, returns_bind] at ran
  obtain ⟨text, between, ran, ended⟩ := ran
  obtain ⟨depth, called, call, -⟩ := readable.callable.returns_callProgram ran
  have alone : LeavesAlone places machine { machine with completion := .undefined } :=
    .of_objects keeps.standing rfl
  have spent := (keeps.leavesAlone alone).spent
  have kind : (({ machine with completion := .undefined } : Machine).object function).kind =
      .native .json "stringify" := readable.kind
  have stringify := returns_call_native kind call
  obtain ⟨rfl, -⟩ := spent.returns_stringifyJson spent.mirrors_puts stringify
  exact (returns_pure.mp ended).1

/-- What the host reads is the puts, as their JSON text gives them. -/
theorem Keeps.readBack_eq
    (keeps : Keeps machine places held noted)
    {space function : Nat}
    (readable : Readable machine places space function)
    {json : Json}
    (ran : Returns (Sandbox.readBack "__puts") machine (.json json) after) :
    json = reread (.obj noted) := by
  have text := keeps.returns_readBack readable ran
  rw [Sandbox.textResult, Units.toText_ofText] at text
  split at text
  case h_1 got read =>
    cases text
    exact read_jsonText read
  case h_2 => cases text

end Script

namespace Sandbox

/-- A script that has a value has put members. -/
theorem exists_hasPut_of_value
    {timeout : Float}
    {source : Text}
    {bindings : Bindings}
    {store after : Json.Members}
    {value : Json}
    {logged : List Text}
    (given : (codeOf source bindings).isEmpty = false)
    (ran : run timeout source bindings store = .ok ⟨.value value, after, logged⟩) :
    ∃ puts, HasPut store bindings source puts ∧ after = Keyed.update store puts := by
  unfold run at ran
  simp only [given, Bool.false_eq_true, if_false] at ran
  split at ran
  case h_1 => cases ran
  case h_2 => cases ran
  case h_3 found machine evaluated =>
    unfold writeBack takeOver at ran
    split at ran
    case h_1 => cases ran
    case h_2 => cases ran
    case h_3 puts between read =>
      refine ⟨puts, ⟨found, machine, between, evaluated, read⟩, ?_⟩
      rw [← readLogs_store timeout found (Keyed.update store puts) between, Except.ok.inj ran]
    case h_4 => cases ran

end Sandbox

namespace Script

open Property

variable {places : Places} {store : Json.Members} {deeds : List Deed}

/-! ## Names of the functions of the host -/

/-- A provided function. -/
def isProvided (machine : Machine) (library : Library) (name : String) (function : Nat) : Bool :=
  match (machine.object function).kind with
  | .native found other => found == library && other == name
  | _ => false

theorem kind_of_isProvided
    {machine : Machine}
    {library : Library}
    {name : String}
    {function : Nat}
    (provided : isProvided machine library name function = true) :
    (machine.object function).kind = .native library name := by
  unfold isProvided at provided
  split at provided
  case h_1 kind =>
    rw [Bool.and_eq_true, beq_iff_eq, beq_iff_eq] at provided
    rw [kind, provided.1, provided.2]
  case h_2 => cases provided

/-- A script finds a function of the host under a name, or under a name in an object. -/
def findsHost (machine : Machine) (name : String) (place : Option String × String) : Bool :=
  match place with
  | (some object, key) =>
      (calledAt? machine object key).any fun found => isProvided machine .host name found.2
  | (none, key) =>
      match shownAt? machine key with
      | some (.object function) => isProvided machine .host name function
      | _ => false

/-- Where scripts find the function that puts. -/
def putPlaces : List (Option String × String) :=
  [(some "java", "put"), (some "source", "put"), (some "cache", "put"), (none, "put"),
   (none, "Put")]

/-- Where scripts find the function that gets. -/
def getPlaces : List (Option String × String) :=
  [(some "java", "get"), (some "java", "getVar"), (some "source", "get"), (some "cache", "get"),
   (none, "get"), (none, "Get")]

/-- Scripts find the functions that put and get under all their names. -/
theorem findsHost_hostMachine :
    (putPlaces.all (findsHost Library.hostMachine "put") &&
      getPlaces.all (findsHost Library.hostMachine "get")) = true := by
  decide +kernel

/-! ## Runs -/

/-- The last value put under a key. -/
def lastPut? (deeds : List Deed) (key : Text) : Option Json :=
  Keyed.get? (putsOf deeds).reverse key

/-- A run of a script goes through deeds. -/
inductive Course (source : Text) (bindings : Sandbox.Bindings) (store : Json.Members)
    (places : Places) : List Deed → Prop where
  /-- There is nothing to run. -/
  | idle (empty : (Sandbox.codeOf source bindings).isEmpty = true) :
      Course source bindings store places []
  /-- The script puts and gets after the host has shown it the store, and in the end the host can
  read the puts. -/
  | script {started ended : Machine} {result : Sandbox.Result} {deeds : List Deed}
      {space function : Nat}
      (given : (Sandbox.codeOf source bindings).isEmpty = false)
      (installed : Returns (Sandbox.install store bindings) Library.hostMachine () started)
      (store_named : hostValue? started "__store" = some (.object places.store))
      (puts_named : hostValue? started "__puts" = some (.object places.puts))
      (history : History places started deeds ended)
      (evaluated : Returns (Sandbox.evaluate store bindings (Sandbox.codeOf source bindings))
        Library.hostMachine result ended)
      (readable : Readable ended places space function) :
      Course source bindings store places deeds

/-- The host shows the store under the places where its variables lead. -/
theorem keeps_of_installed
    {bindings : Sandbox.Bindings}
    {started : Machine}
    (ordinary : Json.Named (fun name => name ≠ "__proto__") (.obj store))
    (free : ∀ name ∈ Keyed.keys bindings.extra, name ≠ "__store" ∧ name ≠ "__puts")
    (installed : Returns (Sandbox.install store bindings) Library.hostMachine () started)
    (store_named : hostValue? started "__store" = some (.object places.store))
    (puts_named : hostValue? started "__puts" = some (.object places.puts)) :
    Keeps started places store [] := by
  obtain ⟨found, keeps⟩ := returns_install ordinary free installed
  have sameStore := store_named.symm.trans keeps.standing.store_named
  have samePuts := puts_named.symm.trans keeps.standing.puts_named
  obtain ⟨one, two, differ, storeLate, putsLate⟩ := places
  obtain ⟨three, four, _, _, _⟩ := found
  cases sameStore
  cases samePuts
  exact keeps

/-- The puts, as the host reads them, have the last value put under each key. -/
theorem get?_of_reread_puts
    {puts : Json.Members}
    (read : .obj puts = reread (.obj (Keyed.update [] (putsOf deeds))))
    (key : Text) :
    Keyed.get? puts.reverse key = (lastPut? deeds key).map reread := by
  rw [reread_obj] at read
  injection read with same
  have listing := arranged_map reread (Keyed.update [] (putsOf deeds))
  have none : (Keyed.keys ([] : Json.Members)).Nodup := List.nodup_nil
  rw [same, ← listing, Keyed.get?_reverse_of_nodup (Keyed.nodup_keys_update none _),
    get?_update_arranged, Keyed.get?_map, Keyed.get?_update, lastPut?, Keyed.get?, Option.or_none]

/-- A library that puts a result under an address. -/
def noteBindings : Sandbox.Bindings where
  result := .str "v"
  baseUrl := "k"
  library := .str "java.put(baseUrl,result)"

/-- A variable leads to a text. -/
def showsText (machine : Machine) (name : String) (text : Text) : Bool :=
  match shownAt? machine name with
  | some (.string units) => units == Units.ofText text
  | _ => false

theorem shown_of_showsText
    {machine : Machine}
    {name : String}
    {text : Text}
    (shows : showsText machine name text = true) :
    Shown machine name (Value.ofText text) := by
  unfold showsText at shows
  split at shows
  case h_1 units found =>
    rw [beq_iff_eq] at shows
    rw [Value.ofText, ← shows]
    exact shown_of_shownAt? found
  case h_2 => cases shows

/-- A run returns, and leaves a machine on which something holds. -/
def holdsAfter {α : Type} (action : Run α) (machine : Machine) (holds : Machine → Bool) : Bool :=
  match action.run machine with
  | .ok _ after => holds after
  | .error _ _ => false

theorem of_holdsAfter
    {α : Type}
    {action : Run α}
    {machine after : Machine}
    {holds : Machine → Bool}
    {value : α}
    (checked : holdsAfter action machine holds = true)
    (ran : Returns action machine value after) :
    holds after = true := by
  have same : action.run machine = .ok value after := ran
  rwa [holdsAfter, same] at checked

/-- A store with a value under the address. -/
def noteStore : Json.Members := [("k", .str "u")]

/-- A script that gets under the address. -/
def noteSource : Text := "cache.get(baseUrl)"

/-- The library puts and the script gets, and the host can read the puts. -/
def noteStages : Bool :=
  holdsAfter (Sandbox.install noteStore noteBindings) Library.hostMachine fun started =>
    findsHost started "put" (some "java", "put") && showsText started "baseUrl" "k" &&
      showsText started "result" "v" &&
      holdsAfter (Session.runText (OldSyntax.modernize "java.put(baseUrl,result)")) started
        fun noted =>
          findsHost noted "get" (some "cache", "get") && showsText noted "baseUrl" "k" &&
            holdsAfter (Session.runText (Sandbox.codeOf noteSource noteBindings)) noted
              fun ended =>
                (calledAt? ended "JSON" "stringify").any
                    (fun found => isProvided ended .json "stringify" found.2) &&
                  (Variable.find? ended "__puts" (ended.scopes.size + 1) 0).isNone

/-- A run has a value, and leaves a store. -/
def endsWith (ran : Except Defect Sandbox.Ended) (ends : Json → Json.Members → Bool) : Bool :=
  match ran with
  | .ok ⟨.value value, after, _⟩ => ends value after
  | _ => false

theorem exists_of_endsWith
    {ran : Except Defect Sandbox.Ended}
    {ends : Json → Json.Members → Bool}
    (checked : endsWith ran ends = true) :
    ∃ value after logged, ran = .ok ⟨.value value, after, logged⟩ ∧ ends value after = true := by
  unfold endsWith at checked
  split at checked
  case h_1 value after logged => exact ⟨value, after, logged, rfl, checked⟩
  case h_2 => cases checked

theorem noteStages_pass :
    (noteStages && endsWith (Sandbox.run Sandbox.defaultTimeout noteSource noteBindings noteStore)
      fun _ _ => true) = true := by
  decide +kernel

theorem exists_of_findsHost
    {machine : Machine}
    {name object key : String}
    (finds : findsHost machine name (some object, key) = true) :
    ∃ space function, calledAt? machine object key = some (space, function) ∧
      (machine.object function).kind = .native .host name := by
  obtain ⟨⟨space, function⟩, found, provided⟩ := Option.any_eq_true _ _ |>.mp finds
  exact ⟨space, function, found, kind_of_isProvided provided⟩

theorem given_note : (Sandbox.codeOf noteSource noteBindings).isEmpty = false := by
  decide +kernel

theorem read?_noteLibrary :
    read? (OldSyntax.modernize "java.put(baseUrl,result)") =
      some (callProgram "java" "put" ["baseUrl", "result"]) :=
  read?_eq_callProgram (by decide +kernel)

theorem read?_noteSource :
    read? (Sandbox.codeOf noteSource noteBindings) =
      some (callProgram "cache" "get" ["baseUrl"]) :=
  read?_eq_callProgram (by decide +kernel)

theorem ordinary_note : Json.Named (fun name => name ≠ "__proto__") (.obj noteStore) := by
  rw [Json.named_obj]
  intro member inside
  obtain rfl := List.mem_singleton.mp inside
  exact ⟨by decide, trivial⟩

theorem free_note :
    ∀ name ∈ Keyed.keys noteBindings.extra, name ≠ "__store" ∧ name ≠ "__puts" := by
  simp [noteBindings, Keyed.keys]

/-- The run in full. -/
theorem exists_course_note
    {machine : Machine}
    {result : Sandbox.Result}
    (evaluated : Returns (Sandbox.evaluate noteStore noteBindings
      (Sandbox.codeOf noteSource noteBindings)) Library.hostMachine result machine) :
    ∃ places found called, Course noteSource noteBindings noteStore places
      [.put "k" (.str "v"), .get "k" found called] := by
  have goes := (Bool.and_eq_true _ _ |>.mp noteStages_pass).1
  have whole := evaluated
  rw [Sandbox.evaluate, returns_bind] at evaluated
  obtain ⟨⟨⟩, started, installed, evaluated⟩ := evaluated
  obtain ⟨places, shown⟩ := returns_install ordinary_note free_note installed
  have begun := of_holdsAfter goes installed
  simp only [Bool.and_eq_true] at begun
  obtain ⟨⟨⟨finds, key⟩, value⟩, begun⟩ := begun
  change Returns (do
    let _ ← Session.runText (OldSyntax.modernize "java.put(baseUrl,result)")
    let found ← Session.runText (Sandbox.codeOf noteSource noteBindings)
    Sandbox.resultOf found) started result machine at evaluated
  simp only [returns_bind] at evaluated
  obtain ⟨_, noted, library, found, ended, source, last⟩ := evaluated
  -- The library puts.
  have between := of_holdsAfter begun library
  rw [Session.runText, read?_noteLibrary] at library
  obtain ⟨space, put, called, kind⟩ := exists_of_findsHost finds
  have callable : Callable started "java" "put" ["baseUrl", "result"] space put
      [Value.ofText "k", Value.ofText "v"] :=
    callable_of_calledAt? called
      (.cons (shown_of_showsText key) (.cons (shown_of_showsText value) .nil))
  have mirrors : Mirrors started (fun _ => True) (.str "v") (Value.ofText "v") := rfl
  have first := callable.history_put kind shown (by decide) mirrors library
  have keeps := (shown.after_history first (by simp [Ordinary])).1
  -- The script gets.
  simp only [Bool.and_eq_true] at between
  obtain ⟨⟨finds, key⟩, between⟩ := between
  have behind := of_holdsAfter between source
  rw [Session.runText, read?_noteSource] at source
  obtain ⟨space, get, called, kind⟩ := exists_of_findsHost finds
  have callable : Callable noted "cache" "get" ["baseUrl"] space get [Value.ofText "k"] :=
    callable_of_calledAt? called (.cons (shown_of_showsText key) .nil)
  obtain ⟨middle, second, -⟩ := callable.history_get kind keeps source
  obtain ⟨keeps, answers, -⟩ := keeps.after_history second (by simp [Ordinary])
  have same : found = Value.ofText "v" := answers
  rw [same] at last
  obtain ⟨-, rfl⟩ := returns_pure.mp last
  -- The host reads.
  simp only [Bool.and_eq_true, Option.isNone_iff_eq_none] at behind
  obtain ⟨⟨space, function⟩, called, provided⟩ := Option.any_eq_true _ _ |>.mp behind.1
  have puts : Shown machine "__puts" (.object places.puts) :=
    ⟨behind.2, keeps.standing.puts_named⟩
  have json := callable_of_calledAt? called (.cons puts .nil)
  exact ⟨places, found, middle, .script given_note installed shown.standing.store_named
    shown.standing.puts_named (first.append second) whole ⟨json, kind_of_isProvided provided⟩⟩

/-- A script puts a text under the key that stands for what an object inherits from, and gets
it. -/
def prototypeSource : Text := "java.put('__proto__','v'); java.get('__proto__')"

/-- A script changes what it gets after it has put it. -/
def sharedSource : Text := "java.put('k',\x7ba:'b'\x7d); java.get('k').a = 'c'"

theorem sources_end :
    (endsWith (Sandbox.run Sandbox.defaultTimeout prototypeSource {} []) (fun value after =>
        value matches .null && after.isEmpty) &&
      endsWith (Sandbox.run Sandbox.defaultTimeout sharedSource {} []) fun _ after =>
        after matches [(['k'], .obj [(['a'], .str ['c'])])]) = true := by
  decide +kernel

end Script

end RuleProbe
