import RuleProbe.Proofs.Script.Store
import RuleProbe.Sandbox

/-!
# The start of a run

Before a script runs the host shows it the store and further values under variables of their
own.  Then the store is what it was given as, and nothing has been put.
-/

namespace RuleProbe

namespace Script

open Property

variable {machine after : Machine} {places : Places} {held noted store : Json.Members}

/-! ## Properties of the object of variables -/

theorem find?_bindProp (props : Array (Units × Slot)) (key : Units) (slot : Slot)
    (other : Units) :
    ((bindProp props key slot).find? fun entry => entry.1 == other) =
      if key = other then some (key, slot) else props.find? fun entry => entry.1 == other := by
  obtain ⟨props⟩ := props
  rw [← Array.find?_toList, ← Array.find?_toList]
  simp only
  induction props with
  | nil =>
      rw [bindProp_nil]
      by_cases same : key = other <;> simp [same]
  | cons entry rest ih =>
      rw [toList_bindProp_cons]
      by_cases bound : entry.1 = key
      · subst bound
        by_cases same : entry.1 = other <;> simp [same]
      · rw [if_neg (by simpa using bound)]
        by_cases here : entry.1 = other
        · subst here
          simp [Ne.symm bound]
        · rw [List.find?_cons_of_neg (by simpa using here), ih,
            List.find?_cons_of_neg (by simpa using here)]

theorem own?_putSlot
    {obj : Obj}
    (plain : obj.kind = .plain)
    (key : Units)
    (slot : Slot)
    (other : Units) :
    own? (putSlot obj key slot) other = if key = other then some slot else own? obj other := by
  rw [putSlot_eq, own?_of_plain plain, own?_of_plain (by exact plain), find?_bindProp]
  split <;> rfl

theorem object_modifyObject
    {ref : Nat}
    (there : ref < machine.objects.size)
    (change : Obj → Obj)
    (other : Nat) :
    (machine.modifyObject ref change).object other =
      if ref = other then change (machine.object ref) else machine.object other := by
  rw [Machine.object, getElem?_modifyObject]
  split
  case isTrue same =>
    subst same
    simp [Machine.object, there]
  case isFalse => rfl

/-! ## Variables -/

/-- The store and the puts are what they stand for, and variables are plain properties. -/
structure Prepared (machine : Machine) (places : Places) (store : Json.Members) : Prop where
  keeps : Keeps machine places store []
  plain : (machine.object Intrinsic.global.ref).kind = .plain

theorem Prepared.enough (prepared : Prepared machine places store) :
    Intrinsic.evalError.ref < machine.objects.size :=
  Nat.lt_trans places.store_late prepared.keeps.store.lt_size

theorem Prepared.grows
    (prepared : Prepared machine places store)
    (grows : Grows machine after) :
    Prepared after places store where
  keeps := prepared.keeps.grows grows
  plain := by
    rw [grows.object (Nat.lt_of_le_of_lt (by decide) prepared.enough)]
    exact prepared.plain

theorem isCallable_modifyObject
    {ref : Nat}
    {change : Obj → Obj}
    (kind : ∀ obj, (change obj).kind = obj.kind)
    (value : Value) :
    isCallable (machine.modifyObject ref change) value = isCallable machine value := by
  cases value with
  | object other =>
      have same : ((machine.modifyObject ref change).object other).kind =
          (machine.object other).kind := by
        rw [Machine.object, getElem?_modifyObject, Machine.object]
        split
        case isTrue => cases machine.objects[other]? <;> simp [kind]
        case isFalse => rfl
      rw [isCallable, same, isCallable]
  | _ => rfl

section

variable {name : Text} {slot : Slot}

/-- A machine whose object of variables has one more or another one. -/
def Machine.bind (machine : Machine) (name : Text) (slot : Slot) : Machine :=
  machine.modifyObject Intrinsic.global.ref fun obj => putSlot obj (Units.ofText name) slot

/-- A variable leads to what it is bound to, and all others to what they led to before. -/
theorem hostValue?_bind
    (there : Intrinsic.global.ref < machine.objects.size)
    (plain : (machine.object Intrinsic.global.ref).kind = .plain)
    (other : String) :
    hostValue? (machine.bind name slot) other =
      if name = other.toList then some slot.value else hostValue? machine other := by
  rw [hostValue?, Machine.bind, object_modifyObject there, if_pos rfl, own?_putSlot plain]
  by_cases same : name = other.toList
  · subst same
    simp [Units.ofName]
  · have different : Units.ofText name ≠ Units.ofName other := fun equal =>
      same (Units.ofText_injective equal)
    rw [if_neg different, if_neg same, hostValue?]

theorem object_bind
    (there : Intrinsic.global.ref < machine.objects.size)
    {ref : Nat}
    (other : Intrinsic.global.ref ≠ ref) :
    (machine.bind name slot).object ref = machine.object ref := by
  rw [Machine.bind, object_modifyObject there, if_neg other]

theorem isCallable_bind (value : Value) :
    isCallable (machine.bind name slot) value = isCallable machine value :=
  isCallable_modifyObject (fun obj => by rw [putSlot_eq]) value

/-- A variable changes no object that did not exist from the beginning. -/
theorem getElem?_bind {ref : Nat} (late : Intrinsic.evalError.ref < ref) :
    (machine.bind name slot).objects[ref]? = machine.objects[ref]? := by
  rw [Machine.bind, getElem?_modifyObject, if_neg]
  have before : Intrinsic.global.ref < Intrinsic.evalError.ref := by decide
  exact Nat.ne_of_lt (Nat.lt_trans before late)

/-- Another variable does not matter to the store and the puts. -/
theorem Prepared.bind
    (prepared : Prepared machine places store)
    (notStore : name ≠ "__store")
    (notPuts : name ≠ "__puts") :
    Prepared (machine.bind name slot) places store := by
  have there : Intrinsic.global.ref < machine.objects.size :=
    Nat.lt_of_le_of_lt (by decide) prepared.enough
  have keeps := prepared.keeps
  refine ⟨⟨?_, ?_, ?_⟩, ?_⟩
  · refine keeps.standing.of_same (object_bind there (by decide)) (object_bind there (by decide))
      ?_ ?_ fun value plain => (isCallable_bind value).trans plain
    · rw [hostValue?_bind there prepared.plain, if_neg notStore]
    · rw [hostValue?_bind there prepared.plain, if_neg notPuts]
  · exact keeps.store.frame fun _ reaches =>
      getElem?_bind (keeps.store.of_reaches places.store_late reaches).1
  · exact keeps.puts.frame fun _ reaches =>
      getElem?_bind (keeps.puts.of_reaches places.puts_late reaches).1
  · rw [Machine.bind, object_modifyObject there, if_pos rfl, putSlot_eq]
    exact prepared.plain

end

theorem isData_literalObject (props : Array (Units × Slot)) :
    (Library.literalObject props).isData = true := rfl

/-- A variable is declared or assigned to, unless it cannot be. -/
theorem returns_assign
    (plain : (machine.object Intrinsic.global.ref).kind = .plain)
    (enough : Intrinsic.global.ref < machine.objects.size)
    {name : Text}
    {value : Json}
    {done : Unit}
    (ran : Returns (Sandbox.assign name value) machine done after) :
    ∃ found grown, Returns (Library.ofJson Library.literalObject value) machine found grown ∧
      ((∃ slot, after = grown.bind name slot ∧ slot.value = found) ∨
        (after = grown ∧ (own? (machine.object Intrinsic.global.ref)
          (Units.ofText name)).isSome = true)) := by
  simp only [Sandbox.assign, returns_bind, returns_object] at ran
  obtain ⟨found, grown, made, _, _, ⟨rfl, rfl⟩, ran⟩ := ran
  refine ⟨found, _, made, ?_⟩
  have grows := (ofJson_made isData_literalObject makesPlain_literalObject value made).1
  have global := grows.object enough
  rw [global] at ran
  cases bound : own? (machine.object Intrinsic.global.ref) (Units.ofText name) with
  | none =>
      rw [bound] at ran
      simp only [define, returns_bind, returns_object] at ran
      obtain ⟨_, _, ⟨rfl, rfl⟩, ran⟩ := ran
      rw [global, plain] at ran
      simp only [returns_modifyObject] at ran
      exact .inl ⟨_, ran, rfl⟩
  | some slot =>
      rw [bound] at ran
      simp only [setOn, returns_bind, returns_getState] at ran
      obtain ⟨_, _, ⟨rfl, rfl⟩, ran⟩ := ran
      rw [global, bound] at ran
      simp only [plain] at ran
      split at ran
      case isTrue =>
        simp only [refuse, Bool.false_eq_true, if_false] at ran
        exact .inr ⟨(returns_pure.mp ran).2, rfl⟩
      case isFalse =>
        simp only [returns_modifyObject] at ran
        exact .inl ⟨_, ran, rfl⟩

/-! ## The machine of the host -/

/-- Before the host shows a script anything, nothing is in the way of its functions, and nothing
has been put. -/
structure Fresh (machine : Machine) : Prop where
  root : (machine.object Intrinsic.objectPrototype.ref).proto = none
  arrays : (machine.object Intrinsic.arrayPrototype.ref).proto =
    some Intrinsic.objectPrototype.ref
  objects_quiet : own? (machine.object Intrinsic.objectPrototype.ref) (Units.ofName "toJSON") =
    none
  arrays_quiet : own? (machine.object Intrinsic.arrayPrototype.ref) (Units.ofName "toJSON") = none
  writable : ∀ key slot,
    own? (machine.object Intrinsic.objectPrototype.ref) key = some slot → slot.writable = true
  plain : (machine.object Intrinsic.global.ref).kind = .plain
  unnamed : own? (machine.object Intrinsic.global.ref) (Units.ofName "__store") = none
  puts : ∃ ref, hostValue? machine "__puts" = some (.object ref) ∧
    Intrinsic.evalError.ref < ref ∧ machine.objects[ref]? = some (Library.plainObject #[])

/-- An object is an ordinary one. -/
def Obj.isPlain (obj : Obj) : Bool := obj.kind matches .plain

/-- An object is an ordinary one without properties. -/
def Obj.isEmpty (obj : Obj) : Bool :=
  obj.isPlain && obj.proto == some Intrinsic.objectPrototype.ref && obj.props.isEmpty &&
    obj.extensible

theorem kind_of_isPlain {obj : Obj} (plain : obj.isPlain = true) : obj.kind = .plain := by
  unfold Obj.isPlain at plain
  split at plain
  case h_1 same => exact same
  case h_2 => cases plain

theorem eq_plainObject_of_isEmpty {obj : Obj} (empty : obj.isEmpty = true) :
    obj = Library.plainObject #[] := by
  obtain ⟨proto, kind, props, extensible⟩ := obj
  simp only [Obj.isEmpty, Bool.and_eq_true, beq_iff_eq, Array.isEmpty_iff] at empty
  obtain ⟨⟨⟨plain, rfl⟩, rfl⟩, rfl⟩ := empty
  rw [show kind = .plain from kind_of_isPlain plain]
  rfl

/-- The puts of a machine are an object without properties. -/
def hasPuts (machine : Machine) : Bool :=
  match hostValue? machine "__puts" with
  | some (.object ref) =>
      decide (Intrinsic.evalError.ref < ref) && machine.objects[ref]?.any Obj.isEmpty
  | _ => false

/-- A machine is as it is before the host shows a script anything. -/
def isFresh (machine : Machine) : Bool :=
  let global := machine.object Intrinsic.global.ref
  let objects := machine.object Intrinsic.objectPrototype.ref
  let arrays := machine.object Intrinsic.arrayPrototype.ref
  objects.proto.isNone && arrays.proto == some Intrinsic.objectPrototype.ref &&
    (own? objects (Units.ofName "toJSON")).isNone &&
    (own? arrays (Units.ofName "toJSON")).isNone && objects.isPlain &&
    objects.props.all (fun entry => entry.2.writable) && global.isPlain &&
    (own? global (Units.ofName "__store")).isNone && hasPuts machine

theorem fresh_of_isFresh (fresh : isFresh machine = true) : Fresh machine := by
  simp only [isFresh, Bool.and_eq_true, Option.isNone_iff_eq_none, beq_iff_eq] at fresh
  obtain ⟨⟨⟨⟨⟨⟨⟨⟨root, arrays⟩, objectsQuiet⟩, arraysQuiet⟩, plain⟩, writable⟩, shown⟩,
    unnamed⟩, puts⟩ := fresh
  refine ⟨root, arrays, objectsQuiet, arraysQuiet, fun key slot found => ?_,
    kind_of_isPlain shown, unnamed, ?_⟩
  · rw [own?_of_plain (kind_of_isPlain plain)] at found
    obtain ⟨entry, there, rfl⟩ := Option.map_eq_some_iff.mp found
    exact Array.all_eq_true_iff_forall_mem.mp writable entry (Array.mem_of_find?_eq_some there)
  · unfold hasPuts at puts
    split at puts
    case h_1 ref named =>
      rw [Bool.and_eq_true, decide_eq_true_eq] at puts
      obtain ⟨late, empty⟩ := puts
      cases there : machine.objects[ref]? with
      | none => simp [there] at empty
      | some obj =>
          rw [there] at empty
          exact ⟨ref, named, late, by rw [there, eq_plainObject_of_isEmpty empty]⟩
    case h_2 => cases puts

theorem fresh_hostMachine : Fresh Library.hostMachine := fresh_of_isFresh (by decide +kernel)

/-! ## Showing the values -/

theorem Fresh.enough (fresh : Fresh machine) : Intrinsic.evalError.ref < machine.objects.size := by
  obtain ⟨ref, -, late, empty⟩ := fresh.puts
  exact Nat.lt_trans late (Array.getElem?_eq_some_iff.mp empty).1

theorem Fresh.grows (fresh : Fresh machine) (grows : Grows machine after) : Fresh after := by
  have same (intrinsic : Intrinsic) : after.object intrinsic.ref = machine.object intrinsic.ref :=
    grows.object (Nat.lt_of_le_of_lt (by cases intrinsic <;> decide) fresh.enough)
  obtain ⟨puts, named, late, empty⟩ := fresh.puts
  constructor
  · rw [same, fresh.root]
  · rw [same, fresh.arrays]
  · rw [same, fresh.objects_quiet]
  · rw [same, fresh.arrays_quiet]
  · rw [same]
    exact fresh.writable
  · rw [same, fresh.plain]
  · rw [same, fresh.unnamed]
  · refine ⟨puts, ?_, late, ?_⟩
    · rw [hostValue?, same]
      exact named
    · rw [grows.getElem? (Array.getElem?_eq_some_iff.mp empty).1, empty]

/-- Once the variable of the store leads to an object, the functions of the host find it. -/
theorem Fresh.standing
    (fresh : Fresh machine)
    (there : Intrinsic.global.ref < machine.objects.size)
    {slot : Slot}
    (store : slot.value = .object places.store)
    (puts : hostValue? machine "__puts" = some (.object places.puts)) :
    Standing (machine.bind "__store" slot) places := by
  have objects : (machine.bind "__store" slot).object Intrinsic.objectPrototype.ref =
      machine.object Intrinsic.objectPrototype.ref := object_bind there (by decide)
  have arrays : (machine.bind "__store" slot).object Intrinsic.arrayPrototype.ref =
      machine.object Intrinsic.arrayPrototype.ref := object_bind there (by decide)
  constructor
  · constructor
    · rw [objects, fresh.root]
    · rw [arrays, fresh.arrays]
    · intro other found
      rw [objects, fresh.objects_quiet] at found
      cases found
    · intro other found
      rw [arrays, fresh.arrays_quiet] at found
      cases found
  · rw [hostValue?_bind there fresh.plain, if_pos rfl, store]
  · rw [hostValue?_bind there fresh.plain, if_neg (by decide), puts]
  · rw [objects]
    exact fresh.writable

/-- The store, shown to a script under its variable, is what it was given as. -/
theorem Fresh.prepared
    (fresh : Fresh machine)
    (ordinary : Json.Named (fun name => name ≠ "__proto__") (.obj store))
    {slot : Slot}
    {grown : Machine}
    (made : Returns (Library.ofJson Library.literalObject (.obj store)) machine slot.value grown) :
    ∃ places, Prepared (grown.bind "__store" slot) places store := by
  have enough := fresh.enough
  obtain ⟨puts, named, late, empty⟩ := fresh.puts
  have old : puts < machine.objects.size := (Array.getElem?_eq_some_iff.mp empty).1
  obtain ⟨between, props, grows, value, last, mirrors⟩ := ofJson_obj_made makesPlain_literalObject
    (fun member _ => ofJson_made isData_literalObject makesPlain_literalObject member.2) made
  obtain ⟨asPlain, inside⟩ := mirrors ordinary
  rw [asPlain] at last
  have bigger := grows.size_le
  have further : Grows between grown := last ▸ .add between rfl
  have larger := (grows.trans further).size_le
  have freshly := fresh.grows (grows.trans further)
  let places : Places :=
    { store := between.objects.size
      puts
      differ := by omega
      store_late := by omega
      puts_late := late }
  have there : Intrinsic.global.ref < grown.objects.size :=
    Nat.lt_of_lt_of_le (Nat.lt_of_le_of_lt (by decide) enough) larger
  refine ⟨places, ⟨freshly.standing there value ?_, ⟨props, ?_, ?_⟩, ⟨#[], ?_, .nil⟩⟩, ?_⟩
  · rw [hostValue?, (grows.trans further).object (Nat.lt_of_le_of_lt (by decide) enough)]
    exact named
  · rw [getElem?_bind places.store_late, last]
    exact getElem?_add between _
  · -- What is inside the store was made before the object that holds it.
    refine inside.imp fun member entry mirrored => mirrored.imp fun inner mirrors => ?_
    refine (mirrors.mono fun ref within new => ?_).frame fun ref reaches => ?_
    · exact ⟨by omega, by simp only [places]; omega, by simp only [places]; omega⟩
    · obtain ⟨new, within⟩ := mirrors.of_reaches reaches
      rw [getElem?_bind (Nat.lt_of_lt_of_le enough new), further.getElem? within]
  · rw [getElem?_bind late, (grows.trans further).getElem? old, empty]
  · rw [Machine.bind, object_modifyObject there, if_pos rfl, putSlot_eq]
    exact freshly.plain

/-- The values that a script sees begin with the store; none of the others has its variable or
that of the puts. -/
theorem assignments_eq
    (store : Json.Members)
    {bindings : Sandbox.Bindings}
    (free : ∀ name ∈ Keyed.keys bindings.extra, name ≠ "__store" ∧ name ≠ "__puts") :
    ∃ rest : Json.Members,
      Sandbox.assignments store bindings = (("__store" : Text), .obj store) :: rest ∧
        ∀ entry ∈ rest, entry.1 ≠ "__store" ∧ entry.1 ≠ "__puts" := by
  refine ⟨_, Keyed.update_cons_of_notMem (fun listed => (free _ listed).1 rfl) _, ?_⟩
  intro entry member
  rcases Keyed.mem_update member with given | further
  · simp only [List.mem_cons, List.not_mem_nil, or_false] at given
    rcases given with rfl | rfl | rfl | rfl | rfl <;> (dsimp only; decide)
  · exact free _ (List.mem_map_of_mem further)

/-- Further values do not matter to the store and the puts. -/
theorem Prepared.returns_assignAll
    {entries : Json.Members}
    (prepared : Prepared machine places store)
    (others : ∀ entry ∈ entries, entry.1 ≠ "__store" ∧ entry.1 ≠ "__puts")
    {done : PUnit}
    (ran : Returns (entries.forM fun entry => Sandbox.assign entry.1 entry.2) machine done after) :
    Prepared after places store := by
  induction entries generalizing machine with
  | nil =>
      obtain ⟨-, rfl⟩ := returns_pure.mp ran
      exact prepared
  | cons entry rest ih =>
      rw [List.forM, returns_bind] at ran
      obtain ⟨_, between, first, ran⟩ := ran
      refine ih ?_ (fun other member => others other (List.mem_cons_of_mem _ member)) ran
      obtain ⟨notStore, notPuts⟩ := others entry List.mem_cons_self
      obtain ⟨found, grown, made, bound⟩ := returns_assign prepared.plain
        (Nat.lt_of_le_of_lt (by decide) prepared.enough) first
      have still := prepared.grows
        (ofJson_made isData_literalObject makesPlain_literalObject _ made).1
      rcases bound with ⟨slot, rfl, -⟩ | ⟨rfl, -⟩
      · exact still.bind notStore notPuts
      · exact still

/-- After the host has shown a script what it can see, the store is what it was given as, and
nothing has been put. -/
theorem returns_install
    {bindings : Sandbox.Bindings}
    (ordinary : Json.Named (fun name => name ≠ "__proto__") (.obj store))
    (free : ∀ name ∈ Keyed.keys bindings.extra, name ≠ "__store" ∧ name ≠ "__puts")
    {done : Unit}
    (ran : Returns (Sandbox.install store bindings) Library.hostMachine done after) :
    ∃ places, Keeps after places store [] := by
  obtain ⟨rest, shape, others⟩ := assignments_eq store free
  have fresh := fresh_hostMachine
  simp only [Sandbox.install, shape] at ran
  split at ran
  case isTrue => simp at ran
  case isFalse =>
    rw [List.forM, returns_bind] at ran
    obtain ⟨_, between, first, ran⟩ := ran
    obtain ⟨found, grown, made, bound⟩ := returns_assign fresh.plain
      (Nat.lt_of_le_of_lt (by decide) fresh.enough) first
    rcases bound with ⟨slot, rfl, rfl⟩ | ⟨-, named⟩
    · obtain ⟨places, prepared⟩ := fresh.prepared ordinary made
      exact ⟨places, (prepared.returns_assignAll others ran).keeps⟩
    · have unnamed := fresh.unnamed
      rw [Units.ofName] at unnamed
      rw [unnamed] at named
      cases named

end Script

end RuleProbe
