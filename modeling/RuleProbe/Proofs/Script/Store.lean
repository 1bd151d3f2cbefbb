import RuleProbe.Proofs.Script.Made
import RuleProbe.Proofs.Script.Stringify
import RuleProbe.Script.Library

/-!
# The store on the machine

The host keeps the variable store in one object and the puts of the script in another.  Both
mirror what they stand for as long as no object that they are made of changes, and a put binds
its key to the copy in both of them.
-/

namespace RuleProbe

namespace Script

open Property

/-- The value of a variable of the host. -/
def hostValue? (machine : Machine) (name : String) : Option Value :=
  (own? (machine.object Intrinsic.global.ref) (Units.ofName name)).map (·.value)

/-- Where the store and the puts are: two objects that did not exist from the beginning. -/
structure Places where
  /-- The object of the store. -/
  store : Nat
  /-- The object of the puts. -/
  puts : Nat
  differ : store ≠ puts
  store_late : Intrinsic.evalError.ref < store
  puts_late : Intrinsic.evalError.ref < puts

/-- The objects that values inside the store and the puts are made of: neither of these two, and
none that existed from the beginning. -/
def Places.Free (places : Places) (ref : Nat) : Prop :=
  Intrinsic.evalError.ref < ref ∧ ref ≠ places.store ∧ ref ≠ places.puts

/-- The functions of the host find the store and the puts, and write into them. -/
structure Standing (machine : Machine) (places : Places) : Prop where
  quiet : Quiet machine
  /-- The variable of the store leads to its object. -/
  store_named : hostValue? machine "__store" = some (.object places.store)
  /-- The variable of the puts leads to their object. -/
  puts_named : hostValue? machine "__puts" = some (.object places.puts)
  /-- No object inherits a property that cannot be written. -/
  writable : ∀ key slot,
    own? (machine.object Intrinsic.objectPrototype.ref) key = some slot → slot.writable = true

/-- An object has properties that mirror members, and nothing else. -/
def Stores (machine : Machine) (places : Places) (ref : Nat) (members : Json.Members) : Prop :=
  ∃ props, machine.objects[ref]? = some (Library.plainObject props) ∧
    List.Forall₂ (MirrorMember machine places.Free) members props.toList

/-- The store and the puts are what they stand for. -/
structure Keeps (machine : Machine) (places : Places) (held noted : Json.Members) : Prop where
  standing : Standing machine places
  store : Stores machine places places.store held
  puts : Stores machine places places.puts noted

variable {machine after : Machine} {places : Places} {held noted members : Json.Members}

/-! ## What leaves them alone -/

/-- Members are mirrored where the objects inside are the same. -/
theorem mirrorMembers_frame
    {free : Nat → Prop}
    {props : List (Units × Slot)}
    (mirrors : List.Forall₂ (MirrorMember machine free) members props)
    (same : ∀ entry ∈ props, ∀ ref, Reaches machine entry.2.value ref →
      after.objects[ref]? = machine.objects[ref]?) :
    List.Forall₂ (MirrorMember after free) members props := by
  refine forall₂_of_mem mirrors fun member _ entry holds mirrored => ?_
  obtain ⟨value, shape, mirrors⟩ := mirrorMember_iff.mp mirrored
  refine mirrorMember_iff.mpr ⟨value, shape, mirrors.frame fun ref reaches => ?_⟩
  exact same entry holds ref (by rw [shape]; exact reaches)

/-- The objects inside properties that mirror members are on the machine, and free. -/
theorem of_reaches_mirrored
    {free : Nat → Prop}
    {props : List (Units × Slot)}
    (mirrors : List.Forall₂ (MirrorMember machine free) members props)
    {entry : Units × Slot}
    (holds : entry ∈ props)
    {ref : Nat}
    (reaches : Reaches machine entry.2.value ref) :
    free ref ∧ ref < machine.objects.size := by
  obtain ⟨i, within, rfl⟩ := List.getElem_of_mem holds
  have bound : i < members.length := by rwa [mirrors.length_eq]
  obtain ⟨value, shape, mirrored⟩ := mirrorMember_iff.mp (mirrors.get bound within)
  simp only [List.get_eq_getElem] at shape
  rw [shape] at reaches
  exact mirrored.of_reaches reaches

theorem Stores.frame
    {ref : Nat}
    (stores : Stores machine places ref members)
    (same : ∀ inner, Reaches machine (.object ref) inner →
      after.objects[inner]? = machine.objects[inner]?) :
    Stores after places ref members := by
  obtain ⟨props, there, mirrors⟩ := stores
  refine ⟨props, (same ref (.here ref)).trans there, ?_⟩
  refine mirrorMembers_frame mirrors fun entry holds inner reaches => same inner ?_
  exact .inside there (mem_values_plainObject.mpr ⟨entry, holds, rfl⟩) reaches

/-- A run of anything else than puts leaves the store and the puts alone: whatever it does, it
changes no object that they are made of, and the functions of the host work as before. -/
structure LeavesAlone (places : Places) (before after : Machine) : Prop where
  standing : Standing after places
  same : ∀ ref, Reaches before (.object places.store) ref ∨
      Reaches before (.object places.puts) ref →
    after.objects[ref]? = before.objects[ref]?

theorem Keeps.leavesAlone
    (keeps : Keeps machine places held noted)
    (alone : LeavesAlone places machine after) :
    Keeps after places held noted where
  standing := alone.standing
  store := keeps.store.frame fun ref reaches => alone.same ref (.inl reaches)
  puts := keeps.puts.frame fun ref reaches => alone.same ref (.inr reaches)

/-- What the functions of the host depend on: two objects that others inherit from, the variables
of the store and the puts, and that what could not be called still cannot be called. -/
theorem Standing.of_same
    (standing : Standing machine places)
    (objects : after.object Intrinsic.objectPrototype.ref =
      machine.object Intrinsic.objectPrototype.ref)
    (arrays : after.object Intrinsic.arrayPrototype.ref =
      machine.object Intrinsic.arrayPrototype.ref)
    (store : hostValue? after "__store" = hostValue? machine "__store")
    (puts : hostValue? after "__puts" = hostValue? machine "__puts")
    (plain : ∀ value, isCallable machine value = false → isCallable after value = false) :
    Standing after places where
  quiet :=
    { root := by rw [objects]; exact standing.quiet.root
      arrays := by rw [arrays]; exact standing.quiet.arrays
      objects_quiet := fun slot found =>
        plain _ (standing.quiet.objects_quiet slot (by rw [← objects]; exact found))
      arrays_quiet := fun slot found =>
        plain _ (standing.quiet.arrays_quiet slot (by rw [← arrays]; exact found)) }
  store_named := store.trans standing.store_named
  puts_named := puts.trans standing.puts_named
  writable := fun key slot found => standing.writable key slot (by rw [← objects]; exact found)

/-- The functions of the host work by the objects of a machine alone. -/
theorem Standing.of_objects
    (standing : Standing machine places)
    (same : after.objects = machine.objects) :
    Standing after places := by
  have object (ref : Nat) : after.object ref = machine.object ref := by
    rw [Machine.object, Machine.object, same]
  have global (name : String) : hostValue? after name = hostValue? machine name := by
    rw [hostValue?, hostValue?, object]
  refine standing.of_same (object _) (object _) (global _) (global _) fun value plain => ?_
  cases value with
  | object ref => simpa [isCallable, object] using plain
  | _ => rfl

theorem LeavesAlone.of_objects
    (standing : Standing machine places)
    (same : after.objects = machine.objects) :
    LeavesAlone places machine after where
  standing := standing.of_objects same
  same := fun _ _ => by rw [same]

/-! ## New objects -/

theorem Grows.object
    (grows : Grows machine after)
    {ref : Nat}
    (there : ref < machine.objects.size) :
    after.object ref = machine.object ref := by
  rw [Machine.object, Machine.object, grows.getElem? there]

theorem Stores.lt_size {ref : Nat} (stores : Stores machine places ref members) :
    ref < machine.objects.size := by
  obtain ⟨props, there, -⟩ := stores
  exact (Array.getElem?_eq_some_iff.mp there).1

/-- What the store and the puts are made of is on the machine, and did not exist from the
beginning. -/
theorem Stores.of_reaches
    {ref inner : Nat}
    (stores : Stores machine places ref members)
    (late : Intrinsic.evalError.ref < ref)
    (reaches : Reaches machine (.object ref) inner) :
    Intrinsic.evalError.ref < inner ∧ inner < machine.objects.size := by
  cases reaches with
  | here => exact ⟨late, stores.lt_size⟩
  | inside found holds further =>
      obtain ⟨props, there, mirrors⟩ := stores
      cases there.symm.trans found
      obtain ⟨entry, member, rfl⟩ := mem_values_plainObject.mp holds
      obtain ⟨free, there⟩ := of_reaches_mirrored mirrors member further
      exact ⟨free.1, there⟩

theorem Stores.grows
    {ref : Nat}
    (stores : Stores machine places ref members)
    (late : Intrinsic.evalError.ref < ref)
    (grows : Grows machine after) :
    Stores after places ref members :=
  stores.frame fun _ reaches => grows.getElem? (stores.of_reaches late reaches).2

/-- New objects leave alone those that existed from the beginning. -/
theorem Standing.grows
    (standing : Standing machine places)
    (enough : Intrinsic.evalError.ref < machine.objects.size)
    (grows : Grows machine after) :
    Standing after places := by
  have same (intrinsic : Intrinsic) : after.object intrinsic.ref = machine.object intrinsic.ref :=
    grows.object (Nat.lt_of_le_of_lt (by cases intrinsic <;> decide) enough)
  have global (name : String) : hostValue? after name = hostValue? machine name := by
    rw [hostValue?, hostValue?, same]
  exact standing.of_same (same _) (same _) (global _) (global _) fun _ plain =>
    grows.not_callable plain

theorem Keeps.grows
    (keeps : Keeps machine places held noted)
    (grows : Grows machine after) :
    Keeps after places held noted where
  standing := keeps.standing.grows
    (Nat.lt_trans places.store_late keeps.store.lt_size) grows
  store := keeps.store.grows places.store_late grows
  puts := keeps.puts.grows places.puts_late grows

/-! ## Binding a property -/

/-- Properties with a key bound to a slot: in its place, or at the end. -/
def bindProp (props : Array (Units × Slot)) (key : Units) (slot : Slot) :
    Array (Units × Slot) :=
  match props.findIdx? fun entry => entry.1 == key with
  | some i => props.set! i (key, slot)
  | none => props.push (key, slot)

theorem bindProp_nil (key : Units) (slot : Slot) : bindProp #[] key slot = #[(key, slot)] := by
  simp [bindProp]

theorem toList_bindProp_cons (entry : Units × Slot) (rest : List (Units × Slot)) (key : Units)
    (slot : Slot) :
    (bindProp (entry :: rest).toArray key slot).toList =
      if entry.1 == key then (key, slot) :: rest
      else entry :: (bindProp rest.toArray key slot).toList := by
  unfold bindProp
  simp only [List.findIdx?_toArray, List.findIdx?_cons]
  by_cases same : (entry.1 == key) = true
  · simp [same]
  · simp only [same, Bool.false_eq_true, if_false]
    cases rest.findIdx? fun entry => entry.1 == key <;> simp

theorem putSlot_eq (obj : Obj) (key : Units) (slot : Slot) :
    putSlot obj key slot = { obj with props := bindProp obj.props key slot } := by
  unfold putSlot bindProp
  cases obj.props.findIdx? fun entry => entry.1 == key <;> rfl

/-- Binding a property binds the member that it mirrors. -/
theorem forall₂_bindProp
    {free : Nat → Prop}
    {props : Array (Units × Slot)}
    (mirrors : List.Forall₂ (MirrorMember machine free) members props.toList)
    {json : Json}
    {value : Value}
    (mirrored : Mirrors machine free json value)
    (name : Text) :
    List.Forall₂ (MirrorMember machine free) (Keyed.put members name json)
      (bindProp props (Units.ofText name) { value }).toList := by
  obtain ⟨props⟩ := props
  have bound : MirrorMember machine free (name, json) (Units.ofText name, { value }) :=
    mirrorMember_iff.mpr ⟨value, rfl, mirrored⟩
  simp only at mirrors
  induction mirrors with
  | nil =>
      rw [bindProp_nil]
      exact .cons bound .nil
  | @cons member entry members props first rest ih =>
      obtain ⟨other, rfl, _⟩ := mirrorMember_iff.mp first
      rw [toList_bindProp_cons, Keyed.put]
      by_cases same : member.1 = name
      · rw [if_pos (by simpa using same), if_pos (by simpa using same)]
        exact .cons bound rest
      · rw [if_neg (by simpa using same), if_neg (by simpa using same)]
        exact .cons first ih

/-- Members are mirrored by properties as a script makes them. -/
theorem plain_of_mirrored
    {free : Nat → Prop}
    {props : List (Units × Slot)}
    (mirrors : List.Forall₂ (MirrorMember machine free) members props) :
    ∀ entry ∈ props, entry.2 = { value := entry.2.value } := by
  induction mirrors with
  | nil => simp
  | cons first _ ih =>
      obtain ⟨value, rfl, -⟩ := mirrorMember_iff.mp first
      simpa using ih

/-- Two changes of an object that come to the same change the machine alike. -/
theorem modifyObject_congr
    {ref : Nat}
    {obj : Obj}
    (there : machine.objects[ref]? = some obj)
    {one two : Obj → Obj}
    (same : one obj = two obj) :
    machine.modifyObject ref one = machine.modifyObject ref two := by
  have objects : machine.objects.modify ref one = machine.objects.modify ref two := by
    refine Array.ext_getElem? fun i => ?_
    rw [Array.getElem?_modify, Array.getElem?_modify]
    split
    case isTrue here =>
      subst here
      rw [there, Option.map_some, Option.map_some, same]
    case isFalse => rfl
  rw [Machine.modifyObject, objects, Machine.modifyObject]

theorem getElem?_modifyObject (machine : Machine) (ref : Nat) (change : Obj → Obj) (other : Nat) :
    (machine.modifyObject ref change).objects[other]? =
      if ref = other then machine.objects[other]?.map change else machine.objects[other]? := by
  rw [Machine.modifyObject, Array.getElem?_modify]

theorem writable_of_lookup
    (standing : Standing machine places)
    {key : Units}
    {slot : Slot}
    (found : lookup machine key inheritanceLimit Intrinsic.objectPrototype.ref = some slot) :
    slot.writable = true := by
  have first : inheritanceLimit = 999 + 1 := rfl
  rw [first, lookup] at found
  split at found
  case h_1 own => exact standing.writable key slot (own.trans found)
  case h_2 => simp [standing.quiet.root] at found

/-- A property that is not there yet is added. -/
theorem bindProp_of_find?_none
    {props : Array (Units × Slot)}
    {key : Units}
    (absent : (props.find? fun entry => entry.1 == key) = none)
    (value : Value) :
    bindProp props key { value } = props.push (key, { value }) := by
  have nowhere : (props.findIdx? fun entry => entry.1 == key) = none := by
    rw [Array.findIdx?_eq_none_iff]
    intro entry member
    simpa using Array.find?_eq_none.mp absent entry member
  rw [bindProp, nowhere]

/-- Assigning to an object of plain properties binds the property. -/
theorem returns_set_plain
    (standing : Standing machine places)
    {ref : Nat}
    {props : Array (Units × Slot)}
    (there : machine.objects[ref]? = some (Library.plainObject props))
    (plain : ∀ entry ∈ props.toList, entry.2 = { value := entry.2.value })
    {key : Units}
    (ordinary : key ≠ Units.ofName "__proto__")
    {value : Value}
    {done : Unit}
    (ran : Returns (Property.set false (.object ref) key value) machine done after) :
    after = machine.modifyObject ref
      fun _ => Library.plainObject (bindProp props key { value }) := by
  have obj := object_of_getElem? there
  have kind : (Library.plainObject props).kind = .plain := rfl
  unfold Property.set at ran
  simp only at ran
  rw [if_neg (by simpa using ordinary)] at ran
  unfold setOn at ran
  simp only [returns_bind, returns_getState] at ran
  obtain ⟨seen, between, ⟨sameSeen, sameBetween⟩, ran⟩ := ran
  rw [sameSeen, sameBetween] at ran
  simp only [obj, kind, own?_plainObject] at ran
  cases found : props.find? fun entry => entry.1 == key with
  | some entry =>
      have shape := plain entry (Array.mem_toList_iff.mpr (Array.mem_of_find?_eq_some found))
      rw [found, Option.map_some, shape] at ran
      simp only [Bool.not_true, Bool.false_eq_true, if_false, returns_modifyObject] at ran
      rw [ran]
      exact modifyObject_congr there (putSlot_eq (Library.plainObject props) key { value })
  | none =>
      have writable : (Option.any (fun slot : Slot => !slot.writable)
          ((Library.plainObject props).proto.bind fun proto =>
            lookup machine key inheritanceLimit proto)) = false := by
        simp only [Library.plainObject, Option.bind_some]
        cases inherited : lookup machine key inheritanceLimit Intrinsic.objectPrototype.ref with
        | none => rfl
        | some slot => simp [writable_of_lookup standing inherited]
      have extensible : (Library.plainObject props).extensible = true := rfl
      rw [found, Option.map_none] at ran
      simp only [writable, extensible, Bool.not_true, Bool.false_eq_true, if_false,
        returns_modifyObject] at ran
      rw [ran, bindProp_of_find?_none found]
      exact modifyObject_congr there rfl

section

variable {ref : Nat} {props new : Array (Units × Slot)}

theorem not_callable_replace
    (there : machine.objects[ref]? = some (Library.plainObject props))
    {value : Value}
    (plain : isCallable machine value = false) :
    isCallable (machine.modifyObject ref fun _ => Library.plainObject new) value = false := by
  cases value with
  | object other =>
      by_cases same : ref = other
      · subst same
        simp [isCallable, Machine.object, getElem?_modifyObject, there, Library.plainObject]
      · simpa [isCallable, Machine.object, getElem?_modifyObject, same] using plain
  | _ => rfl

/-- Other properties of an object that did not exist from the beginning do not matter to the
functions of the host. -/
theorem Standing.replace
    (standing : Standing machine places)
    (late : Intrinsic.evalError.ref < ref)
    (there : machine.objects[ref]? = some (Library.plainObject props)) :
    Standing (machine.modifyObject ref fun _ => Library.plainObject new) places := by
  have same (intrinsic : Intrinsic) :
      (machine.modifyObject ref fun _ => Library.plainObject new).object intrinsic.ref =
        machine.object intrinsic.ref := by
    have other : ref ≠ intrinsic.ref := by
      have before : intrinsic.ref ≤ Intrinsic.evalError.ref := by cases intrinsic <;> decide
      omega
    rw [Machine.object, getElem?_modifyObject, if_neg other, ← Machine.object]
  have global (name : String) :
      hostValue? (machine.modifyObject ref fun _ => Library.plainObject new) name =
        hostValue? machine name := by
    rw [hostValue?, hostValue?, same]
  exact standing.of_same (same _) (same _) (global _) (global _) fun _ plain =>
    not_callable_replace there plain

/-- The values inside the store and the puts are made of neither. -/
theorem Places.Free.ne
    {inner : Nat}
    (free : places.Free inner)
    (kept : ref = places.store ∨ ref = places.puts) :
    ref ≠ inner := by
  rcases kept with rfl | rfl
  · exact free.2.1.symm
  · exact free.2.2.symm

theorem Mirrors.replace
    {json : Json}
    {value : Value}
    (mirrors : Mirrors machine places.Free json value)
    (kept : ref = places.store ∨ ref = places.puts)
    (change : Obj → Obj) :
    Mirrors (machine.modifyObject ref change) places.Free json value :=
  mirrors.frame fun inner reaches => by
    rw [getElem?_modifyObject, if_neg ((mirrors.of_reaches reaches).1.ne kept)]

theorem mirrorMembers_replace
    {props : List (Units × Slot)}
    (mirrors : List.Forall₂ (MirrorMember machine places.Free) members props)
    (kept : ref = places.store ∨ ref = places.puts)
    (change : Obj → Obj) :
    List.Forall₂ (MirrorMember (machine.modifyObject ref change) places.Free) members props :=
  mirrorMembers_frame mirrors fun entry holds inner reaches => by
    rw [getElem?_modifyObject, if_neg ((of_reaches_mirrored mirrors holds reaches).1.ne kept)]

/-- Assigning to one of the two objects leaves the other one as it was. -/
theorem Stores.replace_other
    {other : Nat}
    (stores : Stores machine places other members)
    (kept : ref = places.store ∨ ref = places.puts)
    (different : ref ≠ other)
    (change : Obj → Obj) :
    Stores (machine.modifyObject ref change) places other members := by
  obtain ⟨props, there, mirrors⟩ := stores
  refine ⟨props, ?_, mirrorMembers_replace mirrors kept change⟩
  rw [getElem?_modifyObject, if_neg different, there]

/-- Assigning a value to one of the two objects binds the key to what the value mirrors. -/
theorem Stores.returns_set
    (stores : Stores machine places ref members)
    (standing : Standing machine places)
    (kept : ref = places.store ∨ ref = places.puts)
    {name : Text}
    (ordinary : name ≠ "__proto__")
    {json : Json}
    {value : Value}
    (mirrors : Mirrors machine places.Free json value)
    {done : Unit}
    (ran : Returns (Property.set false (.object ref) (Units.ofText name) value) machine done
      after) :
    Stores after places ref (Keyed.put members name json) ∧ Standing after places ∧
      ∃ change, after = machine.modifyObject ref change := by
  obtain ⟨props, there, inside⟩ := stores
  have key : Units.ofText name ≠ Units.ofName "__proto__" := fun same =>
    ordinary (Units.ofText_injective same)
  have late : Intrinsic.evalError.ref < ref := by
    rcases kept with rfl | rfl
    · exact places.store_late
    · exact places.puts_late
  rw [returns_set_plain standing there (plain_of_mirrored inside) key ran]
  refine ⟨⟨bindProp props (Units.ofText name) { value }, ?_, ?_⟩, standing.replace late there,
    _, rfl⟩
  · rw [getElem?_modifyObject, if_pos rfl, there, Option.map_some]
  · exact mirrorMembers_replace (forall₂_bindProp inside mirrors name) kept _

end

/-! ## Puts and gets -/

/-- The copy that a put makes is bound to its key in the store and among the puts. -/
theorem Keeps.returns_deposit
    (keeps : Keeps machine places held noted)
    {name : Text}
    (ordinary : name ≠ "__proto__")
    {json : Json}
    (ran : Returns (do
      let copy ← Library.ofJson Library.plainObject json
      Property.set false (.object places.puts) (Units.ofText name) copy
      Property.set false (.object places.store) (Units.ofText name) copy) machine () after) :
    Keeps after places (Keyed.put held name json) (Keyed.put noted name json) := by
  simp only [returns_bind] at ran
  obtain ⟨copy, copied, made, ⟨⟩, noting, toPuts, toStore⟩ := ran
  obtain ⟨grows, mirrored⟩ := ofJson_made (fun _ => rfl) makesPlain_plainObject json made
  have free : ∀ ref, ref < copied.objects.size → machine.objects.size ≤ ref → places.Free ref := by
    intro ref _ new
    have store := keeps.store.lt_size
    have puts := keeps.puts.lt_size
    have late := places.store_late
    exact ⟨by omega, by omega, by omega⟩
  have mirrors := (mirrored (Json.named_true json)).mono free
  have grown := keeps.grows grows
  obtain ⟨puts, standing, change, rfl⟩ :=
    grown.puts.returns_set grown.standing (.inr rfl) ordinary mirrors toPuts
  have store := grown.store.replace_other (.inr rfl) places.differ.symm change
  obtain ⟨store, standing, other, rfl⟩ :=
    store.returns_set standing (.inl rfl) ordinary (mirrors.replace (.inr rfl) change) toStore
  exact ⟨standing, store, puts.replace_other (.inl rfl) places.differ other⟩

end Script

end RuleProbe
