import Mathlib.Data.List.Forall2
import RuleProbe.Proofs.Script.Returns
import RuleProbe.Proofs.Script.Units
import RuleProbe.Proofs.Script.Written

/-!
# JSON values on the machine

A JSON value stands on a machine as a value of a script: a container as an object that holds
what mirrors its parts.  It stays there as long as the objects that it is made of stay as they
are, whatever happens to others.
-/

namespace RuleProbe

namespace Script

/-! ## Objects that hold each other -/

/-- The values that an object holds in its properties and as its items. -/
def Obj.values (obj : Obj) : List Value :=
  (obj.props.toList.map fun entry => entry.2.value) ++
    match obj.kind with
    | .array items => items.toList.filterMap id
    | _ => []

/-- An object is a value, or is inside the object that the value is. -/
inductive Reaches (machine : Machine) : Value → Nat → Prop where
  /-- The object itself. -/
  | here (ref : Nat) : Reaches machine (.object ref) ref
  /-- An object that a value inside reaches. -/
  | inside {ref inner : Nat} {obj : Obj} {value : Value}
      (found : machine.objects[ref]? = some obj)
      (holds : value ∈ obj.values)
      (further : Reaches machine value inner) :
      Reaches machine (.object ref) inner

theorem not_reaches_scalar {machine : Machine} {value : Value} {ref : Nat}
    (scalar : ∀ other, value ≠ .object other) : ¬Reaches machine value ref := by
  intro reaches
  cases reaches with
  | here ref => exact scalar ref rfl
  | inside => exact scalar _ rfl

/-! ## JSON values as objects -/

/-- An array of values. -/
def arrayObject (values : List Value) : Obj :=
  { proto := some Intrinsic.arrayPrototype.ref, kind := .array (values.map some).toArray }

mutual

/-- A value of a script is what a JSON value is on a machine; all objects that it is made of are
free ones. -/
def Mirrors (machine : Machine) (free : Nat → Prop) : Json → Value → Prop
  | .null, value => value = .null
  | .bool flag, value => value = .bool flag
  | .int n, value => value = .number (Float.ofInt n)
  | .float x, value => value = .number x
  | .str text, value => value = Value.ofText text
  | .arr items, value => ∃ ref values, value = .object ref ∧ free ref ∧
      machine.objects[ref]? = some (arrayObject values) ∧ MirrorItems machine free items values
  | .obj members, value => ∃ ref props, value = .object ref ∧ free ref ∧
      machine.objects[ref]? = some (Library.plainObject props) ∧
      MirrorMembers machine free members props.toList
  termination_by structural json => json

/-- Values are what items are, one by one. -/
def MirrorItems (machine : Machine) (free : Nat → Prop) : List Json → List Value → Prop
  | [], values => values = []
  | item :: rest, values => ∃ value more, values = value :: more ∧
      Mirrors machine free item value ∧ MirrorItems machine free rest more
  termination_by structural items => items

/-- Properties are what members are, one by one. -/
def MirrorMembers (machine : Machine) (free : Nat → Prop) :
    List (Text × Json) → List (Units × Slot) → Prop
  | [], props => props = []
  | member :: rest, props => ∃ entry more, props = entry :: more ∧
      MirrorMember machine free member entry ∧ MirrorMembers machine free rest more
  termination_by structural members => members

/-- A property is what a member is. -/
def MirrorMember (machine : Machine) (free : Nat → Prop) : Text × Json → Units × Slot → Prop
  | (name, json), entry => ∃ value, entry = (Units.ofText name, { value }) ∧
      Mirrors machine free json value
  termination_by structural member => member

end

section

variable {machine after : Machine} {free : Nat → Prop}

theorem mirrorItems_iff {items : List Json} {values : List Value} :
    MirrorItems machine free items values ↔
      List.Forall₂ (fun item value => Mirrors machine free item value) items values := by
  induction items generalizing values with
  | nil => simp [MirrorItems]
  | cons item rest ih =>
      simp only [MirrorItems, List.forall₂_cons_left_iff, ih]
      constructor
      · rintro ⟨value, more, rfl, first, others⟩
        exact ⟨value, more, first, others, rfl⟩
      · rintro ⟨value, more, first, others, rfl⟩
        exact ⟨value, more, rfl, first, others⟩

theorem mirrorMember_iff {member : Text × Json} {entry : Units × Slot} :
    MirrorMember machine free member entry ↔
      ∃ value, entry = (Units.ofText member.1, { value }) ∧
        Mirrors machine free member.2 value := by
  rw [MirrorMember]

theorem MirrorMember.imp
    {other : Nat → Prop}
    {member : Text × Json}
    {entry : Units × Slot}
    (mirrored : MirrorMember machine free member entry)
    (change : ∀ value, Mirrors machine free member.2 value → Mirrors after other member.2 value) :
    MirrorMember after other member entry := by
  obtain ⟨value, shape, mirrors⟩ := mirrorMember_iff.mp mirrored
  exact mirrorMember_iff.mpr ⟨value, shape, change value mirrors⟩

theorem mirrorMembers_iff {members : Json.Members} {props : List (Units × Slot)} :
    MirrorMembers machine free members props ↔
      List.Forall₂ (MirrorMember machine free) members props := by
  induction members generalizing props with
  | nil => simp [MirrorMembers]
  | cons member rest ih =>
      simp only [MirrorMembers, List.forall₂_cons_left_iff, ih]
      constructor
      · rintro ⟨entry, more, rfl, first, others⟩
        exact ⟨entry, more, first, others, rfl⟩
      · rintro ⟨entry, more, first, others, rfl⟩
        exact ⟨entry, more, rfl, first, others⟩

theorem mirrors_arr {items : List Json} {value : Value} :
    Mirrors machine free (.arr items) value ↔
      ∃ ref values, value = .object ref ∧ free ref ∧
        machine.objects[ref]? = some (arrayObject values) ∧
        List.Forall₂ (fun item value => Mirrors machine free item value) items values := by
  simp only [Mirrors, mirrorItems_iff]

theorem mirrors_obj {members : Json.Members} {value : Value} :
    Mirrors machine free (.obj members) value ↔
      ∃ ref props, value = .object ref ∧ free ref ∧
        machine.objects[ref]? = some (Library.plainObject props) ∧
        List.Forall₂ (MirrorMember machine free) members props.toList := by
  simp only [Mirrors, mirrorMembers_iff]

theorem mem_values_arrayObject {values : List Value} {value : Value} :
    value ∈ (arrayObject values).values ↔ value ∈ values := by
  simp [Obj.values, arrayObject]

theorem mem_values_plainObject {props : Array (Units × Slot)} {value : Value} :
    value ∈ (Library.plainObject props).values ↔
      ∃ entry ∈ props.toList, entry.2.value = value := by
  simp [Obj.values, Library.plainObject]

/-- Two lists that are related one by one are related by whatever follows for their members. -/
theorem forall₂_of_mem
    {α β : Type}
    {R S : α → β → Prop}
    {one : List α}
    {two : List β}
    (related : List.Forall₂ R one two)
    (implied : ∀ a ∈ one, ∀ b ∈ two, R a b → S a b) :
    List.Forall₂ S one two := by
  refine List.forall₂_iff_zip.mpr ⟨related.length_eq, fun {a b} member => ?_⟩
  have both := List.of_mem_zip member
  exact implied a both.1 b both.2 (List.forall₂_zip related member)

/-- What a JSON value is on a machine, it is on every other one that has the same objects in the
places that it is made of. -/
theorem Mirrors.frame
    {json : Json}
    {value : Value}
    (mirrors : Mirrors machine free json value)
    (same : ∀ ref, Reaches machine value ref → after.objects[ref]? = machine.objects[ref]?) :
    Mirrors after free json value := by
  induction json using Json.inductionOn generalizing value with
  | scalar json scalar =>
      cases json with
      | arr => cases scalar
      | obj => cases scalar
      | _ => exact mirrors
  | arr items ih =>
      rw [mirrors_arr] at mirrors ⊢
      obtain ⟨ref, values, rfl, isFree, found, inner⟩ := mirrors
      refine ⟨ref, values, rfl, isFree, (same ref (.here ref)).trans found, ?_⟩
      refine forall₂_of_mem inner fun item member value holds mirrors => ?_
      exact ih item member mirrors fun other further =>
        same other (.inside found (mem_values_arrayObject.mpr holds) further)
  | obj members ih =>
      rw [mirrors_obj] at mirrors ⊢
      obtain ⟨ref, props, rfl, isFree, found, inner⟩ := mirrors
      refine ⟨ref, props, rfl, isFree, (same ref (.here ref)).trans found, ?_⟩
      refine forall₂_of_mem inner fun json member entry holds mirrored => ?_
      obtain ⟨value, shape, mirrors⟩ := mirrorMember_iff.mp mirrored
      have held : value ∈ (Library.plainObject props).values :=
        mem_values_plainObject.mpr ⟨entry, holds, by rw [shape]⟩
      exact mirrorMember_iff.mpr ⟨value, shape, ih json member mirrors fun other further =>
        same other (.inside found held further)⟩

/-- All objects that a JSON value is made of are on the machine, and free. -/
theorem Mirrors.of_reaches
    {json : Json}
    {value : Value}
    {ref : Nat}
    (mirrors : Mirrors machine free json value)
    (reaches : Reaches machine value ref) :
    free ref ∧ ref < machine.objects.size := by
  induction json using Json.inductionOn generalizing value with
  | scalar json scalar =>
      refine absurd reaches (not_reaches_scalar fun other same => ?_)
      cases json with
      | arr => cases scalar
      | obj => cases scalar
      | _ => cases same.symm.trans mirrors
  | arr items ih =>
      obtain ⟨place, values, rfl, isFree, found, inner⟩ := mirrors_arr.mp mirrors
      cases reaches with
      | here => exact ⟨isFree, (Array.getElem?_eq_some_iff.mp found).1⟩
      | inside there holds further =>
          rw [found, Option.some.injEq] at there
          subst there
          obtain ⟨i, within, rfl⟩ := List.getElem_of_mem (mem_values_arrayObject.mp holds)
          have bound : i < items.length := by rwa [inner.length_eq]
          exact ih items[i] (List.getElem_mem bound) (inner.get bound within) further
  | obj members ih =>
      obtain ⟨place, props, rfl, isFree, found, inner⟩ := mirrors_obj.mp mirrors
      cases reaches with
      | here => exact ⟨isFree, (Array.getElem?_eq_some_iff.mp found).1⟩
      | inside there holds further =>
          rw [found, Option.some.injEq] at there
          subst there
          obtain ⟨entry, member, same⟩ := mem_values_plainObject.mp holds
          obtain ⟨i, within, rfl⟩ := List.getElem_of_mem member
          have bound : i < members.length := by rwa [inner.length_eq]
          obtain ⟨value, shape, mirrors⟩ := mirrorMember_iff.mp (inner.get bound within)
          simp only [List.get_eq_getElem] at shape
          rw [shape] at same
          subst same
          exact ih members[i] (List.getElem_mem bound) mirrors further

/-- What is made of free objects is made of objects that more places allow. -/
theorem Mirrors.mono
    {other : Nat → Prop}
    {json : Json}
    {value : Value}
    (mirrors : Mirrors machine free json value)
    (more : ∀ ref, ref < machine.objects.size → free ref → other ref) :
    Mirrors machine other json value := by
  induction json using Json.inductionOn generalizing value with
  | scalar json scalar =>
      cases json with
      | arr => cases scalar
      | obj => cases scalar
      | _ => exact mirrors
  | arr items ih =>
      rw [mirrors_arr] at mirrors ⊢
      obtain ⟨ref, values, rfl, isFree, found, inner⟩ := mirrors
      have there := (Array.getElem?_eq_some_iff.mp found).1
      refine ⟨ref, values, rfl, more ref there isFree, found, ?_⟩
      exact forall₂_of_mem inner fun item member value _ mirrors => ih item member mirrors
  | obj members ih =>
      rw [mirrors_obj] at mirrors ⊢
      obtain ⟨ref, props, rfl, isFree, found, inner⟩ := mirrors
      have there := (Array.getElem?_eq_some_iff.mp found).1
      refine ⟨ref, props, rfl, more ref there isFree, found, ?_⟩
      refine forall₂_of_mem inner fun json member entry _ mirrored => ?_
      exact mirrored.imp fun _ mirrors => ih json member mirrors

end

end Script

end RuleProbe
