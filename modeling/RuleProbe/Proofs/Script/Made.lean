import RuleProbe.Proofs.Script.Mirror

/-!
# JSON values made on the machine

A script or the host makes what a JSON value is of new objects only.
-/

namespace RuleProbe

/-! ## Names in JSON values -/

mutual

/-- The names of all members inside a value are of a kind. -/
def Json.Named (kind : Text → Prop) : Json → Prop
  | .arr items => Json.NamedItems kind items
  | .obj members => Json.NamedMembers kind members
  | _ => True
  termination_by structural value => value

/-- The names of all members inside items are of a kind. -/
def Json.NamedItems (kind : Text → Prop) : List Json → Prop
  | [] => True
  | item :: rest => Json.Named kind item ∧ Json.NamedItems kind rest
  termination_by structural items => items

/-- The names of members, and of all members inside, are of a kind. -/
def Json.NamedMembers (kind : Text → Prop) : List (Text × Json) → Prop
  | [] => True
  | member :: rest => Json.NamedMember kind member ∧ Json.NamedMembers kind rest
  termination_by structural members => members

/-- The name of a member, and those of all members inside, are of a kind. -/
def Json.NamedMember (kind : Text → Prop) : Text × Json → Prop
  | (name, value) => kind name ∧ Json.Named kind value
  termination_by structural member => member

end

theorem Json.named_arr {kind : Text → Prop} {items : List Json} :
    Json.Named kind (.arr items) ↔ ∀ item ∈ items, Json.Named kind item := by
  rw [Json.Named]
  induction items with
  | nil => simp [Json.NamedItems]
  | cons item rest ih => simp [Json.NamedItems, ih]

theorem Json.named_obj {kind : Text → Prop} {members : Json.Members} :
    Json.Named kind (.obj members) ↔
      ∀ member ∈ members, kind member.1 ∧ Json.Named kind member.2 := by
  rw [Json.Named]
  induction members with
  | nil => simp [Json.NamedMembers]
  | cons member rest ih =>
      obtain ⟨name, value⟩ := member
      simp [Json.NamedMembers, Json.NamedMember, ih]

theorem Json.named_true (value : Json) : Json.Named (fun _ => True) value := by
  induction value using Json.inductionOn with
  | scalar value scalar =>
      cases value with
      | arr => cases scalar
      | obj => cases scalar
      | _ => trivial
  | arr items ih => exact Json.named_arr.mpr ih
  | obj members ih => exact Json.named_obj.mpr fun member inside => ⟨trivial, ih member inside⟩

namespace Script

/-! ## Machines that grow -/

/-- An object is no more than its properties and its items. -/
def Obj.isData (obj : Obj) : Bool :=
  match obj.kind with
  | .plain => true
  | .array _ => true
  | _ => false

/-- A machine becomes another by new objects alone, of which none can be called. -/
def Grows (machine after : Machine) : Prop :=
  ∃ made : Array Obj, (∀ obj ∈ made.toList, obj.isData = true) ∧
    after = { machine with objects := machine.objects ++ made }

namespace Grows

variable {machine between after : Machine}

theorem refl (machine : Machine) : Grows machine machine := ⟨#[], by simp, by simp⟩

theorem trans (one : Grows machine between) (two : Grows between after) :
    Grows machine after := by
  obtain ⟨first, firstData, rfl⟩ := one
  obtain ⟨second, secondData, rfl⟩ := two
  refine ⟨first ++ second, fun obj member => ?_, by simp [Array.append_assoc]⟩
  rw [Array.toList_append, List.mem_append] at member
  exact member.elim (firstData obj) (secondData obj)

theorem add (machine : Machine) {obj : Obj} (data : obj.isData = true) :
    Grows machine (machine.add obj).2 :=
  ⟨#[obj], by simpa using data, by simp [Machine.add]⟩

theorem size_le (grows : Grows machine after) : machine.objects.size ≤ after.objects.size := by
  obtain ⟨made, -, rfl⟩ := grows
  simp

theorem getElem? (grows : Grows machine after) {ref : Nat} (there : ref < machine.objects.size) :
    after.objects[ref]? = machine.objects[ref]? := by
  obtain ⟨made, -, rfl⟩ := grows
  simp [Array.getElem?_append, there]

/-- What could not be called cannot be called. -/
theorem not_callable
    (grows : Grows machine after)
    {value : Value}
    (plain : Property.isCallable machine value = false) :
    Property.isCallable after value = false := by
  cases value with
  | object ref =>
      by_cases there : ref < machine.objects.size
      · simpa [Property.isCallable, Machine.object, grows.getElem? there] using plain
      · obtain ⟨made, data, rfl⟩ := grows
        rw [Property.isCallable, Machine.object]
        simp only [Array.getElem?_append, there, if_false]
        cases new : made[ref - machine.objects.size]? with
        | none => rfl
        | some obj =>
            have isData := data obj (Array.mem_toList_iff.mpr (Array.mem_of_getElem? new))
            rw [Option.getD_some]
            unfold Obj.isData at isData
            split at isData <;> simp_all
  | _ => rfl

/-- What a value mirrors on a machine, it mirrors when the machine has grown. -/
theorem mirrors
    (grows : Grows machine after)
    {free : Nat → Prop}
    {json : Json}
    {value : Value}
    (mirrors : Mirrors machine free json value) :
    Mirrors after free json value :=
  mirrors.frame fun _ reaches => grows.getElem? (mirrors.of_reaches reaches).2

end Grows

/-! ## Making -/

/-- Objects with names of a kind are made as plain ones. -/
def MakesPlain (make : Array (Units × Slot) → Obj) (kind : Text → Prop) : Prop :=
  ∀ props : Array (Units × Slot),
    (∀ entry ∈ props.toList, ∃ name, kind name ∧ entry.1 = Units.ofText name) →
    make props = Library.plainObject props

/-- The objects of a JSON text are plain ones. -/
theorem makesPlain_plainObject : MakesPlain Library.plainObject fun _ => True :=
  fun _ _ => rfl

/-- The objects of a literal are plain ones unless a member names what to inherit from. -/
theorem makesPlain_literalObject :
    MakesPlain Library.literalObject fun name => name ≠ "__proto__" := by
  intro props names
  have other : ∀ entry ∈ props, ¬entry.1 = Units.ofName "__proto__" := by
    intro entry member same
    obtain ⟨name, different, named⟩ := names entry (Array.mem_toList_iff.mpr member)
    exact different (Units.ofText_injective (named.symm.trans same))
  have none : (props.find? fun entry => entry.1 == Units.ofName "__proto__") = none := by
    rw [Array.find?_eq_none]
    intro entry member
    simpa using other entry member
  have all : (props.filter fun entry => entry.1 != Units.ofName "__proto__") = props := by
    rw [Array.filter_eq_self]
    intro entry member
    simpa using other entry member
  simp only [Library.literalObject, Library.literalParent, none, all, Library.plainObject]

/-- Making a JSON value adds objects to a machine, and where all its names are of a kind, they
mirror the value. -/
def MadeOf (make : Array (Units × Slot) → Obj) (kind : Text → Prop) (json : Json) : Prop :=
  ∀ {machine after : Machine} {value : Value},
    Returns (Library.ofJson make json) machine value after →
    Grows machine after ∧
      (Json.Named kind json → Mirrors after (machine.objects.size ≤ ·) json value)

section

variable {make : Array (Units × Slot) → Obj} {kind : Text → Prop}

theorem ofJsonItems_made
    {items : List Json}
    (inner : ∀ item ∈ items, MadeOf make kind item)
    {machine after : Machine}
    {made values : Array Value}
    (ran : Returns (Library.ofJsonItems make items made) machine values after) :
    Grows machine after ∧ ∃ more : List Value, values.toList = made.toList ++ more ∧
      ((∀ item ∈ items, Json.Named kind item) →
        List.Forall₂ (fun item value => Mirrors after (machine.objects.size ≤ ·) item value)
          items more) := by
  induction items generalizing machine made with
  | nil =>
      rw [Library.ofJsonItems, returns_pure] at ran
      obtain ⟨rfl, rfl⟩ := ran
      exact ⟨.refl _, [], by simp, fun _ => .nil⟩
  | cons item rest ih =>
      rw [Library.ofJsonItems, returns_bind] at ran
      obtain ⟨value, between, one, two⟩ := ran
      obtain ⟨grows, mirrors⟩ := inner item List.mem_cons_self one
      obtain ⟨further, more, shape, others⟩ :=
        ih (fun item member => inner item (List.mem_cons_of_mem _ member)) two
      refine ⟨grows.trans further, value :: more, by simp [shape], fun named => ?_⟩
      have first := further.mirrors (mirrors (named item List.mem_cons_self))
      have behind := others fun item member => named item (List.mem_cons_of_mem _ member)
      refine .cons first (behind.imp fun item value mirrors => ?_)
      exact mirrors.mono fun ref _ new => Nat.le_trans grows.size_le new

theorem ofJsonMembers_made
    {members : Json.Members}
    (inner : ∀ member ∈ members, MadeOf make kind member.2)
    {machine after : Machine}
    {made props : Array (Units × Slot)}
    (ran : Returns (Library.ofJsonMembers make members made) machine props after) :
    Grows machine after ∧ ∃ more : List (Units × Slot), props.toList = made.toList ++ more ∧
      ((∀ member ∈ members, Json.Named kind member.2) →
        List.Forall₂ (MirrorMember after (machine.objects.size ≤ ·)) members more) := by
  induction members generalizing machine made with
  | nil =>
      rw [Library.ofJsonMembers, returns_pure] at ran
      obtain ⟨rfl, rfl⟩ := ran
      exact ⟨.refl _, [], by simp, fun _ => .nil⟩
  | cons member rest ih =>
      rw [Library.ofJsonMembers, Library.ofJsonMember] at ran
      simp only [returns_bind, returns_pure] at ran
      obtain ⟨entry, between, ⟨value, _, one, rfl, rfl⟩, two⟩ := ran
      obtain ⟨grows, mirrors⟩ := inner member List.mem_cons_self one
      obtain ⟨further, more, shape, others⟩ :=
        ih (fun member inside => inner member (List.mem_cons_of_mem _ inside)) two
      refine ⟨grows.trans further, (Units.ofText member.1, { value }) :: more, by simp [shape],
        fun named => ?_⟩
      have first := further.mirrors (mirrors (named member List.mem_cons_self))
      have behind := others fun member inside => named member (List.mem_cons_of_mem _ inside)
      refine .cons (mirrorMember_iff.mpr ⟨value, rfl, first⟩) ?_
      refine behind.imp fun member entry mirrored => mirrored.imp fun _ mirrors => ?_
      exact mirrors.mono fun ref _ new => Nat.le_trans grows.size_le new

/-- The last object of a machine that an object was added to. -/
theorem getElem?_add (machine : Machine) (obj : Obj) :
    (machine.add obj).2.objects[machine.objects.size]? = some obj := by
  simp [Machine.add]

/-- The objects that members are made of are followed by the one that holds them. -/
theorem ofJson_obj_made
    (plain : MakesPlain make kind)
    {members : Json.Members}
    (inner : ∀ member ∈ members, MadeOf make kind member.2)
    {machine after : Machine}
    {value : Value}
    (ran : Returns (Library.ofJson make (.obj members)) machine value after) :
    ∃ between props, Grows machine between ∧ value = .object between.objects.size ∧
      after = (between.add (make props)).2 ∧
      (Json.Named kind (.obj members) → make props = Library.plainObject props ∧
        List.Forall₂ (MirrorMember between (machine.objects.size ≤ ·)) members props.toList) := by
  rw [Library.ofJson, returns_bind] at ran
  obtain ⟨props, between, one, two⟩ := ran
  obtain ⟨grows, more, shape, mirrors⟩ := ofJsonMembers_made inner one
  rw [returns_add] at two
  obtain ⟨rfl, rfl⟩ := two
  refine ⟨between, props, grows, rfl, rfl, fun named => ?_⟩
  have kinds := Json.named_obj.mp named
  have inside := mirrors fun member inside => (kinds member inside).2
  have same : props.toList = more := by simpa using shape
  rw [← same] at inside
  refine ⟨plain props fun entry member => ?_, inside⟩
  obtain ⟨i, within, rfl⟩ := List.getElem_of_mem member
  have bound : i < members.length := by rwa [inside.length_eq]
  obtain ⟨value, shape, -⟩ := mirrorMember_iff.mp (inside.get bound within)
  simp only [List.get_eq_getElem] at shape
  refine ⟨members[i].1, (kinds _ (List.getElem_mem bound)).1, ?_⟩
  rw [shape]

/-- A script or the host makes a JSON value of new objects, whatever names it has; if they are of
the kind that makes plain objects, the objects mirror it. -/
theorem ofJson_made
    (data : ∀ props, (make props).isData = true)
    (plain : MakesPlain make kind)
    (json : Json) :
    MadeOf make kind json := by
  induction json using Json.inductionOn with
  | scalar json scalar =>
      intro machine after value ran
      cases json with
      | arr => cases scalar
      | obj => cases scalar
      | _ =>
          rw [Library.ofJson, returns_pure] at ran
          obtain ⟨rfl, rfl⟩ := ran
          exact ⟨.refl _, fun _ => rfl⟩
  | arr items ih =>
      intro machine after value ran
      rw [Library.ofJson, returns_bind] at ran
      obtain ⟨values, between, one, two⟩ := ran
      obtain ⟨grows, more, shape, mirrors⟩ := ofJsonItems_made ih one
      rw [Run.arrayOf, Run.makeArray, returns_add] at two
      obtain ⟨rfl, rfl⟩ := two
      have grown : Grows between (between.add
          { proto := some Intrinsic.arrayPrototype.ref, kind := .array (values.map some) }).2 :=
        .add between rfl
      refine ⟨grows.trans grown, fun named => ?_⟩
      refine mirrors_arr.mpr ⟨_, more, rfl, grows.size_le, ?_, ?_⟩
      · have same : values = more.toArray := Array.toList_inj.mp (by simpa using shape)
        rw [getElem?_add, arrayObject]
        simp [same]
      · exact (mirrors (Json.named_arr.mp named)).imp fun item value mirrors =>
          grown.mirrors mirrors
  | obj members ih =>
      intro machine after value ran
      obtain ⟨between, props, grows, rfl, rfl, mirrors⟩ := ofJson_obj_made plain ih ran
      have grown : Grows between (between.add (make props)).2 := .add between (data props)
      refine ⟨grows.trans grown, fun named => ?_⟩
      obtain ⟨asPlain, inside⟩ := mirrors named
      refine mirrors_obj.mpr ⟨_, props, rfl, grows.size_le, ?_, ?_⟩
      · rw [getElem?_add, asPlain]
      · exact inside.imp fun member entry mirrored =>
          mirrored.imp fun _ mirrors => grown.mirrors mirrors

end

end Script

end RuleProbe
