import RuleProbe.Proofs.Script.Mirror

/-!
# JSON values written on the machine

Where nothing that all objects inherit interferes, a script writes what mirrors a JSON value as
the JSON text of that value, and changes nothing.
-/

namespace RuleProbe

namespace Script

open Property

variable {machine after : Machine} {free : Nat → Prop} {json : Json} {value : Value}

/-- Neither objects nor arrays inherit a function that writes them. -/
structure Quiet (machine : Machine) : Prop where
  /-- Objects inherit from one object and nothing else. -/
  root : (machine.object Intrinsic.objectPrototype.ref).proto = none
  /-- Arrays inherit from one object, and then as objects do. -/
  arrays : (machine.object Intrinsic.arrayPrototype.ref).proto =
    some Intrinsic.objectPrototype.ref
  /-- Objects inherit no such function. -/
  objects_quiet : ∀ slot,
    own? (machine.object Intrinsic.objectPrototype.ref) (Units.ofName "toJSON") = some slot →
    isCallable machine slot.value = false
  /-- Arrays inherit no such function. -/
  arrays_quiet : ∀ slot,
    own? (machine.object Intrinsic.arrayPrototype.ref) (Units.ofName "toJSON") = some slot →
    isCallable machine slot.value = false

theorem object_of_getElem? {ref : Nat} {obj : Obj} (found : machine.objects[ref]? = some obj) :
    machine.object ref = obj := by
  rw [Machine.object, found, Option.getD_some]

/-- What mirrors a JSON value is no function. -/
theorem Mirrors.not_callable (mirrors : Mirrors machine free json value) :
    isCallable machine value = false := by
  cases json with
  | arr items =>
      obtain ⟨ref, values, rfl, -, found, -⟩ := mirrors_arr.mp mirrors
      simp [isCallable, object_of_getElem? found, arrayObject]
  | obj members =>
      obtain ⟨ref, props, rfl, -, found, -⟩ := mirrors_obj.mp mirrors
      simp [isCallable, object_of_getElem? found, Library.plainObject]
  | _ =>
      cases mirrors
      rfl

/-- What an object has of its own, or else of the object that all objects inherit from. -/
theorem lookup_objectPrototype
    (quiet : Quiet machine)
    {ref : Nat}
    (proto : (machine.object ref).proto = some Intrinsic.objectPrototype.ref)
    (key : Units) :
    lookup machine key inheritanceLimit ref =
      (own? (machine.object ref) key).or
        (own? (machine.object Intrinsic.objectPrototype.ref) key) := by
  have first : inheritanceLimit = 998 + 1 + 1 := rfl
  rw [first, lookup]
  cases own? (machine.object ref) key with
  | some slot => rfl
  | none =>
      simp only [proto, Option.none_or]
      rw [lookup]
      cases own? (machine.object Intrinsic.objectPrototype.ref) key with
      | some slot => rfl
      | none => simp [quiet.root]

theorem own?_of_plain {obj : Obj} (plain : obj.kind = .plain) (key : Units) :
    own? obj key = (obj.props.find? fun entry => entry.1 == key).map fun entry => entry.2 := by
  unfold own?
  rw [plain]
  cases obj.props.find? fun entry => entry.1 == key <;> rfl

theorem own?_plainObject (props : Array (Units × Slot)) (key : Units) :
    own? (Library.plainObject props) key =
      (props.find? fun entry => entry.1 == key).map fun entry => entry.2 :=
  own?_of_plain rfl key

theorem own?_arrayObject_toJSON (values : List Value) :
    own? (arrayObject values) (Units.ofName "toJSON") = none := by
  have noPosition : position? (Units.ofName "toJSON") = none := by decide +kernel
  have noLength : (Units.ofName "toJSON" == Units.ofName "length") = false := by decide +kernel
  simp [own?, arrayObject, ofKind?, noPosition, noLength]

/-- The property under a key is what mirrors one of the members. -/
theorem exists_mirrored_of_find?
    {members : Json.Members}
    {props : Array (Units × Slot)}
    (mirrors : List.Forall₂ (MirrorMember machine free) members props.toList)
    {key : Units}
    {entry : Units × Slot}
    (found : (props.find? fun entry => entry.1 == key) = some entry) :
    ∃ member ∈ members, ∃ value, entry = (Units.ofText member.1, { value }) ∧
      Mirrors machine free member.2 value := by
  have member : entry ∈ props.toList := Array.mem_toList_iff.mpr (Array.mem_of_find?_eq_some found)
  obtain ⟨i, within, rfl⟩ := List.getElem_of_mem member
  have bound : i < members.length := by rwa [mirrors.length_eq]
  exact ⟨members[i], List.getElem_mem bound, mirrorMember_iff.mp (mirrors.get bound within)⟩

/-- What mirrors a container has no function that writes it. -/
theorem not_callable_toJSON
    (quiet : Quiet machine)
    {ref : Nat}
    (mirrors : Mirrors machine free json (.object ref)) :
    isCallable machine (Value.ofOption
      ((lookup machine (Units.ofName "toJSON") inheritanceLimit ref).map (·.value))) = false := by
  have inherited (slots : Option Slot)
      (plain : ∀ slot, slots = some slot → isCallable machine slot.value = false) :
      isCallable machine (Value.ofOption (slots.map (·.value))) = false := by
    cases slots with
    | none => rfl
    | some slot => exact plain slot rfl
  refine inherited _ fun slot found => ?_
  cases json with
  | arr items =>
      obtain ⟨_, values, same, -, there, -⟩ := mirrors_arr.mp mirrors
      cases same
      have obj := object_of_getElem? there
      have first : inheritanceLimit = 997 + 1 + 1 + 1 := rfl
      rw [first, lookup, obj, own?_arrayObject_toJSON] at found
      simp only [arrayObject] at found
      rw [lookup] at found
      split at found
      case h_1 own => exact quiet.arrays_quiet slot (own.trans found)
      case h_2 =>
        rw [quiet.arrays] at found
        simp only at found
        rw [lookup] at found
        split at found
        case h_1 own => exact quiet.objects_quiet slot (own.trans found)
        case h_2 => simp [quiet.root] at found
  | obj members =>
      obtain ⟨_, props, same, -, there, inner⟩ := mirrors_obj.mp mirrors
      cases same
      have obj := object_of_getElem? there
      rw [lookup_objectPrototype quiet (by rw [obj]; rfl), obj, own?_plainObject,
        Option.or_eq_some_iff] at found
      rcases found with own | ⟨-, shared⟩
      · obtain ⟨entry, there, rfl⟩ := Option.map_eq_some_iff.mp own
        obtain ⟨member, -, value, rfl, mirrors⟩ := exists_mirrored_of_find? inner there
        exact mirrors.not_callable
      · exact quiet.objects_quiet slot shared
  | _ => cases mirrors

@[simp] theorem not_returns_exhausted {α : Type} {found : α} :
    ¬Returns exhausted machine found after := by
  simp [exhausted]

/-- A script writes what mirrors a JSON value as it stands. -/
theorem returns_jsonValue
    {host : Caller}
    {style : Library.JsonStyle}
    {holder found : Value}
    {key : Units}
    (quiet : Quiet machine)
    (mirrors : Mirrors machine free json value)
    (plain : style.replacer = .undefined)
    (ran : Returns (Library.jsonValue host style holder key value) machine found after) :
    found = value ∧ after = machine := by
  unfold Library.jsonValue at ran
  cases value with
  | object ref =>
      have method := not_callable_toJSON quiet mirrors
      have wrapped : ∀ inner, (machine.object ref).kind ≠ .wrapper inner := by
        intro inner
        cases json with
        | arr items =>
            obtain ⟨_, values, same, -, there, -⟩ := mirrors_arr.mp mirrors
            cases same
            simp [object_of_getElem? there, arrayObject]
        | obj members =>
            obtain ⟨_, props, same, -, there, -⟩ := mirrors_obj.mp mirrors
            cases same
            simp [object_of_getElem? there, Library.plainObject]
        | _ => cases mirrors
      simp only [plain, getNamed, Property.get, returns_bind, returns_getState, returns_get,
        returns_pure] at ran
      obtain ⟨_, _, ⟨_, _, ⟨rfl, rfl⟩, rfl, rfl⟩, _, _, ⟨rfl, rfl⟩, ran⟩ := ran
      rw [if_neg (by rw [method]; decide)] at ran
      simp only [pure_bind, returns_bind, returns_object] at ran
      obtain ⟨_, _, ⟨rfl, rfl⟩, ran⟩ := ran
      split at ran
      case h_1 inner kind => exact absurd kind (wrapped inner)
      case h_2 => exact returns_pure.mp ran
  | _ => simpa [plain] using ran

/-! ## Keys -/

/-- The property of a member is the first one under its name. -/
theorem find?_mirrored
    {members : Json.Members}
    {props : List (Units × Slot)}
    (mirrors : List.Forall₂ (MirrorMember machine free) members props)
    {name : Text}
    {json : Json}
    (found : Keyed.get? members name = some json) :
    ∃ value, (props.find? fun entry => entry.1 == Units.ofText name) =
        some (Units.ofText name, { value }) ∧
      Mirrors machine free json value := by
  induction mirrors with
  | nil => cases found
  | @cons member entry members props first _ ih =>
      obtain ⟨value, rfl, mirrors⟩ := mirrorMember_iff.mp first
      rw [Keyed.get?] at found
      by_cases same : member.1 = name
      · subst same
        rw [if_pos (by simp), Option.some.injEq] at found
        subst found
        exact ⟨value, by simp, mirrors⟩
      · rw [if_neg (by simpa using same)] at found
        obtain ⟨other, there, mirrors⟩ := ih found
        refine ⟨other, ?_, mirrors⟩
        rw [List.find?_cons_of_neg (by simpa using same)]
        exact there

theorem keys_mirrored
    {members : Json.Members}
    {props : List (Units × Slot)}
    (mirrors : List.Forall₂ (MirrorMember machine free) members props) :
    props.map (·.1) = members.keys.map Units.ofText := by
  induction mirrors with
  | nil => rfl
  | cons first _ ih =>
      obtain ⟨value, rfl, -⟩ := mirrorMember_iff.mp first
      simpa [Keyed.keys] using ih

theorem enumerable_mirrored
    {members : Json.Members}
    {props : List (Units × Slot)}
    (mirrors : List.Forall₂ (MirrorMember machine free) members props) :
    ∀ entry ∈ props, entry.2.enumerable = true := by
  induction mirrors with
  | nil => simp
  | cons first _ ih =>
      obtain ⟨value, rfl, -⟩ := mirrorMember_iff.mp first
      simpa using ih

/-- A script lists the keys of what mirrors members in the order in which it lists names. -/
theorem ownKeys_mirrored
    {members : Json.Members}
    {props : Array (Units × Slot)}
    (mirrors : List.Forall₂ (MirrorMember machine free) members props.toList) :
    ownKeys (Library.plainObject props) false = (listed members.keys).map Units.ofText := by
  have all : (props.toList.filter fun entry => entry.2.enumerable) = props.toList :=
    List.filter_eq_self.mpr (enumerable_mirrored mirrors)
  have keys := keys_mirrored mirrors
  have positions : (props.toList.filterMap fun entry =>
        (position? entry.1).map fun i => (i, entry.1)) =
      (members.keys.filterMap fun name =>
        (position? (Units.ofText name)).map fun i => (i, name)).map
          fun entry => (entry.1, Units.ofText entry.2) := by
    have along : (props.toList.filterMap fun entry =>
          (position? entry.1).map fun i => (i, entry.1)) =
        (props.toList.map (·.1)).filterMap fun key => (position? key).map fun i => (i, key) := by
      rw [List.filterMap_map]
      rfl
    rw [along, keys, List.filterMap_map, List.map_filterMap]
    refine List.filterMap_congr fun name _ => ?_
    cases position : position? (Units.ofText name) <;> simp [position]
  have rest : (props.toList.filterMap fun entry =>
        if (position? entry.1).isSome then none else some entry.1) =
      (members.keys.filter fun name => (position? (Units.ofText name)).isNone).map
        Units.ofText := by
    have along : (props.toList.filterMap fun entry =>
          if (position? entry.1).isSome then none else some entry.1) =
        (props.toList.map (·.1)).filterMap fun key =>
          if (position? key).isSome then none else some key := by
      rw [List.filterMap_map]
      rfl
    rw [along, keys, List.filterMap_map, ← List.filterMap_eq_filter, List.map_filterMap]
    refine List.filterMap_congr fun name _ => ?_
    cases position : position? (Units.ofText name) <;> simp [position, Option.guard]
  have sorted := List.map_mergeSort (r := fun a b : Nat × Text => decide (a.1 ≤ b.1))
    (s := fun a b : Nat × Units => decide (a.1 ≤ b.1))
    (f := fun entry => (entry.1, Units.ofText entry.2))
    (l := members.keys.filterMap fun name =>
      (position? (Units.ofText name)).map fun i => (i, name)) fun _ _ _ _ => rfl
  simp only [ownKeys, Library.plainObject, Bool.false_or, all, positions, rest, sortPositions,
    ← sorted, listed, List.map_append, List.map_map, List.nil_append, List.append_nil]
  rfl

/-! ## Writing -/

/-- Values are written as they stand, without breaks. -/
def plainStyle : Library.JsonStyle := { gap := #[], replacer := .undefined, keys := none }

/-- The strings of texts, joined one after another. -/
theorem foldl_ofText (texts : List Text) (before : Text) :
    (texts.map Units.ofText).foldl (· ++ ·) (Units.ofText before) =
      Units.ofText (before ++ texts.flatten) := by
  induction texts generalizing before with
  | nil => simp
  | cons text rest ih =>
      rw [List.map_cons, List.foldl_cons, ← Units.ofText_append, ih, List.flatten_cons,
        List.append_assoc]

theorem intersperse_ofText (mark : Text) (texts : List Text) :
    (texts.map Units.ofText).intersperse (Units.ofText mark) =
      (texts.intersperse mark).map Units.ofText := by
  induction texts with
  | nil => rfl
  | cons text rest ih =>
      cases rest with
      | nil => rfl
      | cons other more =>
          simp only [List.map_cons, List.intersperse_cons_cons] at ih ⊢
          rw [ih]

/-- Texts between brackets, as a script joins them. -/
theorem jsonContainer_texts
    (indent : Units)
    {opening closing : Char}
    {first last : UInt16}
    (opens : Units.ofChar opening = [first])
    (closes : Units.ofChar closing = [last])
    (texts : List Text) :
    Library.jsonContainer plainStyle indent first last (texts.map Units.ofText) =
      Units.ofText (enclosed opening closing texts) := by
  have ends : Units.ofText (enclosed opening closing texts) =
      #[first] ++ Units.ofText (Text.join [','] texts) ++ #[last] := by
    simp [enclosed, Units.ofText, opens, closes]
  rw [ends, Library.jsonContainer]
  cases texts with
  | nil => rfl
  | cons text rest =>
      have joined := foldl_ofText ((text :: rest).intersperse [',']) []
      rw [List.nil_append, ← intersperse_ofText] at joined
      have comma : Units.ofText [','] = #[44] := rfl
      rw [comma, Units.ofText_nil] at joined
      simp only [List.map_cons, List.isEmpty_cons, Bool.false_eq_true, if_false] at joined ⊢
      have noGap : plainStyle.gap.isEmpty = true := rfl
      rw [if_pos noGap, joined]
      rfl

/-- What mirrors a JSON value is written as the text of the value, and nothing changes. -/
def WritesText (host : Caller) (json : Json) : Prop :=
  ∀ {machine after : Machine} {free : Nat → Prop} {value : Value} {depth : Nat}
    {around : List Nat} {indent : Units} {found : Option Units},
    Quiet machine → Mirrors machine free json value →
    Returns (Library.writeJson host plainStyle depth around indent value) machine found after →
    found = some (Units.ofText (jsonText json)) ∧ after = machine

section

variable {host : Caller}

/-- A value inside a container is asked for and written. -/
theorem returns_written
    {json : Json}
    (writes : WritesText host json)
    (quiet : Quiet machine)
    (mirrors : Mirrors machine free json value)
    {holder : Value}
    {key indent : Units}
    {depth : Nat}
    {around : List Nat}
    {found : Option Units}
    (ran : Returns (do
      let item ← Library.jsonValue host plainStyle holder key value
      Library.writeJson host plainStyle depth around indent item) machine found after) :
    found = some (Units.ofText (jsonText json)) ∧ after = machine := by
  rw [returns_bind] at ran
  obtain ⟨item, between, one, two⟩ := ran
  obtain ⟨rfl, rfl⟩ := returns_jsonValue quiet mirrors rfl one
  exact writes quiet mirrors two

theorem writesText_arr
    {items : List Json}
    (inner : ∀ item ∈ items, WritesText host item) :
    WritesText host (.arr items) := by
  intro machine after free value depth around indent found quiet mirrors ran
  obtain ⟨ref, values, rfl, isFree, there, inside⟩ := mirrors_arr.mp mirrors
  cases depth with
  | zero => exact absurd ran not_returns_exhausted
  | succ depth =>
      rw [Library.writeJson] at ran
      have items? : arrayItems? machine (.object ref) = some (values.map some).toArray := by
        simp [arrayItems?, object_of_getElem? there, arrayObject]
      simp only [returns_bind, returns_get] at ran
      obtain ⟨_, _, ⟨rfl, rfl⟩, ran⟩ := ran
      rw [mirrors.not_callable] at ran
      simp only [Bool.false_eq_true, if_false] at ran
      split at ran
      case isTrue => simp at ran
      case isFalse =>
        simp only [returns_bind, returns_get] at ran
        obtain ⟨_, _, ⟨rfl, rfl⟩, ran⟩ := ran
        rw [items?] at ran
        simp only [returns_bind, returns_pure, Std.Legacy.Range.forIn_eq_forIn_range'] at ran
        obtain ⟨parts, between, loop, rfl, rfl⟩ := ran
        have turn := returns_forIn_push
          (fun i => Units.ofText ((items.map jsonText)[i]?.getD [])) (fun i within => ?_) loop
        · obtain ⟨rfl, rfl⟩ := turn
          have size : values.length = items.length := inside.length_eq.symm
          have all : (List.range' 0 items.length).map (fun i =>
              Units.ofText ((items.map jsonText)[i]?.getD [])) =
              (items.map jsonText).map Units.ofText := by
            refine List.ext_getElem (by simp) fun i one two => ?_
            have bound : i < items.length := by simpa using two
            simp [bound]
          refine ⟨?_, rfl⟩
          simp only [List.size_toArray, List.length_map, size, Array.empty_append,
            Std.Legacy.Range.size, Nat.sub_zero, Nat.add_sub_cancel, Nat.div_one, all]
          have opens : Units.ofChar '[' = [91] := rfl
          have closes : Units.ofChar ']' = [93] := rfl
          rw [jsonContainer_texts indent opens closes, jsonText_arr]
        · have bound : i < values.length := by simpa [List.mem_range'_1] using within
          have paired : i < items.length := by rwa [inside.length_eq]
          have item := inside.get paired bound
          simp only [List.get_eq_getElem] at item
          have value : Value.ofOption ((values.map some).toArray[i]?.join) = values[i] := by
            simp [Value.ofOption, bound]
          intro parts step between ran
          rw [value, ← bind_assoc, returns_bind] at ran
          obtain ⟨written, _, one, two⟩ := ran
          obtain ⟨rfl, rfl⟩ := returns_written (inner _ (List.getElem_mem paired)) quiet item one
          obtain ⟨rfl, rfl⟩ := returns_pure.mp two
          simp [paired]

/-- The value of a member is found under the key of its name. -/
theorem returns_get_mirrored
    (quiet : Quiet machine)
    {members : Json.Members}
    {props : Array (Units × Slot)}
    {ref : Nat}
    (there : machine.objects[ref]? = some (Library.plainObject props))
    (mirrors : List.Forall₂ (MirrorMember machine free) members props.toList)
    {name : Text}
    {json : Json}
    (bound : Keyed.get? members name = some json)
    {found : Value}
    (ran : Returns (Property.get (.object ref) (Units.ofText name)) machine found after) :
    Mirrors machine free json found ∧ after = machine := by
  obtain ⟨value, same, mirrored⟩ := find?_mirrored mirrors bound
  rw [Array.find?_toList] at same
  have obj := object_of_getElem? there
  simp only [Property.get, returns_bind, returns_getState, returns_pure] at ran
  obtain ⟨_, _, ⟨rfl, rfl⟩, rfl, rfl⟩ := ran
  rw [lookup_objectPrototype quiet (by rw [obj]; rfl), obj, own?_plainObject, same]
  exact ⟨mirrored, rfl⟩

theorem plainText_number (x : Float) :
    (if x.isFinite then Convert.plainText (.number x) else Units.ofName "null") =
      Units.ofText (numberText x) := by
  unfold numberText
  split <;> rfl

theorem writesText_scalar (scalar : json.isContainer = false) : WritesText host json := by
  intro machine after free value depth around indent found quiet mirrors ran
  cases depth with
  | zero => exact absurd ran not_returns_exhausted
  | succ depth =>
      cases json with
      | arr => cases scalar
      | obj => cases scalar
      | null =>
          cases mirrors
          exact returns_pure.mp ran
      | bool flag =>
          cases mirrors
          cases flag <;> exact returns_pure.mp ran
      | int n =>
          cases mirrors
          rw [jsonText, ← plainText_number]
          exact returns_pure.mp ran
      | float x =>
          cases mirrors
          rw [jsonText, ← plainText_number]
          exact returns_pure.mp ran
      | str text =>
          cases mirrors
          rw [jsonText, ← Units.jsonString_ofText]
          exact returns_pure.mp ran

theorem writesText_obj
    {members : Json.Members}
    (inner : ∀ member ∈ members, WritesText host member.2) :
    WritesText host (.obj members) := by
  intro machine after free value depth around indent found quiet mirrors ran
  obtain ⟨ref, props, rfl, isFree, there, inside⟩ := mirrors_obj.mp mirrors
  cases depth with
  | zero => exact absurd ran not_returns_exhausted
  | succ depth =>
      rw [Library.writeJson] at ran
      have obj := object_of_getElem? there
      have items? : arrayItems? machine (.object ref) = none := by
        simp [arrayItems?, obj, Library.plainObject]
      simp only [returns_bind, returns_get] at ran
      obtain ⟨_, _, ⟨rfl, rfl⟩, ran⟩ := ran
      rw [mirrors.not_callable] at ran
      simp only [Bool.false_eq_true, if_false] at ran
      split at ran
      case isTrue => simp at ran
      case isFalse =>
        simp only [returns_bind, returns_get] at ran
        obtain ⟨_, _, ⟨rfl, rfl⟩, ran⟩ := ran
        rw [items?] at ran
        simp only [returns_bind, returns_object, returns_pure] at ran
        obtain ⟨_, _, ⟨rfl, rfl⟩, parts, between, loop, rfl, rfl⟩ := ran
        have keys : plainStyle.keys = none := rfl
        rw [keys, Option.getD_none, obj, ownKeys_mirrored inside] at loop
        have turn := returns_forIn_push (fun key => Units.ofText
          (memberText key.toText (jsonText ((Keyed.get? members key.toText).getD .null))))
          (fun key within => ?_) loop
        · obtain ⟨rfl, rfl⟩ := turn
          have opens : Units.ofChar '\x7b' = [123] := rfl
          have closes : Units.ofChar '\x7d' = [125] := rfl
          refine ⟨?_, rfl⟩
          rw [jsonText_obj, arranged_eq_map, ← jsonContainer_texts indent opens closes]
          simp only [List.map_map, Array.empty_append, Function.comp_def, Units.toText_ofText]
          rfl
        · obtain ⟨name, listing, rfl⟩ := List.mem_map.mp within
          obtain ⟨json, bound⟩ := Keyed.exists_get?_of_mem_keys (mem_listed.mp listing)
          intro parts step between ran
          rw [returns_bind] at ran
          obtain ⟨value, _, get, ran⟩ := ran
          obtain ⟨mirrored, rfl⟩ := returns_get_mirrored quiet there inside bound get
          rw [← bind_assoc, returns_bind] at ran
          obtain ⟨written, _, one, two⟩ := ran
          obtain ⟨rfl, rfl⟩ :=
            returns_written (inner _ (Keyed.mem_of_get? bound)) quiet mirrored one
          obtain ⟨rfl, rfl⟩ := returns_pure.mp two
          refine ⟨?_, rfl⟩
          have noGap : plainStyle.gap.isEmpty = true := rfl
          have colon : (#[58] : Units) = Units.ofText [':'] := rfl
          rw [if_pos noGap, Units.jsonString_ofText, colon, ← Units.ofText_append,
            ← Units.ofText_append, Units.toText_ofText, bound]
          simp [memberText]

/-- What mirrors a JSON value is written as the text of the value. -/
theorem writesText (host : Caller) (json : Json) : WritesText host json := by
  induction json using Json.inductionOn with
  | scalar json scalar => exact writesText_scalar scalar
  | arr items inner => exact writesText_arr inner
  | obj members inner => exact writesText_obj inner

end

end Script

end RuleProbe
