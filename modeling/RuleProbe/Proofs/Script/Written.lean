import Mathlib.Data.List.Basic
import RuleProbe.Proofs.Keyed
import RuleProbe.Proofs.Numeral
import RuleProbe.Proofs.Script.Units

/-!
# JSON texts of scripts

A script writes a JSON value as a text of its own kind: numbers as scripts write them, members
in the order in which scripts list keys.  The host reads such a text as the same value, with its
numbers gone through their texts.
-/

namespace RuleProbe

/-- An induction over a JSON value whose hypotheses are about the values directly inside. -/
theorem Json.inductionOn
    {motive : Json → Prop}
    (scalar : ∀ value : Json, value.isContainer = false → motive value)
    (arr : ∀ items : List Json, (∀ item ∈ items, motive item) → motive (.arr items))
    (obj : ∀ members : Json.Members, (∀ member ∈ members, motive member.2) →
      motive (.obj members)) :
    ∀ value : Json, motive value
  | .null => scalar .null rfl
  | .bool value => scalar (.bool value) rfl
  | .int value => scalar (.int value) rfl
  | .float value => scalar (.float value) rfl
  | .str value => scalar (.str value) rfl
  | .arr items => arr items fun item _ => inductionOn scalar arr obj item
  | .obj members => obj members fun member _ => inductionOn scalar arr obj member.2
  termination_by value => sizeOf value
  decreasing_by
    · have smaller := List.sizeOf_lt_of_mem ‹item ∈ items›
      simp only [Json.arr.sizeOf_spec]
      omega
    · obtain ⟨name, inner⟩ := member
      have smaller := List.sizeOf_lt_of_mem ‹(name, inner) ∈ members›
      simp only [Prod.mk.sizeOf_spec] at smaller
      simp only [Json.obj.sizeOf_spec]
      omega

namespace Script

/-! ## Members in the order of their listing -/

/-- Names in the order in which scripts list keys: positions in order, then the others. -/
def listed (names : List Text) : List Text :=
  let positions := names.filterMap fun name =>
    (Property.position? (Units.ofText name)).map fun i => (i, name)
  (positions.mergeSort fun a b => a.1 ≤ b.1).map (·.2) ++
    names.filter fun name => (Property.position? (Units.ofText name)).isNone

theorem mem_listed {names : List Text} {name : Text} : name ∈ listed names ↔ name ∈ names := by
  simp only [listed, List.mem_append, List.mem_map, List.mem_mergeSort, List.mem_filterMap,
    List.mem_filter, Option.map_eq_some_iff, Option.isNone_iff_eq_none]
  constructor
  · rintro (⟨_, ⟨other, member, i, -, rfl⟩, rfl⟩ | ⟨member, -⟩)
    · exact member
    · exact member
  · intro member
    cases position : Property.position? (Units.ofText name) with
    | some i => exact .inl ⟨_, ⟨name, member, i, position, rfl⟩, rfl⟩
    | none => exact .inr ⟨member, rfl⟩

/-- Members in the order in which scripts list them. -/
def arranged {α : Type} (members : Keyed α) : Keyed α :=
  (listed members.keys).filterMap fun name => (members.get? name).map fun value => (name, value)

section

variable {α β : Type}

theorem arranged_map (change : α → β) (members : Keyed α) :
    arranged (members.map fun member => (member.1, change member.2)) =
      (arranged members).map fun member => (member.1, change member.2) := by
  have names : Keyed.keys (members.map fun member => (member.1, change member.2)) =
      Keyed.keys members := by
    simp [Keyed.keys]
  rw [arranged, arranged, names, List.map_filterMap]
  refine List.filterMap_congr fun name _ => ?_
  rw [Keyed.get?_map]
  cases Keyed.get? members name <;> rfl

/-- The members that are listed have the values of the members. -/
theorem get?_of_mem_arranged
    {members : Keyed α}
    {entry : Text × α}
    (member : entry ∈ arranged members) :
    Keyed.get? members entry.1 = some entry.2 := by
  obtain ⟨name, -, same⟩ := List.mem_filterMap.mp member
  obtain ⟨value, found, rfl⟩ := Option.map_eq_some_iff.mp same
  exact found

theorem arranged_eq_map [Inhabited α] (members : Keyed α) :
    arranged members =
      (listed members.keys).map fun name => (name, (members.get? name).getD default) := by
  rw [arranged, ← List.filterMap_eq_map]
  refine List.filterMap_congr fun name listing => ?_
  obtain ⟨value, found⟩ := Keyed.exists_get?_of_mem_keys (mem_listed.mp listing)
  simp [found]

theorem mem_keys_arranged {members : Keyed α} {key : Text} :
    key ∈ Keyed.keys (arranged members) ↔ key ∈ Keyed.keys members := by
  constructor
  · intro listing
    obtain ⟨entry, member, rfl⟩ := List.mem_map.mp listing
    obtain ⟨name, names, same⟩ := List.mem_filterMap.mp member
    obtain ⟨value, found, rfl⟩ := Option.map_eq_some_iff.mp same
    exact mem_listed.mp names
  · intro member
    obtain ⟨value, found⟩ := Keyed.exists_get?_of_mem_keys member
    refine List.mem_map.mpr ⟨(key, value), ?_, rfl⟩
    exact List.mem_filterMap.mpr ⟨key, mem_listed.mpr member, by simp [found]⟩

/-- Listing changes no value. -/
theorem get?_update_arranged (members : Keyed α) (key : Text) :
    Keyed.get? (Keyed.update [] (arranged members)) key = Keyed.get? members key := by
  by_cases bound : key ∈ Keyed.keys members
  · obtain ⟨value, found⟩ := Keyed.exists_get?_of_mem_keys bound
    rw [found]
    refine Keyed.get?_update_of_agree (fun change member same => ?_)
      (mem_keys_arranged.mpr bound) []
    have there := get?_of_mem_arranged member
    rw [same, found] at there
    exact (Option.some.inj there).symm
  · rw [Keyed.get?_eq_none_of_notMem bound,
      Keyed.get?_update_of_notMem fun listing => bound (mem_keys_arranged.mp listing)]
    rfl

end

/-! ## Texts of values -/

/-- A number in a JSON text of a script. -/
def numberText (x : Float) : Text := if x.isFinite then Number.write x else "null"

/-- Texts between brackets. -/
def enclosed (opening closing : Char) (parts : List Text) : Text :=
  opening :: (Text.join [','] parts ++ [closing])

/-- A member by its name and the text of its value. -/
def memberText (name value : Text) : Text := Json.writeString name ++ ':' :: value

mutual

/-- The JSON text that a script writes for a value. -/
def jsonText : Json → Text
  | .null => "null"
  | .bool value => if value then "true" else "false"
  | .int value => numberText (Float.ofInt value)
  | .float value => numberText value
  | .str value => Json.writeString value
  | .arr items => enclosed '[' ']' (itemTexts items)
  | .obj members =>
      let texts := memberTexts members
      enclosed '\x7b' '\x7d' ((arranged texts).map fun entry => memberText entry.1 entry.2)
  termination_by structural value => value

/-- The texts of items. -/
def itemTexts : List Json → List Text
  | [] => []
  | item :: rest => jsonText item :: itemTexts rest
  termination_by structural items => items

/-- The texts of the values of members. -/
def memberTexts : List (Text × Json) → List (Text × Text)
  | [] => []
  | member :: rest => valueText member :: memberTexts rest
  termination_by structural members => members

/-- The text of the value of a member. -/
def valueText : Text × Json → Text × Text
  | (name, value) => (name, jsonText value)
  termination_by structural member => member

end

theorem itemTexts_eq (items : List Json) : itemTexts items = items.map jsonText := by
  induction items with
  | nil => rfl
  | cons item rest ih => rw [itemTexts, ih, List.map_cons]

theorem memberTexts_eq (members : Json.Members) :
    memberTexts members = members.map fun member => (member.1, jsonText member.2) := by
  induction members with
  | nil => rfl
  | cons member rest ih => rw [memberTexts, ih, List.map_cons, valueText]

theorem jsonText_arr (items : List Json) :
    jsonText (.arr items) = enclosed '[' ']' (items.map jsonText) := by
  rw [jsonText, itemTexts_eq]

theorem jsonText_obj (members : Json.Members) :
    jsonText (.obj members) = enclosed '\x7b' '\x7d'
      ((arranged members).map fun entry => memberText entry.1 (jsonText entry.2)) := by
  simp only [jsonText, memberTexts_eq]
  rw [arranged_map jsonText, List.map_map]
  rfl

/-! ## Values that have gone through their texts -/

/-- A number that has gone through its text. -/
def numberJson (x : Float) : Json :=
  match Json.Reader.readScalar (numberText x) with
  | .ok (value, _) => value
  | .error _ => .null

mutual

/-- The value that the host reads where a script writes a value. -/
def reread : Json → Json
  | .null => .null
  | .bool value => .bool value
  | .int value => numberJson (Float.ofInt value)
  | .float value => numberJson value
  | .str value => .str value
  | .arr items => .arr (rereadItems items)
  | .obj members => .obj (Keyed.update [] (arranged (rereadMembers members)))
  termination_by structural value => value

/-- Items as the host reads them. -/
def rereadItems : List Json → List Json
  | [] => []
  | item :: rest => reread item :: rereadItems rest
  termination_by structural items => items

/-- Members as the host reads them. -/
def rereadMembers : List (Text × Json) → List (Text × Json)
  | [] => []
  | member :: rest => rereadMember member :: rereadMembers rest
  termination_by structural members => members

/-- A member as the host reads it. -/
def rereadMember : Text × Json → Text × Json
  | (name, value) => (name, reread value)
  termination_by structural member => member

end

theorem rereadItems_eq (items : List Json) : rereadItems items = items.map reread := by
  induction items with
  | nil => rfl
  | cons item rest ih => rw [rereadItems, ih, List.map_cons]

theorem rereadMembers_eq (members : Json.Members) :
    rereadMembers members = members.map fun member => (member.1, reread member.2) := by
  induction members with
  | nil => rfl
  | cons member rest ih => rw [rereadMembers, ih, List.map_cons, rereadMember]

theorem reread_arr (items : List Json) : reread (.arr items) = .arr (items.map reread) := by
  rw [reread, rereadItems_eq]

theorem reread_obj (members : Json.Members) :
    reread (.obj members) = .obj (Keyed.update []
      ((arranged members).map fun entry => (entry.1, reread entry.2))) := by
  rw [reread, rereadMembers_eq, arranged_map]

end Script

end RuleProbe
