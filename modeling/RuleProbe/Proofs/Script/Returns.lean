import RuleProbe.Script.Property

/-!
# Runs of scripts that return

A run of a part of a script returns a value and leaves a machine, or ends abruptly.  The lemmas
of this module take runs that return apart: each says what a run of one construct that returns
has done.
-/

namespace RuleProbe

namespace Script

variable {α β : Type} {machine after : Machine}

/-- A run returns a value, and leaves a machine. -/
def Returns (action : Run α) (machine : Machine) (value : α) (after : Machine) : Prop :=
  action.run machine = .ok value after

/-- A run returns one value only. -/
theorem Returns.unique
    {action : Run α}
    {one two : α}
    {first second : Machine}
    (left : Returns action machine one first)
    (right : Returns action machine two second) :
    one = two ∧ first = second := by
  have same := Eq.trans (Eq.symm left) right
  injection same with value state
  exact ⟨value, state⟩

@[simp] theorem returns_pure {value found : α} :
    Returns (pure value) machine found after ↔ found = value ∧ after = machine := by
  constructor
  · intro ran
    injection ran with same rest
    exact ⟨same.symm, rest.symm⟩
  · rintro ⟨rfl, rfl⟩
    rfl

@[simp] theorem returns_bind {action : Run α} {next : α → Run β} {found : β} :
    Returns (action >>= next) machine found after ↔
      ∃ value between, Returns action machine value between ∧
        Returns (next value) between found after := by
  unfold Returns EStateM.run
  simp only [bind, EStateM.bind]
  cases ended : action machine with
  | ok value between =>
      constructor
      · intro ran
        exact ⟨value, between, rfl, ran⟩
      · rintro ⟨_, _, same, ran⟩
        injection same with same rest
        rw [← same, ← rest] at ran
        exact ran
  | error abrupt between => simp

@[simp] theorem returns_map {action : Run α} {change : α → β} {found : β} :
    Returns (change <$> action) machine found after ↔
      ∃ value, Returns action machine value after ∧ found = change value := by
  rw [← bind_pure_comp, returns_bind]
  constructor
  · rintro ⟨value, between, ran, done⟩
    obtain ⟨rfl, rfl⟩ := returns_pure.mp done
    exact ⟨value, ran, rfl⟩
  · rintro ⟨value, ran, rfl⟩
    exact ⟨value, after, ran, returns_pure.mpr ⟨rfl, rfl⟩⟩

@[simp] theorem returns_get {found : Machine} :
    Returns get machine found after ↔ found = machine ∧ after = machine := by
  constructor
  · intro ran
    injection ran with same rest
    exact ⟨same.symm, rest.symm⟩
  · rintro ⟨rfl, rfl⟩
    rfl

@[simp] theorem returns_getState {found : Machine} :
    Returns EStateM.get machine found after ↔ found = machine ∧ after = machine :=
  returns_get

@[simp] theorem returns_modify {change : Machine → Machine} {found : PUnit} :
    Returns (modify change) machine found after ↔ after = change machine := by
  constructor
  · intro ran
    injection ran with same rest
    exact rest.symm
  · rintro rfl
    rfl

@[simp] theorem not_returns_throw {abrupt : Abrupt} {found : α} :
    ¬Returns (throw abrupt) machine found after := by
  intro ran
  injection ran

@[simp] theorem returns_object {ref : Nat} {found : Obj} :
    Returns (Run.object ref) machine found after ↔
      found = machine.object ref ∧ after = machine := by
  constructor
  · intro ran
    injection ran with same rest
    exact ⟨same.symm, rest.symm⟩
  · rintro ⟨rfl, rfl⟩
    rfl

@[simp] theorem returns_modifyObject {ref : Nat} {change : Obj → Obj} {found : Unit} :
    Returns (Run.modifyObject ref change) machine found after ↔
      after = machine.modifyObject ref change := by
  simp [Run.modifyObject]

@[simp] theorem returns_add {obj : Obj} {found : Value} :
    Returns (Run.add obj) machine found after ↔
      found = .object machine.objects.size ∧ after = (machine.add obj).2 := by
  constructor
  · intro ran
    injection ran with same rest
    exact ⟨same.symm, rest.symm⟩
  · rintro ⟨rfl, rfl⟩
    rfl

/-- A failure never returns. -/
@[simp] theorem not_returns_fail {errorClass : Intrinsic} {message : Text} {found : α} :
    ¬Returns (Run.fail errorClass message) machine found after := by
  simp [Run.fail]

@[simp] theorem not_returns_typeError {message : String} {found : α} :
    ¬Returns (Run.typeError message) machine found after := by
  simp [Run.typeError]

/-- A loop whose turns only add what belongs to their item has added it for all items. -/
theorem returns_forIn_push
    {items : List α}
    {body : α → Array β → Run (ForInStep (Array β))}
    (part : α → β)
    (turn : ∀ item ∈ items, ∀ {parts : Array β} {step : ForInStep (Array β)} {between : Machine},
      Returns (body item parts) machine step between →
      step = .yield (parts.push (part item)) ∧ between = machine)
    {first last : Array β}
    (ran : Returns (forIn items first body) machine last after) :
    last = first ++ (items.map part).toArray ∧ after = machine := by
  induction items generalizing first with
  | nil =>
      obtain ⟨rfl, rfl⟩ := returns_pure.mp ran
      simp
  | cons item rest ih =>
      rw [List.forIn_cons, returns_bind] at ran
      obtain ⟨step, between, one, two⟩ := ran
      obtain ⟨rfl, rfl⟩ := turn item List.mem_cons_self one
      obtain ⟨rfl, rfl⟩ := ih (fun item member => turn item (List.mem_cons_of_mem _ member)) two
      simp

end Script

end RuleProbe
