import RuleProbe.Proofs.Effects

/-!
# Runs in parallel

Two computations run in parallel when, from related states, they end alike, up to a change of the
value, and in related states.  A piece of a computation runs in parallel with its counterpart
when its parts do, so this is shown piece by piece.
-/

namespace RuleProbe

variable {σ α β γ δ : Type}

/-- From related states, two computations end alike, the value changed, and in related
states. -/
def Parallel
    (related : σ → σ → Prop)
    (change : α → β)
    (one : ExceptT Fault (StateM σ) α)
    (two : ExceptT Fault (StateM σ) β) : Prop :=
  ∀ first second, related first second →
    (runFrom two second).1 = (runFrom one first).1.map change ∧
      related (runFrom one first).2 (runFrom two second).2

namespace Parallel

variable {related : σ → σ → Prop}
variable {change : α → β}

theorem of_pure (value : α) : Parallel related change (pure value) (pure (change value)) :=
  fun _ _ states => ⟨rfl, states⟩

theorem of_throw (fault : Fault) : Parallel related change (throw fault) (throw fault) :=
  fun _ _ states => ⟨rfl, states⟩

theorem of_modify
    {firstChange secondChange : σ → σ}
    (keeps : ∀ first second, related first second →
      related (firstChange first) (secondChange second)) :
    Parallel related id (modify firstChange : ExceptT Fault (StateM σ) PUnit)
      (modify secondChange) :=
  fun first second states => ⟨rfl, keeps first second states⟩

theorem of_except (value : Except Fault α) :
    Parallel related id (MonadExcept.ofExcept value) (MonadExcept.ofExcept value) := by
  intro first second states
  rw [runFrom_ofExcept, runFrom_ofExcept]
  cases value with
  | ok found => exact ⟨rfl, states⟩
  | error fault => exact ⟨rfl, states⟩

/-- What comes second may count on a value that the first computation returned. -/
theorem bind_of_returned
    {middle : α → β}
    {change : γ → δ}
    {one : ExceptT Fault (StateM σ) α}
    {two : ExceptT Fault (StateM σ) β}
    {next : α → ExceptT Fault (StateM σ) γ}
    {other : β → ExceptT Fault (StateM σ) δ}
    (before : Parallel related middle one two)
    (rest : ∀ value state after, runFrom one state = (.ok value, after) →
      Parallel related change (next value) (other (middle value))) :
    Parallel related change (one >>= next) (two >>= other) := by
  intro first second states
  obtain ⟨same, after⟩ := before first second states
  rw [runFrom_bind, runFrom_bind]
  cases firstEnd : runFrom one first with
  | mk result firstAfter =>
      cases secondEnd : runFrom two second with
      | mk otherResult secondAfter =>
          rw [firstEnd, secondEnd] at same after
          cases result with
          | ok value =>
              cases same
              exact rest value first firstAfter firstEnd firstAfter secondAfter after
          | error fault =>
              cases same
              exact ⟨rfl, after⟩

theorem bind
    {middle : α → β}
    {change : γ → δ}
    {one : ExceptT Fault (StateM σ) α}
    {two : ExceptT Fault (StateM σ) β}
    {next : α → ExceptT Fault (StateM σ) γ}
    {other : β → ExceptT Fault (StateM σ) δ}
    (before : Parallel related middle one two)
    (rest : ∀ value, Parallel related change (next value) (other (middle value))) :
    Parallel related change (one >>= next) (two >>= other) :=
  before.bind_of_returned fun value _ _ _ => rest value

/-- Two computations that return the same value go on with it. -/
theorem andThen
    {change : γ → δ}
    {one two : ExceptT Fault (StateM σ) α}
    {next : α → ExceptT Fault (StateM σ) γ}
    {other : α → ExceptT Fault (StateM σ) δ}
    (before : Parallel related id one two)
    (rest : ∀ value, Parallel related change (next value) (other value)) :
    Parallel related change (one >>= next) (two >>= other) :=
  before.bind rest

theorem map
    {middle : α → β}
    {change : γ → δ}
    {one : ExceptT Fault (StateM σ) α}
    {two : ExceptT Fault (StateM σ) β}
    {firstMap : α → γ}
    {secondMap : β → δ}
    (before : Parallel related middle one two)
    (commutes : ∀ value, secondMap (middle value) = change (firstMap value)) :
    Parallel related change (firstMap <$> one) (secondMap <$> two) := by
  rw [← bind_pure_comp, ← bind_pure_comp]
  refine before.bind fun value => ?_
  rw [commutes]
  exact of_pure (firstMap value)

/-- Two computations that return the same value change it alike. -/
theorem alike
    {one two : ExceptT Fault (StateM σ) α}
    (before : Parallel related id one two)
    (firstMap : α → γ) :
    Parallel related id (firstMap <$> one) (firstMap <$> two) :=
  before.map fun _ => rfl

theorem tryCatch
    {one : ExceptT Fault (StateM σ) α}
    {two : ExceptT Fault (StateM σ) β}
    {handler : Fault → ExceptT Fault (StateM σ) α}
    {otherHandler : Fault → ExceptT Fault (StateM σ) β}
    (before : Parallel related change one two)
    (rest : ∀ fault, Parallel related change (handler fault) (otherHandler fault)) :
    Parallel related change (tryCatch one handler) (tryCatch two otherHandler) := by
  intro first second states
  obtain ⟨same, after⟩ := before first second states
  rw [runFrom_tryCatch, runFrom_tryCatch]
  cases firstEnd : runFrom one first with
  | mk result firstAfter =>
      cases secondEnd : runFrom two second with
      | mk otherResult secondAfter =>
          rw [firstEnd, secondEnd] at same after
          cases result with
          | ok value =>
              cases same
              exact ⟨rfl, after⟩
          | error fault =>
              cases same
              exact rest fault firstAfter secondAfter after

/-! ## Conditions -/

theorem ite
    {condition : Prop}
    [Decidable condition]
    {one other : ExceptT Fault (StateM σ) α}
    {two another : ExceptT Fault (StateM σ) β}
    (holds : Parallel related change one two)
    (fails : Parallel related change other another) :
    Parallel related change (if condition then one else other)
      (if condition then two else another) := by
  split
  · exact holds
  · exact fails

/-- A step that is taken under a condition only comes before the rest. -/
theorem optionally
    {condition : Prop}
    [Decidable condition]
    {step otherStep : ExceptT Fault (StateM σ) γ}
    {one : ExceptT Fault (StateM σ) α}
    {two : ExceptT Fault (StateM σ) β}
    (before : Parallel related id step otherStep)
    (rest : Parallel related change one two) :
    Parallel related change (if condition then step >>= fun _ => one else one)
      (if condition then otherStep >>= fun _ => two else two) :=
  .ite (before.andThen fun _ => rest) rest

/-! ## Loops -/

theorem foldlM
    {items : List β}
    {body otherBody : α → β → ExceptT Fault (StateM σ) α}
    (each : ∀ value, ∀ item ∈ items,
      Parallel related id (body value item) (otherBody value item))
    (start : α) :
    Parallel related id (items.foldlM body start) (items.foldlM otherBody start) := by
  induction items generalizing start with
  | nil => exact of_pure start
  | cons item rest hypothesis =>
      rw [List.foldlM_cons, List.foldlM_cons]
      refine (each start item List.mem_cons_self).andThen fun value => ?_
      exact hypothesis (fun value item member => each value item (List.mem_cons_of_mem _ member))
        value

theorem forM
    {items : List β}
    {body otherBody : β → ExceptT Fault (StateM σ) PUnit}
    (each : ∀ item ∈ items, Parallel related id (body item) (otherBody item)) :
    Parallel related id (items.forM body) (items.forM otherBody) := by
  induction items with
  | nil => exact of_pure _
  | cons item rest hypothesis =>
      simp only [List.forM_eq_forM, List.forM_cons]
      refine (each item List.mem_cons_self).andThen fun _ => ?_
      exact hypothesis fun item member => each item (List.mem_cons_of_mem _ member)

theorem mapM
    {items : List β}
    {body otherBody : β → ExceptT Fault (StateM σ) α}
    (each : ∀ item ∈ items, Parallel related id (body item) (otherBody item)) :
    Parallel related id (items.mapM body) (items.mapM otherBody) := by
  induction items with
  | nil => exact of_pure []
  | cons item rest hypothesis =>
      rw [List.mapM_cons, List.mapM_cons]
      refine (each item List.mem_cons_self).andThen fun first => ?_
      have others := hypothesis fun item member => each item (List.mem_cons_of_mem _ member)
      exact others.andThen fun values => of_pure (first :: values)

/-- A loop over items runs in parallel with one over their counterparts. -/
theorem filterMapM
    {counterpart : β → γ}
    {body : β → ExceptT Fault (StateM σ) (Option α)}
    {otherBody : γ → ExceptT Fault (StateM σ) (Option α)}
    (items : List β)
    (each : ∀ item, Parallel related id (body item) (otherBody (counterpart item))) :
    Parallel related id (items.filterMapM body)
      ((items.map counterpart).filterMapM otherBody) := by
  induction items with
  | nil => exact of_pure []
  | cons item rest hypothesis =>
      rw [List.map_cons, List.filterMapM_cons, List.filterMapM_cons]
      refine (each item).andThen fun found => ?_
      cases found with
      | none => exact hypothesis
      | some value => exact hypothesis.andThen fun others => of_pure (value :: others)

end Parallel

end RuleProbe
