import Mathlib.Order.Defs.Unbundled
import RuleProbe.Fault

/-!
# Runs of computations

Evaluations and stages are computations over a state which a fault may end.  This module
runs them from a state, and proves of a computation, piece by piece, what all its runs end
in: a value that satisfies one predicate, or a fault that satisfies another; and where all
its runs lead: to a state that a preorder relates to the first one.
-/

namespace RuleProbe

variable {σ α β : Type}

/-! ## Runs -/

/-- The run of a computation from a state: how it ends, and the state afterwards. -/
def runFrom (action : ExceptT Fault (StateM σ) α) (state : σ) : Except Fault α × σ :=
  action.run.run state

/-- Computations with the same runs are the same. -/
theorem runFrom_ext
    {one two : ExceptT Fault (StateM σ) α}
    (same : ∀ state, runFrom one state = runFrom two state) :
    one = two :=
  funext same

@[simp] theorem runFrom_pure (value : α) (state : σ) :
    runFrom (pure value) state = (.ok value, state) := rfl

@[simp] theorem runFrom_get (state : σ) :
    runFrom get state = (.ok state, state) := rfl

@[simp] theorem runFrom_modify (change : σ → σ) (state : σ) :
    runFrom (modify change) state = (.ok ⟨⟩, change state) := rfl

@[simp] theorem runFrom_ofExcept (value : Except Fault α) (state : σ) :
    runFrom (MonadExcept.ofExcept value) state = (value, state) := by
  cases value <;> rfl

/-- A run of two computations in a row goes on from where the first one came to. -/
theorem runFrom_bind
    (action : ExceptT Fault (StateM σ) α)
    (next : α → ExceptT Fault (StateM σ) β)
    (state : σ) :
    runFrom (action >>= next) state =
      match runFrom action state with
      | (.ok value, after) => runFrom (next value) after
      | (.error fault, after) => (.error fault, after) := by
  unfold runFrom ExceptT.run StateT.run
  simp only [bind, ExceptT.bind, ExceptT.mk, StateT.bind, ExceptT.bindCont]
  cases action state with
  | mk result after => cases result <;> rfl

/-- A computation that returns hands its value and its state on. -/
theorem runFrom_bind_of_ok
    {action : ExceptT Fault (StateM σ) α}
    {next : α → ExceptT Fault (StateM σ) β}
    {state after : σ}
    {value : α}
    (returned : runFrom action state = (.ok value, after)) :
    runFrom (action >>= next) state = runFrom (next value) after := by
  rw [runFrom_bind, returned]

/-- Two computations in a row return when both of them do. -/
theorem runFrom_bind_eq_ok_iff
    {action : ExceptT Fault (StateM σ) α}
    {next : α → ExceptT Fault (StateM σ) β}
    {state final : σ}
    {value : β} :
    runFrom (action >>= next) state = (.ok value, final) ↔
      ∃ first after, runFrom action state = (.ok first, after) ∧
        runFrom (next first) after = (.ok value, final) := by
  rw [runFrom_bind]
  cases runFrom action state with
  | mk result after =>
      cases result with
      | ok first =>
          constructor
          · intro returned
            exact ⟨first, after, rfl, returned⟩
          · rintro ⟨_, _, same, returned⟩
            cases same
            exact returned
      | error fault => simp

theorem runFrom_map
    (change : α → β)
    (action : ExceptT Fault (StateM σ) α)
    (state : σ) :
    runFrom (change <$> action) state =
      ((runFrom action state).1.map change, (runFrom action state).2) := by
  rw [← bind_pure_comp, runFrom_bind]
  cases runFrom action state with
  | mk result after => cases result <;> rfl

/-- A handler takes over where a computation fails. -/
theorem runFrom_tryCatch
    (action : ExceptT Fault (StateM σ) α)
    (handler : Fault → ExceptT Fault (StateM σ) α)
    (state : σ) :
    runFrom (tryCatch action handler) state =
      match runFrom action state with
      | (.ok value, after) => (.ok value, after)
      | (.error fault, after) => runFrom (handler fault) after := by
  unfold runFrom ExceptT.run StateT.run
  simp only [tryCatch, tryCatchThe, MonadExceptOf.tryCatch, ExceptT.tryCatch, ExceptT.mk,
    bind, StateT.bind]
  cases action state with
  | mk result after => cases result <;> rfl

/-- The fault in which a run ended. -/
def faultOf? (ended : Except Fault α × σ) : Option Fault :=
  match ended.1 with
  | .ok _ => none
  | .error fault => some fault

/-! ## Computations without effects -/

/-- A computation without effects fails, if at all, by a fault that satisfies `bad`. -/
def FailsBy (bad : Fault → Prop) (value : Except Fault α) : Prop :=
  ∀ fault, value = .error fault → bad fault

namespace FailsBy

variable {bad : Fault → Prop}

theorem of_ok (value : α) : FailsBy bad (.ok value) := by
  intro fault failed
  cases failed

theorem of_error {fault : Fault} (holds : bad fault) :
    FailsBy (α := α) bad (.error fault) := by
  intro found failed
  cases failed
  exact holds

theorem mono
    {bad' : Fault → Prop}
    {value : Except Fault α}
    (fails : FailsBy bad value)
    (faults : ∀ fault, bad fault → bad' fault) :
    FailsBy bad' value :=
  fun fault failed => faults fault (fails fault failed)

theorem bind
    {value : Except Fault α}
    {next : α → Except Fault β}
    (first : FailsBy bad value)
    (rest : ∀ found, value = .ok found → FailsBy bad (next found)) :
    FailsBy bad (value >>= next) := by
  cases value with
  | ok found => exact rest found rfl
  | error fault => exact of_error (first fault rfl)

theorem map
    {value : Except Fault α}
    (fails : FailsBy bad value)
    (change : α → β) :
    FailsBy bad (value.map change) := by
  cases value with
  | ok found => exact of_ok (change found)
  | error fault => exact of_error (fails fault rfl)

end FailsBy

@[simp] theorem mapError_ok {ε ε' : Type} (change : ε → ε') (value : α) :
    (Except.ok value).mapError change = .ok value := rfl

@[simp] theorem mapError_error {ε ε' : Type} (change : ε → ε') (refused : ε) :
    (Except.error refused : Except ε α).mapError change = .error (change refused) := rfl

/-- Of two computations in a row that return, both do. -/
theorem exists_ok_of_bind
    {ε : Type}
    {first : Except ε α}
    {next : α → Except ε β}
    {value : β}
    (done : (first >>= next) = .ok value) :
    ∃ found, first = .ok found ∧ next found = .ok value := by
  cases first with
  | ok found => exact ⟨found, rfl, done⟩
  | error refused => cases done

/-- Of two computations in a row that fail, one fails. -/
theorem exists_error_of_bind
    {ε : Type}
    {first : Except ε α}
    {next : α → Except ε β}
    {refused : ε}
    (failed : (first >>= next) = .error refused) :
    first = .error refused ∨ ∃ found, first = .ok found ∧ next found = .error refused := by
  cases first with
  | ok found => exact .inr ⟨found, rfl, failed⟩
  | error early =>
      cases failed
      exact .inl rfl

/-- What a changed computation returns is changed from what it returns unchanged. -/
theorem exists_ok_of_map
    {ε : Type}
    {first : Except ε α}
    {change : α → β}
    {value : β}
    (done : first.map change = .ok value) :
    ∃ found, first = .ok found ∧ change found = value := by
  cases first with
  | ok found => exact ⟨found, rfl, Except.ok.inj done⟩
  | error refused => cases done

/-- Two computations in a row return when the first one does and then the second one. -/
theorem exists_bind_eq_ok_iff
    {ε : Type}
    {first : Except ε α}
    {next : α → Except ε β} :
    (∃ value, (first >>= next) = .ok value) ↔
      ∃ found, first = .ok found ∧ ∃ value, next found = .ok value := by
  cases first with
  | ok found => simp [bind, Except.bind]
  | error refused => simp [bind, Except.bind]

/-- A loop without effects in which every turn returns collects what the turns return. -/
theorem exists_mapM_eq_ok
    {good : α → Prop}
    {items : List β}
    {body : β → Except Fault α}
    (each : ∀ item ∈ items, ∃ value, body item = .ok value ∧ good value) :
    ∃ values, items.mapM body = .ok values ∧ ∀ value ∈ values, good value := by
  induction items with
  | nil => exact ⟨[], rfl, by simp⟩
  | cons item rest hypothesis =>
      obtain ⟨first, returned, holds⟩ := each item List.mem_cons_self
      obtain ⟨values, others, all⟩ :=
        hypothesis fun item member => each item (List.mem_cons_of_mem _ member)
      refine ⟨first :: values, ?_, by simpa using ⟨holds, all⟩⟩
      rw [List.mapM_cons, returned, others]
      rfl

/-- A computation without effects returns, if at all, a value that satisfies `good`. -/
def Yields (good : α → Prop) (value : Except Fault α) : Prop :=
  ∀ found, value = .ok found → good found

namespace Yields

variable {good : α → Prop}

theorem of_ok {value : α} (holds : good value) : Yields good (.ok value) := by
  intro found returned
  cases returned
  exact holds

theorem any (value : Except Fault α) : Yields (fun _ => True) value :=
  fun _ _ => trivial

theorem of_error (fault : Fault) : Yields good (.error fault) := by
  intro found returned
  cases returned

theorem and
    {other : α → Prop}
    {value : Except Fault α}
    (holds : Yields good value)
    (others : Yields other value) :
    Yields (fun found => good found ∧ other found) value :=
  fun found returned => ⟨holds found returned, others found returned⟩

theorem bind
    {middle : β → Prop}
    {value : Except Fault β}
    {next : β → Except Fault α}
    (first : Yields middle value)
    (rest : ∀ found, middle found → Yields good (next found)) :
    Yields good (value >>= next) := by
  cases value with
  | ok found => exact rest found (first found rfl)
  | error fault => exact of_error fault

end Yields

/-! ## What all runs end in -/

/-- Every run of a computation ends in a value that satisfies `good` or in a fault that
satisfies `bad`. -/
def Ends
    (good : α → Prop)
    (bad : Fault → Prop)
    (action : ExceptT Fault (StateM σ) α) : Prop :=
  ∀ state, match (runFrom action state).1 with
    | .ok value => good value
    | .error fault => bad fault

namespace Ends

variable {good : α → Prop} {bad : Fault → Prop}

theorem of_pure {value : α} (holds : good value) :
    Ends (σ := σ) good bad (pure value) :=
  fun _ => holds

theorem of_throw {fault : Fault} (holds : bad fault) :
    Ends (σ := σ) good bad (throw fault) :=
  fun _ => holds

theorem of_modify (change : σ → σ) :
    Ends (fun _ => True) bad (modify change : ExceptT Fault (StateM σ) PUnit) :=
  fun _ => trivial

/-- Every value is one that some run returns. -/
theorem returned (action : ExceptT Fault (StateM σ) α) :
    Ends (fun value => ∃ state after, runFrom action state = (.ok value, after))
      (fun _ => True) action := by
  intro state
  cases ended : runFrom action state with
  | mk result after =>
      cases result with
      | ok value => exact ⟨state, after, ended⟩
      | error fault => trivial

/-- A value that a run returns satisfies what all values do. -/
theorem value
    {action : ExceptT Fault (StateM σ) α}
    (ends : Ends good bad action)
    {state after : σ}
    {value : α}
    (returned : runFrom action state = (.ok value, after)) :
    good value := by
  have holds := ends state
  rw [returned] at holds
  exact holds

/-- What comes after a computation may count on what holds of all values. -/
theorem bind_congr
    {action : ExceptT Fault (StateM σ) α}
    {next other : α → ExceptT Fault (StateM σ) β}
    (ends : Ends good bad action)
    (same : ∀ value, good value → next value = other value) :
    action >>= next = action >>= other := by
  refine runFrom_ext fun state => ?_
  rw [runFrom_bind, runFrom_bind]
  cases ended : runFrom action state with
  | mk result after =>
      cases result with
      | ok value => exact congrArg (runFrom · after) (same value (ends.value ended))
      | error fault => rfl

/-- A fault that a run ends in satisfies what all faults do. -/
theorem fault
    {action : ExceptT Fault (StateM σ) α}
    (ends : Ends good bad action)
    {state after : σ}
    {fault : Fault}
    (failed : runFrom action state = (.error fault, after)) :
    bad fault := by
  have holds := ends state
  rw [failed] at holds
  exact holds

theorem any (action : ExceptT Fault (StateM σ) α) :
    Ends (fun _ => True) (fun _ => True) action := by
  intro state
  cases (runFrom action state).1 with
  | ok value => trivial
  | error fault => trivial

theorem mono
    {good' : α → Prop}
    {bad' : Fault → Prop}
    {action : ExceptT Fault (StateM σ) α}
    (ends : Ends good bad action)
    (values : ∀ value, good value → good' value)
    (faults : ∀ fault, bad fault → bad' fault) :
    Ends good' bad' action := by
  intro state
  have holds := ends state
  revert holds
  cases (runFrom action state).1 with
  | ok value => exact values value
  | error fault => exact faults fault

/-- What is shown of the values and of the faults apart holds of a computation at once. -/
theorem and
    {good' : α → Prop}
    {action : ExceptT Fault (StateM σ) α}
    (ends : Ends good bad action)
    (values : Ends good' (fun _ => True) action) :
    Ends (fun value => good value ∧ good' value) bad action := by
  intro state
  have first := ends state
  have second := values state
  revert first second
  cases (runFrom action state).1 with
  | ok value => exact And.intro
  | error fault => exact fun holds _ => holds

theorem bind
    {middle : β → Prop}
    {action : ExceptT Fault (StateM σ) β}
    {next : β → ExceptT Fault (StateM σ) α}
    (first : Ends middle bad action)
    (rest : ∀ value, middle value → Ends good bad (next value)) :
    Ends good bad (action >>= next) := by
  intro state
  rw [runFrom_bind]
  cases ended : runFrom action state with
  | mk result after =>
      cases result with
      | ok value => exact rest value (first.value ended) after
      | error fault => exact first.fault ended

/-- A step that is taken under a condition only comes before the rest. -/
theorem optionally
    {condition : Prop}
    [Decidable condition]
    {step : ExceptT Fault (StateM σ) β}
    {action : ExceptT Fault (StateM σ) α}
    (first : Ends (fun _ => True) bad step)
    (rest : Ends good bad action) :
    Ends good bad (if condition then step >>= fun _ => action else action) := by
  split
  · exact first.bind fun _ _ => rest
  · exact rest

theorem map
    {middle : β → Prop}
    {action : ExceptT Fault (StateM σ) β}
    {change : β → α}
    (first : Ends middle bad action)
    (values : ∀ value, middle value → good (change value)) :
    Ends good bad (change <$> action) := by
  rw [← bind_pure_comp]
  exact first.bind fun value holds => of_pure (values value holds)

/-- A handler answers for the faults of a computation. -/
theorem tryCatch
    {before : Fault → Prop}
    {action : ExceptT Fault (StateM σ) α}
    {handler : Fault → ExceptT Fault (StateM σ) α}
    (first : Ends good before action)
    (rest : ∀ fault, before fault → Ends good bad (handler fault)) :
    Ends good bad (tryCatch action handler) := by
  intro state
  rw [runFrom_tryCatch]
  cases ended : runFrom action state with
  | mk result after =>
      cases result with
      | ok value => exact first.value ended
      | error fault => exact rest fault (first.fault ended) after

theorem of_get
    {next : σ → ExceptT Fault (StateM σ) α}
    (rest : ∀ state, Ends good bad (next state)) :
    Ends good bad (get >>= next) := by
  intro state
  rw [runFrom_bind, runFrom_get]
  exact rest state state

theorem of_except
    {value : Except Fault α}
    (values : Yields good value)
    (fails : FailsBy bad value) :
    Ends (σ := σ) good bad (MonadExcept.ofExcept value) := by
  intro state
  rw [runFrom_ofExcept]
  cases value with
  | ok found => exact values found rfl
  | error fault => exact fails fault rfl

/-! ### Loops -/

/-- A loop over items collects what each of them gives. -/
theorem mapM
    {item : β → α → Prop}
    {items : List β}
    {body : β → ExceptT Fault (StateM σ) α}
    (each : ∀ b ∈ items, Ends (item b) bad (body b)) :
    Ends (fun values => ∀ value ∈ values, ∃ b ∈ items, item b value) bad (items.mapM body) := by
  induction items with
  | nil => exact of_pure (by simp)
  | cons b rest hypothesis =>
      rw [List.mapM_cons]
      refine (each b List.mem_cons_self).bind fun first holds => ?_
      have others := hypothesis fun b member => each b (List.mem_cons_of_mem _ member)
      refine others.bind fun values all => of_pure fun value member => ?_
      rcases List.mem_cons.mp member with rfl | later
      · exact ⟨b, List.mem_cons_self, holds⟩
      · obtain ⟨source, among, given⟩ := all value later
        exact ⟨source, List.mem_cons_of_mem _ among, given⟩

/-- A loop keeps an invariant of the turns that are done. -/
theorem foldlM
    {items : List β}
    {body : α → β → ExceptT Fault (StateM σ) α}
    (good : List β → α → Prop)
    (each : ∀ done b value, b ∈ items → good done value →
      Ends (good (done ++ [b])) bad (body value b))
    {start : α}
    (holds : good [] start) :
    Ends (good items) bad (items.foldlM body start) := by
  have fromPrefix : ∀ rest done value, rest ⊆ items → good done value →
      Ends (good (done ++ rest)) bad (rest.foldlM body value) := by
    intro rest
    induction rest with
    | nil =>
        intro done value _ kept
        exact of_pure (by simpa using kept)
    | cons b rest hypothesis =>
        intro done value among kept
        rw [List.foldlM_cons]
        refine (each done b value (among List.mem_cons_self) kept).bind fun next after => ?_
        have later := hypothesis (done ++ [b]) next
          (fun _ member => among (List.mem_cons_of_mem _ member)) after
        simpa using later
  simpa using fromPrefix items [] start (List.Subset.refl _) holds

/-- A loop for its effects ends badly only where one of its turns does. -/
theorem forM
    {items : List β}
    {body : β → ExceptT Fault (StateM σ) PUnit}
    (each : ∀ b ∈ items, Ends (fun _ => True) bad (body b)) :
    Ends (fun _ => True) bad (items.forM body) := by
  induction items with
  | nil => exact of_pure trivial
  | cons b rest hypothesis =>
      rw [List.forM_eq_forM, List.forM_cons]
      refine (each b List.mem_cons_self).bind fun _ _ => ?_
      exact hypothesis fun b member => each b (List.mem_cons_of_mem _ member)

/-- A loop that may pass items over ends badly only where one of its turns does. -/
theorem filterMapM
    {items : List β}
    {body : β → ExceptT Fault (StateM σ) (Option α)}
    (each : ∀ b ∈ items, Ends (fun _ => True) bad (body b)) :
    Ends (fun _ => True) bad (items.filterMapM body) := by
  induction items with
  | nil => exact of_pure trivial
  | cons b rest hypothesis =>
      rw [List.filterMapM_cons]
      refine (each b List.mem_cons_self).bind fun found _ => ?_
      have others := hypothesis fun b member => each b (List.mem_cons_of_mem _ member)
      cases found with
      | none => exact others
      | some value => exact others.bind fun _ _ => of_pure trivial

end Ends

/-! ## Where all runs lead -/

/-- Every run of a computation leads from its state to one that is related to it, however it
ends. -/
def Leads (reach : σ → σ → Prop) (action : ExceptT Fault (StateM σ) α) : Prop :=
  ∀ state, reach state (runFrom action state).2

namespace Leads

variable {reach : σ → σ → Prop} [IsPreorder σ reach]

theorem of_pure (value : α) : Leads reach (pure value) :=
  refl_of reach

theorem of_throw (fault : Fault) : Leads (α := α) reach (throw fault) :=
  refl_of reach

theorem of_get : Leads reach (get : ExceptT Fault (StateM σ) σ) :=
  refl_of reach

theorem of_except (value : Except Fault α) : Leads reach (MonadExcept.ofExcept value) := by
  intro state
  rw [runFrom_ofExcept]
  exact refl_of reach state

/-- What comes second may count on a value that the first computation returned. -/
theorem bind_of_returned
    {action : ExceptT Fault (StateM σ) α}
    {next : α → ExceptT Fault (StateM σ) β}
    (first : Leads reach action)
    (rest : ∀ value state after, runFrom action state = (.ok value, after) →
      Leads reach (next value)) :
    Leads reach (action >>= next) := by
  intro state
  have before := first state
  rw [runFrom_bind]
  cases ended : runFrom action state with
  | mk result after =>
      rw [ended] at before
      cases result with
      | ok value => exact trans_of reach before (rest value state after ended after)
      | error fault => exact before

theorem bind
    {action : ExceptT Fault (StateM σ) α}
    {next : α → ExceptT Fault (StateM σ) β}
    (first : Leads reach action)
    (rest : ∀ value, Leads reach (next value)) :
    Leads reach (action >>= next) :=
  first.bind_of_returned fun value _ _ _ => rest value

theorem map
    {action : ExceptT Fault (StateM σ) α}
    (first : Leads reach action)
    (change : α → β) :
    Leads reach (change <$> action) := by
  rw [← bind_pure_comp]
  exact first.bind fun value => of_pure (change value)

theorem tryCatch
    {action : ExceptT Fault (StateM σ) α}
    {handler : Fault → ExceptT Fault (StateM σ) α}
    (first : Leads reach action)
    (rest : ∀ fault, Leads reach (handler fault)) :
    Leads reach (tryCatch action handler) := by
  intro state
  have before := first state
  rw [runFrom_tryCatch]
  cases ended : runFrom action state with
  | mk result after =>
      rw [ended] at before
      cases result with
      | ok value => exact before
      | error fault => exact trans_of reach before (rest fault after)

theorem mapM
    {items : List β}
    {body : β → ExceptT Fault (StateM σ) α}
    (each : ∀ item ∈ items, Leads reach (body item)) :
    Leads reach (items.mapM body) := by
  induction items with
  | nil => exact of_pure _
  | cons item rest hypothesis =>
      rw [List.mapM_cons]
      refine (each item List.mem_cons_self).bind fun first => ?_
      have others := hypothesis fun item member => each item (List.mem_cons_of_mem _ member)
      exact others.bind fun _ => of_pure _

theorem foldlM
    {items : List β}
    {body : α → β → ExceptT Fault (StateM σ) α}
    (each : ∀ value, ∀ item ∈ items, Leads reach (body value item))
    (start : α) :
    Leads reach (items.foldlM body start) := by
  induction items generalizing start with
  | nil => exact of_pure start
  | cons item rest hypothesis =>
      rw [List.foldlM_cons]
      refine (each start item List.mem_cons_self).bind fun value => ?_
      exact hypothesis (fun value item member => each value item (List.mem_cons_of_mem _ member))
        value

theorem forM
    {items : List β}
    {body : β → ExceptT Fault (StateM σ) PUnit}
    (each : ∀ item ∈ items, Leads reach (body item)) :
    Leads reach (items.forM body) := by
  induction items with
  | nil => exact of_pure _
  | cons item rest hypothesis =>
      rw [List.forM_eq_forM, List.forM_cons]
      refine (each item List.mem_cons_self).bind fun _ => ?_
      exact hypothesis fun item member => each item (List.mem_cons_of_mem _ member)

end Leads

end RuleProbe
