import RuleProbe.Keyed

/-!
# Laws of keyed lists

Binding a key gives it a value and leaves all other keys alone, so a list that is updated
loses no key, and keeps the values of the keys that are not among the changes.
-/

namespace RuleProbe

namespace Keyed

variable {α : Type}

theorem get?_put (entries : Keyed α) (key : Text) (value : α) (other : Text) :
    get? (put entries key value) other =
      if key == other then some value else get? entries other := by
  induction entries with
  | nil => rfl
  | cons entry rest hypothesis =>
      by_cases bound : entry.1 = key
      · subst bound
        simp only [put, get?, beq_self_eq_true, if_true]
        split <;> rfl
      · simp only [put, get?, beq_eq_false_iff_ne.mpr bound, Bool.false_eq_true, if_false,
          hypothesis]
        by_cases here : entry.1 = other
        · subst here
          simp [Ne.symm bound]
        · simp [here]

/-- An entry of a list with a bound key is the bound one or was there before. -/
theorem mem_put
    {entries : Keyed α}
    {key : Text}
    {value : α}
    {entry : Text × α}
    (member : entry ∈ put entries key value) :
    entry ∈ entries ∨ entry = (key, value) := by
  induction entries with
  | nil => exact .inr (by simpa [put] using member)
  | cons first rest hypothesis =>
      rw [put] at member
      split at member
      · rcases List.mem_cons.mp member with here | later
        · exact .inr here
        · exact .inl (List.mem_cons_of_mem _ later)
      · rcases List.mem_cons.mp member with here | later
        · exact .inl (here ▸ List.mem_cons_self)
        · rcases hypothesis later with old | bound
          · exact .inl (List.mem_cons_of_mem _ old)
          · exact .inr bound

theorem has_put_of_has
    {entries : Keyed α}
    {key : Text}
    (present : has entries key = true)
    (changed : Text)
    (value : α) :
    has (put entries changed value) key = true := by
  unfold has at present ⊢
  rw [get?_put]
  split
  · rfl
  · exact present

theorem update_append (entries first second : Keyed α) :
    update entries (first ++ second) = update (update entries first) second :=
  List.foldl_append

theorem mem_update
    {entries changes : Keyed α}
    {entry : Text × α}
    (member : entry ∈ update entries changes) :
    entry ∈ entries ∨ entry ∈ changes := by
  induction changes generalizing entries with
  | nil => exact .inl member
  | cons change rest hypothesis =>
      rcases hypothesis member with bound | later
      · rcases mem_put bound with old | rfl
        · exact .inl old
        · exact .inr List.mem_cons_self
      · exact .inr (List.mem_cons_of_mem _ later)

theorem has_update_of_has
    {entries : Keyed α}
    {key : Text}
    (present : has entries key = true)
    (changes : Keyed α) :
    has (update entries changes) key = true := by
  induction changes generalizing entries with
  | nil => exact present
  | cons change rest hypothesis => exact hypothesis (has_put_of_has present change.1 change.2)

theorem get?_update_of_notMem
    {changes : Keyed α}
    {key : Text}
    (unchanged : key ∉ keys changes)
    (entries : Keyed α) :
    get? (update entries changes) key = get? entries key := by
  induction changes generalizing entries with
  | nil => rfl
  | cons change rest hypothesis =>
      obtain ⟨different, others⟩ : key ≠ change.1 ∧ key ∉ keys rest := by
        simpa [keys] using unchanged
      have first : get? (put entries change.1 change.2) key = get? entries key := by
        rw [get?_put, if_neg (by simpa using different.symm)]
      exact (hypothesis others _).trans first

/-- Changes of other keys leave the first entry where it is. -/
theorem update_cons_of_notMem
    {first : Text × α}
    {changes : Keyed α}
    (unchanged : first.1 ∉ keys changes)
    (rest : Keyed α) :
    update (first :: rest) changes = first :: update rest changes := by
  induction changes generalizing rest with
  | nil => rfl
  | cons change others hypothesis =>
      obtain ⟨different, later⟩ : first.1 ≠ change.1 ∧ first.1 ∉ keys others := by
        simpa [keys] using unchanged
      have put : put (first :: rest) change.1 change.2 =
          first :: put rest change.1 change.2 := by
        rw [Keyed.put, if_neg (by simpa using different)]
      exact (congrArg (update · others) put).trans (hypothesis later _)

/-- Distinct keys are bound one after the other. -/
theorem update_nil_of_nodup
    {entries : Keyed α}
    (distinct : (keys entries).Nodup) :
    update [] entries = entries := by
  induction entries with
  | nil => rfl
  | cons entry rest hypothesis =>
      obtain ⟨fresh, others⟩ := List.nodup_cons.mp distinct
      have first : update [] (entry :: rest) = update [entry] rest := rfl
      rw [first, update_cons_of_notMem fresh, hypothesis others]

theorem get?_map {β : Type} (change : α → β) (entries : Keyed α) (key : Text) :
    get? (entries.map fun entry => (entry.1, change entry.2)) key =
      (get? entries key).map change := by
  induction entries with
  | nil => rfl
  | cons entry rest hypothesis =>
      simp only [List.map_cons, get?, hypothesis]
      split <;> rfl

theorem exists_get?_of_mem_keys
    {entries : Keyed α}
    {key : Text}
    (member : key ∈ keys entries) :
    ∃ value, get? entries key = some value := by
  induction entries with
  | nil => cases member
  | cons entry rest hypothesis =>
      by_cases bound : entry.1 = key
      · exact ⟨entry.2, by simp [get?, bound]⟩
      · have later : key ∈ keys rest := by
          rcases List.mem_cons.mp member with here | later
          · exact absurd here.symm bound
          · exact later
        obtain ⟨value, found⟩ := hypothesis later
        exact ⟨value, by simp [get?, bound, found]⟩

theorem mem_of_get?
    {entries : Keyed α}
    {key : Text}
    {value : α}
    (found : get? entries key = some value) :
    (key, value) ∈ entries := by
  induction entries with
  | nil => cases found
  | cons entry rest hypothesis =>
      rw [get?] at found
      split at found
      case isTrue same =>
        rw [beq_iff_eq] at same
        rw [← Option.some.inj found, ← same]
        exact List.mem_cons_self
      case isFalse => exact List.mem_cons_of_mem entry (hypothesis found)

theorem get?_eq_none_of_notMem
    {entries : Keyed α}
    {key : Text}
    (absent : key ∉ keys entries) :
    get? entries key = none := by
  induction entries with
  | nil => rfl
  | cons entry rest hypothesis =>
      obtain ⟨different, others⟩ : key ≠ entry.1 ∧ key ∉ keys rest := by
        simpa [keys] using absent
      simp [get?, different.symm, hypothesis others]

/-- Changes that agree on the value of a key bind it to that value. -/
theorem get?_update_of_agree
    {changes : Keyed α}
    {key : Text}
    {value : α}
    (agree : ∀ change ∈ changes, change.1 = key → change.2 = value)
    (bound : key ∈ keys changes)
    (entries : Keyed α) :
    get? (update entries changes) key = some value := by
  induction changes generalizing entries with
  | nil => cases bound
  | cons change rest hypothesis =>
      have later : ∀ other ∈ rest, other.1 = key → other.2 = value :=
        fun other member => agree other (List.mem_cons_of_mem change member)
      by_cases again : key ∈ keys rest
      · exact hypothesis later again _
      · have here : change.1 = key := by
          rcases List.mem_cons.mp bound with here | later
          · exact here.symm
          · exact absurd later again
        have same := agree change List.mem_cons_self here
        refine (get?_update_of_notMem again _).trans ?_
        rw [get?_put, here, same]
        simp

/-! ## Last changes -/

theorem get?_append (first second : Keyed α) (key : Text) :
    get? (first ++ second) key = (get? first key).or (get? second key) := by
  induction first with
  | nil => rfl
  | cons entry rest hypothesis =>
      rw [List.cons_append, get?, get?]
      split
      · rfl
      · exact hypothesis

/-- An updated list has under a key the last change of it, or else what it had before. -/
theorem get?_update (entries changes : Keyed α) (key : Text) :
    get? (update entries changes) key = (get? changes.reverse key).or (get? entries key) := by
  induction changes generalizing entries with
  | nil => rfl
  | cons change rest hypothesis =>
      have behind : get? (update entries (change :: rest)) key =
          (get? rest.reverse key).or (get? (put entries change.1 change.2) key) :=
        hypothesis _
      rw [behind, List.reverse_cons, get?_append, Option.or_assoc, get?_put]
      congr 1
      rw [get?]
      split <;> rfl

theorem mem_keys_put {entries : Keyed α} {key other : Text} {value : α} :
    other ∈ keys (put entries key value) ↔ other ∈ keys entries ∨ other = key := by
  induction entries with
  | nil => simp [keys, put]
  | cons entry rest hypothesis =>
      rw [put]
      by_cases bound : entry.1 = key
      · simp only [bound, beq_self_eq_true, if_true, keys, List.map_cons, List.mem_cons]
        rw [or_right_comm, or_self]
      · rw [if_neg (by simpa using bound)]
        simp only [keys, List.map_cons, List.mem_cons] at hypothesis ⊢
        rw [hypothesis, or_assoc]

theorem nodup_keys_put
    {entries : Keyed α}
    (distinct : (keys entries).Nodup)
    (key : Text)
    (value : α) :
    (keys (put entries key value)).Nodup := by
  induction entries with
  | nil => simp [keys, put]
  | cons entry rest hypothesis =>
      obtain ⟨fresh, others⟩ := List.nodup_cons.mp distinct
      rw [put]
      by_cases bound : entry.1 = key
      · rw [if_pos (by simpa using bound)]
        exact List.nodup_cons.mpr ⟨bound ▸ fresh, others⟩
      · rw [if_neg (by simpa using bound)]
        refine List.nodup_cons.mpr ⟨fun listed => ?_, hypothesis others⟩
        exact (mem_keys_put.mp listed).elim fresh bound

theorem nodup_keys_update
    {entries : Keyed α}
    (distinct : (keys entries).Nodup)
    (changes : Keyed α) :
    (keys (update entries changes)).Nodup := by
  induction changes generalizing entries with
  | nil => exact distinct
  | cons change rest hypothesis => exact hypothesis (nodup_keys_put distinct change.1 change.2)

/-- Where no key has two values, the last value of a key is its first one. -/
theorem get?_reverse_of_nodup
    {entries : Keyed α}
    (distinct : (keys entries).Nodup)
    (key : Text) :
    get? entries.reverse key = get? entries key := by
  induction entries with
  | nil => rfl
  | cons entry rest hypothesis =>
      obtain ⟨fresh, others⟩ := List.nodup_cons.mp distinct
      rw [List.reverse_cons, get?_append, hypothesis others]
      by_cases same : entry.1 = key
      · have absent : get? rest key = none := get?_eq_none_of_notMem (same ▸ fresh)
        simp [get?, same, absent]
      · simp [get?, same]

/-! ## Removed keys -/

theorem get?_remove (entries : Keyed α) (key other : Text) :
    get? (remove entries key) other = if other = key then none else get? entries other := by
  induction entries with
  | nil => simp [remove, get?]
  | cons entry rest hypothesis =>
      unfold remove at hypothesis ⊢
      rw [List.filter_cons]
      by_cases removed : entry.1 = key
      · rw [if_neg (by simpa using removed), hypothesis, get?]
        by_cases same : other = key
        · rw [if_pos same, if_pos same]
        · rw [if_neg same, if_neg same, if_neg (by simpa [removed] using Ne.symm same)]
      · rw [if_pos (by simpa using removed), get?, get?, hypothesis]
        by_cases here : entry.1 = other
        · subst here
          simp [removed]
        · simp [here]

theorem nodup_keys_remove
    {entries : Keyed α}
    (distinct : (keys entries).Nodup)
    (key : Text) :
    (keys (remove entries key)).Nodup :=
  distinct.sublist (List.filter_sublist.map _)

theorem remove_comm (entries : Keyed α) (key other : Text) :
    remove (remove entries key) other = remove (remove entries other) key := by
  unfold remove
  rw [List.filter_filter, List.filter_filter]
  simp only [Bool.and_comm]

theorem remove_eq_self
    {entries : Keyed α}
    {key : Text}
    (absent : key ∉ keys entries) :
    remove entries key = entries := by
  refine List.filter_eq_self.mpr fun entry member => ?_
  have different : entry.1 ≠ key := fun same => absent (same ▸ List.mem_map_of_mem member)
  simpa using different

/-- A bound key stands behind the entries that come before it, and its removal leaves these and
the ones behind it. -/
theorem exists_behind
    {entries : Keyed α}
    (distinct : (keys entries).Nodup)
    {key : Text}
    {value : α}
    (bound : get? entries key = some value) :
    ∃ rest,
      entries = entries.takeWhile (fun entry => entry.1 != key) ++ (key, value) :: rest ∧
        remove entries key = entries.takeWhile (fun entry => entry.1 != key) ++ rest := by
  induction entries with
  | nil => cases bound
  | cons entry rest hypothesis =>
      obtain ⟨fresh, others⟩ := List.nodup_cons.mp distinct
      rw [get?] at bound
      by_cases here : entry.1 = key
      · rw [if_pos (by simpa using here)] at bound
        obtain ⟨name, found⟩ := entry
        cases here
        cases bound
        have removed := remove_eq_self fresh
        unfold remove at removed ⊢
        refine ⟨rest, ?_, ?_⟩
        · simp
        · simpa using removed
      · rw [if_neg (by simpa using here)] at bound
        obtain ⟨behind, split, removed⟩ := hypothesis others bound
        have stays : (entry.1 != key) = true := by simpa using here
        unfold remove at removed ⊢
        refine ⟨behind, ?_, ?_⟩
        · rw [List.takeWhile_cons, if_pos stays, List.cons_append, ← split]
        · rw [List.filter_cons, if_pos stays, List.takeWhile_cons, if_pos stays,
            List.cons_append, removed]

end Keyed

end RuleProbe
