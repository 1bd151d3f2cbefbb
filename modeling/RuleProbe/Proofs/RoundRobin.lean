import Mathlib.Algebra.BigOperators.Group.List.Basic
import Mathlib.Algebra.GroupWithZero.Nat
import Mathlib.Data.List.Flatten
import RuleProbe.Rule.Operator

/-!
# Results in turns

The items of some lists are taken in turns: first those that come first in their lists, then those
that come second, and so on, each time from one list after the other.  A list that has no item left
is passed over.  So every item stands in the result once, ordered by its index and then by the
number of its list.
-/

namespace RuleProbe

namespace Operator

variable {α : Type}

/-! ## Rows -/

/-- The number of items of the longest list. -/
def longest (lists : List (List α)) : Nat :=
  lists.foldl (fun most values => max most values.length) 0

theorem roundRobin_eq (lists : List (List α)) :
    roundRobin lists = (List.range (longest lists)).flatMap (row lists) := rfl

theorem foldl_max_le_iff {lists : List (List α)} {start bound : Nat} :
    lists.foldl (fun most values => max most values.length) start ≤ bound ↔
      start ≤ bound ∧ ∀ values ∈ lists, values.length ≤ bound := by
  induction lists generalizing start with
  | nil => simp
  | cons first rest hypothesis =>
      rw [List.foldl_cons, hypothesis, Nat.max_le, List.forall_mem_cons, and_assoc]

theorem longest_le_iff {lists : List (List α)} {bound : Nat} :
    longest lists ≤ bound ↔ ∀ values ∈ lists, values.length ≤ bound :=
  foldl_max_le_iff.trans (and_iff_right bound.zero_le)

theorem length_le_longest
    {lists : List (List α)}
    {values : List α}
    (among : values ∈ lists) :
    values.length ≤ longest lists :=
  longest_le_iff.mp (Nat.le_refl _) values among

theorem row_cons (values : List α) (lists : List (List α)) (index : Nat) :
    row (values :: lists) index = values[index]?.toList ++ row lists index := by
  unfold row
  rw [List.filterMap_cons]
  cases values[index]? <;> rfl

/-- A row has the item of each list that reaches so far. -/
theorem toList_sublist_row
    {lists : List (List α)}
    {values : List α}
    (among : values ∈ lists)
    (index : Nat) :
    values[index]?.toList.Sublist (row lists index) := by
  induction lists with
  | nil => cases among
  | cons first rest hypothesis =>
      rw [row_cons]
      rcases List.mem_cons.mp among with rfl | later
      · exact List.sublist_append_left _ _
      · exact (hypothesis later).trans (List.sublist_append_right _ _)

/-! ## Places -/

/-- The item at a place, which is an index and the number of a list. -/
def itemAt? (lists : List (List α)) (place : Nat × Nat) : Option α :=
  lists[place.2]?.bind fun values => values[place.1]?

/-- The places of a row at which there is an item, by the numbers of their lists. -/
def placesInRow (lists : List (List α)) (index : Nat) : List (Nat × Nat) :=
  ((List.range lists.length).map fun list => (index, list)).filter fun place =>
    (itemAt? lists place).isSome

/-- The places of all items, row by row. -/
def places (lists : List (List α)) : List (Nat × Nat) :=
  (List.range (longest lists)).flatMap (placesInRow lists)

theorem mem_placesInRow {lists : List (List α)} {index : Nat} {place : Nat × Nat} :
    place ∈ placesInRow lists index ↔ place.1 = index ∧ (itemAt? lists place).isSome := by
  obtain ⟨first, second⟩ := place
  simp only [placesInRow, List.mem_filter, List.mem_map, List.mem_range, Prod.mk.injEq]
  constructor
  · rintro ⟨⟨list, -, rfl, rfl⟩, found⟩
    exact ⟨rfl, found⟩
  · rintro ⟨rfl, found⟩
    refine ⟨⟨second, ?_, rfl, rfl⟩, found⟩
    obtain ⟨item, at_⟩ := Option.isSome_iff_exists.mp found
    obtain ⟨values, inList, -⟩ := Option.bind_eq_some_iff.mp at_
    exact (List.getElem?_eq_some_iff.mp inList).1

theorem mem_places {lists : List (List α)} {place : Nat × Nat} :
    place ∈ places lists ↔ (itemAt? lists place).isSome := by
  simp only [places, List.mem_flatMap, List.mem_range, mem_placesInRow]
  constructor
  · rintro ⟨index, -, -, found⟩
    exact found
  · intro found
    refine ⟨place.1, ?_, rfl, found⟩
    obtain ⟨item, at_⟩ := Option.isSome_iff_exists.mp found
    obtain ⟨values, inList, inValues⟩ := Option.bind_eq_some_iff.mp at_
    have within := (List.getElem?_eq_some_iff.mp inValues).1
    exact Nat.lt_of_lt_of_le within (length_le_longest (List.mem_of_getElem? inList))

/-- The places are ordered by their indices, and then by the numbers of their lists. -/
theorem pairwise_places (lists : List (List α)) :
    (places lists).Pairwise (Prod.Lex (· < ·) (· < ·)) := by
  rw [places, List.pairwise_flatMap]
  constructor
  · intro index _
    refine List.Pairwise.filter _ (List.pairwise_map.mpr ?_)
    exact List.pairwise_lt_range.imp fun less => Prod.Lex.right index less
  · refine List.pairwise_lt_range.imp fun less first inFirst second inSecond => ?_
    rw [Prod.lex_def, (mem_placesInRow.mp inFirst).1, (mem_placesInRow.mp inSecond).1]
    exact .inl less

theorem map_itemAt? (lists : List (List α)) (index : Nat) :
    (List.range lists.length).map (fun list => itemAt? lists (index, list)) =
      lists.map fun values => values[index]? := by
  refine List.ext_getElem (by simp) fun list _ within => ?_
  rw [List.length_map] at within
  simp [itemAt?, List.getElem?_eq_getElem within]

theorem map_some_filterMap {β : Type} (find : α → Option β) (values : List α) :
    (values.filterMap find).map some = (values.map find).filter Option.isSome := by
  induction values with
  | nil => rfl
  | cons value rest hypothesis =>
      rw [List.filterMap_cons, List.map_cons, List.filter_cons]
      cases find value with
      | none => exact hypothesis
      | some found => exact congrArg (some found :: ·) hypothesis

/-- A row consists of the items at its places. -/
theorem map_some_row (lists : List (List α)) (index : Nat) :
    (row lists index).map some = (placesInRow lists index).map (itemAt? lists) := by
  rw [row, map_some_filterMap, ← map_itemAt?, placesInRow, List.filter_map, List.filter_map,
    List.map_map]
  rfl

theorem map_some_roundRobin (lists : List (List α)) :
    (roundRobin lists).map some = (places lists).map (itemAt? lists) := by
  rw [roundRobin_eq, places, List.map_flatMap, List.map_flatMap]
  exact List.flatMap_congr fun index _ => map_some_row lists index

/-! ## Nothing is lost -/

/-- The items of a list, one index after the other, as far as any list reaches. -/
theorem flatMap_toList
    {values : List α}
    {bound : Nat}
    (within : values.length ≤ bound) :
    ((List.range bound).flatMap fun index => values[index]?.toList) = values := by
  induction bound generalizing values with
  | zero =>
      rw [List.length_eq_zero_iff.mp (Nat.le_zero.mp within)]
      rfl
  | succ bound hypothesis =>
      rw [List.range_succ_eq_map, List.flatMap_cons, List.flatMap_map]
      cases values with
      | nil => simp
      | cons first rest =>
          have others := hypothesis (Nat.le_of_succ_le_succ within)
          simpa using others

/-- Every list stands in the result, in its order. -/
theorem sublist_roundRobin
    {lists : List (List α)}
    {values : List α}
    (among : values ∈ lists) :
    values.Sublist (roundRobin lists) := by
  have alone := flatMap_toList (length_le_longest among)
  rw [roundRobin_eq]
  nth_rewrite 1 [← alone]
  exact List.Sublist.flatMap_right _ fun index _ => toList_sublist_row among index

/-- There are as many items in the rows as in the lists, if there are rows enough. -/
theorem length_flatMap_row
    {lists : List (List α)}
    {bound : Nat}
    (within : ∀ values ∈ lists, values.length ≤ bound) :
    ((List.range bound).flatMap (row lists)).length = (lists.map List.length).sum := by
  induction lists with
  | nil => simp [row]
  | cons first rest hypothesis =>
      obtain ⟨here, others⟩ := List.forall_mem_cons.mp within
      have alone := congrArg List.length (flatMap_toList here)
      have split := hypothesis others
      rw [List.length_flatMap] at alone split
      rw [List.map_cons, List.sum_cons, ← split, ← alone, List.length_flatMap,
        ← List.sum_map_add]
      exact congrArg List.sum (List.map_congr_left fun index _ => by
        rw [row_cons, List.length_append])

theorem length_roundRobin (lists : List (List α)) :
    (roundRobin lists).length = (lists.map List.length).sum :=
  length_flatMap_row fun _ => length_le_longest

/-! ## Lists of one length -/

/-- The items of lists of one length are read row by row. -/
theorem map_some_roundRobin_of_width
    {lists : List (List α)}
    {width : Nat}
    (same : ∀ values ∈ lists, values.length = width) :
    (roundRobin lists).map some =
      (List.range width).flatMap fun index => lists.map fun values => values[index]? := by
  cases lists with
  | nil => simp [roundRobin]
  | cons first rest =>
      have reach : longest (first :: rest) = width := by
        apply Nat.le_antisymm
        · exact longest_le_iff.mpr fun values among => Nat.le_of_eq (same values among)
        · rw [← same first List.mem_cons_self]
          exact length_le_longest List.mem_cons_self
      rw [roundRobin_eq, reach, List.map_flatMap]
      refine List.flatMap_congr fun index within => ?_
      rw [row, map_some_filterMap, List.filter_eq_self]
      intro item found
      obtain ⟨values, among, rfl⟩ := List.mem_map.mp found
      rw [List.getElem?_eq_getElem (by rw [same values among]; exact List.mem_range.mp within)]
      rfl

/-! ## Branches in turns -/

/-- Branches joined in turns lose and repeat nothing.  The results are those at all places, ordered
by index and then by branch; there are as many as in the branches together, and those of a branch
keep their order.  Where all branches have one length, the results are read row by row. -/
theorem combine_interleave (lists : List (List α)) :
    (∃ places : List (Nat × Nat),
      places.Pairwise (Prod.Lex (· < ·) (· < ·)) ∧
      (∀ place, place ∈ places ↔ (itemAt? lists place).isSome) ∧
      (combine (some interleave) lists).map some = places.map (itemAt? lists)) ∧
    (combine (some interleave) lists).length = (lists.map List.length).sum ∧
    (∀ values ∈ lists, values.Sublist (combine (some interleave) lists)) ∧
    ∀ width, (∀ values ∈ lists, values.length = width) →
      (combine (some interleave) lists).map some =
        (List.range width).flatMap fun index => lists.map fun values => values[index]? := by
  refine ⟨⟨places lists, pairwise_places lists, fun place => mem_places, ?_⟩, ?_, ?_, ?_⟩
  · exact map_some_roundRobin lists
  · exact length_roundRobin lists
  · intro values among
    exact sublist_roundRobin among
  · intro width same
    exact map_some_roundRobin_of_width same

/-- Two branches of two results each, read row by row. -/
theorem combine_interleave_letters :
    (∀ values ∈ ["ab".toList, "cd".toList], values.length = 2) ∧
      "ab".toList.Sublist (combine (some interleave) ["ab".toList, "cd".toList]) ∧
      combine (some interleave) ["ab".toList, "cd".toList] = "acbd".toList := by
  have same : ∀ values ∈ ["ab".toList, "cd".toList], values.length = 2 := by decide
  obtain ⟨-, -, inOrder, rows⟩ := combine_interleave ["ab".toList, "cd".toList]
  refine ⟨same, inOrder "ab".toList List.mem_cons_self, ?_⟩
  exact (List.map_inj_right fun _ _ => Option.some.inj).mp (rows 2 same)

example : combine (some interleave) ["abc".toList, [], "d".toList] = "adbc".toList := by decide

end Operator

end RuleProbe
