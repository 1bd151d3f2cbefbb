import Mathlib.Data.List.Sort
import Mathlib.Logic.Basic
import RuleProbe.Chain.Evaluate
import RuleProbe.Proofs.Effects
import RuleProbe.Proofs.Markup.Reader
import RuleProbe.Selector.Matcher

/-!
# The order of what chains select

Nodes in document order stay so along a chain: what is selected below a node is within its
subtree, so below nodes of which some are nested in others nothing new is found within the
subtree of an earlier one, and what is left behind it is behind all of that.  Only the children
of nested nodes are found out of order, but never twice.
-/

namespace RuleProbe

/-!
## Selectors that ask for no scope

Only the test for the scope asks where a search began.  Elements satisfy a selector without such a
test wherever the search begins.
-/

namespace Selector

open Markup

mutual

/-- An alternative asks for the scope. -/
def Alternative.asksScope : Alternative → Bool
  | .never => false
  | .tests tests none => allAskScope tests
  | .tests tests (some related) => allAskScope tests || relatedAsksScope related
  termination_by structural alternative => alternative

/-- What is asked of a related element asks for the scope. -/
def relatedAsksScope : Relation × Alternative → Bool
  | (_, alternative) => alternative.asksScope
  termination_by structural related => related

/-- One of some tests asks for the scope. -/
def allAskScope : List Test → Bool
  | [] => false
  | test :: rest => test.asksScope || allAskScope rest
  termination_by structural tests => tests

/-- One of some alternatives asks for the scope. -/
def oneAsksScope : List Alternative → Bool
  | [] => false
  | alternative :: rest => alternative.asksScope || oneAsksScope rest
  termination_by structural alternatives => alternatives

/-- A test asks for the scope. -/
def Test.asksScope : Test → Bool
  | .position _ (some alternatives) => oneAsksScope alternatives
  | .holdsOne _ alternatives => oneAsksScope alternatives
  | .scope => true
  | _ => false
  termination_by structural test => test

end

variable {tree : Tree} {start other : Nat}

mutual

theorem Alternative.holds_unscoped :
    (alternative : Alternative) → alternative.asksScope = false →
      alternative.holds ⟨tree, start⟩ = alternative.holds ⟨tree, other⟩
  | .never, _ => by
      funext i
      rfl
  | .tests tests none, unscoped => by
      have tested := allHold_unscoped tests unscoped
      funext i
      exact congrFun tested i
  | .tests tests (some related), unscoped => by
      obtain ⟨testsFree, relatedFree⟩ := Bool.or_eq_false_iff.mp unscoped
      have tested := allHold_unscoped tests testsFree
      have met := relatedHolds_unscoped related relatedFree
      funext i
      exact congrArg₂ and (congrFun tested i) (congrFun met i)
  termination_by structural alternative => alternative

theorem relatedHolds_unscoped :
    (related : Relation × Alternative) → relatedAsksScope related = false →
      relatedHolds ⟨tree, start⟩ related = relatedHolds ⟨tree, other⟩ related
  | (relation, alternative), unscoped => by
      have same := Alternative.holds_unscoped alternative unscoped
      funext i
      exact congrArg (List.any (Place.related ⟨tree, start⟩ relation i)) same
  termination_by structural related => related

theorem allHold_unscoped :
    (tests : List Test) → allAskScope tests = false →
      allHold ⟨tree, start⟩ tests = allHold ⟨tree, other⟩ tests
  | [], _ => by
      funext i
      rfl
  | test :: rest, unscoped => by
      obtain ⟨firstFree, restFree⟩ := Bool.or_eq_false_iff.mp unscoped
      have first := Test.holds_unscoped test firstFree
      have later := allHold_unscoped rest restFree
      funext i
      exact congrArg₂ and (congrFun first i) (congrFun later i)
  termination_by structural tests => tests

theorem oneHolds_unscoped :
    (alternatives : List Alternative) → oneAsksScope alternatives = false →
      oneHolds ⟨tree, start⟩ alternatives = oneHolds ⟨tree, other⟩ alternatives
  | [], _ => by
      funext i
      rfl
  | alternative :: rest, unscoped => by
      obtain ⟨firstFree, restFree⟩ := Bool.or_eq_false_iff.mp unscoped
      have first := Alternative.holds_unscoped alternative firstFree
      have later := oneHolds_unscoped rest restFree
      funext i
      exact congrArg₂ or (congrFun first i) (congrFun later i)
  termination_by structural alternatives => alternatives

theorem Test.holds_unscoped :
    (test : Test) → test.asksScope = false →
      test.holds ⟨tree, start⟩ = test.holds ⟨tree, other⟩
  | .position positions (some alternatives), unscoped => by
      have same := oneHolds_unscoped alternatives unscoped
      funext i
      exact congrArg (fun holds : Nat → Bool => holds i &&
        positions.holds (Place.position ⟨tree, start⟩ positions holds i)) same
  | .holdsOne negated alternatives, unscoped => by
      have same := oneHolds_unscoped alternatives unscoped
      funext i
      exact congrArg (· != negated) (congrFun same i)
  | .name _, _ => rfl
  | .identifier _, _ => rfl
  | .ofClass _, _ => rfl
  | .attributeIs _, _ => rfl
  | .position _ none, _ => rfl
  | .contains _ _, _ => rfl
  | .language _, _ => rfl
  | .root, _ => rfl
  | .hollow, _ => rfl
  termination_by structural test => test

end

/-- Elements satisfy a selector that does not ask for the scope wherever the search begins. -/
theorem holds_unscoped
    {selector : Selector}
    (unscoped : oneAsksScope selector = false)
    (start other i : Nat) :
    selector.holds tree start i = selector.holds tree other i :=
  congrFun (oneHolds_unscoped selector unscoped) i

end Selector

namespace Chain

open Markup

/-! ## Nodes without repetitions -/

theorem distinct_filter
    (test : Nat → Bool)
    (nodes : List Nat) :
    distinct (nodes.filter test) = (distinct nodes).filter test := by
  unfold distinct
  induction size : nodes.length using Nat.strong_induction_on generalizing nodes with
  | _ n hypothesis =>
      cases nodes with
      | nil => rfl
      | cons i rest =>
          have shorter : (rest.filter fun j => !j == i).length < n := by
            rw [← size, List.length_cons, Nat.lt_succ_iff]
            exact List.length_filter_le _ _
          have later := hypothesis _ shorter (rest.filter fun j => !j == i) rfl
          rw [List.eraseDups_cons, List.filter_cons, List.filter_cons]
          split
          · rw [List.eraseDups_cons, ← later, List.filter_comm]
          · rename_i failed
            rw [← later, List.filter_filter]
            congr 1
            apply List.filter_congr
            intro j _
            by_cases same : j = i
            · rw [same, Bool.eq_false_of_not_eq_true failed]
              rfl
            · simp [same]

theorem distinct_cons
    (i : Nat)
    (nodes : List Nat) :
    distinct (i :: nodes) = i :: (distinct nodes).filter fun j => !j == i := by
  rw [← distinct_filter]
  exact List.eraseDups_cons

theorem mem_distinct {i : Nat} {nodes : List Nat} : i ∈ distinct nodes ↔ i ∈ nodes :=
  List.mem_eraseDups

theorem distinct_sublist (nodes : List Nat) : (distinct nodes).Sublist nodes := by
  induction nodes with
  | nil => exact List.Sublist.refl []
  | cons i rest hypothesis =>
      rw [distinct_cons]
      exact (List.filter_sublist.trans hypothesis).cons_cons i

theorem nodup_distinct (nodes : List Nat) : (distinct nodes).Nodup := by
  induction nodes with
  | nil => exact List.nodup_nil
  | cons i rest hypothesis =>
      rw [distinct_cons, List.nodup_cons]
      exact ⟨by simp, hypothesis.filter _⟩

theorem distinct_append
    (first second : List Nat) :
    distinct (first ++ second) =
      distinct first ++ (distinct second).filter fun i => !first.elem i := by
  rw [← distinct_filter]
  exact List.eraseDups_append

/-! ## Nodes in document order -/

/-- Nodes of a tree in the order of their positions. -/
structure InOrder (tree : Tree) (nodes : List Nat) : Prop where
  /-- Each node stands behind the one before it. -/
  increasing : nodes.Pairwise (· < ·)
  /-- The nodes are nodes of the tree. -/
  within : ∀ i ∈ nodes, i < tree.nodes.size

namespace InOrder

variable {tree : Tree} {nodes found : List Nat}

theorem nil (tree : Tree) : InOrder tree [] where
  increasing := .nil
  within := by
    intro i member
    cases member

theorem singleton {i : Nat} (within : i < tree.nodes.size) : InOrder tree [i] where
  increasing := List.pairwise_singleton _ i
  within := by
    intro j member
    rwa [List.mem_singleton.mp member]

theorem sublist
    (ordered : InOrder tree nodes)
    (part : found.Sublist nodes) :
    InOrder tree found where
  increasing := ordered.increasing.sublist part
  within := fun i member => ordered.within i (part.subset member)

/-- Nodes in order are some of the tree in preorder. -/
theorem sublist_preorder
    (ordered : InOrder tree nodes)
    (document : tree.InDocumentOrder) :
    nodes.Sublist tree.preorder := by
  rw [Tree.preorder_eq_range document]
  have subset : nodes ⊆ List.range tree.nodes.size := by
    intro i member
    exact List.mem_range.mpr (ordered.within i member)
  have nodup : nodes.Nodup := ordered.increasing.imp Nat.ne_of_lt
  exact List.sublist_of_subperm_of_pairwise (List.subperm_of_subset nodup subset)
    (ordered.increasing.imp Nat.le_of_lt) (List.pairwise_lt_range.imp Nat.le_of_lt)

end InOrder

variable {tree : Tree} {nodes found : List Nat}

/-! ## Below nodes in order -/

theorem mem_elements {i j : Nat} :
    j ∈ tree.elements i ↔ (i < j ∧ j < tree.stop i) ∧ tree.isElement j = true := by
  unfold Tree.elements
  rw [List.mem_filter, Tree.descendants_eq_Ico, List.Ico.mem, Nat.succ_le_iff]

theorem pairwise_elements (tree : Tree) (i : Nat) : (tree.elements i).Pairwise (· < ·) :=
  (List.Ico.pairwise_lt _ _).filter _

theorem lt_size_of_isElement {i : Nat} (element : tree.isElement i = true) :
    i < tree.nodes.size := by
  by_contra beyond
  have root : tree.content i = .root := by
    unfold Tree.content
    rw [Array.getElem?_eq_none (by omega)]
    rfl
  unfold Tree.isElement Tree.name? at element
  rw [root] at element
  cases element

/-- What stands below a node behind another one stands below this one too, or behind its
subtree. -/
theorem below_or_behind
    (document : tree.InDocumentOrder)
    {i j k : Nat}
    (within : i < tree.nodes.size)
    (behind : i < j)
    (member : k ∈ tree.elements j) :
    k ∈ tree.elements i ∨ tree.stop i < k := by
  obtain ⟨⟨below, inside⟩, element⟩ := mem_elements.mp member
  rcases Nat.lt_or_ge j (tree.stop i) with nested | apart
  · have bound := document.nested i within j behind nested
    exact .inl (mem_elements.mpr ⟨by omega, element⟩)
  · exact .inr (by omega)

/-- The elements below nodes in order that pass a test are found in order. -/
theorem inOrder_below
    (document : tree.InDocumentOrder)
    (ordered : InOrder tree nodes)
    (test : Nat → Bool) :
    InOrder tree (distinct (nodes.flatMap fun i => (tree.elements i).filter test)) := by
  constructor
  case within =>
    intro j member
    obtain ⟨i, -, among⟩ := List.mem_flatMap.mp (mem_distinct.mp member)
    exact lt_size_of_isElement (mem_elements.mp (List.mem_of_mem_filter among)).2
  case increasing =>
    obtain ⟨increasing, within⟩ := ordered
    induction nodes with
    | nil => exact .nil
    | cons i rest hypothesis =>
        obtain ⟨behind, increasing⟩ := List.pairwise_cons.mp increasing
        have own : ((tree.elements i).filter test).Pairwise (· < ·) :=
          (pairwise_elements tree i).filter _
        have first := within i List.mem_cons_self
        have others := hypothesis increasing fun j member =>
          within j (List.mem_cons_of_mem i member)
        rw [List.flatMap_cons, distinct_append, List.pairwise_append]
        refine ⟨own.sublist (distinct_sublist _), others.filter _, ?_⟩
        intro j here k there
        -- What is new below the others stands behind the whole subtree.
        have member := List.mem_of_mem_filter (mem_distinct.mp here)
        obtain ⟨isOther, isNew⟩ := List.mem_filter.mp there
        obtain ⟨other, among, found⟩ := List.mem_flatMap.mp (mem_distinct.mp isOther)
        obtain ⟨found, passes⟩ := List.mem_filter.mp found
        rcases below_or_behind document first (behind other among) found with old | apart
        · have listed : k ∈ (tree.elements i).filter test := List.mem_filter.mpr ⟨old, passes⟩
          simp [listed] at isNew
        · have inside := (mem_elements.mp member).1.2
          omega

/-- Of the elements that pass a test, the first one below a node is found. -/
theorem le_of_find?
    {test : Nat → Bool}
    {i j k : Nat}
    (first : (tree.elements i).find? test = some j)
    (member : k ∈ tree.elements i)
    (passes : test k = true) :
    j ≤ k := by
  obtain ⟨-, before, after, same, none⟩ := List.find?_eq_some_iff_append.mp first
  have increasing := pairwise_elements tree i
  rw [same] at member increasing
  rcases List.mem_append.mp member with early | late
  · have failed := none k early
    rw [passes] at failed
    cases failed
  · rcases List.mem_cons.mp late with rfl | later
    · exact Nat.le_refl _
    · exact (List.rel_of_pairwise_cons (List.pairwise_append.mp increasing).2.1 later).le

/-- The first elements below nodes in order that pass a test are found in order. -/
theorem inOrder_first
    (document : tree.InDocumentOrder)
    (ordered : InOrder tree nodes)
    (test : Nat → Bool) :
    InOrder tree (distinct (nodes.filterMap fun i => (tree.elements i).find? test)) := by
  constructor
  case within =>
    intro j member
    obtain ⟨i, -, first⟩ := List.mem_filterMap.mp (mem_distinct.mp member)
    exact lt_size_of_isElement (mem_elements.mp (List.mem_of_find?_eq_some first)).2
  case increasing =>
    have rising : (nodes.filterMap fun i => (tree.elements i).find? test).Pairwise (· ≤ ·) := by
      rw [List.pairwise_filterMap]
      apply ordered.increasing.imp_of_mem
      intro i other among _ behind j first k second
      have found := List.mem_of_find?_eq_some second
      rcases below_or_behind document (ordered.within i among) behind found with old | apart
      · exact le_of_find? first old (List.find?_some second)
      · have inside := (mem_elements.mp (List.mem_of_find?_eq_some first)).1.2
        omega
    have distinctly := List.pairwise_and_iff.mpr
      ⟨rising.sublist (distinct_sublist _), nodup_distinct _⟩
    exact distinctly.imp fun both => Nat.lt_of_le_of_ne both.1 both.2

/-! ## Indices -/

theorem filterMap_range (items : List Nat) :
    (List.range items.length).filterMap (fun i => items[i]?) = items := by
  induction items with
  | nil => rfl
  | cons first rest hypothesis =>
      rw [List.length_cons, List.range_succ_eq_map, List.filterMap_cons, List.filterMap_map]
      exact congrArg (first :: ·) hypothesis

/-- An index picks items in their order, each one once. -/
theorem select_sublist
    {items found : List Nat}
    {index : Text}
    (selected : IndexExpression.select items index = .ok found) :
    found.Sublist items := by
  unfold IndexExpression.select IndexExpression.indices at selected
  obtain ⟨picked, read, rfl⟩ := exists_ok_of_map selected
  obtain ⟨reading, -, rfl⟩ := exists_ok_of_map read
  have part : (reading.indices items.length).Sublist (List.range items.length) :=
    List.filter_sublist
  have picked := part.filterMap fun i => items[i]?
  rwa [filterMap_range] at picked

theorem mem_childElements {i j : Nat} (member : j ∈ tree.childElements i) : tree.parent j = i := by
  have child := (List.mem_filter.mp (List.mem_of_mem_filter member)).2
  exact beq_iff_eq.mp child

theorem nodup_childElements (tree : Tree) (i : Nat) : (tree.childElements i).Nodup :=
  ((List.Ico.nodup _ _).filter _).filter _

/-- Children that are picked below several nodes are children of different ones. -/
theorem nodup_pickChildren
    {index : Text}
    (nodup : nodes.Nodup)
    (picked : pickChildren tree index nodes = .ok found) :
    found.Nodup ∧ ∀ j ∈ found, tree.parent j ∈ nodes := by
  induction nodes generalizing found with
  | nil =>
      obtain rfl := Except.ok.inj picked
      exact ⟨List.nodup_nil, by simp⟩
  | cons i rest hypothesis =>
      obtain ⟨fresh, nodup⟩ := List.nodup_cons.mp nodup
      obtain ⟨own, ownPicked, picked⟩ := exists_ok_of_bind picked
      obtain ⟨others, othersPicked, picked⟩ := exists_ok_of_bind picked
      obtain rfl := Except.ok.inj picked
      have part := select_sublist ownPicked
      obtain ⟨distinctly, parents⟩ := hypothesis nodup othersPicked
      have ownParent : ∀ j ∈ own, tree.parent j = i :=
        fun j member => mem_childElements (part.subset member)
      constructor
      · refine List.Nodup.append ((nodup_childElements tree i).sublist part) distinctly ?_
        intro j here there
        have among := parents j there
        rw [ownParent j here] at among
        exact fresh among
      · intro j member
        rcases List.mem_append.mp member with here | there
        · rw [ownParent j here]
          exact List.mem_cons_self
        · exact List.mem_cons_of_mem i (parents j there)

/-! ## Segments -/

/-- What a segment selects: children, children by their index, the first elements with a text,
or what its base selects, which may be the elements themselves, by an index. -/
theorem selectSegment_cases
    {segment : Text}
    {includeSelf : Bool}
    (selected : selectSegment tree nodes segment includeSelf = .ok found) :
    (segment = "children".toList ∧ found = distinct (nodes.flatMap tree.childElements)) ∨
      (∃ index, bareIndex? segment = some index ∧ pickChildren tree index nodes = .ok found) ∨
      (∃ test, found = distinct (nodes.filterMap fun i => (tree.elements i).find? test)) ∨
      (segment.dropStart? "text." = none ∧
        ∃ taken, found.Sublist taken ∧ (taken.Sublist nodes ∨
          (Base.ofText (splitIndex segment).1).select tree nodes = .ok taken)) := by
  unfold selectSegment at selected
  split at selected
  · rename_i isChildren
    exact .inl ⟨beq_iff_eq.mp isChildren, (Except.ok.inj selected).symm⟩
  right
  split at selected
  · rename_i index bare
    exact .inl ⟨index, bare, selected⟩
  right
  split at selected
  · rename_i needle _
    exact .inl ⟨_, (Except.ok.inj selected).symm⟩
  right
  rename_i noText
  refine ⟨noText, ?_⟩
  generalize splitIndex segment = parts at selected ⊢
  obtain ⟨base, index⟩ := parts
  obtain ⟨below, based, selected⟩ := exists_ok_of_bind selected
  obtain ⟨taken, same, origin⟩ : ∃ taken,
      (if below.isEmpty && includeSelf then nodes.filter ((Base.ofText base).holds tree)
        else below) = taken ∧
      (taken.Sublist nodes ∨ (Base.ofText base).select tree nodes = .ok taken) := by
    split
    · exact ⟨_, rfl, .inl List.filter_sublist⟩
    · exact ⟨_, rfl, .inr based⟩
  refine ⟨taken, ?_, origin⟩
  dsimp only at selected
  rw [same] at selected
  cases index with
  | none => rw [Except.ok.inj selected]
  | some index => exact select_sublist selected

/-- Nodes that a base selects are distinct. -/
theorem nodup_select
    {base : Base}
    (selected : base.select tree nodes = .ok found) :
    found.Nodup := by
  unfold Base.select at selected
  cases base with
  | classes names =>
      rw [← Except.ok.inj selected]
      exact nodup_distinct _
  | identifier value =>
      rw [← Except.ok.inj selected]
      exact nodup_distinct _
  | name value =>
      rw [← Except.ok.inj selected]
      exact nodup_distinct _
  | selector text =>
      dsimp only at selected
      split at selected
      · rw [← Except.ok.inj selected]
        exact List.nodup_nil
      · obtain ⟨selector, -, rfl⟩ := exists_ok_of_map selected
        exact nodup_distinct _

/-- The elements that satisfy the selector of a segment do not depend on where the search
begins. -/
def IgnoresScope (tree : Tree) (segment : Text) : Prop :=
  segment.dropStart? "text." = none →
    ∀ text selector, Base.ofText (splitIndex segment).1 = .selector text →
      Selector.read? text = some selector →
        ∀ start other i, selector.holds tree start i = selector.holds tree other i

theorem eq_of_ofText_eq_selector
    {base text : Text}
    (same : Base.ofText base = .selector text) :
    base = text := by
  unfold Base.ofText at same
  repeat' split at same
  · cases same
  · cases same
  · cases same
  · exact Base.selector.inj same

/-- The selector of a segment ignores the scope unless it asks for it. -/
theorem ignoresScope_of_unscoped
    {segment : Text}
    (unscoped : ∀ selector ∈ Selector.read? (splitIndex segment).1,
      Selector.oneAsksScope selector = false)
    (tree : Tree) :
    IgnoresScope tree segment := by
  intro _ text selector same given start other i
  rw [← eq_of_ofText_eq_selector same] at given
  exact Selector.holds_unscoped (unscoped selector given) start other i

/-- A base selects the elements below that pass a test. -/
theorem select_eq_below
    {base : Base}
    (ignores : ∀ text selector, base = .selector text → Selector.read? text = some selector →
      ∀ start other i, selector.holds tree start i = selector.holds tree other i)
    (selected : base.select tree nodes = .ok found) :
    ∃ test, found = distinct (nodes.flatMap fun i => (tree.elements i).filter test) := by
  unfold Base.select at selected
  cases base with
  | classes names => exact ⟨_, (Except.ok.inj selected).symm⟩
  | identifier value => exact ⟨_, (Except.ok.inj selected).symm⟩
  | name value => exact ⟨_, (Except.ok.inj selected).symm⟩
  | selector text =>
      dsimp only at selected
      split at selected
      · rename_i none
        rw [List.isEmpty_iff.mp none, ← Except.ok.inj selected]
        exact ⟨fun _ => false, rfl⟩
      · obtain ⟨selector, read, rfl⟩ := exists_ok_of_map selected
        have given : Selector.read? text = some selector := by
          unfold readSelector at read
          split at read
          · rename_i other reads
            rw [reads, Except.ok.inj read]
          · cases read
        refine ⟨selector.holds tree 0, ?_⟩
        congr 2
        funext i
        unfold Selector.select
        apply List.filter_congr
        intro j _
        exact ignores text selector rfl given i 0 j

/-- A segment selects distinct nodes. -/
theorem nodup_selectSegment
    {segment : Text}
    {includeSelf : Bool}
    (nodup : nodes.Nodup)
    (selected : selectSegment tree nodes segment includeSelf = .ok found) :
    found.Nodup := by
  rcases selectSegment_cases selected with
    ⟨-, rfl⟩ | ⟨index, -, picked⟩ | ⟨test, rfl⟩ | ⟨-, taken, part, own | below⟩
  · exact nodup_distinct _
  · exact (nodup_pickChildren nodup picked).1
  · exact nodup_distinct _
  · exact (nodup.sublist own).sublist part
  · exact (nodup_select below).sublist part

/-- A segment other than one for children selects nodes in order. -/
theorem inOrder_selectSegment
    (document : tree.InDocumentOrder)
    {segment : Text}
    {includeSelf : Bool}
    (others : segment ≠ "children".toList ∧ bareIndex? segment = none)
    (ignores : IgnoresScope tree segment)
    (ordered : InOrder tree nodes)
    (selected : selectSegment tree nodes segment includeSelf = .ok found) :
    InOrder tree found := by
  rcases selectSegment_cases selected with
    ⟨children, -⟩ | ⟨index, bare, -⟩ | ⟨test, rfl⟩ | ⟨noText, taken, part, own | below⟩
  · exact absurd children others.1
  · rw [others.2] at bare
    cases bare
  · exact inOrder_first document ordered test
  · exact (ordered.sublist own).sublist part
  · obtain ⟨test, rfl⟩ := select_eq_below (ignores noText) below
    exact (inOrder_below document ordered test).sublist part

/-! ## Chains -/

/-- What each segment keeps of the nodes, the chain keeps. -/
theorem walk_keeps
    {keeps : List Nat → Prop}
    (nothing : keeps [])
    {segments : List Text}
    (step : ∀ segment ∈ segments, ∀ nodes includeSelf found, keeps nodes →
      selectSegment tree nodes segment includeSelf = .ok found → keeps found)
    {includeSelf : Bool}
    (kept : keeps nodes)
    (walked : walk tree includeSelf nodes segments = .ok found) :
    keeps found := by
  induction segments generalizing nodes includeSelf with
  | nil =>
      rw [← Except.ok.inj walked]
      exact kept
  | cons segment rest hypothesis =>
      obtain ⟨selected, first, walked⟩ := exists_ok_of_bind walked
      have next := step segment List.mem_cons_self nodes includeSelf selected kept first
      split at walked
      · rw [← Except.ok.inj walked]
        exact nothing
      · exact hypothesis (fun other member => step other (List.mem_cons_of_mem segment member))
          next walked

theorem splitAccessor_eq_of_none
    {segments : List Text}
    {scalar : Bool}
    (none : (splitAccessor segments scalar).2 = none) :
    (splitAccessor segments scalar).1 = segments := by
  unfold splitAccessor at none ⊢
  split
  · rename_i last
    rw [List.getLast?_eq_none_iff.mp last]
  · rename_i last isLast
    rw [isLast] at none
    dsimp only at none
    split at none
    · cases none
    · rename_i plain
      rw [if_neg plain]

/-- Nodes are found by all segments of a chain, from the node where it starts or from the body of
the document. -/
theorem evaluate_cases
    {start : Nat}
    {chain : Text}
    {mode : Mode}
    (evaluated : evaluate tree [start] chain mode = .ok (.nodes found)) :
    ∃ origin, (origin = start ∨ tree.isElement origin = true) ∧
      walk tree mode.fromElement [origin] (split chain) = .ok found := by
  unfold evaluate at evaluated
  have kept := @splitAccessor_eq_of_none (split chain) mode.scalar
  generalize splitAccessor (split chain) mode.scalar = parts at evaluated kept
  obtain ⟨selectors, accessor⟩ := parts
  obtain ⟨nodes, walked, evaluated⟩ := exists_ok_of_bind evaluated
  cases accessor with
  | some accessor =>
      obtain ⟨texts, -, other⟩ := exists_ok_of_map evaluated
      cases other
  | none =>
      dsimp only at evaluated
      split at evaluated
      · obtain ⟨texts, -, other⟩ := exists_ok_of_map evaluated
        cases other
      obtain rfl := Outcome.nodes.inj (Except.ok.inj evaluated)
      have whole : selectors = split chain := kept rfl
      rw [← whole]
      split at walked
      · refine ⟨_, ?_, walked⟩
        dsimp only
        split
        · cases body : tree.body? start with
          | none => exact .inl rfl
          | some origin =>
              exact .inr (mem_elements.mp (List.mem_of_find?_eq_some body)).2
        · exact .inl rfl
      · exact ⟨start, .inl rfl, walked⟩

/-- Along a chain without an accessor the nodes that are found are distinct, and they are in
preorder unless a segment asks for children. -/
theorem evaluate_inDocumentOrder
    {page : Text}
    {tree : Tree}
    (given : read page = .ok tree)
    {start : Nat}
    (within : start < tree.nodes.size)
    {chain : Text}
    {mode : Mode}
    {found : List Nat}
    (evaluated : evaluate tree [start] chain mode = .ok (.nodes found)) :
    found.Nodup ∧
      ((∀ segment ∈ split chain, segment ≠ "children".toList ∧ bareIndex? segment = none) →
        (∀ segment ∈ split chain, IgnoresScope tree segment) →
          found.Sublist tree.preorder) := by
  have document := read_inDocumentOrder given
  obtain ⟨origin, known, walked⟩ := evaluate_cases evaluated
  have originWithin : origin < tree.nodes.size := by
    rcases known with rfl | element
    · exact within
    · exact lt_size_of_isElement element
  constructor
  · apply walk_keeps List.nodup_nil _ (List.nodup_singleton origin) walked
    intro segment _ nodes includeSelf found nodup selected
    exact nodup_selectSegment nodup selected
  · intro others ignore
    apply InOrder.sublist_preorder _ document
    apply walk_keeps (InOrder.nil tree) _ (InOrder.singleton originWithin) walked
    intro segment member nodes includeSelf found ordered selected
    exact inOrder_selectSegment document (others segment member) (ignore segment member) ordered
      selected

/-- A page with an element that is nested in one of its name. -/
def nestedPage : Text :=
  ['<', 'd', '>', '<', 'd', '>', '<', 'p', '>', 'a', '<', '/', 'd', '>', '<', 'p', '>', 'b']

/-- The tree of the page. -/
def nestedTree : Tree where
  nodes := #[⟨0, 7, .root⟩, ⟨0, 7, .element ['d'] []⟩, ⟨1, 5, .element ['d'] []⟩,
    ⟨2, 5, .element ['p'] []⟩, ⟨3, 5, .text .plain ['a']⟩, ⟨1, 7, .element ['p'] []⟩,
    ⟨5, 7, .text .plain ['b']⟩]

/-- The inner element of the page is found once, though it stands below both outer ones. -/
theorem evaluate_inDocumentOrder_nested :
    read nestedPage = .ok nestedTree ∧
      evaluate nestedTree [0] ['d', '@', 'p'] ⟨[], false, false⟩ = .ok (.nodes [3, 5]) ∧
      [3, 5].Nodup ∧ [3, 5].Sublist nestedTree.preorder := by
  have given : read nestedPage = .ok nestedTree := by decide +kernel
  have evaluated :
      evaluate nestedTree [0] ['d', '@', 'p'] ⟨[], false, false⟩ = .ok (.nodes [3, 5]) := rfl
  have ordered := evaluate_inDocumentOrder given (by decide) evaluated
  refine ⟨given, evaluated, ordered.1, ordered.2 (by decide +kernel) ?_⟩
  intro segment member
  apply ignoresScope_of_unscoped
  revert segment
  decide +kernel

end Chain

end RuleProbe
