import Mathlib.Data.List.Intervals
import RuleProbe.Markup.Reader
import RuleProbe.Markup.Tree
import RuleProbe.Proofs.Effects

/-!
# Document order of pages

While a page is read, the subtrees of the open nodes stop where the nodes so far end.  A new node
stands at the end of all of them, and an element that is closed stops where it did while it was
open, so the nodes stand in document order from the first one to the tree of the page.
-/

namespace RuleProbe

/-!
## Document order

The nodes of a document stand in preorder: a node before its descendants, which are the nodes up
to where it stops, and the subtrees of children one behind the other.  Subtrees are nested in
each other or apart.
-/

namespace Markup

/-- Positions that stand in preorder, given the parent of each and the place where its subtree
stops. -/
structure Nesting (size : Nat) (parent stop : Nat → Nat) : Prop where
  /-- A subtree holds its root. -/
  lt_stop : ∀ i < size, i < stop i
  /-- A subtree is one of the positions. -/
  stop_le : ∀ i < size, stop i ≤ size
  /-- A subtree holds those of its positions. -/
  nested : ∀ i < size, ∀ j, i < j → j < stop i → stop j ≤ stop i
  /-- A parent stands before its children. -/
  parent_lt : ∀ j < size, 0 < j → parent j < j
  /-- A child stands in the subtree of its parent. -/
  lt_stop_parent : ∀ j < size, 0 < j → j < stop (parent j)
  /-- A subtree between a parent and its child ends before the child. -/
  stop_le_of_between : ∀ j < size, 0 < j → ∀ k, parent j < k → k < j → stop k ≤ j

namespace Nesting

variable {size : Nat} {parent stop : Nat → Nat}

/-- The parent of a descendant stands in the same subtree. -/
theorem le_parent
    (nesting : Nesting size parent stop)
    {i j : Nat}
    (within : i < size)
    (below : i < j)
    (inside : j < stop i) :
    i ≤ parent j := by
  have bound := nesting.stop_le i within
  by_contra outside
  have ended := nesting.stop_le_of_between j (by omega) (by omega) i (by omega) below
  omega

/-- Behind the subtree of a child there is another child, or the subtree of the parent ends. -/
theorem parent_stop
    (nesting : Nesting size parent stop)
    {i j : Nat}
    (within : i < size)
    (below : i < j)
    (inside : j < stop i)
    (child : parent j = i)
    (more : stop j < stop i) :
    parent (stop j) = i := by
  have bound := nesting.stop_le i within
  have behind := nesting.lt_stop j (by omega)
  have least := nesting.le_parent within (by omega) more
  have before := nesting.parent_lt (stop j) (by omega) (by omega)
  have holds := nesting.lt_stop_parent (stop j) (by omega) (by omega)
  rcases Nat.eq_or_lt_of_le least with same | above
  · exact same.symm
  -- A parent further below would stand beside the child or in its subtree, and end too early.
  rcases Nat.lt_trichotomy (parent (stop j)) j with left | same | right
  · have ended := nesting.stop_le_of_between j (by omega) (by omega) _ (by omega) left
    omega
  · rw [same] at holds
    omega
  · have ended := nesting.nested j (by omega) _ right before
    omega

/-- The first position behind a node is its first child. -/
theorem parent_succ
    (nesting : Nesting size parent stop)
    {i : Nat}
    (within : i < size)
    (more : i + 1 < stop i) :
    parent (i + 1) = i := by
  have bound := nesting.stop_le i within
  have least := nesting.le_parent within (Nat.lt_add_one i) more
  have before := nesting.parent_lt (i + 1) (by omega) (Nat.succ_pos i)
  omega

/-- The subtree of the first position holds all. -/
theorem lt_stop_zero
    (nesting : Nesting size parent stop)
    {j : Nat}
    (within : j < size) :
    j < stop 0 := by
  -- By induction on the position, along its parents.
  induction j using Nat.strong_induction_on with
  | _ j hypothesis =>
      rcases Nat.eq_zero_or_pos j with rfl | positive
      · exact nesting.lt_stop 0 within
      have before := nesting.parent_lt j within positive
      have holds := nesting.lt_stop_parent j within positive
      have inside := hypothesis (parent j) before (by omega)
      rcases Nat.eq_zero_or_pos (parent j) with zero | above
      · rwa [zero] at holds
      · have nested := nesting.nested 0 (by omega) (parent j) above inside
        omega

end Nesting

namespace Tree

variable {tree : Tree}

/-- The nodes of a tree stand in document order. -/
def InDocumentOrder (tree : Tree) : Prop :=
  Nesting tree.nodes.size tree.parent tree.stop

/-- The nodes of a subtree in preorder: a node, and then the subtrees of its children. -/
def preorderFrom (tree : Tree) : Nat → Nat → List Nat
  | 0, _ => []
  | depth + 1, i => i :: (tree.children i).flatMap (preorderFrom tree depth)

/-- The nodes of a tree in preorder. -/
def preorder (tree : Tree) : List Nat := tree.preorderFrom tree.nodes.size 0

theorem descendants_eq_Ico (tree : Tree) (i : Nat) :
    tree.descendants i = List.Ico (i + 1) (tree.stop i) := rfl

/-- Of the positions of a subtree, only its root is a child of the node around it. -/
theorem filter_subtree
    (ordered : tree.InDocumentOrder)
    {i : Nat}
    (within : i < tree.nodes.size)
    {first : Nat}
    (below : i < first)
    (inside : first < tree.stop i)
    (child : tree.parent first = i) :
    (List.Ico first (tree.stop first)).filter (fun j => tree.parent j == i) = [first] := by
  have bound := ordered.stop_le i within
  have behind := ordered.lt_stop first (by omega)
  rw [List.Ico.eq_cons behind, List.filter_cons_of_pos (by simpa using child)]
  congr 1
  rw [List.filter_eq_nil_iff]
  intro j member isChild
  obtain ⟨after, before⟩ := List.Ico.mem.mp member
  have least := ordered.le_parent (by omega) after before
  have same : tree.parent j = i := by simpa using isChild
  omega

/-- The positions of a subtree, from a child of its root on, are those of the subtrees of this
child and of the children behind it. -/
theorem flatMap_subtrees
    (ordered : tree.InDocumentOrder)
    {i : Nat}
    (within : i < tree.nodes.size)
    {first : Nat}
    (below : i < first)
    (inside : first ≤ tree.stop i)
    (child : first < tree.stop i → tree.parent first = i) :
    ((List.Ico first (tree.stop i)).filter fun j => tree.parent j == i).flatMap
        (fun j => List.Ico j (tree.stop j)) =
      List.Ico first (tree.stop i) := by
  induction left : tree.stop i - first using Nat.strong_induction_on generalizing first with
  | _ n hypothesis =>
      rcases inside.eq_or_lt with rfl | more
      · rw [List.Ico.self_empty]
        rfl
      have bound := ordered.stop_le i within
      have behind := ordered.lt_stop first (by omega)
      have nested := ordered.nested i within first below more
      have next : tree.stop first < tree.stop i → tree.parent (tree.stop first) = i :=
        ordered.parent_stop within below more (child more)
      have rest := hypothesis (tree.stop i - tree.stop first) (by omega) (by omega) nested next rfl
      rw [← List.Ico.append_consecutive behind.le nested, List.filter_append,
        List.flatMap_append, rest, filter_subtree ordered within below more (child more),
        List.flatMap_singleton]

theorem flatMap_children
    (ordered : tree.InDocumentOrder)
    {i : Nat}
    (within : i < tree.nodes.size) :
    (tree.children i).flatMap (fun j => List.Ico j (tree.stop j)) = tree.descendants i := by
  exact flatMap_subtrees ordered within (Nat.lt_add_one i) (ordered.lt_stop i within)
    (ordered.parent_succ within)

/-- In document order the preorder of a subtree is the order of its positions. -/
theorem preorderFrom_eq
    (ordered : tree.InDocumentOrder)
    {depth i : Nat}
    (within : i < tree.nodes.size)
    (enough : tree.nodes.size ≤ i + depth) :
    tree.preorderFrom depth i = List.Ico i (tree.stop i) := by
  induction depth generalizing i with
  | zero => omega
  | succ depth hypothesis =>
      have subtrees : ∀ j ∈ tree.children i,
          tree.preorderFrom depth j = List.Ico j (tree.stop j) := by
        intro j member
        have bound := ordered.stop_le i within
        have position := List.Ico.mem.mp (List.mem_of_mem_filter member)
        exact hypothesis (by omega) (by omega)
      rw [preorderFrom, List.flatMap_congr subtrees, flatMap_children ordered within,
        List.Ico.eq_cons (ordered.lt_stop i within)]
      rfl

/-- In document order the preorder of a tree is the order of its positions. -/
theorem preorder_eq_range (ordered : tree.InDocumentOrder) :
    tree.preorder = List.range tree.nodes.size := by
  unfold preorder
  rcases Nat.eq_zero_or_pos tree.nodes.size with none | positive
  · rw [none]
    rfl
  · have bound := ordered.stop_le 0 positive
    have last : tree.nodes.size - 1 < tree.nodes.size := by omega
    have holds := ordered.lt_stop_zero last
    have whole : tree.stop 0 = tree.nodes.size := by omega
    rw [preorderFrom_eq ordered positive (Nat.le_add_left _ _), whole, List.Ico.zero_bot]

end Tree

end Markup

end RuleProbe

namespace RuleProbe

namespace Markup

/-- Positions stand in preorder still when one more stands at the end of all open subtrees. -/
theorem Nesting.extend
    {size : Nat}
    {parent stop parent' stop' : Nat → Nat}
    (nesting : Nesting size parent stop)
    {opened : List Nat}
    {current : Nat}
    (currentOpen : current ∈ opened)
    (innermost : ∀ i ∈ opened, i ≤ current)
    (before : current < size)
    (closedBefore : ∀ i j, i < j → i ∉ opened → j ∈ opened → stop i ≤ j)
    (full : ∀ i ∈ opened, stop i = size)
    (grown : ∀ i, i ∈ opened ∨ i = size → stop' i = size + 1)
    (kept : ∀ i < size, i ∉ opened → stop' i = stop i)
    (sameParent : ∀ j < size, parent' j = parent j)
    (newParent : parent' size = current) :
    Nesting (size + 1) parent' stop' := by
  have cases : ∀ i < size + 1, stop' i = size + 1 ∨ i < size ∧ i ∉ opened ∧ stop' i = stop i := by
    intro i within
    by_cases isOpen : i ∈ opened ∨ i = size
    · exact .inl (grown i isOpen)
    · rw [not_or] at isOpen
      exact .inr ⟨by omega, isOpen.1, kept i (by omega) isOpen.1⟩
  have atLeast : ∀ i < size, stop i ≤ stop' i := by
    intro i within
    have bound := nesting.stop_le i within
    rcases cases i (by omega) with grows | ⟨-, -, same⟩ <;> omega
  constructor
  case lt_stop =>
    intro i within
    rcases cases i within with grows | ⟨old, -, same⟩
    · omega
    · have behind := nesting.lt_stop i old
      omega
  case stop_le =>
    intro i within
    rcases cases i within with grows | ⟨old, -, same⟩
    · omega
    · have bound := nesting.stop_le i old
      omega
  case nested =>
    intro i within j below inside
    rcases cases i within with grows | ⟨old, closed, same⟩
    · rcases cases j (by omega) with grows' | ⟨old', -, same'⟩
      · omega
      · have bound := nesting.stop_le j old'
        omega
    · -- A closed subtree holds closed ones only.
      have bound := nesting.stop_le i old
      have nested := nesting.nested i old j below (by omega)
      have closed' : j ∉ opened := by
        intro isOpen
        have ended := closedBefore i j below closed isOpen
        omega
      rw [kept j (by omega) closed', same]
      exact nested
  case parent_lt =>
    intro j within positive
    rcases Nat.lt_succ_iff_lt_or_eq.mp within with old | rfl
    · rw [sameParent j old]
      exact nesting.parent_lt j old positive
    · rw [newParent]
      exact before
  case lt_stop_parent =>
    intro j within positive
    rcases Nat.lt_succ_iff_lt_or_eq.mp within with old | rfl
    · have inside := nesting.lt_stop_parent j old positive
      have earlier := nesting.parent_lt j old positive
      rw [sameParent j old]
      exact Nat.lt_of_lt_of_le inside (atLeast _ (by omega))
    · rw [newParent, grown current (.inl currentOpen)]
      exact Nat.lt_add_one j
  case stop_le_of_between =>
    intro j within positive k after earlier
    have closed : k ∉ opened → stop' k = stop k := kept k (by omega)
    rcases Nat.lt_succ_iff_lt_or_eq.mp within with old | rfl
    · rw [sameParent j old] at after
      have ended := nesting.stop_le_of_between j old positive k after earlier
      have isClosed : k ∉ opened := by
        intro isOpen
        have open_ := full k isOpen
        omega
      rw [closed isClosed]
      exact ended
    · rw [newParent] at after
      have isClosed : k ∉ opened := by
        intro isOpen
        have most := innermost k isOpen
        omega
      rw [closed isClosed]
      exact nesting.stop_le k earlier

namespace Tree

theorem stop_push (nodes : Array Node) (node : Node) (i : Nat) :
    Tree.stop ⟨nodes.push node⟩ i = if i = nodes.size then node.stop else Tree.stop ⟨nodes⟩ i := by
  unfold stop
  rw [Array.getElem?_push]
  split <;> rfl

theorem parent_push (nodes : Array Node) (node : Node) (i : Nat) :
    Tree.parent ⟨nodes.push node⟩ i =
      if i = nodes.size then node.parent else Tree.parent ⟨nodes⟩ i := by
  unfold parent
  rw [Array.getElem?_push]
  split <;> rfl

theorem stop_close
    {nodes : Array Node}
    {j : Nat}
    (within : j < nodes.size)
    (place i : Nat) :
    Tree.stop ⟨nodes.modify j fun node => { node with stop := place }⟩ i =
      if i = j then place else Tree.stop ⟨nodes⟩ i := by
  unfold stop
  rw [Array.getElem?_modify]
  by_cases same : i = j
  · rw [if_pos same, if_pos same.symm, same, Array.getElem?_eq_getElem within]
    rfl
  · rw [if_neg same, if_neg (Ne.symm same)]

theorem parent_close (nodes : Array Node) (j place i : Nat) :
    Tree.parent ⟨nodes.modify j fun node => { node with stop := place }⟩ i =
      Tree.parent ⟨nodes⟩ i := by
  unfold parent
  rw [Array.getElem?_modify]
  split
  · rw [Option.map_map]
    rfl
  · rfl

end Tree

namespace Builder

/-- The open nodes, innermost first; the document is always open. -/
def openNodes (builder : Builder) : List Nat := builder.opened ++ [0]

/-- The place where a subtree stops by now; that of an open node goes on. -/
def stopNow (builder : Builder) (i : Nat) : Nat :=
  if i ∈ builder.openNodes then builder.nodes.size else builder.soFar.stop i

/-- The nodes so far stand in document order, those that are open one inside the other and behind
the ones that are closed. -/
structure InOrder (builder : Builder) : Prop where
  /-- The nodes stand in preorder. -/
  nesting : Nesting builder.nodes.size builder.soFar.parent builder.stopNow
  /-- The open nodes stand one behind the other. -/
  decreasing : builder.openNodes.Pairwise (· > ·)
  /-- The open nodes are nodes. -/
  opened_lt : ∀ i ∈ builder.openNodes, i < builder.nodes.size
  /-- A closed subtree ends before the open nodes behind its root. -/
  closed_before :
    ∀ i j, i < j → i ∉ builder.openNodes → j ∈ builder.openNodes → builder.soFar.stop i ≤ j

theorem inOrder_empty : empty.InOrder where
  nesting := by
    constructor <;> intro i within <;> obtain rfl : i = 0 := Nat.lt_one_iff.mp within
    · decide
    · decide
    · intro j below inside
      have bound : j < 1 := inside
      omega
    · decide
    · decide
    · intro positive
      cases positive
  decreasing := by decide
  opened_lt := by decide
  closed_before := by
    intro i j below _ isOpen
    obtain rfl : j = 0 := by simpa [openNodes, empty] using isOpen
    cases below

variable {builder : Builder}

theorem current_mem (builder : Builder) : builder.current ∈ builder.openNodes := by
  unfold current openNodes
  cases builder.opened with
  | nil => exact List.mem_cons_self
  | cons i rest => exact List.mem_cons_self

theorem InOrder.le_current
    (ordered : builder.InOrder)
    {i : Nat}
    (isOpen : i ∈ builder.openNodes) :
    i ≤ builder.current := by
  have decreasing := ordered.decreasing
  unfold openNodes at isOpen decreasing
  unfold current
  cases same : builder.opened with
  | nil =>
      rw [same] at isOpen
      exact (List.mem_singleton.mp isOpen).le
  | cons first rest =>
      rw [same] at isOpen decreasing
      rcases List.mem_cons.mp isOpen with rfl | later
      · exact Nat.le_refl _
      · exact (List.rel_of_pairwise_cons decreasing later).le

theorem stopNow_of_open {i : Nat} (isOpen : i ∈ builder.openNodes) :
    builder.stopNow i = builder.nodes.size := if_pos isOpen

theorem stopNow_of_closed {i : Nat} (closed : i ∉ builder.openNodes) :
    builder.stopNow i = builder.soFar.stop i := if_neg closed

/-- A node that is added to the innermost open node keeps the document order, whether it stays
open or not. -/
theorem InOrder.add
    (ordered : builder.InOrder)
    (content : Content)
    {opened : List Nat}
    (sameOpen : opened = builder.opened ∨ opened = builder.nodes.size :: builder.opened) :
    InOrder ⟨builder.nodes.push ⟨builder.current, builder.nodes.size + 1, content⟩, opened⟩ := by
  have mem_old : ∀ i ∈ builder.openNodes, i ∈ opened ++ [0] := by
    intro i isOpen
    rcases sameOpen with rfl | rfl
    · exact isOpen
    · exact List.mem_cons_of_mem _ isOpen
  have mem_cases : ∀ i ∈ opened ++ [0], i ∈ builder.openNodes ∨ i = builder.nodes.size := by
    intro i isOpen
    rcases sameOpen with rfl | rfl
    · exact .inl isOpen
    · exact (List.mem_cons.mp isOpen).symm
  have closed_stop : ∀ i < builder.nodes.size, i ∉ builder.openNodes →
      builder.soFar.stop i ≤ builder.nodes.size := by
    intro i within closed
    rw [← stopNow_of_closed closed]
    exact ordered.nesting.stop_le i within
  constructor
  case nesting =>
    rw [Array.size_push]
    refine ordered.nesting.extend (current_mem builder) (fun i => ordered.le_current)
      (ordered.opened_lt _ (current_mem builder)) ?_ (fun i => stopNow_of_open) ?_ ?_ ?_ ?_
    · intro i j below closed isOpen
      rw [stopNow_of_closed closed]
      exact ordered.closed_before i j below closed isOpen
    · intro i grows
      unfold stopNow
      split
      · exact Array.size_push _
      · rename_i closed
        rcases grows with isOpen | rfl
        · exact absurd (mem_old i isOpen) closed
        · exact (Tree.stop_push _ _ _).trans (if_pos rfl)
    · intro i within closed
      have still : i ∉ opened ++ [0] := by
        intro isOpen
        rcases mem_cases i isOpen with old | new
        · exact closed old
        · omega
      rw [stopNow_of_closed closed, stopNow_of_closed still]
      exact (Tree.stop_push _ _ _).trans (if_neg (by omega))
    · intro j within
      exact (Tree.parent_push _ _ _).trans (if_neg (by omega))
    · exact (Tree.parent_push _ _ _).trans (if_pos rfl)
  case decreasing =>
    rcases sameOpen with rfl | rfl
    · exact ordered.decreasing
    · exact List.pairwise_cons.mpr ⟨ordered.opened_lt, ordered.decreasing⟩
  case opened_lt =>
    intro i isOpen
    rw [Array.size_push]
    rcases mem_cases i isOpen with old | rfl
    · have within := ordered.opened_lt i old
      omega
    · exact Nat.lt_add_one _
  case closed_before =>
    intro i j below closed isOpen
    have closedBefore : i ∉ builder.openNodes := fun old => closed (mem_old i old)
    have same : i < builder.nodes.size → Tree.stop
        ⟨builder.nodes.push ⟨builder.current, builder.nodes.size + 1, content⟩⟩ i =
          builder.soFar.stop i :=
      fun within => (Tree.stop_push _ _ _).trans (if_neg (by omega))
    rcases mem_cases j isOpen with old | rfl
    · have within := ordered.opened_lt j old
      exact (same (by omega)).trans_le (ordered.closed_before i j below closedBefore old)
    · exact (same below).trans_le (closed_stop i below closedBefore)

/-- An element that is closed stops where it did while it was open. -/
theorem stopNow_leave (ordered : builder.InOrder) : builder.leave.stopNow = builder.stopNow := by
  obtain ⟨nodes, opened⟩ := builder
  cases opened with
  | nil => rfl
  | cons i rest =>
      have within : i < nodes.size := ordered.opened_lt i List.mem_cons_self
      funext j
      unfold stopNow leave openNodes
      simp only [List.cons_append, List.mem_cons, Array.size_modify]
      by_cases still : j ∈ rest ++ [0]
      · rw [if_pos still, if_pos (.inr still)]
      · rw [if_neg still]
        refine (Tree.stop_close within nodes.size j).trans (if_congr ?_ rfl rfl)
        rw [or_iff_left still]

theorem InOrder.leave (ordered : builder.InOrder) : builder.leave.InOrder := by
  have sameStop := stopNow_leave ordered
  obtain ⟨nodes, opened⟩ := builder
  cases opened with
  | nil => exact ordered
  | cons i rest =>
      obtain ⟨above, decreasing⟩ := List.pairwise_cons.mp ordered.decreasing
      have within : i < nodes.size := ordered.opened_lt i List.mem_cons_self
      constructor
      case nesting =>
        have sameParent : (Builder.leave ⟨nodes, i :: rest⟩).soFar.parent =
            (Builder.soFar ⟨nodes, i :: rest⟩).parent := by
          funext j
          exact Tree.parent_close nodes i nodes.size j
        rw [sameStop, sameParent]
        have nesting := ordered.nesting
        rwa [← Array.size_modify] at nesting
      case decreasing => exact decreasing
      case opened_lt =>
        intro j isOpen
        exact (ordered.opened_lt j (List.mem_cons_of_mem i isOpen)).trans_eq
          Array.size_modify.symm
      case closed_before =>
        intro k j below closed isOpen
        have earlier : j < i := above j isOpen
        have other : k ≠ i := by omega
        refine (Tree.stop_close within nodes.size k).trans_le ?_
        rw [if_neg other]
        apply ordered.closed_before k j below _ (List.mem_cons_of_mem i isOpen)
        intro old
        exact (List.mem_cons.mp old).elim other closed

theorem InOrder.leaveMany
    (ordered : builder.InOrder)
    (count : Nat) :
    (Builder.leaveMany count builder).InOrder := by
  induction count generalizing builder with
  | zero => exact ordered
  | succ count hypothesis => exact hypothesis ordered.leave

theorem opened_leaveMany (builder : Builder) (count : Nat) :
    (Builder.leaveMany count builder).opened = builder.opened.drop count := by
  induction count generalizing builder with
  | zero => rfl
  | succ count hypothesis =>
      rw [leaveMany, hypothesis]
      cases same : builder.opened with
      | nil => simp [leave, same]
      | cons i rest => simp [leave, same]

/-- The tree that is finished stands in document order. -/
theorem InOrder.finish (ordered : builder.InOrder) : builder.finish.InDocumentOrder := by
  have closed := ordered.leaveMany builder.opened.length
  have none : (Builder.leaveMany builder.opened.length builder).opened = [] := by
    rw [opened_leaveMany, List.drop_length]
  unfold Builder.finish
  dsimp only
  generalize Builder.leaveMany builder.opened.length builder = last at closed none
  have within : 0 < last.nodes.size :=
    closed.opened_lt 0 (List.mem_append_right _ List.mem_cons_self)
  have sameStop : Tree.stop ⟨last.nodes.modify 0 fun node =>
      { node with stop := last.nodes.size }⟩ = last.stopNow := by
    funext i
    rw [Tree.stop_close within, stopNow, openNodes, none]
    exact if_congr List.mem_singleton.symm rfl rfl
  have sameParent : Tree.parent ⟨last.nodes.modify 0 fun node =>
      { node with stop := last.nodes.size }⟩ = last.soFar.parent := by
    funext i
    exact Tree.parent_close last.nodes 0 last.nodes.size i
  unfold Tree.InDocumentOrder
  simp only [Array.size_modify]
  rw [sameStop, sameParent]
  exact closed.nesting

end Builder

namespace Reader

variable {state : State}

theorem flush_inOrder
    (ordered : state.builder.InOrder)
    (kind : Option TextKind) :
    (state.flush kind).builder.InOrder := by
  unfold State.flush
  split
  · exact ordered
  · exact ordered.add _ (.inl rfl)

theorem close_inOrder
    (ordered : state.builder.InOrder)
    (name : Text) :
    (state.close name).builder.InOrder := by
  unfold State.close
  dsimp only
  split
  · exact (flush_inOrder ordered none).leaveMany _
  · exact flush_inOrder ordered none

theorem enter_inOrder
    (ordered : state.builder.InOrder)
    (name : Text)
    (attributes : List (Text × Text)) :
    (state.enter name attributes).builder.InOrder :=
  (flush_inOrder ordered none).add _ (.inr rfl)

theorem insert_inOrder
    (ordered : state.builder.InOrder)
    (kind : TextKind)
    (value : Text) :
    (state.insert kind value).builder.InOrder := by
  apply flush_inOrder
  exact flush_inOrder ordered none

theorem endTag_inOrder
    (ordered : state.builder.InOrder)
    (name : Text) :
    (state.endTag name).builder.InOrder := by
  unfold State.endTag
  split
  · exact ordered
  · exact close_inOrder ordered name

/-- A token keeps the document order. -/
theorem step_inOrder
    (ordered : state.builder.InOrder)
    (token : Token) :
    (state.step token).builder.InOrder := by
  cases token with
  | text value => exact ordered
  | start name attributes closed =>
      have entered := enter_inOrder ordered name attributes
      unfold State.step
      dsimp only
      split
      · exact endTag_inOrder entered name
      · split
        · exact close_inOrder entered name
        · exact entered
  | stop name => exact endTag_inOrder ordered name
  | comment value => exact insert_inOrder ordered .comment value
  | doctype value => exact insert_inOrder ordered .doctype value
  | marked value => exact insert_inOrder ordered _ _
  | instruction value => exact insert_inOrder ordered .instruction value

/-- Tokens keep the document order. -/
theorem foldl_step_inOrder
    (ordered : state.builder.InOrder)
    (tokens : List Token) :
    (tokens.foldl State.step state).builder.InOrder := by
  induction tokens generalizing state with
  | nil => exact ordered
  | cons token rest hypothesis => exact hypothesis (step_inOrder ordered token)

theorem ofTokens_inDocumentOrder (tokens : List Token) :
    (ofTokens tokens).InDocumentOrder := by
  apply Builder.InOrder.finish
  apply flush_inOrder
  exact foldl_step_inOrder Builder.inOrder_empty tokens

end Reader

/-- The nodes of a page that has been read stand in document order. -/
theorem read_inDocumentOrder
    {page : Text}
    {tree : Tree}
    (given : read page = .ok tree) :
    tree.InDocumentOrder := by
  unfold read at given
  obtain ⟨tokens, -, rfl⟩ := exists_ok_of_map given
  exact Reader.ofTokens_inDocumentOrder tokens

end Markup

end RuleProbe
