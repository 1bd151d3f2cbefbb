import Mathlib.Data.List.Basic
import RuleProbe.Extraction.Template
import RuleProbe.Rule.Operator

/-!
# Where operators cut

An operator cuts a rule wherever it stands with no brace open around it.  Doubled braces open
and close, counted from left to right, and the count never falls below zero.  The parts between
the cuts, joined by the operator, are the rule again; and no cut falls into a template.
-/

namespace RuleProbe

namespace Operator

/-! ## Open braces -/

/-- How many doubled braces are open after a text when `depth` of them are open before it. -/
def depthAfter : Nat → Text → Nat
  | depth, [] => depth
  | depth, [_] => depth
  | depth, c :: d :: rest =>
      if c == '\x7b' && d == '\x7b' then depthAfter (depth + 1) rest
      else if c == '\x7d' && d == '\x7d' then depthAfter (depth - 1) rest
      else depthAfter depth (d :: rest)

@[simp] theorem depthAfter_nil (depth : Nat) : depthAfter depth [] = depth := rfl

@[simp] theorem depthAfter_singleton (depth : Nat) (c : Char) : depthAfter depth [c] = depth := rfl

theorem depthAfter_open (depth : Nat) (rest : Text) :
    depthAfter depth ('\x7b' :: '\x7b' :: rest) = depthAfter (depth + 1) rest := by
  simp [depthAfter]

theorem depthAfter_close (depth : Nat) (rest : Text) :
    depthAfter depth ('\x7d' :: '\x7d' :: rest) = depthAfter (depth - 1) rest := by
  simp [depthAfter]

/-- A character that does not make a doubled brace with the next one does not count. -/
theorem depthAfter_cons
    {c : Char}
    {text : Text}
    (unopened : c = '\x7b' → text.head? ≠ some '\x7b')
    (unclosed : c = '\x7d' → text.head? ≠ some '\x7d')
    (depth : Nat) :
    depthAfter depth (c :: text) = depthAfter depth text := by
  cases text with
  | nil => rfl
  | cons d rest =>
      rw [depthAfter, if_neg, if_neg]
      · simpa using unclosed
      · simpa using unopened

/-- Where no brace is open, a closing one does not count. -/
theorem depthAfter_zero_close (text : Text) :
    depthAfter 0 ('\x7d' :: text) = depthAfter 0 text := by
  induction text with
  | nil => rfl
  | cons d rest hypothesis =>
      by_cases closes : d = '\x7d'
      · rw [closes, depthAfter_close, hypothesis]
      · exact depthAfter_cons (by simp) (fun _ => by simpa using closes) 0

/-- Text without braces leaves open what is open before it. -/
theorem depthAfter_of_braceless
    {text : Text}
    (unopened : '\x7b' ∉ text)
    (unclosed : '\x7d' ∉ text)
    (depth : Nat) :
    depthAfter depth text = depth := by
  induction text with
  | nil => rfl
  | cons c rest hypothesis =>
      rw [List.mem_cons, not_or] at unopened unclosed
      rw [depthAfter_cons (fun same => absurd same.symm unopened.1)
        (fun same => absurd same.symm unclosed.1), hypothesis unopened.2 unclosed.2]

/-- Behind text that begins with no brace the count goes on from what is open before it. -/
theorem depthAfter_append
    {rest : Text}
    (unopened : rest.head? ≠ some '\x7b')
    (unclosed : rest.head? ≠ some '\x7d')
    (depth : Nat)
    (before : Text) :
    depthAfter depth (before ++ rest) = depthAfter (depthAfter depth before) rest := by
  fun_induction depthAfter depth before with
  | case1 depth => rfl
  | case2 depth c => exact depthAfter_cons (fun _ => unopened) (fun _ => unclosed) depth
  | case3 depth c d others opens hypothesis =>
      rw [Bool.and_eq_true, beq_iff_eq, beq_iff_eq] at opens
      rw [opens.1, opens.2, List.cons_append, List.cons_append, depthAfter_open, hypothesis]
  | case4 depth c d others _ closes hypothesis =>
      rw [Bool.and_eq_true, beq_iff_eq, beq_iff_eq] at closes
      rw [closes.1, closes.2, List.cons_append, List.cons_append, depthAfter_close, hypothesis]
  | case5 depth c d others single alone hypothesis =>
      rw [List.cons_append, depthAfter_cons (by simpa using single) (by simpa using alone),
        hypothesis]

/-- Right behind an opening mark a brace is open, and stays open as long as no brace follows. -/
theorem depthAfter_opening_pos
    {inside : Text}
    (unopened : '\x7b' ∉ inside)
    (unclosed : '\x7d' ∉ inside)
    (depth : Nat)
    (before : Text) :
    0 < depthAfter depth (before ++ '\x7b' :: '\x7b' :: inside) := by
  have behind (depth : Nat) : 0 < depthAfter (depth + 1) inside := by
    rw [depthAfter_of_braceless unopened unclosed]
    exact Nat.succ_pos depth
  fun_induction depthAfter depth before with
  | case1 depth =>
      rw [List.nil_append, depthAfter_open]
      exact behind depth
  | case2 depth c =>
      rw [List.singleton_append]
      by_cases brace : c = '\x7b'
      · -- The brace before the mark opens one with the first brace of the mark.
        rw [brace, depthAfter_open,
          depthAfter_cons (fun _ head => unopened (List.mem_of_mem_head? head)) (by simp)]
        exact behind depth
      · rw [depthAfter_cons (fun same => absurd same brace) (by simp), depthAfter_open]
        exact behind depth
  | case3 depth c d rest opens hypothesis =>
      rw [Bool.and_eq_true, beq_iff_eq, beq_iff_eq] at opens
      rw [opens.1, opens.2, List.cons_append, List.cons_append, depthAfter_open]
      exact hypothesis
  | case4 depth c d rest _ closes hypothesis =>
      rw [Bool.and_eq_true, beq_iff_eq, beq_iff_eq] at closes
      rw [closes.1, closes.2, List.cons_append, List.cons_append, depthAfter_close]
      exact hypothesis
  | case5 depth c d rest single alone hypothesis =>
      rw [List.cons_append, depthAfter_cons (by simpa using single) (by simpa using alone)]
      exact hypothesis

/-! ## Cuts -/

variable {op : Operator} {depth other : Nat} {text lead part : Text} {parts : List Text}

theorem mark_ne_open (op : Operator) : op.mark ≠ '\x7b' := by cases op <;> decide

theorem mark_ne_close (op : Operator) : op.mark ≠ '\x7d' := by cases op <;> decide

theorem depthAfter_append_symbol (op : Operator) (depth : Nat) (before rest : Text) :
    depthAfter depth (before ++ (op.symbol ++ rest)) =
      depthAfter (depthAfter depth before) rest := by
  have unopened : op.mark ≠ '\x7b' := mark_ne_open op
  have unclosed : op.mark ≠ '\x7d' := mark_ne_close op
  rw [depthAfter_append (by simpa [symbol] using unopened) (by simpa [symbol] using unclosed)]
  simp only [symbol, List.cons_append, List.nil_append]
  rw [depthAfter_cons (absurd · unopened) (absurd · unclosed),
    depthAfter_cons (absurd · unopened) (absurd · unclosed)]

/-- An operator stands in a text where no brace is open, `depth` of them being open before the
text. -/
def OccursFrom (op : Operator) (depth : Nat) (text : Text) : Prop :=
  ∃ before after, text = before ++ (op.symbol ++ after) ∧ depthAfter depth before = 0

/-- An operator stands in a rule outside all templates. -/
def Occurs (op : Operator) (rule : Text) : Prop := op.OccursFrom 0 rule

theorem OccursFrom.append (occurs : op.OccursFrom depth text) (rest : Text) :
    op.OccursFrom depth (text ++ rest) := by
  obtain ⟨before, after, rfl, closed⟩ := occurs
  exact ⟨before, after ++ rest, by simp, closed⟩

/-- The parts of a text in which `depth` braces are open at first, between the places where an
operator stands with no brace open: the first of these places, and those behind it. -/
inductive Cuts (op : Operator) : Nat → Text → List Text → Prop
  /-- Without such a place the text is its only part. -/
  | whole {depth : Nat} {text : Text} (free : ¬op.OccursFrom depth text) :
      Cuts op depth text [text]
  /-- The text before the first place is a part. -/
  | cut {depth : Nat} {before rest : Text} {parts : List Text}
      (closed : depthAfter depth before = 0)
      (first : ¬op.OccursFrom depth (before ++ [op.mark]))
      (others : Cuts op 0 rest parts) :
      Cuts op depth (before ++ (op.symbol ++ rest)) (before :: parts)

namespace Cuts

theorem ne_nil (cuts : Cuts op depth text parts) : parts ≠ [] := by
  cases cuts <;> exact List.cons_ne_nil _ _

/-- The parts joined by the operator are the text. -/
theorem join_eq (cuts : Cuts op depth text parts) : Text.join op.symbol parts = text := by
  induction cuts with
  | whole => simp [Text.join]
  | cut closed first others hypothesis =>
      obtain ⟨part, rest, rfl⟩ := List.exists_cons_of_ne_nil others.ne_nil
      rw [Text.join] at hypothesis ⊢
      rw [List.intercalate_cons_cons, hypothesis, List.append_assoc]

/-- There are several parts exactly when the operator stands where no brace is open. -/
theorem one_lt_length_iff (cuts : Cuts op depth text parts) :
    1 < parts.length ↔ op.OccursFrom depth text := by
  cases cuts with
  | whole free => simp [free]
  | cut closed first others =>
      have some := List.length_pos_iff.mpr others.ne_nil
      exact iff_of_true (by simpa using some) ⟨_, _, rfl, closed⟩

/-- In no part does the operator stand where no brace is open. -/
theorem not_occurs_of_mem
    (cuts : Cuts op 0 text parts)
    (member : part ∈ parts) :
    ¬op.Occurs part := by
  generalize atStart : 0 = start at cuts
  induction cuts with
  | whole free =>
      subst atStart
      rwa [List.mem_singleton.mp member]
  | cut closed first others hypothesis =>
      subst atStart
      rcases List.mem_cons.mp member with rfl | behind
      · exact fun occurs => first (occurs.append _)
      · exact hypothesis behind rfl

/-- Where a text is cut the operator stands, and no brace is open. -/
theorem exists_cut
    {left right : List Text}
    (cuts : Cuts op depth text (left ++ right))
    (before : left ≠ [])
    (behind : right ≠ []) :
    ∃ rest, text = Text.join op.symbol left ++ (op.symbol ++ rest) ∧
      depthAfter depth (Text.join op.symbol left) = 0 := by
  generalize same : left ++ right = parts at cuts
  induction cuts generalizing left with
  | whole =>
      rcases List.append_eq_singleton_iff.mp same with ⟨none, -⟩ | ⟨-, none⟩
      · exact absurd none before
      · exact absurd none behind
  | @cut _ _ rest _ closed first others hypothesis =>
      obtain ⟨part, tail, rfl⟩ := List.exists_cons_of_ne_nil before
      obtain ⟨rfl, sameTail⟩ := List.cons.inj same
      cases tail with
      | nil => exact ⟨rest, by simp [Text.join], by simpa [Text.join] using closed⟩
      | cons next more =>
          obtain ⟨last, rfl, later⟩ := hypothesis (List.cons_ne_nil next more) sameTail
          have split : Text.join op.symbol (part :: next :: more) =
              part ++ (op.symbol ++ Text.join op.symbol (next :: more)) := by
            rw [Text.join, List.intercalate_cons_cons, List.append_assoc]
            rfl
          refine ⟨last, by simp [split], ?_⟩
          rw [split, depthAfter_append_symbol, closed]
          exact later

end Cuts

/-! ## Scanning -/

/-- A lead changes nothing of where an operator stands behind it: the braces that it leaves open
are counted, and the operator does not begin in it where no brace is open. -/
structure Introduces (op : Operator) (depth other : Nat) (lead text : Text) : Prop where
  /-- Behind the lead the count goes on from `other`. -/
  same : ∀ part, part <+: text → depthAfter depth (lead ++ part) = depthAfter other part
  /-- The operator does not begin in the lead. -/
  apart : ∀ before behind, lead = before ++ op.mark :: behind →
    depthAfter depth before = 0 → (behind ++ text).head? ≠ some op.mark

namespace Introduces

theorem of_not_mem
    (same : ∀ part, part <+: text → depthAfter depth (lead ++ part) = depthAfter other part)
    (absent : op.mark ∉ lead) :
    Introduces op depth other lead text where
  same := same
  apart _ _ split := absurd (by simp [split]) absent

/-- Behind the lead an operator stands where it stands in what follows. -/
theorem occursFrom
    (introduces : Introduces op depth other lead text)
    (within : part <+: text)
    (occurs : op.OccursFrom depth (lead ++ part)) :
    op.OccursFrom other part := by
  obtain ⟨before, after, whole, closed⟩ := occurs
  rcases List.append_eq_append_iff.mp whole with ⟨inside, rfl, rest⟩ | ⟨behind, rfl, rest⟩
  · have inText : inside <+: text := .trans (rest ▸ List.prefix_append _ _) within
    exact ⟨inside, after, rest, by rw [← introduces.same inside inText, closed]⟩
  · cases behind with
    | nil =>
        have opened := introduces.same [] List.nil_prefix
        simp only [List.append_nil, closed] at opened
        exact ⟨[], after, by simpa using rest.symm, opened.symm⟩
    | cons c behind =>
        obtain ⟨rfl, restTail⟩ := List.cons.inj rest
        obtain ⟨others, rfl⟩ := within
        refine absurd ?_ (introduces.apart before behind rfl closed)
        rw [← List.append_assoc]
        exact (congrArg (fun tail => (tail ++ others).head?) restTail).symm

/-- The lead belongs to the first part. -/
theorem cuts
    {head : Text}
    {tail : List Text}
    (introduces : Introduces op depth other lead text)
    (cuts : Cuts op other text (head :: tail)) :
    Cuts op depth (lead ++ text) ((lead ++ head) :: tail) := by
  cases cuts with
  | whole none => exact .whole fun occurs => none (introduces.occursFrom List.prefix_rfl occurs)
  | @cut _ _ after _ closed first others =>
      rw [← List.append_assoc]
      have within : head ++ [op.mark] <+: head ++ (op.symbol ++ after) := by simp [symbol]
      refine .cut ((introduces.same head (List.prefix_append _ _)).trans closed)
        (fun occurs => ?_) others
      exact first (introduces.occursFrom within (by rwa [← List.append_assoc]))

end Introduces

theorem not_occursFrom_of_short (short : text.length < 2) : ¬op.OccursFrom depth text := by
  rintro ⟨before, after, rfl, -⟩
  simp [symbol] at short
  omega

/-- The scan cuts a text where the operator stands with no brace open. -/
theorem splitMark_cuts (op : Operator) (depth : Nat) (before text : Text) :
    ∃ head tail, splitMark op.mark depth before text = (before.reverse ++ head) :: tail ∧
      Cuts op depth text (head :: tail) := by
  fun_induction splitMark op.mark depth before text with
  | case1 depth before =>
      exact ⟨[], [], by simp, .whole (not_occursFrom_of_short (by simp))⟩
  | case2 depth before c =>
      exact ⟨[c], [], by simp, .whole (not_occursFrom_of_short (by simp))⟩
  | case3 depth before c d rest opens hypothesis =>
      obtain ⟨head, tail, split, cuts⟩ := hypothesis
      rw [Bool.and_eq_true, beq_iff_eq, beq_iff_eq] at opens
      obtain ⟨rfl, rfl⟩ := opens
      have introduces : Introduces op depth (depth + 1) ['\x7b', '\x7b'] rest :=
        .of_not_mem (fun part _ => depthAfter_open depth part) (by simp [mark_ne_open])
      exact ⟨_, tail, by simp [split], introduces.cuts cuts⟩
  | case4 depth before c d rest _ closes hypothesis =>
      obtain ⟨head, tail, split, cuts⟩ := hypothesis
      rw [Bool.and_eq_true, Bool.and_eq_true, beq_iff_eq, beq_iff_eq] at closes
      obtain ⟨⟨rfl, rfl⟩, -⟩ := closes
      have introduces : Introduces op depth (depth - 1) ['\x7d', '\x7d'] rest :=
        .of_not_mem (fun part _ => depthAfter_close depth part) (by simp [mark_ne_close])
      exact ⟨_, tail, by simp [split], introduces.cuts cuts⟩
  | case5 depth before c d rest _ _ cut hypothesis =>
      obtain ⟨head, tail, split, cuts⟩ := hypothesis
      rw [Bool.and_eq_true, Bool.and_eq_true, beq_iff_eq, beq_iff_eq, beq_iff_eq] at cut
      obtain ⟨⟨rfl, rfl⟩, rfl⟩ := cut
      have others : Cuts op 0 rest (splitMark op.mark 0 [] rest) := by rwa [split]
      refine ⟨[], splitMark op.mark 0 [] rest, by simp, ?_⟩
      have first : ¬op.OccursFrom 0 ([] ++ [op.mark]) := not_occursFrom_of_short (by simp)
      exact .cut rfl first others
  | case6 depth before c d rest unopened unclosed uncut hypothesis =>
      obtain ⟨head, tail, split, cuts⟩ := hypothesis
      have introduces : Introduces op depth depth [c] (d :: rest) := by
        refine ⟨fun part within => ?_, fun before behind whole closed next => ?_⟩
        · rcases List.prefix_cons_iff.mp within with rfl | ⟨more, rfl, -⟩
          · rfl
          · by_cases closes : c = '\x7d' ∧ d = '\x7d'
            · have none : depth = 0 := by simpa [closes] using unclosed
              rw [none, closes.1]
              exact depthAfter_zero_close _
            · exact depthAfter_cons (by simpa using unopened) (by simpa using closes) depth
        · cases before with
          | cons _ _ => simp at whole
          | nil =>
              obtain ⟨rfl, rfl⟩ := List.cons.inj whole
              have none : depth = 0 := closed
              have marked : d = op.mark := Option.some.inj next
              simp [none, marked] at uncut
      exact ⟨_, tail, by simp [split], introduces.cuts cuts⟩

theorem splitTopLevel_cuts (op : Operator) (rule : Text) :
    Cuts op 0 rule (splitTopLevel op rule) := by
  obtain ⟨head, tail, split, cuts⟩ := splitMark_cuts op 0 [] rule
  rwa [splitTopLevel, split]

/-! ## Templates -/

/-- No cut of a rule into parts falls into a template without braces inside: what stands before
the cut ends with the operator before the template, or the template ends before the cut. -/
def KeepsTemplates (op : Operator) (rule : Text) (parts : List Text) : Prop :=
  ∀ before inside after,
    rule = before ++ (Template.opening ++ inside ++ Template.closing ++ after) →
      '\x7b' ∉ inside → '\x7d' ∉ inside →
        ∀ left right, left ≠ [] → right ≠ [] → parts = left ++ right →
          (Text.join op.symbol left ++ op.symbol).length ≤ before.length ∨
            (before ++ (Template.opening ++ inside ++ Template.closing)).length ≤
              (Text.join op.symbol left).length

/-- What begins inside a template, or right before it, is no operator where no brace is open. -/
theorem length_le_of_template
    {before inside left after rest : Text}
    (unopened : '\x7b' ∉ inside)
    (unclosed : '\x7d' ∉ inside)
    (same : before ++ (Template.opening ++ inside ++ Template.closing ++ after) =
      left ++ (op.symbol ++ rest))
    (closed : depthAfter 0 left = 0) :
    (left ++ op.symbol).length ≤ before.length ∨
      (before ++ (Template.opening ++ inside ++ Template.closing)).length ≤ left.length := by
  have notOpen := mark_ne_open op
  have notClose := mark_ne_close op
  rcases List.append_eq_append_iff.mp same with ⟨part, rfl, block⟩ | ⟨part, rfl, block⟩
  · rcases List.append_eq_append_iff.mp block with ⟨past, rfl, -⟩ | ⟨past, inBlock, others⟩
    · exact .inr (by simp)
    · cases past with
      | nil => exact .inr (by simp [inBlock])
      | cons c past =>
          -- The operator would begin inside the template, where a brace is open.
          obtain ⟨rfl, -⟩ := List.cons.inj others
          match part with
          | [] => simp [Template.opening, notOpen.symm] at inBlock
          | [_] => simp [Template.opening, notOpen.symm] at inBlock
          | _ :: _ :: part =>
              simp only [Template.opening, List.cons_append, List.nil_append, List.cons.injEq]
                at inBlock
              obtain ⟨rfl, rfl, inBlock⟩ := inBlock
              have within : part ⊆ inside := by
                rcases List.append_eq_append_iff.mp inBlock with
                  ⟨between, -, ends⟩ | ⟨_, rfl, -⟩
                · have marked : op.mark ∈ Template.closing := by simp [ends]
                  simp [Template.closing, notClose] at marked
                · exact List.subset_append_left _ _
              have opened := depthAfter_opening_pos (fun member => unopened (within member))
                (fun member => unclosed (within member)) 0 before
              rw [closed] at opened
              exact absurd opened (Nat.lt_irrefl 0)
  · -- The operator begins before the template.
    refine .inl ?_
    match part with
    | [] => simp [symbol, Template.opening, notOpen] at block
    | [c] => simp [symbol, Template.opening, notOpen] at block
    | _ :: _ :: more => simp [symbol]

theorem Cuts.keepsTemplates (cuts : Cuts op 0 text parts) : KeepsTemplates op text parts := by
  rintro before inside after rfl unopened unclosed left right someBefore someBehind rfl
  obtain ⟨rest, same, closed⟩ := cuts.exists_cut someBefore someBehind
  exact length_le_of_template unopened unclosed same closed

/-! ## The operator of a rule -/

theorem one_lt_length_splitTopLevel (op : Operator) (rule : Text) :
    1 < (splitTopLevel op rule).length ↔ op.Occurs rule :=
  (splitTopLevel_cuts op rule).one_lt_length_iff

instance (op : Operator) (rule : Text) : Decidable (op.Occurs rule) :=
  decidable_of_iff _ (one_lt_length_splitTopLevel op rule)

/-- The first operator that stands outside all templates cuts a rule. -/
theorem findSplit_eq (rule : Text) (operators : List Operator) :
    findSplit rule operators =
      (operators.find? fun op => op.Occurs rule).map fun op =>
        (op, branches (splitTopLevel op rule)) := by
  induction operators with
  | nil => rfl
  | cons op rest hypothesis =>
      rw [findSplit, List.find?_cons]
      simp only [one_lt_length_splitTopLevel]
      by_cases occurs : op.Occurs rule
      · simp [occurs]
      · simp [occurs, hypothesis]

/-- The operator and the branches of a rule without scripts, by where operators stand. -/
theorem split_of_scriptless {rule : Text} (scriptless : hasScript rule = false) :
    split rule =
      match every.find? fun op => op.Occurs rule with
      | some op => (some op, branches (splitTopLevel op rule))
      | none => (none, [rule]) := by
  rw [split, scriptless, if_neg Bool.false_ne_true, findSplit_eq]
  cases every.find? fun op => op.Occurs rule <;> rfl

theorem mem_every (op : Operator) : op ∈ every := by cases op <;> decide

/-- Cutting loses nothing and respects templates: the parts of a rule between the places where an
operator stands outside all templates, joined by the operator, are the rule, no part holds such a
place, and no cut falls into a template.  A rule without scripts is cut by the first operator that
stands outside all templates, if there is one, into the parts that are not blank. -/
theorem split_outside_templates (rule : Text) :
    (∀ op : Operator,
      Text.join op.symbol (splitTopLevel op rule) = rule ∧
        (∀ part ∈ splitTopLevel op rule, ¬op.Occurs part) ∧
          KeepsTemplates op rule (splitTopLevel op rule)) ∧
    (hasScript rule = false →
      (split rule).1 = (every.find? fun op => op.Occurs rule) ∧
        (∀ op, (split rule).1 = some op →
          (split rule).2 =
            ((splitTopLevel op rule).filter fun part => !part.isBlankText).map Text.trim) ∧
        (split rule = (none, [rule]) ↔ ∀ op : Operator, ¬op.Occurs rule)) := by
  refine ⟨fun op => ?_, fun scriptless => ?_⟩
  · have cuts := splitTopLevel_cuts op rule
    exact ⟨cuts.join_eq, fun part member => cuts.not_occurs_of_mem member, cuts.keepsTemplates⟩
  · rw [split_of_scriptless scriptless]
    cases found : every.find? fun op => op.Occurs rule with
    | some op =>
        have occurs : op.Occurs rule := by simpa using List.find?_some found
        refine ⟨rfl, fun other same => ?_, ?_⟩
        · obtain rfl := Option.some.inj same
          rfl
        · simp only [Prod.mk.injEq, reduceCtorEq, false_and, false_iff, not_forall, not_not]
          exact ⟨op, occurs⟩
    | none =>
        have none (op : Operator) : ¬op.Occurs rule := by
          simpa using List.find?_eq_none.mp found op (mem_every op)
        exact ⟨rfl, nofun, by simpa using none⟩

/-- A rule with an operator in a template, and another one outside. -/
def keptRule : Text := "\x7b\x7ba||b\x7d\x7d && \x7b\x7bc"

theorem split_outside_templates_kept :
    hasScript keptRule = false ∧
      (split keptRule).1 = some .all ∧
        (split keptRule).2 = ["\x7b\x7ba||b\x7d\x7d".toList, "\x7b\x7bc".toList] := by
  have scriptless : hasScript keptRule = false := by decide +kernel
  obtain ⟨first, parts, -⟩ := (split_outside_templates keptRule).2 scriptless
  have found : (split keptRule).1 = some .all := first.trans (by decide +kernel)
  exact ⟨scriptless, found, (parts .all found).trans (by decide +kernel)⟩

end Operator

end RuleProbe
