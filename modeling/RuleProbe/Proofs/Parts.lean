import Mathlib.Data.List.Infix
import RuleProbe.Proofs.Directive

/-!
# Texts cut at marks

A text is cut at a mark into parts, which with the marks between them are the text again.  A part
is what stands between two neighbouring marks, and trimming the text trims its parts.  Blanks beside
a mark belong to none of the parts that are not blank, however many of them there are.
-/

namespace RuleProbe

namespace Text

/-! ## Parts between marks -/

/-- A part of a text stands between two neighbouring marks, the ends of the text counting as
marks. -/
def IsPart (mark : Char) (text part : Text) : Prop :=
  mark ∉ part ∧ mark :: (part ++ [mark]) <:+: mark :: (text ++ [mark])

theorem unmarked_of_not_mem {mark : Char} {text : Text} (absent : mark ∉ text) :
    ∀ c ∈ text, (c == mark) = false := by
  intro c member
  apply beq_eq_false_iff_ne.mpr
  intro same
  exact absent (same ▸ member)

/-- What stands before the first mark is a part, whatever follows the mark. -/
theorem splitWhere_append_mark
    {isMark : Char → Bool}
    {first : Text}
    (unmarked : ∀ c ∈ first, isMark c = false)
    {mark : Char}
    (marked : isMark mark = true)
    (before rest : Text) :
    splitWhere isMark before (first ++ mark :: rest) =
      (before.reverse ++ first) :: splitWhere isMark [] rest := by
  induction first generalizing before with
  | nil => simp [splitWhere, marked]
  | cons c others hypothesis =>
      obtain ⟨other, later⟩ := List.forall_mem_cons.mp unmarked
      rw [List.cons_append, splitWhere, if_neg (by simp [other]), hypothesis later]
      simp

theorem splitWhere_append_cons
    {mark : Char}
    {first : Text}
    (absent : mark ∉ first)
    (before rest : Text) :
    splitWhere (· == mark) before (first ++ mark :: rest) =
      (before.reverse ++ first) :: splitWhere (· == mark) [] rest :=
  splitWhere_append_mark (unmarked_of_not_mem absent) (beq_self_eq_true mark) before rest

/-- A text is cut where its first mark stands. -/
theorem cut?_append_cons {mark : Char} {before : Text} (absent : mark ∉ before) (rest : Text) :
    cut? [mark] (before ++ mark :: rest) = some (before, rest) := by
  have cut (past : Text) :
      cutAux [mark] past (before ++ mark :: rest) = some (past.reverse ++ before, rest) := by
    induction before generalizing past with
    | nil => simp [cutAux]
    | cons c others hypothesis =>
        rw [List.mem_cons, not_or] at absent
        have other : ¬[mark].isPrefixOf (c :: (others ++ mark :: rest)) = true := by
          simp [absent.1]
        rw [List.cons_append, cutAux, if_neg other, hypothesis absent.2]
        simp
  exact cut []

/-- A text is cut at its first mark in one way only. -/
theorem eq_of_append_cons
    {mark : Char}
    {first other rest behind : Text}
    (absent : mark ∉ first)
    (absentOther : mark ∉ other)
    (same : first ++ mark :: rest = other ++ mark :: behind) :
    first = other := by
  have heads := congrArg (splitWhere (· == mark) []) same
  rw [splitWhere_append_cons absent, splitWhere_append_cons absentOther] at heads
  exact (List.cons.inj heads).1

/-- A text between two marks is the one before the first mark, or stands behind this mark. -/
theorem between_iff
    {mark : Char}
    {part first : Text}
    (absent : mark ∉ part)
    (absentFirst : mark ∉ first)
    (rest : Text) :
    mark :: (part ++ [mark]) <:+: mark :: (first ++ mark :: rest) ↔
      part = first ∨ mark :: (part ++ [mark]) <:+: mark :: rest := by
  have behind : mark :: (part ++ [mark]) <:+: first ++ mark :: rest ↔
      mark :: (part ++ [mark]) <:+: mark :: rest := by
    induction first with
    | nil => rfl
    | cons c others hypothesis =>
        rw [List.mem_cons, not_or] at absentFirst
        rw [List.cons_append, List.infix_cons_iff, hypothesis absentFirst.2, or_iff_right]
        intro start
        exact absentFirst.1 (List.cons_prefix_cons.mp start).1
  rw [List.infix_cons_iff, behind, List.cons_prefix_cons]
  apply or_congr_left
  constructor
  · rintro ⟨-, tail, same⟩
    rw [List.append_assoc] at same
    exact eq_of_append_cons absent absentFirst same
  · rintro rfl
    exact ⟨rfl, rest, by simp⟩

/-- Cutting a text at a mark gives its parts. -/
theorem mem_splitWhere_iff {mark : Char} {text part : Text} :
    part ∈ splitWhere (· == mark) [] text ↔ IsPart mark text part := by
  unfold IsPart
  by_cases marked : mark ∈ text
  · obtain ⟨first, rest, rfl, absent⟩ := List.eq_append_cons_of_mem marked
    rw [splitWhere_append_cons absent, List.mem_cons, mem_splitWhere_iff, IsPart]
    have split : first ++ mark :: rest ++ [mark] = first ++ mark :: (rest ++ [mark]) := by simp
    rw [split, List.reverse_nil, List.nil_append]
    constructor
    · rintro (rfl | ⟨whole, inside⟩)
      · exact ⟨absent, (between_iff absent absent _).mpr (.inl rfl)⟩
      · exact ⟨whole, (between_iff whole absent _).mpr (.inr inside)⟩
    · rintro ⟨whole, inside⟩
      rcases (between_iff whole absent _).mp inside with same | behind
      · exact .inl same
      · exact .inr ⟨whole, behind⟩
  · rw [splitWhere_of_none (unmarked_of_not_mem marked), List.mem_singleton, List.reverse_nil,
      List.nil_append]
    constructor
    · rintro rfl
      exact ⟨marked, List.infix_rfl⟩
    · rintro ⟨whole, inside⟩
      rcases (between_iff whole marked []).mp inside with same | behind
      · exact same
      · have long := behind.length_le
        simp at long
termination_by text.length

theorem splitWhere_ne_nil (isMark : Char → Bool) (before text : Text) :
    splitWhere isMark before text ≠ [] := by
  induction text generalizing before with
  | nil => simp [splitWhere]
  | cons c rest hypothesis =>
      rw [splitWhere]
      split
      · exact List.cons_ne_nil _ _
      · exact hypothesis _

/-- The parts of a text with marks between them are the text again. -/
theorem join_splitWhere (mark : Char) (before text : Text) :
    join [mark] (splitWhere (· == mark) before text) = before.reverse ++ text := by
  unfold join
  induction text generalizing before with
  | nil => simp [splitWhere]
  | cons c rest hypothesis =>
      rw [splitWhere]
      split
      · rename_i isMark
        obtain ⟨head, tail, parts⟩ :=
          List.exists_cons_of_ne_nil (splitWhere_ne_nil (· == mark) [] rest)
        have behind := hypothesis []
        rw [parts] at behind ⊢
        rw [List.intercalate_cons_cons, behind, eq_of_beq isMark]
        simp
      · rw [hypothesis]
        simp

/-! ## Parts that are trimmed -/

theorem trim_trim (text : Text) : trim (trim text) = trim text :=
  (trimmed_trim text).trim_eq_self

theorem trim_cons {c : Char} (blank : isBlank c = true) (text : Text) :
    trim (c :: text) = trim text := by
  rw [trim_eq, trim_eq, List.dropWhile_cons, if_pos blank]

theorem trim_concat {c : Char} (blank : isBlank c = true) (text : Text) :
    trim (text ++ [c]) = trim text := by
  rw [trim_eq, trim_eq, List.dropWhile_append]
  split
  · rename_i empty
    rw [List.isEmpty_iff.mp empty, List.dropWhile_cons, if_pos blank, List.dropWhile_nil]
  · rw [List.rdropWhile_concat, if_pos blank]

/-- What is collected before a text is cut belongs to its first part. -/
theorem exists_splitWhere_eq (isMark : Char → Bool) (text : Text) :
    ∃ first rest, ∀ before,
      splitWhere isMark before text = (before.reverse ++ first) :: rest := by
  induction text with
  | nil => exact ⟨[], [], by simp [splitWhere]⟩
  | cons c others hypothesis =>
      simp only [splitWhere]
      split
      · exact ⟨[], splitWhere isMark [] others, by simp⟩
      · obtain ⟨first, rest, parts⟩ := hypothesis
        exact ⟨c :: first, rest, by simp [parts]⟩

theorem map_trim_splitWhere_cons
    {isMark : Char → Bool}
    {c : Char}
    (blank : isBlank c = true)
    (unmarked : isMark c = false)
    (text : Text) :
    (splitWhere isMark [] (c :: text)).map trim = (splitWhere isMark [] text).map trim := by
  obtain ⟨first, rest, parts⟩ := exists_splitWhere_eq isMark text
  rw [splitWhere, if_neg (by simp [unmarked]), parts, parts]
  simp [trim_cons blank]

theorem map_trim_splitWhere_concat
    {isMark : Char → Bool}
    {c : Char}
    (blank : isBlank c = true)
    (unmarked : isMark c = false)
    (before text : Text) :
    (splitWhere isMark before (text ++ [c])).map trim =
      (splitWhere isMark before text).map trim := by
  induction text generalizing before with
  | nil => simp [splitWhere, unmarked, trim_concat blank]
  | cons d others hypothesis =>
      rw [List.cons_append, splitWhere, splitWhere]
      split
      · rw [List.map_cons, List.map_cons, hypothesis]
      · exact hypothesis _

/-- What blanks at either end do not change, trimming does not change. -/
theorem eq_of_trim
    {α : Type}
    (read : Text → α)
    (first : ∀ c text, isBlank c = true → read (c :: text) = read text)
    (last : ∀ c text, isBlank c = true → read (text ++ [c]) = read text)
    (text : Text) :
    read (trim text) = read text := by
  have left (text : Text) : read (text.dropWhile isBlank) = read text := by
    induction text with
    | nil => rfl
    | cons c rest hypothesis =>
        rw [List.dropWhile_cons]
        split
        · rename_i blank
          rw [hypothesis, first c rest blank]
        · rfl
  have right (text : Text) : read (text.rdropWhile isBlank) = read text := by
    induction text using List.reverseRecOn with
    | nil => rfl
    | append_singleton others c hypothesis =>
        rw [List.rdropWhile_concat]
        split
        · rename_i blank
          rw [hypothesis, last c others blank]
        · rfl
  rw [trim_eq, right, left]

/-- Blanks around a text stay around its parts. -/
theorem map_trim_splitWhere_trim
    {isMark : Char → Bool}
    (unmarked : ∀ c, isBlank c = true → isMark c = false)
    (text : Text) :
    (splitWhere isMark [] text.trim).map trim = (splitWhere isMark [] text).map trim :=
  eq_of_trim (fun text => (splitWhere isMark [] text).map trim)
    (fun c text blank => map_trim_splitWhere_cons blank (unmarked c blank) text)
    (fun c text blank => map_trim_splitWhere_concat blank (unmarked c blank) [] text) text

/-! ## Parts that are not blank -/

/-- The parts of a text that are not blank, each without the blanks around it; `past` is the part
in progress, last character first. -/
def visibleParts (isMark : Char → Bool) (past text : Text) : List Text :=
  ((splitWhere isMark past text).map trim).filter fun part => !part.isEmpty

section

variable {isMark : Char → Bool}
variable {c : Char}

theorem visibleParts_nil (past : Text) :
    visibleParts isMark past [] = [trim past.reverse].filter fun part => !part.isEmpty := rfl

/-- A mark ends the part in progress. -/
theorem visibleParts_mark (marked : isMark c = true) (past text : Text) :
    visibleParts isMark past (c :: text) =
      visibleParts isMark past [] ++ visibleParts isMark [] text := by
  have cut : splitWhere isMark past (c :: text) = past.reverse :: splitWhere isMark [] text := by
    rw [splitWhere, if_pos marked]
  unfold visibleParts
  rw [cut, splitWhere, ← List.filter_append]
  rfl

/-- Any other character belongs to the part in progress. -/
theorem visibleParts_char (unmarked : isMark c = false) (past text : Text) :
    visibleParts isMark past (c :: text) = visibleParts isMark (c :: past) text := by
  unfold visibleParts
  rw [splitWhere, if_neg (by simp [unmarked])]

/-- The parts of a text are those before a mark and those after it. -/
theorem visibleParts_append_mark (marked : isMark c = true) (past before after : Text) :
    visibleParts isMark past (before ++ c :: after) =
      visibleParts isMark past before ++ visibleParts isMark [] after := by
  induction before generalizing past with
  | nil => exact visibleParts_mark marked past after
  | cons d others hypothesis =>
      rw [List.cons_append]
      cases isMarked : isMark d with
      | true =>
          rw [visibleParts_mark isMarked, visibleParts_mark isMarked, hypothesis,
            List.append_assoc]
      | false => rw [visibleParts_char isMarked, visibleParts_char isMarked, hypothesis]

/-- Texts with the same parts may stand for each other behind any text. -/
theorem visibleParts_append_congr
    {first second : Text}
    (same : ∀ past, visibleParts isMark past first = visibleParts isMark past second)
    (past before : Text) :
    visibleParts isMark past (before ++ first) = visibleParts isMark past (before ++ second) := by
  induction before generalizing past with
  | nil => exact same past
  | cons d others hypothesis =>
      rw [List.cons_append, List.cons_append]
      cases isMarked : isMark d with
      | true => rw [visibleParts_mark isMarked, visibleParts_mark isMarked, hypothesis]
      | false => rw [visibleParts_char isMarked, visibleParts_char isMarked, hypothesis]

/-- A blank before the part in progress does not belong to it. -/
theorem visibleParts_concat_blank (blank : isBlank c = true) (past text : Text) :
    visibleParts isMark (past ++ [c]) text = visibleParts isMark past text := by
  have part (past : Text) :
      visibleParts isMark (past ++ [c]) [] = visibleParts isMark past [] := by
    rw [visibleParts_nil, List.reverse_append, List.reverse_singleton, List.singleton_append,
      trim_cons blank, visibleParts_nil]
  induction text generalizing past with
  | nil => exact part past
  | cons d others hypothesis =>
      cases isMarked : isMark d with
      | true => rw [visibleParts_mark isMarked, visibleParts_mark isMarked, part]
      | false =>
          rw [visibleParts_char isMarked, visibleParts_char isMarked, ← List.cons_append,
            hypothesis]

theorem visibleParts_cons_blank (blank : isBlank c = true) (text : Text) :
    visibleParts isMark [] (c :: text) = visibleParts isMark [] text := by
  cases isMarked : isMark c with
  | true => exact visibleParts_mark isMarked [] text
  | false =>
      rw [visibleParts_char isMarked, ← List.nil_append [c], visibleParts_concat_blank blank]

theorem visibleParts_append_blank (blank : isBlank c = true) (past text : Text) :
    visibleParts isMark past (text ++ [c]) = visibleParts isMark past text := by
  cases isMarked : isMark c with
  | true =>
      rw [visibleParts_append_mark isMarked]
      exact List.append_nil _
  | false =>
      unfold visibleParts
      rw [map_trim_splitWhere_concat blank isMarked]

/-- Blanks before a text belong to none of its parts. -/
theorem visibleParts_blanks_append
    {blanks : Text}
    (blank : ∀ c ∈ blanks, isBlank c = true)
    (text : Text) :
    visibleParts isMark [] (blanks ++ text) = visibleParts isMark [] text := by
  induction blanks with
  | nil => rfl
  | cons c others hypothesis =>
      obtain ⟨here, later⟩ := List.forall_mem_cons.mp blank
      rw [List.cons_append, visibleParts_cons_blank here, hypothesis later]

/-- Blanks after a text belong to none of its parts. -/
theorem visibleParts_append_blanks
    {blanks : Text}
    (blank : ∀ c ∈ blanks, isBlank c = true)
    (past text : Text) :
    visibleParts isMark past (text ++ blanks) = visibleParts isMark past text := by
  induction blanks generalizing text with
  | nil => rw [List.append_nil]
  | cons c others hypothesis =>
      obtain ⟨here, later⟩ := List.forall_mem_cons.mp blank
      rw [← List.singleton_append, ← List.append_assoc, hypothesis later,
        visibleParts_append_blank here]

/-- Blanks with a mark among them end the part in progress, as a single mark does. -/
theorem visibleParts_blanks_mark
    {blanks : Text}
    (blank : ∀ c ∈ blanks, isBlank c = true)
    (marked : ∃ c ∈ blanks, isMark c = true)
    (past text : Text) :
    visibleParts isMark past (blanks ++ text) =
      visibleParts isMark past [] ++ visibleParts isMark [] text := by
  obtain ⟨c, member, isMarked⟩ := marked
  obtain ⟨before, after, rfl⟩ := List.append_of_mem member
  have early : ∀ c ∈ before, isBlank c = true := fun c here =>
    blank c (List.mem_append_left _ here)
  have late : ∀ c ∈ after, isBlank c = true := fun c here =>
    blank c (List.mem_append_right _ (List.mem_cons_of_mem _ here))
  rw [List.append_assoc, List.cons_append, visibleParts_append_mark isMarked,
    visibleParts_blanks_append late, ← List.nil_append before,
    visibleParts_append_blanks early]

/-- Blanks around a text belong to none of its parts. -/
theorem visibleParts_trim (text : Text) :
    visibleParts isMark [] (trim text) = visibleParts isMark [] text :=
  eq_of_trim (visibleParts isMark []) (fun _ text blank => visibleParts_cons_blank blank text)
    (fun _ text blank => visibleParts_append_blank blank [] text) text

/-- The parts of texts joined by marks are the parts of each. -/
theorem visibleParts_join (marked : isMark c = true) (parts : List Text) :
    visibleParts isMark [] (join [c] parts) = parts.flatMap (visibleParts isMark []) := by
  unfold join
  induction parts with
  | nil => rfl
  | cons first rest hypothesis =>
      cases rest with
      | nil => simp
      | cons second more =>
          rw [List.intercalate_cons_cons, List.append_assoc, List.singleton_append,
            visibleParts_append_mark marked, hypothesis, ← List.flatMap_cons]

/-- A trimmed text without marks is a part by itself. -/
theorem visibleParts_of_unmarked
    {part : Text}
    (given : part ≠ [])
    (trimmed : part.Trimmed)
    (unmarked : ∀ c ∈ part, isMark c = false) :
    visibleParts isMark [] part = [part] := by
  unfold visibleParts
  rw [splitWhere_of_none unmarked, List.map_singleton, List.reverse_nil, List.nil_append,
    trimmed.trim_eq_self]
  simpa using given

end

/-- A visible part is trimmed, is not empty and holds no mark. -/
theorem of_mem_visibleParts
    {mark : Char}
    {text part : Text}
    (member : part ∈ visibleParts (· == mark) [] text) :
    part ≠ [] ∧ part.Trimmed ∧ mark ∉ part := by
  obtain ⟨cut, given⟩ := List.mem_filter.mp member
  obtain ⟨whole, among, rfl⟩ := List.mem_map.mp cut
  have unmarked : mark ∉ whole := (mem_splitWhere_iff.mp among).1
  exact ⟨by simpa using given, trimmed_trim whole, fun inside =>
    unmarked ((trim_isInfix whole).subset inside)⟩

end Text

end RuleProbe
