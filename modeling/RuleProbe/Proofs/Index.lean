import Mathlib.Algebra.Order.Group.Int
import Mathlib.Algebra.Order.Ring.Abs
import Mathlib.Algebra.Order.Ring.Int
import RuleProbe.Proofs.Parts
import RuleProbe.Rule.Index

/-!
# What index expressions pick

An expression is a list of parts with commas between them, perhaps in brackets and after an
exclamation mark.  What its parts name is said here of the text that is written, without reading
it: the indices that are picked are exactly the ones named, or the ones not named, each once and
in increasing order.
-/

namespace RuleProbe

namespace IndexExpression

/-! ## What parts name -/

/-- A text writes a number, or it is blank and leaves the number out. -/
inductive WritesNumber : Text → Option Int → Prop where
  /-- Nothing is written. -/
  | leftOut {text : Text} (blank : text.isBlankText = true) : WritesNumber text none
  /-- A number is written. -/
  | given {text : Text} {n : Int} (reads : Integer.read? text = some n) :
      WritesNumber text (some n)

/-- The position that a number stands for in a list of a length: a negative one counts from the
end. -/
def position (length : Nat) (n : Int) : Int := if n < 0 then length + n else n

/-- An end of a slice: the position of a number, kept within the list, or `default` where no
number is written. -/
def sliceEnd (length : Nat) (default : Int) : Option Int → Int
  | none => default
  | some n => max 0 (min (position length n) length)

/-- An index lies in a slice: from its start up to its stop in steps of the size of `step`. -/
def InSlice (length : Nat) (start stop step : Option Int) (i : Nat) : Prop :=
  sliceEnd length 0 start ≤ i ∧ i < sliceEnd length length stop ∧
    step.getD 1 ≠ 0 ∧ |step.getD 1| ∣ i - sliceEnd length 0 start

/-- A part of an expression names an index of a list of a length. -/
inductive Names (length i : Nat) : Text → Prop where
  /-- A number stands for its position. -/
  | plain {part : Text} {n : Int}
      (whole : ':' ∉ part)
      (reads : Integer.read? part = some n)
      (here : position length n = i) :
      Names length i part
  /-- A slice with two ends. -/
  | slice {first second : Text} {start stop : Option Int}
      (wholeFirst : ':' ∉ first)
      (wholeSecond : ':' ∉ second)
      (writesStart : WritesNumber first start)
      (writesStop : WritesNumber second stop)
      (inside : InSlice length start stop none i) :
      Names length i (first ++ ':' :: second)
  /-- A slice with two ends and a step. -/
  | stepped {first second third : Text} {start stop step : Option Int}
      (wholeFirst : ':' ∉ first)
      (wholeSecond : ':' ∉ second)
      (wholeThird : ':' ∉ third)
      (writesStart : WritesNumber first start)
      (writesStop : WritesNumber second stop)
      (writesStep : WritesNumber third step)
      (inside : InSlice length start stop step i) :
      Names length i (first ++ ':' :: (second ++ ':' :: third))

/-- One of the parts between the commas of a list names an index. -/
def IsNamed (length i : Nat) (list : Text) : Prop :=
  ∃ part, Text.IsPart ',' list part ∧ Names length i part.trim

/-- An expression without brackets picks an index: a part names it, or none does behind an
exclamation mark. -/
inductive Picks (length i : Nat) : Text → Prop where
  /-- The index is named. -/
  | named {list : Text}
      (unmarked : list.head? ≠ some '!')
      (isNamed : IsNamed length i list) :
      Picks length i list
  /-- The index is not left out. -/
  | kept {list : Text}
      (unnamed : ¬IsNamed length i list) :
      Picks length i ('!' :: list)

/-- The text that is left of an expression without brackets around it. -/
inductive Bare : Text → Text → Prop where
  /-- Brackets are dropped, and blanks inside them. -/
  | brackets (inside : Text) : Bare ('[' :: (inside ++ [']'])) inside.trim
  /-- A text without brackets stays as it is. -/
  | none {text : Text} (unbracketed : ∀ inside, text ≠ '[' :: (inside ++ [']'])) :
      Bare text text

/-! ## Reading numbers and parts -/

theorem read?_trim (text : Text) : Integer.read? text.trim = Integer.read? text := by
  unfold Integer.read?
  rw [Text.trim_trim]

theorem read?_of_blank {text : Text} (blank : text.isBlankText = true) :
    Integer.read? text = none := by
  unfold Integer.read?
  rw [(Text.trim_eq_nil_iff text).mpr blank]
  rfl

theorem readNumber_eq_ok_iff {text : Text} {number : Option Int} :
    readNumber text = .ok number ↔ WritesNumber text number := by
  unfold readNumber
  simp only
  split
  · rename_i empty
    have blank := (Text.trim_eq_nil_iff text).mp (List.isEmpty_iff.mp empty)
    constructor
    · intro same
      cases same
      exact .leftOut blank
    · intro writes
      cases writes with
      | leftOut _ => rfl
      | given reads =>
          rw [read?_of_blank blank] at reads
          cases reads
  · rename_i given
    rw [List.isEmpty_iff, Text.trim_eq_nil_iff] at given
    rw [read?_trim]
    split
    · rename_i n reads
      constructor
      · intro same
        cases same
        exact .given reads
      · intro writes
        cases writes with
        | leftOut blank => exact absurd blank given
        | given other =>
            rw [reads] at other
            rw [Option.some.inj other]
    · rename_i unread
      constructor
      · intro same
        cases same
      · intro writes
        cases writes with
        | leftOut blank => exact absurd blank given
        | given reads =>
            rw [unread] at reads
            cases reads

theorem holds_single_iff {length i : Nat} (n : Int) :
    (Selection.single n).holds length i = true ↔ position length n = i := by
  unfold Selection.holds position
  simp only [beq_iff_eq]
  rw [Int.add_comm]

theorem clamp_eq_sliceEnd (length : Nat) (default : Nat) (bound : Option Int) :
    (((bound.map (clamp length)).getD default : Nat) : Int) = sliceEnd length default bound := by
  cases bound with
  | none => rfl
  | some n =>
      simp only [Option.map_some, Option.getD_some, sliceEnd, clamp, position]
      split <;> omega

/-- A slice that has been read holds the indices that lie in it. -/
theorem holds_slice_iff {length i : Nat} (start stop step : Option Int) :
    (Selection.slice start stop (step.getD 1).natAbs).holds length i = true ↔
      InSlice length start stop step i := by
  unfold Selection.holds InSlice
  have first := clamp_eq_sliceEnd length 0 start
  have last := clamp_eq_sliceEnd length length stop
  rw [Int.natCast_zero] at first
  rw [← first, ← last, abs_dvd, ← Int.natAbs_dvd]
  simp only [Bool.and_eq_true, bne_iff_ne, ne_eq, Int.natAbs_eq_zero, decide_eq_true_eq,
    beq_iff_eq, ← Nat.dvd_iff_mod_eq_zero]
  constructor
  · rintro ⟨⟨⟨steps, behind⟩, before⟩, divides⟩
    refine ⟨by omega, by omega, steps, ?_⟩
    rw [← Nat.cast_sub behind]
    exact Int.natCast_dvd_natCast.mpr divides
  · rintro ⟨behind, before, steps, divides⟩
    have behind : (start.map (clamp length)).getD 0 ≤ i := by omega
    rw [← Nat.cast_sub behind] at divides
    exact ⟨⟨⟨steps, behind⟩, by omega⟩, Int.natCast_dvd_natCast.mp divides⟩

/-- A part whose numbers stand between colons names an index. -/
def NamesBy (length i : Nat) : List Text → Prop
  | [number] => ∃ n, Integer.read? number = some n ∧ position length n = i
  | [first, second] =>
      ∃ start stop, WritesNumber first start ∧ WritesNumber second stop ∧
        InSlice length start stop none i
  | [first, second, third] =>
      ∃ start stop step, WritesNumber first start ∧ WritesNumber second stop ∧
        WritesNumber third step ∧ InSlice length start stop step i
  | _ => False

/-- The numbers of a part, with the colons between them left out. -/
def numbersOf (part : Text) : List Text := Text.splitWhere (· == ':') [] part

theorem numbersOf_plain {part : Text} (whole : ':' ∉ part) : numbersOf part = [part] :=
  Text.splitWhere_of_none (Text.unmarked_of_not_mem whole) []

theorem numbersOf_append {first : Text} (whole : ':' ∉ first) (rest : Text) :
    numbersOf (first ++ ':' :: rest) = first :: numbersOf rest :=
  Text.splitWhere_append_cons whole [] rest

theorem whole_of_mem_numbersOf {part number : Text} (member : number ∈ numbersOf part) :
    ':' ∉ number :=
  (Text.mem_splitWhere_iff.mp member).1

theorem names_iff {length i : Nat} {part : Text} :
    Names length i part ↔ NamesBy length i (numbersOf part) := by
  constructor
  · intro names
    cases names with
    | plain whole reads here =>
        rw [numbersOf_plain whole]
        exact ⟨_, reads, here⟩
    | slice wholeFirst wholeSecond writesStart writesStop inside =>
        rw [numbersOf_append wholeFirst, numbersOf_plain wholeSecond]
        exact ⟨_, _, writesStart, writesStop, inside⟩
    | stepped wholeFirst wholeSecond wholeThird writesStart writesStop writesStep inside =>
        rw [numbersOf_append wholeFirst, numbersOf_append wholeSecond,
          numbersOf_plain wholeThird]
        exact ⟨_, _, _, writesStart, writesStop, writesStep, inside⟩
  · intro names
    have joined := Text.join_splitWhere ':' [] part
    have whole : ∀ number ∈ numbersOf part, ':' ∉ number := fun _ => whole_of_mem_numbersOf
    change Text.join [':'] (numbersOf part) = part at joined
    generalize numbersOf part = numbers at names joined whole
    unfold NamesBy at names
    split at names
    · obtain ⟨n, reads, here⟩ := names
      simp only [Text.join, List.intercalate_singleton] at joined
      subst joined
      exact .plain (whole _ List.mem_cons_self) reads here
    · obtain ⟨start, stop, writesStart, writesStop, inside⟩ := names
      simp only [List.forall_mem_cons] at whole
      simp only [Text.join, List.intercalate_cons_cons, List.intercalate_singleton,
        List.append_assoc, List.singleton_append] at joined
      subst joined
      exact .slice whole.1 whole.2.1 writesStart writesStop inside
    · obtain ⟨start, stop, step, writesStart, writesStop, writesStep, inside⟩ := names
      simp only [List.forall_mem_cons] at whole
      simp only [Text.join, List.intercalate_cons_cons, List.intercalate_singleton,
        List.append_assoc, List.singleton_append] at joined
      subst joined
      exact .stepped whole.1 whole.2.1 whole.2.2.1 writesStart writesStop writesStep inside
    · exact names.elim

theorem WritesNumber.unique
    {text : Text}
    {number other : Option Int}
    (writes : WritesNumber text number)
    (writesOther : WritesNumber text other) :
    number = other := by
  rw [← readNumber_eq_ok_iff] at writes writesOther
  exact Except.ok.inj (writes.symm.trans writesOther)

/-- A part that has been read holds the indices that it names. -/
theorem holds_iff_names
    {part : Text}
    {selection : Selection}
    (read : readPart part = .ok selection)
    (length i : Nat) :
    selection.holds length i = true ↔ Names length i part := by
  rw [names_iff]
  unfold readPart at read
  split at read
  · split at read
    · rename_i first second numbers
      obtain ⟨start, readStart, read⟩ := exists_ok_of_bind read
      obtain ⟨stop, readStop, read⟩ := exists_ok_of_bind read
      rw [readNumber_eq_ok_iff] at readStart readStop
      cases read
      rw [numbersOf, numbers]
      refine (holds_slice_iff start stop none).trans ⟨?_, ?_⟩
      · intro inside
        exact ⟨start, stop, readStart, readStop, inside⟩
      · rintro ⟨_, _, writesStart, writesStop, inside⟩
        cases writesStart.unique readStart
        cases writesStop.unique readStop
        exact inside
    · rename_i first second third numbers
      obtain ⟨start, readStart, read⟩ := exists_ok_of_bind read
      obtain ⟨stop, readStop, read⟩ := exists_ok_of_bind read
      obtain ⟨step, readStep, read⟩ := exists_ok_of_bind read
      rw [readNumber_eq_ok_iff] at readStart readStop readStep
      cases read
      rw [numbersOf, numbers]
      refine (holds_slice_iff start stop step).trans ⟨?_, ?_⟩
      · intro inside
        exact ⟨start, stop, step, readStart, readStop, readStep, inside⟩
      · rintro ⟨_, _, _, writesStart, writesStop, writesStep, inside⟩
        cases writesStart.unique readStart
        cases writesStop.unique readStop
        cases writesStep.unique readStep
        exact inside
    · cases read
  · rename_i plain
    rw [List.elem_eq_mem, decide_eq_true_eq] at plain
    rw [numbersOf_plain plain]
    obtain ⟨number, readIndex, read⟩ := exists_ok_of_bind read
    rw [readNumber_eq_ok_iff] at readIndex
    cases readIndex with
    | leftOut _ => cases read
    | given reads =>
        cases read
        refine (holds_single_iff _).trans ⟨?_, ?_⟩
        · intro here
          exact ⟨_, reads, here⟩
        · rintro ⟨_, readsOther, here⟩
          rw [reads] at readsOther
          cases readsOther
          exact here

theorem not_names_of_blank {part : Text} (blank : part.trim = []) (length i : Nat) :
    ¬Names length i part.trim := by
  rw [names_iff, blank]
  rintro ⟨n, reads, -⟩
  cases reads

/-- Parts that have been read hold the indices that one of them names. -/
theorem any_holds_iff
    {parts : List Text}
    {selections : List Selection}
    (read : readParts parts = .ok selections)
    (length i : Nat) :
    (selections.any fun selection => selection.holds length i) = true ↔
      ∃ part ∈ parts, Names length i part.trim := by
  induction parts generalizing selections with
  | nil =>
      cases read
      simp
  | cons part rest hypothesis =>
      rw [readParts] at read
      simp only [List.mem_cons, exists_eq_or_imp]
      split at read
      · rename_i empty
        rw [hypothesis read, or_iff_right]
        exact not_names_of_blank (List.isEmpty_iff.mp empty) length i
      · obtain ⟨selection, readFirst, read⟩ := exists_ok_of_bind read
        obtain ⟨others, readRest, read⟩ := exists_ok_of_bind read
        cases read
        rw [List.any_cons, Bool.or_eq_true, holds_iff_names readFirst, hypothesis readRest]

/-! ## The indices that an expression picks -/

theorem isBare_dropBrackets (text : Text) : Bare text (dropBrackets text) := by
  unfold dropBrackets
  split
  · rename_i bracketed
    obtain ⟨starts, ends⟩ := Bool.and_eq_true_iff.mp bracketed
    obtain ⟨inside, rfl⟩ := List.isPrefixOf_iff_prefix.mp starts
    obtain ⟨start, same⟩ := List.isSuffixOf_iff_suffix.mp ends
    cases start with
    | nil => cases same
    | cons c start =>
        obtain ⟨rfl, rfl⟩ := List.cons.inj same
        simpa using Bare.brackets start
  · rename_i unbracketed
    apply Bare.none
    rintro inside rfl
    apply unbracketed
    rw [Bool.and_eq_true]
    constructor
    · exact List.isPrefixOf_iff_prefix.mpr ⟨inside ++ [']'], rfl⟩
    · exact List.isSuffixOf_iff_suffix.mpr ⟨'[' :: inside, rfl⟩

theorem isNamed_iff {length i : Nat} {list : Text} :
    IsNamed length i list ↔
      ∃ part ∈ Text.splitWhere (· == ',') [] list, Names length i part.trim := by
  simp only [Text.mem_splitWhere_iff]
  rfl

/-- What has been read of an expression without brackets picks as the expression does. -/
theorem any_holds_ne_iff
    {body : Text}
    {selections : List Selection}
    (read : readParts (Text.splitWhere (· == ',') [] (dropMark body)) = .ok selections)
    (length i : Nat) :
    ((selections.any fun selection => selection.holds length i) != body.startsWith ['!']) = true ↔
      Picks length i body := by
  have named := any_holds_iff read length i
  rw [← isNamed_iff] at named
  by_cases marked : body.head? = some '!'
  · obtain ⟨list, rfl⟩ := List.head?_eq_some_iff.mp marked
    have starts : Text.startsWith ('!' :: list) ['!'] = true := by simp [Text.startsWith]
    rw [starts, Bool.bne_true, Bool.not_eq_true', ← Bool.not_eq_true, named]
    constructor
    · exact .kept
    · rintro (⟨unmarked, -⟩ | unnamed)
      · exact absurd marked unmarked
      · exact unnamed
  · have starts : Text.startsWith body ['!'] = false := by
      cases body with
      | nil => rfl
      | cons c rest =>
          rw [List.head?_cons, Option.some_inj] at marked
          simp [Text.startsWith, List.isPrefixOf, Ne.symm marked]
    have same : dropMark body = body := by
      unfold dropMark
      split
      · exact absurd rfl marked
      · rfl
    rw [same] at named
    rw [starts, Bool.bne_false, named]
    constructor
    · exact .named marked
    · rintro (⟨-, isNamed⟩ | unnamed)
      · exact isNamed
      · exact absurd rfl marked

/-- Every expression that can be read picks exactly the indices that it writes, each once and in
increasing order. -/
theorem indices_exact
    {text : Text}
    {length : Nat}
    {picked : List Nat}
    (returned : indices text length = .ok picked) :
    picked.Pairwise (· < ·) ∧
      ∃ body, Bare text.trim body ∧
        ∀ i, i ∈ picked ↔ i < length ∧ Picks length i body := by
  obtain ⟨reading, readText, rfl⟩ := exists_ok_of_map returned
  obtain ⟨selections, readList, rfl⟩ := exists_ok_of_map readText
  refine ⟨List.pairwise_lt_range.filter _, _, isBare_dropBrackets text.trim, ?_⟩
  intro i
  rw [Reading.indices, List.mem_filter, List.mem_range, any_holds_ne_iff readList]

/-- An excluding expression in brackets, with a slice whose step is negative, a number counted
from the end and a blank part. -/
theorem indices_exact_excluding :
    indices " [!-9:4:-2, , -1]" 7 = .ok [1, 3, 4, 5] ∧
      [1, 3, 4, 5].Pairwise (· < ·) ∧
        ∃ body, Bare (Text.trim " [!-9:4:-2, , -1]") body ∧
          ∀ i, i ∈ [1, 3, 4, 5] ↔ i < 7 ∧ Picks 7 i body := by
  have returned : indices " [!-9:4:-2, , -1]" 7 = .ok [1, 3, 4, 5] := by decide +kernel
  exact ⟨returned, indices_exact returned⟩

end IndexExpression

end RuleProbe
