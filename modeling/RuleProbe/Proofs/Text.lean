import Mathlib.Data.List.DropRight
import Mathlib.Data.List.TakeWhile
import RuleProbe.Extraction.Evaluate

/-!
# Trimmed texts, lines and script marks

A text is trimmed when no blank stands at either end, which is what trimming achieves and
what it leaves alone.  A line of a rule is trimmed, holds no break, and holds a script only
where the whole rule does.
-/

namespace RuleProbe

namespace Text

/-! ## Trimming -/

/-- No blank stands at either end of a text. -/
structure Trimmed (text : Text) : Prop where
  /-- The first character is no blank. -/
  first : ∀ c ∈ text.head?, isBlank c = false
  /-- The last character is no blank. -/
  last : ∀ c ∈ text.getLast?, isBlank c = false

instance (text : Text) : Decidable text.Trimmed :=
  -- Instances for all characters would try each of them.
  haveI (found : Option Char) : Decidable (∀ c ∈ found, isBlank c = false) :=
    Option.decidableForallMem found
  decidable_of_iff
    ((∀ c ∈ text.head?, isBlank c = false) ∧ ∀ c ∈ text.getLast?, isBlank c = false)
    ⟨fun ⟨first, last⟩ => ⟨first, last⟩, fun trimmed => ⟨trimmed.first, trimmed.last⟩⟩

theorem trim_eq (text : Text) :
    trim text = (text.dropWhile isBlank).rdropWhile isBlank := rfl

/-- Where neither end of a text is dropped, the text stays. -/
theorem trimWhere_of_ends
    {drop : Char → Bool}
    {text : Text}
    (first : ∀ c ∈ text.head?, drop c = false)
    (last : ∀ c ∈ text.getLast?, drop c = false) :
    trimWhere drop text = text := by
  have stays {some : Text} (kept : ∀ c ∈ some.head?, drop c = false) :
      some.dropWhile drop = some := by
    cases some with
    | nil => rfl
    | cons c rest => rw [List.dropWhile_cons, kept c rfl]; rfl
  unfold trimWhere trimLeftWhere trimRightWhere
  rw [stays first, stays (by rwa [List.head?_reverse]), List.reverse_reverse]

/-- A trimmed text is what trimming leaves alone. -/
theorem Trimmed.trim_eq_self {text : Text} (trimmed : text.Trimmed) : trim text = text :=
  trimWhere_of_ends trimmed.first trimmed.last

/-- A text stands between two characters that are no blanks. -/
theorem trimmed_between
    {c d : Char}
    (first : isBlank c = false)
    (inner : Text)
    (last : isBlank d = false) :
    Trimmed (c :: (inner ++ [d])) where
  first e begins := by
    cases begins
    exact first
  last e ends := by
    rw [← List.cons_append, List.getLast?_concat] at ends
    cases ends
    exact last

/-- Trimming gives trimmed texts. -/
theorem trimmed_trim (text : Text) : (trim text).Trimmed where
  first c head := by
    rw [trim_eq] at head
    obtain ⟨blanks, split⟩ := List.rdropWhile_prefix isBlank (text.dropWhile isBlank)
    have kept := List.head?_dropWhile_not isBlank text
    rw [← split, List.head?_append, Option.mem_def.mp head] at kept
    simpa using kept
  last c last := by
    rw [trim_eq] at last
    have nonempty : (text.dropWhile isBlank).rdropWhile isBlank ≠ [] := by
      intro empty
      rw [empty] at last
      cases last
    have kept := List.rdropWhile_last_not isBlank _ nonempty
    rw [List.getLast?_eq_some_getLast nonempty] at last
    cases last
    simpa using kept

/-- Trimming leaves nothing of a text exactly when it is blank. -/
theorem trim_eq_nil_iff (text : Text) : trim text = [] ↔ text.isBlankText := by
  rw [trim_eq, List.rdropWhile_eq_nil_iff, isBlankText, List.all_eq_true]
  constructor
  · intro blank c member
    by_contra given
    have split := List.takeWhile_append_dropWhile (p := isBlank) (l := text)
    rw [← split, List.mem_append] at member
    rcases member with early | late
    · exact given (List.mem_takeWhile_imp early)
    · exact given (blank c late)
  · intro blank c member
    exact blank c ((List.dropWhile_suffix isBlank).subset member)

theorem trim_isInfix (text : Text) : trim text <:+: text :=
  (List.rdropWhile_prefix isBlank _).isInfix.trans (List.dropWhile_suffix isBlank).isInfix

/-- Trimming a text drops blanks only. -/
theorem blank_or_mem_trim {text : Text} {c : Char} (member : c ∈ text) :
    isBlank c = true ∨ c ∈ trim text := by
  rw [← List.takeWhile_append_dropWhile (p := isBlank) (l := text), List.mem_append] at member
  rcases member with early | late
  · exact .inl (List.mem_takeWhile_imp early)
  · rw [← List.rdropWhile_append_rtakeWhile (p := isBlank) (l := text.dropWhile isBlank),
      List.mem_append] at late
    rcases late with kept | dropped
    · exact .inr kept
    · exact .inl (List.mem_rtakeWhile_imp dropped)

/-- Blanks are dropped before a text, and not after it when it goes on with something visible. -/
theorem trim_append_of_visible
    {rest : Text}
    (given : rest ≠ [])
    (trimmed : rest.Trimmed)
    (text : Text) :
    trim (text ++ rest) = trimLeft text ++ rest := by
  have start : (text ++ rest).dropWhile isBlank = trimLeft text ++ rest := by
    unfold trimLeft trimLeftWhere
    rw [List.dropWhile_append]
    split
    case isTrue empty =>
      rw [List.isEmpty_iff.mp empty]
      obtain ⟨c, others, rfl⟩ := List.exists_cons_of_ne_nil given
      rw [List.dropWhile_cons, trimmed.first c rfl]
      rfl
    case isFalse => rfl
  rw [trim_eq, start, List.rdropWhile_eq_self_iff]
  intro nonempty
  have last := List.getLast?_eq_some_getLast given
  rw [List.getLast_append_of_ne_nil _ given, trimmed.last _ last]
  exact Bool.false_ne_true

/-- Trimming leaves the beginning of a text when no blank stands at either end of it. -/
theorem prefix_trim
    {start text : Text}
    (given : start ≠ [])
    (trimmed : start.Trimmed)
    (begins : start <+: text) :
    start <+: trim text := by
  obtain ⟨rest, rfl⟩ := begins
  have left : (start ++ rest).dropWhile isBlank = start ++ rest := by
    obtain ⟨c, others, rfl⟩ := List.exists_cons_of_ne_nil given
    rw [List.cons_append, List.dropWhile_cons, trimmed.first c rfl]
    rfl
  have right : start.rdropWhile isBlank = start := by
    rw [List.rdropWhile_eq_self_iff]
    intro nonempty
    rw [trimmed.last _ (List.getLast?_eq_some_getLast nonempty)]
    exact Bool.false_ne_true
  rw [trim_eq, left, List.rdropWhile, List.reverse_append, List.dropWhile_append]
  split
  case isTrue => exact ⟨[], (List.append_nil start).trans right.symm⟩
  case isFalse =>
    rw [List.reverse_append, List.reverse_reverse]
    exact List.prefix_append _ _

/-- A mark is compared with the beginning of a text only. -/
theorem zip_append_of_length_le
    {mark text : Text}
    (short : mark.length ≤ text.length)
    (rest : Text) :
    mark.zip (text ++ rest) = mark.zip text := by
  refine List.ext_getElem (by simp; omega) fun i _ _ => ?_
  simp only [List.getElem_zip]
  rw [List.getElem_append_left]

/-! ## Lines -/

/-- The lines of a text stand in it, and no break stands in any of them. -/
theorem mem_linesAux
    {line text found : Text}
    (unbroken : ∀ c ∈ line, isBreak c = false)
    (member : found ∈ linesAux line text) :
    found <:+: line.reverse ++ text ∧ ∀ c ∈ found, isBreak c = false := by
  induction line, text using linesAux.induct with
  | case1 => simp [linesAux] at member
  | case2 line nonempty =>
      have same : found = line.reverse := by
        simpa [linesAux, nonempty] using member
      subst same
      exact ⟨by simp, by simpa using unbroken⟩
  | case3 line rest hypothesis =>
      rw [linesAux, List.mem_cons] at member
      rcases member with same | later
      · subst same
        exact ⟨(List.prefix_append _ _).isInfix, by simpa using unbroken⟩
      · obtain ⟨inside, whole⟩ := hypothesis (by simp) later
        exact ⟨inside.trans ⟨line.reverse ++ ['\r', '\n'], [], by simp⟩, whole⟩
  | case4 line c rest notPair broken hypothesis =>
      have step : linesAux line (c :: rest) = line.reverse :: linesAux [] rest := by
        rw [linesAux, if_pos broken]
        exact notPair
      rw [step, List.mem_cons] at member
      rcases member with same | later
      · subst same
        exact ⟨(List.prefix_append _ _).isInfix, by simpa using unbroken⟩
      · obtain ⟨inside, whole⟩ := hypothesis (by simp) later
        exact ⟨inside.trans ⟨line.reverse ++ [c], [], by simp⟩, whole⟩
  | case5 line c rest notPair whole hypothesis =>
      have step : linesAux line (c :: rest) = linesAux (c :: line) rest := by
        rw [linesAux, if_neg whole]
        exact notPair
      rw [step] at member
      have extended : ∀ d ∈ c :: line, isBreak d = false := by
        simp only [List.mem_cons, forall_eq_or_imp]
        exact ⟨by simpa using whole, unbroken⟩
      simpa using hypothesis extended member

/-- A line stands in its text, and no break stands in the line. -/
theorem mem_lines {text line : Text} (member : line ∈ lines text) :
    line <:+: text ∧ ∀ c ∈ line, isBreak c = false := by
  simpa using mem_linesAux (by simp) member

theorem linesAux_of_unbroken
    {line text : Text}
    (nonempty : line ≠ [] ∨ text ≠ [])
    (unbroken : ∀ c ∈ text, isBreak c = false) :
    linesAux line text = [line.reverse ++ text] := by
  induction line, text using linesAux.induct with
  | case1 => simp at nonempty
  | case2 line given => simp [linesAux]
  | case3 line rest hypothesis =>
      have broken := unbroken '\r' (by simp)
      simp [isBreak, Blank.isBreakCode] at broken
  | case4 line c rest notPair broken hypothesis =>
      rw [unbroken c (by simp)] at broken
      cases broken
  | case5 line c rest notPair whole hypothesis =>
      rw [linesAux, if_neg whole, hypothesis (.inl (by simp)) fun d member =>
        unbroken d (List.mem_cons_of_mem _ member)]
      · simp
      · exact notPair

/-- A text without breaks is its own only line. -/
theorem lines_of_unbroken
    {text : Text}
    (nonempty : text ≠ [])
    (unbroken : ∀ c ∈ text, isBreak c = false) :
    lines text = [text] :=
  linesAux_of_unbroken (.inr nonempty) unbroken

end Text

/-! ## Script marks -/

/-- A mark at the beginning of a text is at the beginning of every longer text. -/
theorem ScriptStep.beginsWith_append
    {mark text : Text}
    (begins : beginsWith mark text = true)
    (rest : Text) :
    beginsWith mark (text ++ rest) = true := by
  unfold beginsWith at begins ⊢
  rw [Bool.and_eq_true, decide_eq_true_eq] at begins ⊢
  obtain ⟨short, same⟩ := begins
  refine ⟨short.trans (by simp), ?_⟩
  rw [Text.zip_append_of_length_le short]
  exact same

/-- A text has a mark that opens a script at its beginning. -/
def ScriptStep.opens (text : Text) : Bool :=
  openers.any fun mark => beginsWith mark text

/-- A rule holds a script exactly when a mark that opens one stands somewhere in it. -/
theorem ScriptStep.findOpener_isSome_iff (before text : Text) :
    (findOpener before text).isSome ↔
      ∃ c rest, c :: rest <:+ text ∧ opens (c :: rest) = true := by
  induction text generalizing before with
  | nil => simp [findOpener]
  | cons d others hypothesis =>
      rw [findOpener]
      split
      · rename_i opened
        exact ⟨fun _ => ⟨d, others, List.suffix_refl _, opened⟩, fun _ => rfl⟩
      · rename_i closed
        rw [hypothesis (d :: before)]
        constructor
        · rintro ⟨c, rest, inside, opened⟩
          exact ⟨c, rest, inside.trans (List.suffix_cons d others), opened⟩
        · rintro ⟨c, rest, inside, opened⟩
          rcases List.suffix_cons_iff.mp inside with same | inside
          · rw [same] at opened
            exact absurd opened closed
          · exact ⟨c, rest, inside, opened⟩

/-- A rule that holds no script has no part that holds one. -/
theorem hasScript_of_isWithin
    {part rule : Text}
    (inside : part <:+: rule)
    (scripted : hasScript part = true) :
    hasScript rule = true := by
  obtain ⟨c, rest, ending, opened⟩ :=
    (ScriptStep.findOpener_isSome_iff [] part).mp scripted
  obtain ⟨before, after, whole⟩ := inside
  refine (ScriptStep.findOpener_isSome_iff [] rule).mpr ⟨c, rest ++ after, ?_, ?_⟩
  · obtain ⟨start, split⟩ := ending
    exact ⟨before ++ start, by rw [← whole, ← split]; simp⟩
  · obtain ⟨mark, member, begins⟩ := List.any_eq_true.mp opened
    exact List.any_eq_true.mpr
      ⟨mark, member, ScriptStep.beginsWith_append begins after⟩

theorem hasScript_eq_false_of_isInfix
    {part rule : Text}
    (inside : part <:+: rule)
    (scriptless : hasScript rule = false) :
    hasScript part = false := by
  by_contra scripted
  rw [hasScript_of_isWithin inside (Bool.of_not_eq_false scripted)] at scriptless
  cases scriptless

/-! ## Lines of rules -/

namespace Extraction

/-- A line of a rule is trimmed and its own only line, and it holds no script where the
rule holds none. -/
structure IsRuleLine (line : Text) : Prop where
  /-- No blank stands at either end. -/
  trimmed : line.Trimmed
  /-- It falls into no further lines. -/
  alone : ruleLines line = [line]

theorem isRuleLine
    {rule line : Text}
    (member : line ∈ ruleLines rule) :
    IsRuleLine line ∧ line <:+: rule := by
  obtain ⟨⟨whole, isLine, rfl⟩, given⟩ : (∃ whole ∈ Text.lines rule, Text.trim whole = line) ∧
      line.isEmpty = false := by
    simpa [ruleLines] using member
  obtain ⟨inside, unbroken⟩ := Text.mem_lines isLine
  have trimmed := Text.trimmed_trim whole
  have nonempty : Text.trim whole ≠ [] := by
    simpa using given
  have alone : Text.lines (Text.trim whole) = [Text.trim whole] :=
    Text.lines_of_unbroken nonempty fun c standing =>
      unbroken c ((Text.trim_isInfix whole).subset standing)
  refine ⟨⟨trimmed, ?_⟩, (Text.trim_isInfix whole).trans inside⟩
  simp [ruleLines, alone, trimmed.trim_eq_self, nonempty]

end Extraction

end RuleProbe
