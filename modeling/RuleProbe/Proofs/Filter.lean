import RuleProbe.Content.Replacement
import RuleProbe.Proofs.Defects
import RuleProbe.Proofs.Evaluation.Lines
import RuleProbe.Proofs.Template
import RuleProbe.Proofs.Template.Expression

/-!
# Filters as they are written

A rule is cut at its marks from left to right, and a mark is the same sign twice.  So what stands
before a mark is read as it was written when no mark stands in it and it does not end in the sign
itself, and what stands behind the last mark may even end in it.  Lines of replacements are written
in the same notation; they are read by another cut, and applied as filters are.
-/

namespace RuleProbe

namespace Text

/-! ## Parts and cuts -/

variable {mark text : Text}

theorem splitAux_skip (skip : Nat) (part text : Text) :
    splitAux mark skip part text = splitAux mark 0 part (text.drop skip) := by
  induction skip generalizing text with
  | zero => rfl
  | succ skip hypothesis =>
      cases text with
      | nil => rfl
      | cons c rest => exact hypothesis rest

/-- The parts of a text are what stands before its first mark and the parts of the rest. -/
theorem splitAux_eq (given : mark ≠ []) (part text : Text) :
    splitAux mark 0 part text =
      match cutAux mark part text with
      | some (first, rest) => first :: splitAux mark 0 [] rest
      | none => [part.reverse ++ text] := by
  induction text generalizing part with
  | nil => simp [splitAux, cutAux, given]
  | cons c rest hypothesis =>
      rw [splitAux, cutAux]
      by_cases begins : mark.isPrefixOf (c :: rest) = true
      · have behind : (c :: rest).drop mark.length = rest.drop (mark.length - 1) := by
          have positive := List.length_pos_iff.mpr given
          obtain ⟨length, same⟩ : ∃ length, mark.length = length + 1 :=
            ⟨mark.length - 1, by omega⟩
          rw [same]
          rfl
        rw [if_pos begins, if_pos begins, splitAux_skip, behind]
      · rw [if_neg begins, if_neg begins, hypothesis]
        simp

theorem splitOn_of_cut?
    (given : mark ≠ [])
    {first rest : Text}
    (cut : cut? mark text = some (first, rest)) :
    splitOn mark text = first :: splitOn mark rest := by
  unfold splitOn cut? at *
  rw [splitAux_eq given, cut]

theorem splitOn_of_uncut (given : mark ≠ []) (uncut : cut? mark text = none) :
    splitOn mark text = [text] := by
  unfold splitOn cut? at *
  rw [splitAux_eq given, uncut]
  rfl

end Text

open Text (Clear)

namespace ReplaceFilter

/-! ## Filters of rules -/

theorem splitOn_of_clear {text : Text} (clear : Clear '#' text) (rest : Text) :
    Text.splitOn mark (text ++ (mark ++ rest)) = text :: Text.splitOn mark rest :=
  Text.splitOn_of_cut? (by decide) (Text.cut?_of_clear clear rest)

theorem splitOn_of_undoubled {text : Text} (undoubled : Undoubled '#' text) :
    Text.splitOn mark text = [text] :=
  Text.splitOn_of_uncut (by decide) (Text.cut?_of_undoubled undoubled)

theorem split_of_splitOn
    {rule body pattern : Text}
    {rest : List Text}
    (given : pattern ≠ [])
    (parts : Text.splitOn mark rule = body :: pattern :: rest) :
    split rule = (body, some ⟨pattern, rest.headD [], 1 < rest.length⟩) := by
  unfold split
  rw [parts]
  exact if_neg (by simpa using given)

/-- A body and a pattern are read as they were written, whatever stands behind the second mark. -/
theorem split_of_clear
    {body pattern : Text}
    (clearBody : Clear '#' body)
    (given : pattern ≠ [])
    (clearPattern : Clear '#' pattern)
    (rest : Text) :
    split (body ++ mark ++ pattern ++ mark ++ rest) =
      (body, some ⟨pattern, (Text.splitOn mark rest).headD [],
        1 < (Text.splitOn mark rest).length⟩) := by
  apply split_of_splitOn given
  rw [List.append_assoc, List.append_assoc, List.append_assoc, splitOn_of_clear clearBody,
    splitOn_of_clear clearPattern]

/-- A filter is read as it was written: behind a body without a mark that does not end in the sign
of marks, a pattern of that kind, and a replacement without a mark.  A pattern alone replaces its
matches by nothing, and three signs behind a replacement that does not end in the sign ask for the
first match only. -/
theorem split_written
    {body pattern replacement : Text}
    (clearBody : Clear '#' body)
    (given : pattern ≠ [])
    (clearPattern : Clear '#' pattern)
    (undoubled : Undoubled '#' replacement) :
    split (body ++ mark ++ pattern ++ mark ++ replacement) =
        (body, some ⟨pattern, replacement, false⟩) ∧
      split (body ++ mark ++ pattern) = (body, some ⟨pattern, [], false⟩) ∧
      (replacement.getLast? ≠ some '#' →
        split (body ++ mark ++ pattern ++ mark ++ replacement ++ ['#', '#', '#']) =
          (body, some ⟨pattern, replacement, true⟩)) := by
  refine ⟨?_, ?_, fun unfinished => ?_⟩
  · rw [split_of_clear clearBody given clearPattern, splitOn_of_undoubled undoubled]
    rfl
  · have parts : Text.splitOn mark (body ++ mark ++ pattern) = [body, pattern] := by
      rw [List.append_assoc, splitOn_of_clear clearBody,
        splitOn_of_undoubled clearPattern.undoubled]
    exact split_of_splitOn given parts
  · have clear : Clear '#' replacement := ⟨undoubled, unfinished⟩
    have parts : Text.splitOn mark (replacement ++ ['#', '#', '#']) = [replacement, ['#']] := by
      have single : Undoubled '#' ['#'] := by decide
      rw [← splitOn_of_undoubled single, ← splitOn_of_clear clear]
      rfl
    rw [List.append_assoc, split_of_clear clearBody given clearPattern, parts]
    rfl

/-- Single signs of marks stand in the body, the pattern and the replacement of this rule. -/
theorem split_written_signs :
    (Clear '#' "#a".toList ∧ "#b#c".toList ≠ [] ∧ Clear '#' "#b#c".toList ∧
        Undoubled '#' "#".toList) ∧
      split "#a###b#c###".toList = ("#a".toList, some ⟨"#b#c".toList, "#".toList, false⟩) := by
  have clearBody : Clear '#' "#a".toList := by decide
  have clearPattern : Clear '#' "#b#c".toList := by decide
  have undoubled : Undoubled '#' "#".toList := by decide
  exact ⟨⟨clearBody, by decide, clearPattern, undoubled⟩,
    (split_written clearBody (by decide) clearPattern undoubled).1⟩

end ReplaceFilter

namespace Replacement

open ReplaceFilter (split)

/-! ## Lines of replacements -/

/-- A line that lists a replacement, as it is written. -/
def written (rule : Text × Text) : Text := mark ++ rule.1 ++ mark ++ rule.2

/-- A replacement that can be listed: it can be told from the marks around it, and it can be told
from the lines around it. -/
structure IsListed (rule : Text × Text) : Prop where
  /-- There is a pattern. -/
  given : rule.1 ≠ []
  /-- No mark stands in the pattern, and it does not end in the sign of marks. -/
  clear : Clear '#' rule.1
  /-- No mark stands in what replaces it. -/
  undoubled : Undoubled '#' rule.2
  /-- No blank stands at either end of the line. -/
  trimmed : (written rule).Trimmed
  /-- The line does not end before. -/
  unbroken : ∀ c ∈ written rule, Text.isBreak c = false

instance (rule : Text × Text) : Decidable (IsListed rule) :=
  haveI : Decidable (∀ c ∈ written rule, Text.isBreak c = false) := List.decidableBAll _ _
  decidable_of_iff
    (rule.1 ≠ [] ∧ Clear '#' rule.1 ∧ Undoubled '#' rule.2 ∧ (written rule).Trimmed ∧
      ∀ c ∈ written rule, Text.isBreak c = false)
    ⟨fun ⟨given, clear, undoubled, trimmed, unbroken⟩ =>
        ⟨given, clear, undoubled, trimmed, unbroken⟩,
      fun listed => ⟨listed.given, listed.clear, listed.undoubled, listed.trimmed,
        listed.unbroken⟩⟩

/-- A text changed by the filter of a line; it stays when the filter has a pattern that cannot be
compiled. -/
def filterBy (text line : Text) : Text :=
  match ReplaceFilter.applyOptional (split line).2 text with
  | .ok changed => changed
  | .error _ => text

namespace IsListed

variable {rule : Text × Text}

theorem ofLine?_eq (listed : IsListed rule) : ofLine? (written rule) = some rule := by
  have opened : written rule = mark ++ (rule.1 ++ (mark ++ rule.2)) := by
    rw [written, List.append_assoc, List.append_assoc]
  have cut : Text.cut? mark (rule.1 ++ (mark ++ rule.2)) = some (rule.1, rule.2) :=
    Text.cut?_of_clear listed.clear rule.2
  unfold ofLine?
  simp only [listed.trimmed.trim_eq_self]
  rw [opened, Text.dropStart?_append, Option.getD_some, cut]
  exact if_neg (by simpa using listed.given)

theorem split_eq (listed : IsListed rule) :
    split (written rule) = ([], some ⟨rule.1, rule.2, false⟩) := by
  have empty : Clear '#' [] := .of_not_mem (List.not_mem_nil)
  have read := ReplaceFilter.split_of_clear empty listed.given listed.clear rule.2
  rw [ReplaceFilter.splitOn_of_undoubled listed.undoubled] at read
  exact read

/-- A line is its own only line. -/
theorem alone (listed : IsListed rule) :
    Extraction.ruleLines (written rule) = [written rule] := by
  have given : written rule ≠ [] := List.cons_ne_nil _ _
  simp [Extraction.ruleLines, Text.lines_of_unbroken given listed.unbroken,
    listed.trimmed.trim_eq_self, given]

/-- A line changes a text as its filter does, unless its pattern is refused. -/
theorem apply_eq
    (listed : IsListed rule)
    (read : ∀ defect, RuleRegex.compile {} rule.1 ≠ .error (.defect defect))
    (text : Text) :
    apply text rule = .ok (filterBy text (written rule)) := by
  unfold apply filterBy
  rw [listed.split_eq]
  unfold ReplaceFilter.applyOptional ReplaceFilter.apply
  simp only
  cases compiled : RuleRegex.compile {} rule.1 with
  | ok pattern => rfl
  | error fault =>
      have fails : FailsBy Fault.IsFlawOrCaused _ := RuleRegex.compile_failsBy rule.1
      rcases fails fault compiled with ⟨flaw, rfl⟩ | ⟨defect, rfl, -⟩
      · rfl
      · exact absurd compiled (read defect)

theorem apply_of_defect
    {defect : Defect}
    (refused : RuleRegex.compile {} rule.1 = .error (.defect defect))
    (text : Text) :
    apply text rule = .error (.defect defect) := by
  unfold apply
  rw [refused]

end IsListed

theorem ofLine?_trim (line : Text) : ofLine? (Text.trim line) = ofLine? line := by
  unfold ofLine?
  rw [Text.trim_trim]

/-- Blank lines list nothing, and blanks around a line do not count. -/
theorem filterMap_lines (text : Text) :
    (Text.lines text).filterMap ofLine? = (Extraction.ruleLines text).filterMap ofLine? := by
  unfold Extraction.ruleLines
  rw [List.filterMap_filter, List.filterMap_map]
  refine List.filterMap_congr fun line _ => ?_
  rw [Function.comp_apply, ofLine?_trim]
  cases visible : (Text.trim line).isEmpty with
  | true =>
      rw [← ofLine?_trim, List.isEmpty_iff.mp visible]
      rfl
  | false => rfl

theorem applyLines_written
    {content : Text}
    (given : content ≠ [])
    {rules : List (Text × Text)}
    (listed : ∀ rule ∈ rules, IsListed rule) :
    applyLines content (Text.join ['\n'] (rules.map written)) = applyAll content rules := by
  have lines : Extraction.ruleLines (Text.join ['\n'] (rules.map written)) = rules.map written :=
    Extraction.ruleLines_join (List.forall_mem_map.mpr fun rule member =>
      (listed rule member).alone)
  have read : (rules.map written).filterMap ofLine? = rules := by
    rw [List.filterMap_map]
    refine (List.filterMap_congr fun rule member => ?_).trans List.filterMap_some
    exact (listed rule member).ofLine?_eq
  unfold applyLines
  rw [if_neg (by simpa using given), filterMap_lines, lines, read]

/-- Replacements change a text one after the other as the filters of their lines do, up to the first
one whose pattern is refused. -/
theorem applyAll_eq_ok_iff
    {rules : List (Text × Text)}
    (listed : ∀ rule ∈ rules, IsListed rule)
    (content : Text) :
    applyAll content rules = .ok ((rules.map written).foldl filterBy content) ↔
      ∀ rule ∈ rules, ∀ defect, RuleRegex.compile {} rule.1 ≠ .error (.defect defect) := by
  induction rules generalizing content with
  | nil => simp [applyAll]
  | cons rule rest hypothesis =>
      obtain ⟨here, others⟩ := List.forall_mem_cons.mp listed
      rw [applyAll, List.forall_mem_cons]
      by_cases read : ∀ defect, RuleRegex.compile {} rule.1 ≠ .error (.defect defect)
      · rw [here.apply_eq read, and_iff_right read]
        exact hypothesis others _
      · obtain ⟨defect, refused⟩ : ∃ defect,
            RuleRegex.compile {} rule.1 = .error (.defect defect) := by
          simpa using read
        rw [IsListed.apply_of_defect refused]
        exact iff_of_false (by simp [bind, Except.bind]) fun all => all.1 defect refused

/-- Listed replacements change a text line by line as the filters of the lines do, and a line whose
pattern cannot be compiled leaves it as it is, exactly when no pattern is refused in another way
than as a malformed one. -/
theorem applyLines_filters_iff
    {content : Text}
    (given : content ≠ [])
    {rules : List (Text × Text)}
    (listed : ∀ rule ∈ rules, IsListed rule) :
    applyLines content (Text.join ['\n'] (rules.map written)) =
        .ok ((rules.map written).foldl filterBy content) ↔
      ∀ rule ∈ rules, ∀ defect, RuleRegex.compile {} rule.1 ≠ .error (.defect defect) := by
  rw [applyLines_written given listed]
  exact applyAll_eq_ok_iff listed content

/-- A malformed pattern, and one whose replacement holds signs with a meaning elsewhere. -/
def unevenRules : List (Text × Text) := [("(".toList, []), ("#?b".toList, "$1\\#".toList)]

/-- The first of these lines is passed over, and the second one replaces what it finds as it is
written. -/
theorem applyLines_filters_iff_uneven :
    ("a#bc".toList ≠ [] ∧ ∀ rule ∈ unevenRules, IsListed rule) ∧
      applyLines "a#bc".toList (Text.join ['\n'] (unevenRules.map written)) =
        .ok ((unevenRules.map written).foldl filterBy "a#bc".toList) ∧
      (unevenRules.map written).foldl filterBy "a#bc".toList = "a$1\\#c".toList := by
  have listed : ∀ rule ∈ unevenRules, IsListed rule := by decide
  have read : ∀ rule ∈ unevenRules, ∀ defect,
      RuleRegex.compile {} rule.1 ≠ .error (.defect defect) := by
    simp only [unevenRules, List.forall_mem_cons]
    refine ⟨fun defect refused => ?_, fun defect refused => ?_, by simp⟩
    · cases refused
    · cases refused
  exact ⟨⟨by decide, listed⟩, (applyLines_filters_iff (by decide) listed).mpr read,
    by decide +kernel⟩

/-- A replacement whose pattern has a count that is too large. -/
def hugeCountRule : Text × Text := ("a\x7b4294967295\x7d".toList, [])

/-- The pattern of this line cannot be compiled, but it is not passed over. -/
theorem applyLines_hugeCount_escapes :
    IsListed hugeCountRule ∧
      applyLines "a".toList (Text.join ['\n'] ([hugeCountRule].map written)) =
        .error (.defect (.hugeCount hugeCountRule.1)) ∧
      applyLines "a".toList (Text.join ['\n'] ([hugeCountRule].map written)) ≠
        .ok (([hugeCountRule].map written).foldl filterBy "a".toList) := by
  have failed :
      applyLines "a".toList (Text.join ['\n'] ([hugeCountRule].map written)) =
        .error (.defect (.hugeCount hugeCountRule.1)) := by
    decide +kernel
  refine ⟨by decide, failed, ?_⟩
  rw [failed]
  exact nofun

end Replacement

end RuleProbe
