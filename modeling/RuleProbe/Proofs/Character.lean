import RuleProbe.Extraction.Template
import RuleProbe.Pattern.Matcher

/-!
# Characters of marks and names

A character that is no letter and that no mapping of case leads to agrees with itself only, so a
mark that begins with one is found nowhere but where this character stands.  The characters of
names are no blanks.
-/

namespace RuleProbe

namespace CaseTable

/-- A run leads past a code point. -/
def misses (code : Nat) (run : CaseRun) : Bool :=
  decide (0 < run.step) &&
    (decide ((code : Int) < run.start + run.shift) ||
      decide ((run.start : Int) + (run.length * run.step : Nat) + run.shift ≤ code))

theorem image_ne_of_misses
    {run : CaseRun}
    {code source : Nat}
    (positive : 0 < code)
    (missed : misses code run = true)
    (covered : covers run source = true) :
    ((source : Int) + run.shift).toNat ≠ code := by
  simp only [misses, Bool.and_eq_true, Bool.or_eq_true, decide_eq_true_eq] at missed
  simp only [covers, Bool.and_eq_true, decide_eq_true_eq] at covered
  obtain ⟨step, aside⟩ := missed
  obtain ⟨⟨after, -⟩, before⟩ := covered
  have within := (Nat.div_lt_iff_lt_mul step).mp before
  omega

/-- A mapping whose runs all lead past a code point leads no other code point to it. -/
theorem apply_ne
    {table : CaseTable}
    {code source : Nat}
    (positive : 0 < code)
    (missed : table.runs.all (misses code) = true)
    (other : source ≠ code) :
    table.apply source ≠ code := by
  unfold apply
  split
  case h_1 run found =>
    have among := List.mem_of_find?_eq_some found
    have covered : covers run source = true := by
      simpa using List.find?_some found
    exact image_ne_of_misses positive (List.all_eq_true.mp missed run among) covered
  case h_2 => exact other

/-- All runs of a table that is written out pass a test when those of its characters do. -/
theorem all_runs_of_chars
    {chars : Text}
    {test : CaseRun → Bool}
    (holds : (readRuns 0 (readBase36 none chars)).all test = true) :
    (ofCode (String.ofList chars)).runs.all test = true := by
  unfold ofCode
  rw [String.toList_ofList]
  exact holds

/-- The test of an expansion, where there is one. -/
def passes (test : Nat × List Nat → Bool) : List Nat → Bool
  | [] => true
  | source :: target => test (source, target)

/-- All expansions that are written out pass a test when those of the characters do. -/
theorem all_expansions_of_chars
    {chars : Text}
    {test : Nat × List Nat → Bool}
    (holds : ((readBase36 none chars).splitOnP (· == 0)).all (passes test) = true) :
    (expansions (String.ofList chars)).all test = true := by
  unfold expansions
  rw [String.toList_ofList, List.all_toArray, List.all_eq_true]
  intro entry member
  obtain ⟨piece, among, made⟩ := List.mem_filterMap.mp member
  have passed := List.all_eq_true.mp holds piece among
  cases piece with
  | nil => cases made
  | cons source target =>
      cases made
      exact passed

end CaseTable

namespace Pattern

/-- A code point below U+0080 is no letter, and no mapping of case leads to it. -/
structure Caseless (code : Nat) : Prop where
  /-- The code point is not zero. -/
  positive : 0 < code
  /-- It lies below U+0080. -/
  ascii : code < 128
  /-- It is no capital. -/
  capital : ¬(65 ≤ code ∧ code ≤ 90)
  /-- It is no small letter. -/
  small : ¬(97 ≤ code ∧ code ≤ 122)
  /-- No lower case is it. -/
  lower : Case.lowerRuns.runs.all (CaseTable.misses code) = true
  /-- No upper case is it. -/
  upper : Case.upperRuns.runs.all (CaseTable.misses code) = true
  /-- No longer upper case is it alone. -/
  expansion : Case.upperExpansions.all (fun entry => entry.2 != [code]) = true

namespace Caseless

variable {code other : Nat}

theorem lowerCode_ne (caseless : Caseless code) (differ : other ≠ code) :
    Case.lowerCode other ≠ code := by
  have capital := caseless.capital
  have small := caseless.small
  unfold Case.lowerCode
  split
  · split
    case isTrue letter =>
      simp only [Bool.and_eq_true, decide_eq_true_eq] at letter
      omega
    case isFalse => exact differ
  · split
    · omega
    · exact CaseTable.apply_ne caseless.positive caseless.lower differ

theorem upperCode_ne (caseless : Caseless code) (differ : other ≠ code) :
    Case.upperCode other ≠ code := by
  have capital := caseless.capital
  unfold Case.upperCode
  split
  · split
    case isTrue letter =>
      simp only [Bool.and_eq_true, decide_eq_true_eq] at letter
      omega
    case isFalse => exact differ
  · exact CaseTable.apply_ne caseless.positive caseless.upper differ

theorem upperCodes_ne (caseless : Caseless code) (differ : other ≠ code) :
    Case.upperCodes other ≠ [code] := by
  have single := caseless.upperCode_ne differ
  unfold Case.upperCodes
  split
  · simpa using single
  · split
    case h_1 entry found =>
      have kept := Array.all_eq_true'.mp caseless.expansion entry
        (Array.mem_of_find?_eq_some found)
      simpa using kept
    case h_2 => simpa using single

theorem caseKey_eq (caseless : Caseless code) : caseKey code = [code] := by
  have capital := caseless.capital
  have small := caseless.small
  have lower : Case.lowerCode code = code := by
    unfold Case.lowerCode
    rw [if_pos caseless.ascii, if_neg (by simpa using capital)]
  have upper : Case.upperCode code = code := by
    unfold Case.upperCode
    rw [if_pos caseless.ascii, if_neg (by simpa using small)]
  unfold caseKey Case.upperCodes
  rw [lower, if_pos caseless.ascii, upper]

/-- A code point without a case agrees with itself only. -/
theorem eq_of_same (caseless : Caseless code) (same : CaseRule.full.same code other = true) :
    other = code := by
  by_cases equal : other = code
  · exact equal
  · have capital := caseless.capital
    have small := caseless.small
    unfold CaseRule.same at same
    simp only at same
    split at same
    · simp only [asciiLower, Bool.and_eq_true, decide_eq_true_eq, beq_iff_eq] at same
      split at same <;> split at same <;> omega
    · simp only [Bool.or_eq_true, beq_iff_eq] at same
      rcases same with here | keys
      · exact here.symm
      · have apart := caseless.upperCodes_ne (caseless.lowerCode_ne equal)
        exact absurd (keys.symm.trans caseless.caseKey_eq) apart

end Caseless

/-! ## The first characters of script marks -/

/-- The less-than sign and the at sign. -/
def signs : List Nat := [60, 64]

set_option maxRecDepth 20000 in
theorem lowerRuns_miss :
    ∀ code ∈ signs, Case.lowerRuns.runs.all (CaseTable.misses code) = true := by
  intro code member
  unfold Case.lowerRuns
  refine CaseTable.all_runs_of_chars ?_
  revert code
  decide +kernel

set_option maxRecDepth 20000 in
theorem upperRuns_miss :
    ∀ code ∈ signs, Case.upperRuns.runs.all (CaseTable.misses code) = true := by
  intro code member
  unfold Case.upperRuns
  refine CaseTable.all_runs_of_chars ?_
  revert code
  decide +kernel

set_option maxRecDepth 20000 in
theorem upperExpansions_miss :
    ∀ code ∈ signs, Case.upperExpansions.all (fun entry => entry.2 != [code]) = true := by
  intro code member
  unfold Case.upperExpansions
  refine CaseTable.all_expansions_of_chars ?_
  revert code
  decide +kernel

/-- The two signs have no case. -/
theorem caseless_of_mem {code : Nat} (sign : code ∈ signs) : Caseless code := by
  have range : ∀ code ∈ signs, 0 < code ∧ code < 65 := by decide
  obtain ⟨positive, low⟩ := range code sign
  exact
    { positive
      ascii := by omega
      capital := by omega
      small := by omega
      lower := lowerRuns_miss code sign
      upper := upperRuns_miss code sign
      expansion := upperExpansions_miss code sign }

end Pattern

/-! ## The characters of names -/

namespace RangeTable

/-- The ranges of a table that is written out are those of its characters. -/
theorem ofCode_ofList (chars : Text) :
    ofCode (String.ofList chars) = ⟨(layOut 0 (readBase36 none chars)).toArray⟩ := by
  unfold ofCode
  rw [String.toList_ofList]

end RangeTable

namespace Letter

/-- The blank characters above U+007F. -/
def wideBlanks : List Nat :=
  [0x85, 0xa0, 0x1680, 0x2028, 0x2029, 0x202f, 0x205f, 0x3000] ++
    (List.range 11).map fun offset => 0x2000 + offset

theorem mem_wideBlanks {code : Nat} (wide : ¬code < 128) (blank : Blank.isBlankCode code = true) :
    code ∈ wideBlanks := by
  unfold Blank.isBlankCode at blank
  rw [if_neg wide] at blank
  simp only [Bool.or_eq_true, Bool.and_eq_true, beq_iff_eq, decide_eq_true_eq] at blank
  simp only [wideBlanks, List.mem_append, List.mem_cons, List.mem_map, List.mem_range,
    List.not_mem_nil, or_false]
  by_cases space : 0x2000 ≤ code ∧ code ≤ 0x200a
  · exact .inr ⟨code - 0x2000, by omega, by omega⟩
  · omega

set_option maxRecDepth 40000 in
theorem not_contains_wideBlanks :
    ∀ code ∈ wideBlanks, wordRanges.contains code = false := by
  unfold wordRanges
  rw [show RangeTable.ofCode _ = _ from RangeTable.ofCode_ofList _]
  decide +kernel

/-- A character of a name is no blank. -/
theorem isBlank_of_isWord {c : Char} (word : isWord c.toNat = true) : Text.isBlank c = false := by
  by_cases ascii : c.toNat < 128
  · simp only [isWord, if_pos ascii, isAsciiDigit, isAsciiLetter, Bool.or_eq_true,
      Bool.and_eq_true, decide_eq_true_eq, beq_iff_eq] at word
    simp only [Text.isBlank, Blank.isBlankCode, if_pos ascii, Bool.or_eq_false_iff,
      Bool.and_eq_false_iff, decide_eq_false_iff_not]
    omega
  · cases blank : Text.isBlank c with
    | false => rfl
    | true =>
        rw [isWord, if_neg ascii, not_contains_wideBlanks _ (mem_wideBlanks ascii blank)] at word
        cases word

set_option maxRecDepth 40000 in
theorem not_isDecimal_wideBlanks :
    ∀ code ∈ wideBlanks, decimalRanges.contains code = false := by
  unfold decimalRanges
  rw [show RangeTable.ofCode _ = _ from RangeTable.ofCode_ofList _]
  decide +kernel

/-- A decimal digit is no blank. -/
theorem isBlank_of_isDecimal
    {c : Char}
    (decimal : isDecimal c.toNat = true) :
    Text.isBlank c = false := by
  by_cases ascii : c.toNat < 128
  · simp only [isDecimal, if_pos ascii, isAsciiDigit, Bool.and_eq_true,
      decide_eq_true_eq] at decimal
    simp only [Text.isBlank, Blank.isBlankCode, if_pos ascii, Bool.or_eq_false_iff,
      Bool.and_eq_false_iff, decide_eq_false_iff_not]
    omega
  · cases blank : Text.isBlank c with
    | false => rfl
    | true =>
        rw [isDecimal, if_neg ascii,
          not_isDecimal_wideBlanks _ (mem_wideBlanks ascii blank)] at decimal
        cases decimal

/-- No line ends at a character of a name. -/
theorem isBreak_of_isWord {c : Char} (word : isWord c.toNat = true) : Text.isBreak c = false := by
  have visible := isBlank_of_isWord word
  cases broken : Text.isBreak c with
  | false => rfl
  | true =>
      simp only [Text.isBreak, Blank.isBreakCode, Bool.or_eq_true, Bool.and_eq_true,
        decide_eq_true_eq, beq_iff_eq] at broken
      simp only [Text.isBlank, Blank.isBlankCode] at visible
      split at visible
      · simp only [Bool.or_eq_false_iff, Bool.and_eq_false_iff, decide_eq_false_iff_not] at visible
        omega
      · simp only [Bool.or_eq_false_iff, Bool.and_eq_false_iff, beq_eq_false_iff_ne, ne_eq,
          decide_eq_false_iff_not] at visible
        omega

/-- A character of a name is none that names do not have. -/
theorem ne_of_isWord
    {c sign : Char}
    (word : isWord c.toNat = true)
    (apart : isWord sign.toNat = false) :
    c ≠ sign := by
  rintro rfl
  rw [word] at apart
  cases apart

end Letter

namespace Template

theorem isWord_of_isName
    {name : Text}
    (isName : Template.isName name = true) :
    ∀ c ∈ name, Letter.isWord c.toNat = true := by
  cases name with
  | nil => simp
  | cons first rest =>
      simp only [Template.isName, Bool.and_eq_true, Bool.or_eq_true, beq_iff_eq,
        List.all_eq_true] at isName
      obtain ⟨start, others⟩ := isName
      refine List.forall_mem_cons.mpr ⟨?_, others⟩
      rcases start with letter | rfl
      · have ascii : first.toNat < 128 := by
          simp only [Letter.isAsciiLetter, Bool.or_eq_true, Bool.and_eq_true,
            decide_eq_true_eq] at letter
          omega
        simp [Letter.isWord, ascii, letter]
      · decide

end Template

end RuleProbe
