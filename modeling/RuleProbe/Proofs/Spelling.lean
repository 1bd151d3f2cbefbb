import Mathlib.Data.Bool.AllAny
import RuleProbe.Proofs.Character
import RuleProbe.Rule.Dialect

/-!
# Spellings of script marks

The letters of the marks of scripts are j and s.  Up to case they are spelled with small letters
and capitals, and the s of an opening mark also with the long s, whose capital is that of s.  All
other characters of marks have one spelling.
-/

namespace RuleProbe

namespace CaseTable

/-- The runs of a table that is written out are those of its characters. -/
theorem ofCode_ofList (chars : Text) :
    ofCode (String.ofList chars) = ⟨readRuns 0 (readBase36 none chars)⟩ := by
  unfold ofCode
  rw [String.toList_ofList]

/-- A run leads to a code point from one of some others only. -/
def leadsFrom (sources : List Nat) (code : Nat) (run : CaseRun) : Bool :=
  !covers run ((code : Int) - run.shift).toNat ||
    sources.contains ((code : Int) - run.shift).toNat

/-- Where a mapping whose runs lead to a code point from some others only leads there from. -/
theorem eq_or_mem_of_apply_eq
    {table : CaseTable}
    {sources : List Nat}
    {code source : Nat}
    (positive : 0 < code)
    (leads : table.runs.all (leadsFrom sources code) = true)
    (mapped : table.apply source = code) :
    source = code ∨ source ∈ sources := by
  unfold apply at mapped
  split at mapped
  case h_1 run found =>
    have covered : covers run source = true := by simpa using List.find?_some found
    have origin : ((code : Int) - run.shift).toNat = source := by omega
    have tested := List.all_eq_true.mp leads run (List.mem_of_find?_eq_some found)
    rw [leadsFrom, origin, covered] at tested
    exact .inr (by simpa using tested)
  case h_2 => exact .inl mapped

end CaseTable

namespace Pattern

/-- The code points of signs and letters that marks of scripts are made of, and the long s. -/
def markCodes : List Nat := [47, 58, 60, 62, 64, 74, 83, 106, 115, 0x17f]

set_option maxRecDepth 20000 in
theorem lowerRuns_leadsFrom :
    ∀ code ∈ markCodes, Case.lowerRuns.runs.all (CaseTable.leadsFrom [] code) = true := by
  intro code member
  unfold Case.lowerRuns
  apply CaseTable.all_runs_of_chars
  revert code
  decide +kernel

set_option maxRecDepth 20000 in
theorem upperRuns_leadsFrom :
    ∀ code ∈ markCodes, Case.upperRuns.runs.all
      (CaseTable.leadsFrom (if code = 83 then [0x17f] else []) code) = true := by
  intro code member
  unfold Case.upperRuns
  apply CaseTable.all_runs_of_chars
  revert code
  decide +kernel

set_option maxRecDepth 20000 in
theorem upperExpansions_ne :
    ∀ code ∈ markCodes, Case.upperExpansions.all (fun entry => entry.2 != [code]) = true := by
  intro code member
  unfold Case.upperExpansions
  apply CaseTable.all_expansions_of_chars
  revert code
  decide +kernel

/-- The lower case of a character above U+007F is none of a mark, the long s apart. -/
theorem eq_of_lowerCode_eq
    {code target : Nat}
    (wide : 128 ≤ code)
    (isMark : target ∈ markCodes)
    (lowered : Case.lowerCode code = target) :
    code = target := by
  have positive : ∀ target ∈ markCodes, 0 < target ∧ target ≠ 0x69 := by decide
  unfold Case.lowerCode at lowered
  rw [if_neg (by omega)] at lowered
  split at lowered
  · exact absurd lowered.symm (positive target isMark).2
  · have origin := CaseTable.eq_or_mem_of_apply_eq (positive target isMark).1
      (lowerRuns_leadsFrom target isMark) lowered
    simpa using origin

theorem upperCodes_eq_singleton
    {code target : Nat}
    (wide : 128 ≤ code)
    (isMark : target ∈ markCodes)
    (ascii : target < 128)
    (raised : Case.upperCodes code = [target]) :
    target = 83 ∧ code = 0x17f := by
  have positive : ∀ target ∈ markCodes, 0 < target := by decide
  unfold Case.upperCodes at raised
  rw [if_neg (by omega)] at raised
  split at raised
  · rename_i entry found
    have kept := Array.all_eq_true'.mp (upperExpansions_ne target isMark) entry
      (Array.mem_of_find?_eq_some found)
    rw [raised] at kept
    simp at kept
  · rw [Case.upperCode, if_neg (by omega)] at raised
    have origin := CaseTable.eq_or_mem_of_apply_eq (positive target isMark)
      (upperRuns_leadsFrom target isMark) (List.cons.inj raised).1
    split at origin
    · rename_i isS
      exact ⟨isS, by simpa [show code ≠ target by omega] using origin⟩
    · exact absurd origin (by simp; omega)

set_option maxRecDepth 20000 in
/-- The capital of the long s is that of s. -/
theorem caseKey_longS : caseKey 0x17f = [83] := by
  have lowered : Case.lowerRuns.apply 0x17f = 0x17f := by
    unfold Case.lowerRuns
    rw [show CaseTable.ofCode _ = _ from CaseTable.ofCode_ofList _]
    decide +kernel
  have raised : Case.upperRuns.apply 0x17f = 83 := by
    unfold Case.upperRuns
    rw [show CaseTable.ofCode _ = _ from CaseTable.ofCode_ofList _]
    decide +kernel
  have single : Case.upperExpansions.all (fun entry => entry.1 != 0x17f) = true := by
    unfold Case.upperExpansions
    apply CaseTable.all_expansions_of_chars
    decide +kernel
  have lower : Case.lowerCode 0x17f = 0x17f := by
    unfold Case.lowerCode
    rw [if_neg (by decide), if_neg (by decide), lowered]
  unfold caseKey
  rw [lower]
  unfold Case.upperCodes
  rw [if_neg (by decide)]
  split
  · rename_i entry found
    have other := Array.all_eq_true'.mp single entry (Array.mem_of_find?_eq_some found)
    have same := Array.find?_some found
    simp only [bne_iff_ne, beq_iff_eq] at other same
    exact absurd same other
  · rw [Case.upperCode, if_neg (by decide), raised]

/-- Of the characters above U+007F only the long s agrees with one of a mark, up to case. -/
theorem eq_longS_of_caseKey_eq
    {code target : Nat}
    (wide : 128 ≤ code)
    (isMark : target ∈ markCodes)
    (ascii : target < 128)
    (keyed : caseKey code = [target]) :
    target = 83 ∧ code = 0x17f := by
  unfold caseKey at keyed
  by_cases low : Case.lowerCode code < 128
  · -- The lower case would be one of a mark itself.
    have lowered : Case.lowerCode code ∈ markCodes := by
      have all : ∀ target ∈ markCodes, ∀ code < 128, Case.upperCodes code = [target] →
          code ∈ markCodes := by
        decide +kernel
      exact all target isMark _ low keyed
    have same := eq_of_lowerCode_eq wide lowered rfl
    omega
  · obtain ⟨isS, longS⟩ := upperCodes_eq_singleton (by omega) isMark ascii keyed
    have isLong : (0x17f : Nat) ∈ markCodes := by decide
    exact ⟨isS, eq_of_lowerCode_eq wide isLong longS⟩

end Pattern

namespace ScriptStep

/-! ## Forms of characters -/

/-- The characters of marks. -/
def markSigns : Text := ['/', ':', '<', '>', '@', 'j', 's']

/-- The small letter and the capital of a letter of marks; a sign has one form. -/
def bothCases : Char → Text
  | 'j' => ['j', 'J']
  | 's' => ['s', 'S']
  | sign => [sign]

/-- The forms of a character of marks that are the same up to case. -/
def allForms : Char → Text
  | 's' => ['s', 'S', 'ſ']
  | sign => bothCases sign

theorem lowerCode_eq_iff
    {sign c : Char}
    (isSign : sign ∈ markSigns) :
    Case.lowerCode c.toNat = sign.toNat ↔ c ∈ bothCases sign := by
  by_cases ascii : c.toNat < 128
  · have all : ∀ sign ∈ markSigns, ∀ code < 128,
        Case.lowerCode code = sign.toNat ↔ Char.ofNat code ∈ bothCases sign :=
      List.all_iff_forall_prop.mp (by decide +kernel)
    simpa using all sign isSign c.toNat ascii
  · have low : ∀ sign ∈ markSigns, sign.toNat ∈ Pattern.markCodes ∧ sign.toNat < 128 ∧
        (bothCases sign).all (fun c => c.toNat < 128) = true :=
      List.all_iff_forall_prop.mp (by decide)
    obtain ⟨isMark, small, forms⟩ := low sign isSign
    constructor
    · intro lowered
      have same := Pattern.eq_of_lowerCode_eq (by omega) isMark lowered
      omega
    · intro member
      exact absurd (List.all_iff_forall_prop.mp forms c member) ascii

theorem same_iff
    {sign c : Char}
    (isSign : sign ∈ markSigns) :
    Pattern.CaseRule.full.same sign.toNat c.toNat = true ↔ c ∈ allForms sign := by
  by_cases ascii : c.toNat < 128
  · have all : ∀ sign ∈ markSigns, ∀ code < 128,
        Pattern.CaseRule.full.same sign.toNat code = true ↔ Char.ofNat code ∈ allForms sign :=
      List.all_iff_forall_prop.mp (by decide +kernel)
    simpa using all sign isSign c.toNat ascii
  · have keys : ∀ sign ∈ markSigns, ∃ target ∈ Pattern.markCodes, target < 128 ∧
        sign.toNat < 128 ∧ Pattern.caseKey sign.toNat = [target] ∧
          (allForms sign).all (fun c => c.toNat < 128 ∨ c = 'ſ') = true ∧
            ('ſ' ∈ allForms sign ↔ target = 83) :=
      List.all_iff_forall_prop.mp (by decide +kernel)
    obtain ⟨target, isMark, low, small, keyed, forms, long⟩ := keys sign isSign
    unfold Pattern.CaseRule.same
    simp only
    rw [if_neg (by simp [ascii]), keyed, Bool.or_eq_true, beq_iff_eq, beq_iff_eq]
    constructor
    · rintro (same | same)
      · omega
      · obtain ⟨isS, longS⟩ := Pattern.eq_longS_of_caseKey_eq (by omega) isMark low same.symm
        have isLong : c = 'ſ' := Char.toNat_inj.mp longS
        rw [isLong]
        exact long.mpr isS
    · intro member
      rcases List.all_iff_forall_prop.mp forms c member with small | rfl
      · exact absurd small ascii
      · right
        rw [long.mp member]
        exact Pattern.caseKey_longS.symm

end ScriptStep

end RuleProbe
