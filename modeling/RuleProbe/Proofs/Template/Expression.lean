import RuleProbe.Proofs.Joint
import RuleProbe.Proofs.Size.Part

/-!
# Expressions in templates

A template is text and expressions in turns.  Its parts are read back as they were written as long
as no opening mark stands in the text or begins at its end, and no closing mark in an expression.
-/

namespace RuleProbe

/-! ## Cutting at a doubled character -/

namespace Text

/-- A doubled character neither stands in a text nor begins at its end. -/
structure Clear (c : Char) (text : Text) : Prop where
  /-- It does not stand in the text. -/
  undoubled : Undoubled c text
  /-- It does not begin at the end of the text. -/
  unfinished : text.getLast? ≠ some c

instance (c : Char) (text : Text) : Decidable (Clear c text) :=
  decidable_of_iff (Undoubled c text ∧ text.getLast? ≠ some c)
    ⟨fun ⟨undoubled, unfinished⟩ => ⟨undoubled, unfinished⟩,
      fun clear => ⟨clear.undoubled, clear.unfinished⟩⟩

theorem Clear.of_not_mem {c : Char} {text : Text} (absent : c ∉ text) : Clear c text where
  undoubled := .of_not_mem absent
  unfinished last := absent (List.mem_of_getLast? last)

theorem doubled_isPrefixOf_cons {c d : Char} {rest : Text} :
    [c, c].isPrefixOf (d :: rest) = true ↔ d = c ∧ rest.head? = some c := by
  rw [List.isPrefixOf_iff_prefix, List.cons_prefix_cons]
  cases rest with
  | nil => simp
  | cons e more => simp [List.cons_prefix_cons, @eq_comm _ c]

/-- A text is cut at a doubled character that stands there for the first time. -/
theorem cut?_of_clear {c : Char} {before : Text} (clear : Clear c before) (rest : Text) :
    cut? [c, c] (before ++ ([c, c] ++ rest)) = some (before, rest) := by
  have cut (past : Text) :
      cutAux [c, c] past (before ++ ([c, c] ++ rest)) = some (past.reverse ++ before, rest) := by
    induction before generalizing past with
    | nil => simp [cutAux]
    | cons d others hypothesis =>
        have later : Clear c others := by
          refine ⟨clear.undoubled.of_isInfix (List.suffix_cons d others).isInfix, fun last => ?_⟩
          exact clear.unfinished (by rw [List.getLast?_cons, last]; rfl)
        have single : ¬[c, c].isPrefixOf (d :: (others ++ ([c, c] ++ rest))) = true := by
          rw [doubled_isPrefixOf_cons]
          rintro ⟨rfl, next⟩
          cases others with
          | nil => exact clear.unfinished rfl
          | cons e more =>
              exact (List.isChain_cons_cons.mp clear.undoubled).1 ⟨rfl, Option.some.inj next⟩
        rw [List.cons_append, cutAux, if_neg single, hypothesis later]
        simp
  exact cut []

/-- A text without a doubled character is not cut at it. -/
theorem cut?_of_undoubled {c : Char} {text : Text} (undoubled : Undoubled c text) :
    cut? [c, c] text = none := by
  have cut (past : Text) : cutAux [c, c] past text = none := by
    induction text generalizing past with
    | nil => rfl
    | cons d rest hypothesis =>
        have single : ¬[c, c].isPrefixOf (d :: rest) = true := by
          rw [doubled_isPrefixOf_cons]
          rintro ⟨rfl, next⟩
          cases rest with
          | nil => cases next
          | cons e more =>
              exact (List.isChain_cons_cons.mp undoubled).1 ⟨rfl, Option.some.inj next⟩
        have later := undoubled.of_isInfix (List.suffix_cons d rest).isInfix
        rw [cutAux, if_neg single, hypothesis later]
  exact cut []

end Text

/-! ## Parts of templates -/

namespace Template

open Text (Clear)

/-- The parts of a template do not depend on the fuel when there is enough of it. -/
theorem partsAux_of_enough
    {source : Text}
    {fuel other : Nat}
    (enough : source.length ≤ fuel)
    (alsoEnough : source.length ≤ other) :
    partsAux fuel source = partsAux other source := by
  induction fuel generalizing source other with
  | zero =>
      rw [List.length_eq_zero_iff.mp (Nat.le_zero.mp enough)]
      cases other <;> rfl
  | succ fuel hypothesis =>
      cases other with
      | zero =>
          rw [List.length_eq_zero_iff.mp (Nat.le_zero.mp alsoEnough)]
          rfl
      | succ other =>
          rw [partsAux, partsAux]
          split
          case h_1 => rfl
          case h_2 before after opened =>
            split
            case h_1 => rfl
            case h_2 inside rest closed =>
              have first := congrArg List.length (Text.cut?_eq opened)
              have second := congrArg List.length (Text.cut?_eq closed)
              simp only [List.length_append, opening, closing, List.length_cons,
                List.length_nil] at first second
              have short : rest.length ≤ fuel ∧ rest.length ≤ other := by omega
              rw [hypothesis short.1 short.2]

/-- An expression as it stands in a template. -/
def written (expression : Text) : Text := opening ++ expression ++ closing

/-- The first expression of a template is read, and what follows it by itself. -/
theorem parts_written
    {before expression : Text}
    (plain : Clear '\x7b' before)
    (closed : Clear '\x7d' expression)
    (after : Text) :
    parts (before ++ (written expression ++ after)) =
      .text before :: .expression (Text.trim expression) :: parts after := by
  have whole : before ++ (written expression ++ after) =
      before ++ (opening ++ (expression ++ (closing ++ after))) := by
    simp [written]
  have length : (before ++ (opening ++ (expression ++ (closing ++ after)))).length =
      before.length + expression.length + after.length + 3 + 1 := by
    simp only [List.length_append, opening, closing, List.length_cons, List.length_nil]
    omega
  have opened : Text.cut? opening (before ++ (opening ++ (expression ++ (closing ++ after)))) =
      some (before, expression ++ (closing ++ after)) := Text.cut?_of_clear plain _
  have ended : Text.cut? closing (expression ++ (closing ++ after)) = some (expression, after) :=
    Text.cut?_of_clear closed _
  rw [whole]
  unfold parts
  rw [length, partsAux, opened]
  simp only [ended]
  rw [partsAux_of_enough (by omega) (Nat.le_refl after.length)]

/-- Text without an opening mark is no template. -/
theorem isTemplate_of_undoubled {text : Text} (plain : Undoubled '\x7b' text) :
    isTemplate text = false := by
  have uncut : Text.cut? opening text = none := Text.cut?_of_undoubled plain
  rw [isTemplate, Text.contains, uncut]
  rfl

/-- Text without an opening mark has no expressions. -/
theorem parts_of_undoubled {text : Text} (plain : Undoubled '\x7b' text) :
    parts text = [.text text] := by
  unfold parts
  cases text with
  | nil => rfl
  | cons c rest =>
      have uncut : Text.cut? opening (c :: rest) = none := Text.cut?_of_undoubled plain
      rw [List.length_cons, partsAux, uncut]

/-! ## Templates of text and expressions -/

/-- A template of text and of expressions, each with the text behind it. -/
def woven (before : Text) (rest : List (Text × Text)) : Text :=
  before ++ rest.flatMap fun part => written part.1 ++ part.2

/-- A template whose text and expressions can be told apart: up to the last expression no opening
mark stands in the text or begins at its end, and none stands in the text behind it; no closing mark
stands in an expression or begins at its end. -/
inductive Separable : Text → List (Text × Text) → Prop
  /-- Text without expressions. -/
  | last {text : Text} (plain : Undoubled '\x7b' text) : Separable text []
  /-- Text before an expression. -/
  | more {before expression after : Text} {rest : List (Text × Text)}
      (plain : Clear '\x7b' before)
      (closed : Clear '\x7d' expression)
      (others : Separable after rest) :
      Separable before ((expression, after) :: rest)

/-- The parts of a template are its text and its expressions in turns. -/
theorem parts_woven
    {before : Text}
    {rest : List (Text × Text)}
    (separable : Separable before rest) :
    parts (woven before rest) =
      .text before :: rest.flatMap fun part => [.expression (Text.trim part.1), .text part.2] := by
  induction separable with
  | last plain => simpa [woven] using parts_of_undoubled plain
  | @more before expression after rest plain closed others hypothesis =>
      have whole : woven before ((expression, after) :: rest) =
          before ++ (written expression ++ woven after rest) := by
        simp [woven]
      rw [whole, parts_written plain closed, hypothesis]
      rfl

/-- A template with texts in the places of its expressions. -/
def refilled (before : Text) (rest : List (Text × Text)) (texts : List Text) : Text :=
  before ++ (List.zipWith (fun text part => text ++ part.2) texts rest).flatten

/-- A name does not begin like a rule. -/
theorem isRule_of_isName {name : Text} (isName : isName name = true) : isRule name = false := by
  have marked : (ruleStarts.all fun start => start.any fun c => !Letter.isWord c.toNat) = true := by
    decide
  rw [isRule, Text.startsWithAny, List.any_eq_false]
  intro start member begins
  obtain ⟨c, inStart, noWord⟩ := List.any_eq_true.mp (List.all_eq_true.mp marked start member)
  have inName := (List.isPrefixOf_iff_prefix.mp begins).subset inStart
  rw [isWord_of_isName isName c inName] at noWord
  cases noWord

end Template

end RuleProbe
