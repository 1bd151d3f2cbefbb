import RuleProbe.Text.Blank
import RuleProbe.Text.Case
import RuleProbe.Text.Letter

/-!
# Templates

A template holds expressions between doubled braces.  An expression is a rule when it
begins like one, a variable when it is a name, and a script otherwise.
-/

namespace RuleProbe

namespace Template

/-- The opening mark of an expression. -/
def opening : Text := ['\x7b', '\x7b']

/-- The closing mark of an expression. -/
def closing : Text := ['\x7d', '\x7d']

/-- A part of a template. -/
inductive Part where
  /-- Text. -/
  | text (value : Text)
  /-- An expression, blanks around it dropped. -/
  | expression (value : Text)
  deriving Inhabited

/-- The parts of a template; `fuel` bounds their number. -/
def partsAux : Nat → Text → List Part
  | 0, source => [.text source]
  | fuel + 1, source =>
      match Text.cut? opening source with
      | none => [.text source]
      | some (before, after) =>
          match Text.cut? closing after with
          | none => [.text source]
          | some (inside, rest) =>
              .text before :: .expression (Text.trim inside) :: partsAux fuel rest

/-- The parts of a template. -/
def parts (template : Text) : List Part := partsAux template.length template

/-- The text is a template. -/
def isTemplate (text : Text) : Bool := text.contains opening

/-- The beginnings of expressions that are rules. -/
def ruleStarts : List Text :=
  ["$.".toList, "$[".toList, "@json:".toList, "@xpath:".toList, "//".toList, "@css:".toList,
    "@@".toList]

/-- An expression is a rule. -/
def isRule (expression : Text) : Bool := expression.startsWithAny ruleStarts

/-- An expression is a name. -/
def isName (expression : Text) : Bool :=
  match expression with
  | c :: rest =>
      (Letter.isAsciiLetter c.toNat || c == '_') && rest.all fun d => Letter.isWord d.toNat
  | [] => false

end Template

end RuleProbe
