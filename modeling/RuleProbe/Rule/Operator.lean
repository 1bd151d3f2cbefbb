import RuleProbe.Rule.Dialect

/-!
# Operators of rules

A rule may join branches by an operator: the first branch with results, all results
one branch after the other, or all results in turns.  An operator inside a template
`{{…}}` does not count, and a leading minus asks for the results in reverse.
-/

namespace RuleProbe

/-- An operator that joins the branches of a rule. -/
inductive Operator where
  /-- `||`: the results of the first branch that has any. -/
  | first
  /-- `&&`: the results of all branches, one after the other. -/
  | all
  /-- `%%`: the results of all branches, in turns. -/
  | interleave
  deriving DecidableEq, Inhabited

namespace Operator

/-- The character that is written twice. -/
def mark : Operator → Char
  | first => '|'
  | all => '&'
  | interleave => '%'

/-- How the operator is written. -/
def symbol (op : Operator) : Text := [op.mark, op.mark]

/-- All operators, in the order in which they are looked for. -/
def every : List Operator := [first, all, interleave]

/-- The parts of a rule between the occurrences of a doubled character outside
templates.  `depth` templates are open, and `part` is the current part, last
character first. -/
def splitMark (mark : Char) : Nat → Text → Text → List Text
  | _, part, [] => [part.reverse]
  | _, part, [c] => [(c :: part).reverse]
  | depth, part, c :: d :: rest =>
      if c == '{' && d == '{' then splitMark mark (depth + 1) (d :: c :: part) rest
      else if c == '}' && d == '}' && 0 < depth then
        splitMark mark (depth - 1) (d :: c :: part) rest
      else if depth == 0 && c == mark && d == mark then
        part.reverse :: splitMark mark 0 [] rest
      else splitMark mark depth (c :: part) (d :: rest)

/-- The parts of a rule between the occurrences of an operator outside templates. -/
def splitTopLevel (op : Operator) (rule : Text) : List Text := splitMark op.mark 0 [] rule

/-- The branches that parts give: trimmed, blank ones left out. -/
def branches (parts : List Text) : List Text :=
  (parts.filter fun part => !part.isBlankText).map Text.trim

/-- The first of some operators that cuts a rule, with the branches. -/
def findSplit (rule : Text) : List Operator → Option (Operator × List Text)
  | [] => none
  | op :: rest =>
      let parts := splitTopLevel op rule
      if 1 < parts.length then some (op, branches parts) else findSplit rule rest

/-- The operator of a rule and its branches.  A rule with scripts is never cut. -/
def split (rule : Text) : Option Operator × List Text :=
  if hasScript rule then (none, [rule])
  else
    match findSplit rule every with
    | some (op, parts) => (some op, parts)
    | none => (none, [rule])

end Operator

/-- A rule without its sign, and whether the sign asks for reversed results. -/
def stripReverse (rule : Text) : Text × Bool :=
  match Text.trim rule with
  | '-' :: rest => (Text.trim rest, true)
  | '+' :: rest => (Text.trim rest, false)
  | rest => (rest, false)

namespace Operator

variable {α : Type}

/-- The first list that is not empty. -/
def firstNonEmpty : List (List α) → List α
  | [] => []
  | values :: rest => if values.isEmpty then firstNonEmpty rest else values

/-- Items of some lists at an index, in order. -/
def row (lists : List (List α)) (index : Nat) : List α :=
  lists.filterMap fun values => values[index]?

/-- The items of some lists in turns. -/
def roundRobin (lists : List (List α)) : List α :=
  (List.range (lists.foldl (fun most values => max most values.length) 0)).flatMap
    (row lists)

/-- The results of branches joined by an operator, or those of the only branch. -/
def combine : Option Operator → List (List α) → List α
  | none, lists => lists.headD []
  | some first, lists => firstNonEmpty lists
  | some all, lists => lists.flatten
  | some interleave, lists => roundRobin lists

end Operator

end RuleProbe
