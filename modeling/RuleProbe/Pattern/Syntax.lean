import RuleProbe.Text.Case
import RuleProbe.Text.Blank
import RuleProbe.Text.Letter

/-!
# Patterns

The abstract syntax of patterns over sequences of character codes.  A pattern
matches at a position of its subject, forward or, inside a look-behind, backward,
and records the spans of its groups.  Two notations are read into this one syntax,
so the points on which they differ are parameters of the nodes.
-/

namespace RuleProbe

namespace Pattern

/-- How characters that differ in case compare. -/
inductive CaseRule where
  /-- Only equal characters agree. -/
  | exact
  /-- ASCII letters agree with their other case. -/
  | ascii
  /-- Characters agree when the upper cases of their lower cases do. -/
  | full
  /-- Characters agree when their single-character upper cases do. -/
  | upper
  deriving DecidableEq, Inhabited

/-- A named class of characters. -/
inductive CharClass where
  /-- Decimal digits of every script. -/
  | digit
  /-- ASCII digits. -/
  | asciiDigit
  /-- Blanks. -/
  | blank
  /-- ASCII blanks. -/
  | asciiBlank
  /-- Blanks of scripts: no separators of records, but the byte order mark. -/
  | scriptBlank
  /-- Letters, numbers and the underscore. -/
  | word
  /-- ASCII letters, digits and the underscore. -/
  | asciiWord
  deriving DecidableEq, Inhabited

namespace CharClass

/-- A letter, digit or underscore of ASCII. -/
def isAsciiWord (code : Nat) : Bool :=
  Letter.isAsciiLetter code || Letter.isAsciiDigit code || code == 95

/-- The character belongs to the class. -/
def holds : CharClass → Nat → Bool
  | digit, code => Letter.isDecimal code
  | asciiDigit, code => Letter.isAsciiDigit code
  | blank, code => Blank.isBlankCode code
  | asciiBlank, code => code == 32 || (9 ≤ code && code ≤ 13)
  | scriptBlank, code =>
      if code < 128 then code == 32 || (9 ≤ code && code ≤ 13)
      else (Blank.isBlankCode code && code != 0x85) || code == 0xfeff
  | word, code => Letter.isWord code
  | asciiWord, code => isAsciiWord code

end CharClass

/-- A part of a character set. -/
inductive SetItem where
  /-- The characters from `low` to `high`. -/
  | range (low high : Nat)
  /-- The characters of a class, or those outside it. -/
  | named (negated : Bool) (charClass : CharClass)
  deriving Inhabited

/-- A condition on a position. -/
inductive Anchor where
  /-- The beginning of the subject. -/
  | start
  /-- The end of the subject. -/
  | stop
  /-- The end of the subject, or the line feed that ends it. -/
  | lastLine
  /-- The beginning of a line. -/
  | lineStart (isBreak : Nat → Bool)
  /-- The end of a line. -/
  | lineStop (isBreak : Nat → Bool)
  /-- A change between word characters and others. -/
  | boundary (charClass : CharClass)
  /-- The lack of such a change; `ifEmpty` tells whether an empty subject lacks one. -/
  | inside (ifEmpty : Bool) (charClass : CharClass)

/-- In which order a repetition tries its counts. -/
inductive Greed where
  /-- The highest count first. -/
  | greedy
  /-- The lowest count first. -/
  | lazy
  /-- The highest count only. -/
  | possessive
  deriving DecidableEq

/-- A pattern. -/
inductive Node where
  /-- Matches everywhere, consuming nothing. -/
  | empty
  /-- Matches nowhere. -/
  | fail
  /-- One character. -/
  | char (rule : CaseRule) (code : Nat)
  /-- One character of a set, or outside it. -/
  | set (rule : CaseRule) (negated : Bool) (items : List SetItem)
  /-- One pattern after another. -/
  | seq (first second : Node)
  /-- One pattern or another, the first preferred. -/
  | alt (first second : Node)
  /-- A pattern whose span is recorded. -/
  | group (index : Nat) (body : Node)
  /-- A pattern repeated between `low` and `high` times.  Each iteration forgets the
  groups listed in `forget`; an iteration that is not required may consume nothing
  only when `emptyTurn` is set. -/
  | repeat (greed : Greed) (low : Nat) (high : Option Nat) (forget : List Nat)
      (emptyTurn : Bool) (body : Node)
  /-- The text that a group matched; `ifUnset` tells whether a group without a span
  counts as empty. -/
  | backref (rule : CaseRule) (ifUnset : Bool) (index : Nat)
  /-- A pattern that must match, or must not, from here forward or backward. -/
  | look (ahead : Bool) (negated : Bool) (body : Node)
  /-- A pattern of which only the first way to match counts. -/
  | atomic (body : Node)
  /-- A condition on the position. -/
  | anchor (condition : Anchor)
  /-- One pattern when a group has a span, another when it has none. -/
  | branch (index : Nat) (yes no : Node)

instance : Inhabited Node := ⟨.empty⟩

/-- The patterns one after another. -/
def Node.sequence : List Node → Node
  | [] => .empty
  | [node] => node
  | node :: rest => .seq node (sequence rest)

/-- The patterns as alternatives. -/
def Node.choice : List Node → Node
  | [] => .fail
  | [node] => node
  | node :: rest => .alt node (choice rest)

end Pattern

/-- A pattern ready for matching. -/
structure Pattern where
  /-- What it matches. -/
  root : Pattern.Node
  /-- The number of its groups. -/
  groupCount : Nat
  /-- The names of groups, with their indices. -/
  names : List (Text × Nat)

instance : Inhabited Pattern := ⟨⟨.empty, 0, []⟩⟩

end RuleProbe
