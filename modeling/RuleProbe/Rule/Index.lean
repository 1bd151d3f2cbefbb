import RuleProbe.Fault
import RuleProbe.Numeral.Written

/-!
# Index expressions

An index expression picks items of a list: `0,2` two of them, `-1` the last one,
`1:5:2` a slice, and `!0` all but the first.  Whatever the order in which indices
are named, the items keep the order of the list.
-/

namespace RuleProbe

namespace IndexExpression

/-- A number, or nothing, inside an index expression: a sign and digits. -/
def isNumber (text : Text) : Bool :=
  match Text.trim text with
  | '-' :: digits => digits.all fun c => Letter.isDecimal c.toNat
  | digits => digits.all fun c => Letter.isDecimal c.toNat

/-- One part of an index expression: at most three numbers between colons. -/
def isPart (part : Text) : Bool :=
  let bits := Text.splitWhere (· == ':') [] part
  bits.length ≤ 3 && bits.all isNumber

/-- Drop the mark that excludes indices. -/
def dropMark : Text → Text
  | '!' :: rest => rest
  | text => text

/-- A text looks like an index expression. -/
def recognises (text : Text) : Bool :=
  let body := dropMark text.trim
  (body.any fun c => Letter.isDigit c.toNat || c == ':') &&
    (Text.splitWhere (· == ',') [] body).all isPart

/-- A number of an index expression; nothing when there is none. -/
def readNumber (text : Text) : Except Fault (Option Int) :=
  let text := text.trim
  if text.isEmpty then .ok none
  else
    match Integer.read? text with
    | some n => .ok (some n)
    | none => .error (.rule (.index text))

/-- What one part selects. -/
inductive Selection where
  /-- One index, counted from the end when negative. -/
  | single (index : Int)
  /-- Indices from `start` up to `stop`, every `step`-th of them. -/
  | slice (start stop : Option Int) (step : Nat)
  deriving DecidableEq, Inhabited

/-- A bound of a slice as a position in a list of a length. -/
def clamp (length : Nat) (bound : Int) : Nat :=
  if bound < 0 then (bound + length).toNat else min bound.toNat length

/-- The selection holds an index of a list of a length. -/
def Selection.holds (length : Nat) (i : Nat) : Selection → Bool
  | single index =>
      let position := if index < 0 then index + length else index
      position == i
  | slice start stop step =>
      let first := (start.map (clamp length)).getD 0
      let last := (stop.map (clamp length)).getD length
      step != 0 && first ≤ i && i < last && (i - first) % step == 0

/-- The selection of a part that is not blank. -/
def readPart (part : Text) : Except Fault Selection :=
  if part.elem ':' then
    match Text.splitWhere (· == ':') [] part with
    | [a, b] => do
        let start ← readNumber a
        let stop ← readNumber b
        .ok (.slice start stop 1)
    | [a, b, c] => do
        let start ← readNumber a
        let stop ← readNumber b
        let step ← readNumber c
        .ok (.slice start stop (step.getD 1).natAbs)
    | _ => .error (.rule (.slice part))
  else do
    match ← readNumber part with
    | some index => .ok (.single index)
    | none => .error (.rule (.index part))

/-- The selections of parts; blank parts select nothing. -/
def readParts : List Text → Except Fault (List Selection)
  | [] => .ok []
  | part :: rest => do
      let part := part.trim
      if part.isEmpty then readParts rest
      else
        let selection ← readPart part
        let others ← readParts rest
        .ok (selection :: others)

/-- An index expression that has been read. -/
structure Reading where
  /-- The indices named are left out, instead of picked. -/
  excludes : Bool
  /-- What the parts select. -/
  selections : List Selection
  deriving Inhabited

/-- The indices of a list of a length that a reading picks, in increasing order. -/
def Reading.indices (reading : Reading) (length : Nat) : List Nat :=
  (List.range length).filter fun i =>
    (reading.selections.any fun selection => selection.holds length i) != reading.excludes

/-- An expression without the brackets around it. -/
def dropBrackets (text : Text) : Text :=
  if text.startsWith ['['] && text.endsWith [']'] then
    Text.trim ((text.drop 1).dropLast)
  else text

/-- Read an index expression. -/
def read (text : Text) : Except Fault Reading :=
  let body := dropBrackets text.trim
  let excludes := body.startsWith ['!']
  (readParts (Text.splitWhere (· == ',') [] (dropMark body))).map fun selections =>
    ⟨excludes, selections⟩

/-- The indices of a list of a length that an expression picks. -/
def indices (text : Text) (length : Nat) : Except Fault (List Nat) :=
  (read text).map fun reading => reading.indices length

/-- The items of a list that an expression picks. -/
def select {α : Type} (items : List α) (text : Text) : Except Fault (List α) :=
  (indices text items.length).map fun picked => picked.filterMap fun i => items[i]?

end IndexExpression

end RuleProbe
