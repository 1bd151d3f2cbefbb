import RuleProbe.Text.Basic

/-!
# Keyed lists

Values under text keys, in the order in which the keys first appeared.  Binding a
key again changes its value and keeps its place.
-/

namespace RuleProbe

/-- Values under keys, in insertion order. -/
abbrev Keyed (α : Type) := List (Text × α)

namespace Keyed

variable {α : Type}

/-- The value under `key`. -/
def get? : Keyed α → Text → Option α
  | [], _ => none
  | entry :: rest, key => if entry.1 == key then some entry.2 else get? rest key

/-- `key` has a value. -/
def has (entries : Keyed α) (key : Text) : Bool := (get? entries key).isSome

/-- The keys, in order. -/
def keys (entries : Keyed α) : List Text := entries.map (·.1)

/-- Bind `key` to `value`: in its place when it is bound already, else at the end. -/
def put : Keyed α → Text → α → Keyed α
  | [], key, value => [(key, value)]
  | entry :: rest, key, value =>
      if entry.1 == key then (key, value) :: rest else entry :: put rest key value

/-- Bind every key of `changes` to its value there, in order. -/
def update (entries changes : Keyed α) : Keyed α :=
  changes.foldl (fun result change => put result change.1 change.2) entries

/-- Remove `key`. -/
def remove (entries : Keyed α) (key : Text) : Keyed α :=
  entries.filter fun entry => entry.1 != key

end Keyed

end RuleProbe
