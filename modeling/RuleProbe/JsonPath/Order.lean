import RuleProbe.Json.Value
import RuleProbe.Numeral.Written

/-!
# Comparing JSON values

Numbers of both kinds and truth values compare as numbers, strings by their characters,
and arrays item by item; other pairs have no order.  A list is put in order by inserting
each item where half of the items before it, and half of those, and so on, lead; equal
items keep their order.
-/

namespace RuleProbe

namespace Json

/-- The number that a number or a truth value counts as. -/
def numeric? : Json → Option Float
  | .bool value => some (if value then 1 else 0)
  | .int value => some (Float.ofInt value)
  | .float value => some value
  | _ => none

mutual

/-- Two values are equal. -/
def same : Json → Json → Bool
  | .null, .null => true
  | .str a, .str b => a == b
  | .int a, .int b => a == b
  | .arr a, .arr b => sameItems a b
  | .obj a, .obj b => a.length == b.length && sameMembers a b
  | a, b =>
      match a.numeric?, b.numeric? with
      | some x, some y => x == y
      | _, _ => false
termination_by structural left => left

/-- Two lists of values are equal. -/
def sameItems : List Json → List Json → Bool
  | [], [] => true
  | a :: as, b :: bs => same a b && sameItems as bs
  | _, _ => false
termination_by structural left => left

/-- The members of an object stand in another one as well. -/
def sameMembers : List (Text × Json) → List (Text × Json) → Bool
  | [], _ => true
  | entry :: rest, others => sameMember entry others && sameMembers rest others
termination_by structural left => left

/-- A member stands among others. -/
def sameMember : Text × Json → List (Text × Json) → Bool
  | (key, value), others =>
      match Keyed.get? others key with
      | some other => same value other
      | none => false
termination_by structural left => left

end

/-- A text stands before another by the codes of its characters. -/
def textLess : Text → Text → Bool
  | _, [] => false
  | [], _ :: _ => true
  | a :: as, b :: bs => if a == b then textLess as bs else a.toNat < b.toNat

mutual

/-- A value stands before another; nothing is given for a pair without order. -/
def less? : Json → Json → Option Bool
  | .str a, .str b => some (textLess a b)
  | .int a, .int b => some (decide (a < b))
  | .arr a, .arr b => lessItems? a b
  | a, b =>
      match a.numeric?, b.numeric? with
      | some x, some y => some (x < y)
      | _, _ => none
termination_by structural left => left

/-- A list of values stands before another. -/
def lessItems? : List Json → List Json → Option Bool
  | [], rest => some (!rest.isEmpty)
  | _ :: _, [] => some false
  | a :: as, b :: bs => if same a b then lessItems? as bs else less? a b
termination_by structural left => left

end

end Json

namespace Sorting

variable {α : Type}

/-- The position at which an item is inserted between two positions of a list that is in
order: behind the items that do not stand after it.  `fuel` bounds the number of
halvings. -/
def position (less : α → α → Option Bool) (items : Array α) (item : α) :
    Nat → Nat → Nat → Option Nat
  | 0, low, _ => some low
  | fuel + 1, low, high =>
      if low < high then
        let middle := low + (high - low) / 2
        match items[middle]? with
        | none => some low
        | some other =>
            match less item other with
            | some true => position less items item fuel low middle
            | some false => position less items item fuel (middle + 1) high
            | none => none
      else some low

/-- Insert the remaining items one after the other. -/
def insertAll (less : α → α → Option Bool) : Array α → List α → Option (Array α)
  | sorted, [] => some sorted
  | sorted, item :: rest =>
      match position less sorted item (sorted.size + 1) 0 sorted.size with
      | some i => insertAll less ((sorted.extract 0 i).push item ++ sorted.extract i sorted.size) rest
      | none => none

/-- The items at the beginning that fall strictly, when the second falls below the
first, or else those that do not fall; last item first. -/
def leadingRun (less : α → α → Option Bool) (falling : Bool) :
    List α → List α → Option (List α × List α)
  | run, [] => some (run, [])
  | run, item :: rest =>
      match run with
      | [] => leadingRun less falling [item] rest
      | last :: _ =>
          match less item last with
          | some lower =>
              if lower == falling then leadingRun less falling (item :: run) rest
              else some (run, item :: rest)
          | none => none

/-- The items in order; nothing is given when two of them that are compared have none. -/
def sort? (less : α → α → Option Bool) (items : List α) : Option (List α) :=
  match items with
  | first :: second :: rest =>
      match less second first with
      | none => none
      | some falling =>
          match leadingRun less falling [second, first] rest with
          | none => none
          | some (run, rest) =>
              let start := if falling then run else run.reverse
              (insertAll less start.toArray rest).map Array.toList
  | items => some items

end Sorting

end RuleProbe
