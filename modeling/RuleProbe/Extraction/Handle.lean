import RuleProbe.Fault
import RuleProbe.Json.Reader
import RuleProbe.Json.Writer
import RuleProbe.Markup.Writer
import RuleProbe.Mended.Page
import RuleProbe.Mended.Writer

/-!
# Documents and handles

A document is one body in its three views: as markup, as a mended page and as JSON.  A
handle points to something inside a document; it can be written as markup and read as
text, and it belongs to the document that gave it.
-/

namespace RuleProbe

namespace Extraction

/-- The JSON value of a text that begins like an object or an array. -/
def readJson (text : Text) : Except Defect (Option Json) :=
  let text := text.trim
  if text.startsWith ['\x7b'] || text.startsWith ['['] then
    match Json.read text with
    | .ok value => .ok (some value)
    | .error .malformed => .ok none
    | .error .integerTooLong => .error (.longInteger text)
    | .error .tooDeep => .error (.deepNesting text)
  else .ok none

/-- A document. -/
structure Document where
  /-- The number that tells it from other documents. -/
  serial : Nat
  /-- The text. -/
  body : Text
  /-- The text as markup. -/
  tree : Except Fault Markup.Tree
  /-- The text as a mended page, when it has content. -/
  page : Option Mended.Page
  /-- The text as JSON, when it is. -/
  json : Except Defect (Option Json)

/-- Read a document. -/
def Document.ofBody (serial : Nat) (body : Text) : Document :=
  { serial, body
    tree := Markup.read body
    page := Mended.Page.read? body
    json := readJson body }

/-- What a handle points to. -/
inductive Target where
  /-- A node of markup. -/
  | node (tree : Markup.Tree) (position : Nat)
  /-- A node of a mended document. -/
  | mended (document : Mended.Document) (position : Nat)
  /-- A JSON value. -/
  | value (value : Json)
  /-- The groups of a match, the whole match first. -/
  | groups (groups : List (Option Text))
  deriving Inhabited

/-- A pointer into a document. -/
structure Handle where
  /-- The number of the document. -/
  document : Nat
  /-- What it points to. -/
  target : Target
  deriving Inhabited

/-- The first of some groups. -/
def wholeMatch (groups : List (Option Text)) : Text := (groups.head?.join).getD []

namespace Handle

/-- The markup of what a handle points to. -/
def markup (handle : Handle) : Text :=
  match handle.target with
  | .node tree i => tree.markup i
  | .mended document i => document.markup i
  | .value value => value.fieldText
  | .groups groups => wholeMatch groups

/-- The text of what a handle points to. -/
def text (handle : Handle) : Text :=
  match handle.target with
  | .node tree i => Text.trim (tree.textOf i)
  | .mended document i => Text.trim (document.textOf i)
  | .value value => value.fieldText
  | .groups groups => wholeMatch groups

/-- The value for a script of what a handle points to. -/
def scriptValue (handle : Handle) : Json :=
  match handle.target with
  | .value value => value
  | _ => .str handle.markup

/-- A handle points to an object or an array. -/
def isContainer (handle : Handle) : Bool :=
  match handle.target with
  | .value value => value.isContainer
  | _ => false

/-- A handle points to something that filters leave alone. -/
def isOpaque (handle : Handle) : Bool :=
  match handle.target with
  | .node _ _ => true
  | .mended _ _ => true
  | .value value => value.isContainer
  | .groups _ => false

end Handle

/-- A result of a rule. -/
inductive Found where
  /-- A value. -/
  | plain (value : Json)
  /-- A handle. -/
  | handle (handle : Handle)
  deriving Inhabited

namespace Found

/-- The text of a result. -/
def text : Found → Text
  | plain value => value.fieldText
  | handle pointer => pointer.text

/-- A result as a handle of a document. -/
def toHandle (serial : Nat) : Found → Handle
  | plain value => ⟨serial, .value value⟩
  | handle pointer => pointer

/-- Results as handles of a document. -/
def wrap (serial : Nat) (values : List Found) : List Found :=
  values.map fun value => handle (value.toHandle serial)

end Found

/-- The item of a list at a position, which counts from the end when it is negative. -/
def itemAt {α : Type} (items : List α) (index : Int) : Option α :=
  if 0 ≤ index then items[index.toNat]?
  else if (items.length : Int) + index < 0 then none
  else items[((items.length : Int) + index).toNat]?

/-- How the evaluation of a rule ended. -/
inductive Result where
  /-- With results. -/
  | found (values : List Found)
  /-- With a flaw of the rule. -/
  | failed (reason : Text)
  deriving Inhabited

namespace Result

/-- The results; none for a flawed rule. -/
def values : Result → List Found
  | found values => values
  | failed _ => []

/-- The reason for which a rule failed. -/
def reason? : Result → Option Text
  | found _ => none
  | failed reason => some reason

/-- The texts of the results. -/
def texts (result : Result) : List Text := result.values.map Found.text

/-- The texts of the results that are not empty. -/
def givenTexts (result : Result) : List Text := result.texts.filter fun text => !text.isEmpty

/-- The text of the first result, empty when there is none. -/
def firstText (result : Result) : Text := (result.values.head?.map Found.text).getD []

end Result

end Extraction

end RuleProbe
