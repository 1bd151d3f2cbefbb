import RuleProbe.Markup.Token
import RuleProbe.Markup.Tree

/-!
# Reading pages

The tree of a page follows its tags without mending them: an element ends at its end
tag, at that of an element around it or at the end of the page.  An end tag without an
open element is skipped, but it separates the text before it from the text after it.
An element that never has content ends at once; an end tag of its own is then skipped.
-/

namespace RuleProbe

namespace Markup

/-- The elements that have no content. -/
def voidNames : List Text := Text.words
  ("area base br col embed hr img input keygen link menuitem meta param source track wbr "
    ++ "basefont bgsound command frame image isindex nextid spacer").toList

/-- The element has no content. -/
def isVoidName (name : Text) : Bool := voidNames.elem name

/-- The elements whose text is kept apart from the text around them. -/
def enclosingNames : List Text := Text.words "rt rp style script template".toList

/-- The elements that keep their blanks. -/
def preformattedNames : List Text := Text.words "pre textarea".toList

/-- A blank of the kinds that a run of blanks may be reduced from. -/
def isPlainBlank (c : Char) : Bool :=
  c == ' ' || c == '\n' || c == '\t' || c == '\x0c' || c == '\r'

/-- A run of nothing but blanks, reduced to one of them. -/
def reduceBlanks (value : Text) : Text :=
  if value.all isPlainBlank then (if value.elem '\n' then ['\n'] else [' ']) else value

namespace Reader

/-- The state of the reader. -/
structure State where
  /-- The tree in the making. -/
  builder : Builder
  /-- The text since the last tag; nothing when there was none. -/
  pending : Option Text
  /-- Elements without content that ended at once, and whose end tag may follow. -/
  ended : List Text
  deriving Inhabited

/-- Add text to the text that is pending. -/
def State.collect (state : State) (value : Text) : State :=
  { state with pending := some (state.pending.getD [] ++ value) }

/-- The kind of text inside some open elements. -/
def kindInside (names : List Text) : TextKind :=
  match names.find? fun name => enclosingNames.elem name with
  | some name => .enclosed name
  | none => .plain

/-- Put the pending text into the tree, as a kind of its own or the one that belongs
there. -/
def State.flush (state : State) (kind : Option TextKind) : State :=
  match state.pending with
  | none => state
  | some value =>
      let names := state.builder.openNames
      let value :=
        if names.any preformattedNames.elem then value else reduceBlanks value
      { state with
        builder := state.builder.addText (kind.getD (kindInside names)) value
        pending := none }

/-- Close the innermost open element of a name, and all inside it. -/
def State.close (state : State) (name : Text) : State :=
  let state := state.flush none
  match state.builder.openNames.findIdx? (· == name) with
  | some depth => { state with builder := Builder.leaveMany (depth + 1) state.builder }
  | none => state

/-- Open an element. -/
def State.enter (state : State) (name : Text) (attributes : List (Text × Text)) : State :=
  let state := state.flush none
  { state with builder := state.builder.enter name (Keyed.update [] attributes) }

/-- Put a text of a kind of its own into the tree. -/
def State.insert (state : State) (kind : TextKind) (value : Text) : State :=
  ((state.flush none).collect value).flush (some kind)

/-- Follow an end tag. -/
def State.endTag (state : State) (name : Text) : State :=
  if state.ended.elem name then { state with ended := state.ended.erase name }
  else state.close name

/-- The kind and the text of a marked section. -/
def markedText (value : Text) : TextKind × Text :=
  if Text.upper (value.take 6) == "CDATA[".toList then (.cdata, value.drop 6)
  else (.declaration, value)

/-- Follow a token. -/
def State.step (state : State) : Token → State
  | .text value => state.collect value
  | .start name attributes closed =>
      let state := state.enter name attributes
      if closed then state.endTag name
      else if isVoidName name then
        let state := state.close name
        { state with ended := name :: state.ended }
      else state
  | .stop name => state.endTag name
  | .comment value => state.insert .comment value
  | .doctype value => state.insert .doctype value
  | .marked value =>
      let (kind, value) := markedText value
      state.insert kind value
  | .instruction value => state.insert .instruction value

/-- The tree that tokens give. -/
def ofTokens (tokens : List Token) : Tree :=
  let state := tokens.foldl State.step ⟨.empty, none, []⟩
  (state.flush none).builder.finish

end Reader

/-- Read a page. -/
def read (page : Text) : Except Fault Tree := (Token.scan page).map Reader.ofTokens

end Markup

end RuleProbe
