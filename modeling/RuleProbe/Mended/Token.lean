import RuleProbe.Markup.Entity
import RuleProbe.Mended.Closing
import RuleProbe.Text.Letter
import RuleProbe.Text.Basic

/-!
# Tokens of a mended document

The tokens of a document as browsers read it.  Every text has tokens: what opens no tag
is text, a declaration that is none is a comment, and a tag that the document breaks
off is left out.
-/

namespace RuleProbe

namespace Mended

/-- An attribute: its name, and its value when there is one. -/
structure Attribute where
  /-- The name. -/
  name : Text
  /-- The value. -/
  value : Option Text
  deriving DecidableEq, Inhabited

/-- A token. -/
inductive Token where
  /-- Text, with its references replaced. -/
  | text (value : Text)
  /-- Text that stands as it is. -/
  | raw (value : Text)
  /-- A start tag; `closed` when it ends in a slash. -/
  | start (name : Text) (attributes : List Attribute) (closed : Bool)
  /-- An end tag. -/
  | stop (name : Text)
  /-- A comment. -/
  | comment (value : Text)
  deriving Inhabited

namespace Token

/-- A blank of markup. -/
def isSpace (c : Char) : Bool := c == ' ' || c == '\t' || c == '\n' || c == '\x0c' || c == '\r'

/-- A letter of the basic alphabet. -/
def isLetter (c : Char) : Bool := Letter.isAsciiLetter c.toNat

/-- A letter of the basic alphabet in its small form. -/
def small (c : Char) : Char :=
  if 'A'.toNat ≤ c.toNat && c.toNat ≤ 'Z'.toNat then Char.ofNat (c.toNat + 32) else c

/-- Line ends in their short form. -/
def unifyBreaks : Text → Text
  | [] => []
  | '\r' :: '\n' :: rest => '\n' :: unifyBreaks rest
  | '\r' :: rest => '\n' :: unifyBreaks rest
  | c :: rest => c :: unifyBreaks rest

/-! ## References -/

/-- A reference by name inside a value stands for itself when more of a name follows. -/
def staysInValue (rest : Text) (length : Nat) : Bool :=
  match rest with
  | '#' :: _ => false
  | _ =>
      !((rest.take length).getLast? == some ';') &&
        match rest.drop length with
        | c :: _ => c == '=' || isLetter c || Entity.isDigit c
        | [] => false

/-- The value of an attribute with its references replaced. -/
def decodeValue (text : Text) : Text :=
  Text.rewrite (fun source =>
    match source with
    | '&' :: rest =>
        match Entity.reference? rest with
        | some (value, length) =>
            if staysInValue rest length then none else some (value, length + 1)
        | none => none
    | _ => none) text

/-! ## Tags -/

/-- A character that ends the name of a tag. -/
def endsName (c : Char) : Bool := isSpace c || c == '/' || c == '>'

/-- The value of an attribute and the rest, from behind the equals sign; nothing when a
quotation mark is never closed. -/
def value? (text : Text) : Option (Text × Text) :=
  match text.dropWhile isSpace with
  | c :: rest =>
      if c == '"' || c == '\'' then Text.cut? [c] rest
      else
        let keeps := fun d => !(isSpace d || d == '>')
        some ((c :: rest).takeWhile keeps, (c :: rest).dropWhile keeps)
  | [] => none

/-- The attributes of a tag, whether it ends in a slash, and what follows the tag;
nothing when the tag is broken off.  `fuel` bounds the number of steps. -/
def attributes? : Nat → Text → Option (List Attribute × Bool × Text)
  | 0, _ => none
  | fuel + 1, source =>
      match source.dropWhile isSpace with
      | [] => none
      | '>' :: rest => some ([], false, rest)
      | '/' :: '>' :: rest => some ([], true, rest)
      | '/' :: rest => attributes? fuel rest
      | c :: rest =>
          let keeps := fun d => !(endsName d || d == '=')
          let name := (c :: rest.takeWhile keeps).map small
          let after := rest.dropWhile keeps
          match after.dropWhile isSpace with
          | '=' :: more =>
              match value? more with
              | some (value, rest) =>
                  (attributes? fuel rest).map fun found =>
                    (⟨name, some (decodeValue value)⟩ :: found.1, found.2)
              | none => none
          | more => (attributes? fuel more).map fun found => (⟨name, none⟩ :: found.1, found.2)

/-- A tag from its name on: the name, the attributes, whether it ends in a slash, and
what follows it. -/
def tag? (text : Text) : Option (Text × List Attribute × Bool × Text) :=
  let name := (text.takeWhile fun c => !endsName c).map small
  (attributes? (text.length + 1) (text.drop name.length)).map fun found => (name, found)

/-- The first attributes of each name. -/
def firstOfEach : List Text → List Attribute → List Attribute
  | _, [] => []
  | seen, found :: rest =>
      if seen.elem found.name then firstOfEach seen rest
      else found :: firstOfEach (found.name :: seen) rest

/-! ## Comments -/

/-- The content of a comment and what follows it: it ends in two hyphens and an angle
bracket, with an exclamation mark before the bracket or without, or with the
document. -/
def commentBody : Text → Text → Text × Text
  | before, [] => (before.reverse, [])
  | before, c :: rest =>
      match c, rest with
      | '-', '-' :: '>' :: after => (before.reverse, after)
      | '-', '-' :: '!' :: '>' :: after => (before.reverse, after)
      | _, _ => commentBody (c :: before) rest

/-- A comment from behind its opening. -/
def readComment (text : Text) : Text × Text :=
  match text with
  | '>' :: after => ([], after)
  | '-' :: '>' :: after => ([], after)
  | _ => commentBody [] text

/-- What stands before a closing bracket or the end of the document. -/
def upToBracket (text : Text) : Text × Text :=
  match Text.cut? ['>'] text with
  | some parts => parts
  | none => (text, [])

/-- A document type stands here. -/
def isDoctype (text : Text) : Bool := (text.take 7).map small == "doctype".toList

/-! ## The scan -/

/-- The content of an element that is taken as it stands, and the rest from its end tag
on. -/
def rawBody (name : Text) : Text → Text → Text × Text
  | before, [] => (before.reverse, [])
  | before, c :: rest =>
      let ends :=
        match c, rest with
        | '<', '/' :: more =>
            (more.take name.length).map small == name &&
              match more.drop name.length with
              | d :: _ => endsName d
              | [] => false
        | _, _ => false
      if ends then (before.reverse, c :: rest) else rawBody name (c :: before) rest

/-- The content of an element that begins with a start tag, when it is of its own
kind, and the rest. -/
def contentOf (name : Text) (rest : Text) : List Token × Text :=
  if rawNames.elem name then
    let (value, rest) := rawBody name [] rest
    (if value.isEmpty then [] else [.raw value], rest)
  else if plainNames.elem name then
    let (value, rest) := rawBody name [] rest
    (if value.isEmpty then [] else [.text (Entity.decode value)], rest)
  else if name == "plaintext".toList then ([.raw rest], [])
  else ([], rest)

/-- The tokens that stand at an opening angle bracket, which the text does not hold, and
the rest. -/
def bracketStep (text : Text) : List Token × Text :=
  match text with
  | [] => ([.text ['<']], [])
  | '!' :: '-' :: '-' :: rest =>
      let (value, rest) := readComment rest
      ([.comment value], rest)
  | '!' :: rest =>
      let (value, after) := upToBracket rest
      if isDoctype rest then ([], after) else ([.comment value], after)
  | '?' :: _ =>
      let (value, rest) := upToBracket text
      ([.comment value], rest)
  | '/' :: '>' :: rest => ([], rest)
  | '/' :: [] => ([.text ['<', '/']], [])
  | '/' :: c :: rest =>
      if isLetter c then
        match tag? (c :: rest) with
        | some (name, _, _, rest) => ([.stop name], rest)
        | none => ([], [])
      else
        let (value, rest) := upToBracket (c :: rest)
        ([.comment value], rest)
  | c :: rest =>
      if isLetter c then
        match tag? (c :: rest) with
        | some (name, attributes, closed, rest) =>
            let (content, rest) := if closed then ([], rest) else contentOf name rest
            (.start name (firstOfEach [] attributes) closed :: content, rest)
        | none => ([], [])
      else ([.text ['<']], text)

/-- The tokens of a text; `fuel` bounds the number of steps. -/
def run : Nat → Text → List Token
  | 0, _ => []
  | _, [] => []
  | fuel + 1, c :: rest =>
      if c == '<' then
        let (tokens, rest) := bracketStep rest
        tokens ++ run fuel rest
      else
        let plain := (c :: rest).takeWhile fun d => d != '<'
        .text (Entity.decode plain) :: run fuel ((c :: rest).drop plain.length)

/-- The tokens of a document. -/
def scan (text : Text) : List Token :=
  let text := unifyBreaks text
  run (text.length + 1) text

end Token

end Mended

end RuleProbe
