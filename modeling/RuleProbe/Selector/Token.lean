import RuleProbe.Markup.Entity
import RuleProbe.Selector.Syntax
import RuleProbe.Text.Case
import RuleProbe.Text.Letter

/-!
# Tokens of selectors

A selector falls into names, classes, identifiers, tests of attributes, pseudo-classes
and combinators.  Blanks and comments separate them; an escape writes a character by
its code or takes it out of its role.
-/

namespace RuleProbe

namespace Selector

/-- What combines two parts of a selector. -/
inductive Combinator where
  | comma
  | child
  | previous
  | earlier
  | descendant
  deriving DecidableEq, Inhabited

/-- A token of a selector. -/
inductive Token where
  /-- The end of a nested selector. -/
  | close
  /-- A test of the text. -/
  | contains (own : Bool) (texts : List Text)
  /-- Positions among siblings; `opens` when a nested selector follows. -/
  | position (positions : Positions) (opens : Bool)
  /-- Languages. -/
  | language (languages : List Text)
  /-- A writing direction. -/
  | direction
  /-- A pseudo-class; `opens` when something in brackets follows. -/
  | pseudo (name : Text) (opens : Bool)
  /-- The element where the search begins. -/
  | scope
  /-- An identifier. -/
  | identifier (value : Text)
  /-- A class. -/
  | ofClass (value : Text)
  /-- A name, with the name of its namespace. -/
  | name (space : Option Text) (name : Text)
  /-- A test of an attribute; `negated` when it must fail. -/
  | attributeIs (test : AttributeTest) (negated : Bool)
  /-- A combinator. -/
  | combinator (combinator : Combinator)
  deriving Inhabited

namespace Token

/-! ## Blanks, escapes and names -/

/-- A blank of a selector. -/
def isBlank (c : Char) : Bool :=
  c == ' ' || c == '\t' || c == '\n' || c == '\r' || c == '\x0c'

/-- What follows a comment at the beginning of a text. -/
def comment? (text : Text) : Option Text :=
  if text.startsWith ['/', '*'] then (Text.cut? ['*', '/'] (text.drop 2)).map (·.2) else none

/-- Skip blanks and comments. -/
def skipBlanks : Nat → Text → Text
  | 0, text => text
  | fuel + 1, text =>
      match text with
      | [] => []
      | c :: rest =>
          if isBlank c then skipBlanks fuel rest
          else
            match comment? text with
            | some rest => skipBlanks fuel rest
            | none => text

/-- Skip all blanks and comments. -/
def skip (text : Text) : Text := skipBlanks text.length text

/-- A character that may begin a name. -/
def isStart (c : Char) : Bool := Letter.isAsciiLetter c.toNat || c == '_' || 0xa0 ≤ c.toNat

/-- A character that may stand in a name. -/
def isPart (c : Char) : Bool := isStart c || c == '-' || Entity.isDigit c

/-- The length of the escape after a backslash. -/
def escapeLength (text : Text) : Option Nat :=
  let digits := (text.takeWhile Entity.isHexDigit).take 6
  if !digits.isEmpty then
    match text.drop digits.length with
    | '\r' :: '\n' :: _ => some (digits.length + 2)
    | c :: _ => some (digits.length + if isBlank c then 1 else 0)
    | [] => some digits.length
  else
    match text with
    | [] => some 0
    | c :: _ => if c == '\r' || c == '\n' || c == '\x0c' then none else some 1

/-- The length of the longest run of characters that satisfy a test, and of escapes. -/
def runLength (test : Char → Bool) : Nat → Text → Nat
  | 0, _ => 0
  | fuel + 1, text =>
      match text with
      | [] => 0
      | '\\' :: rest =>
          match escapeLength rest with
          | some length => 1 + length + runLength test fuel (rest.drop length)
          | none => 0
      | c :: rest => if test c then 1 + runLength test fuel rest else 0

/-- The length of the name at the beginning of a text; zero when there is none. -/
def nameLength (text : Text) : Nat :=
  let fuel := text.length
  let dash := if text.startsWith ['-'] then 1 else 0
  let start := runLength isStart fuel (text.drop dash)
  if 0 < start then
    dash + start + runLength isPart fuel (text.drop (dash + start))
  else if text.startsWith ['-', '-'] then 2 + runLength isPart fuel (text.drop 2)
  else 0

/-- The name at the beginning of a text, as it stands there, and what follows it. -/
def rawName? (text : Text) : Option (Text × Text) :=
  let length := nameLength text
  if length == 0 then none else some (text.take length, text.drop length)

/-- Replace escapes.  Inside a string, an escaped line end stands for nothing. -/
def unescapeAux (inString : Bool) : Nat → Text → Text
  | 0, text => text
  | fuel + 1, text =>
      match text with
      | [] => []
      | '\\' :: rest =>
          let digits := (rest.takeWhile Entity.isHexDigit).take 6
          let after := rest.drop digits.length
          let isCode := !digits.isEmpty && (after.head?.any isBlank)
          if isCode then
            let code := Entity.hexNumber digits
            let after := if Text.startsWith after ['\r', '\n'] then after.drop 2 else after.drop 1
            Char.ofNat (if code == 0 || Entity.isOutside code then 0xfffd else code) ::
              unescapeAux inString fuel after
          else
            match rest with
            | [] => ['\uFFFD']
            | c :: rest =>
                if c == '\r' || c == '\n' || c == '\x0c' then
                  if inString then
                    let rest :=
                      if c == '\r' && Text.startsWith rest ['\n'] then rest.drop 1 else rest
                    unescapeAux inString fuel rest
                  else '\\' :: c :: unescapeAux inString fuel rest
                else c :: unescapeAux inString fuel rest
      | c :: rest => c :: unescapeAux inString fuel rest

/-- A text with its escapes replaced. -/
def unescape (inString : Bool) (text : Text) : Text := unescapeAux inString text.length text

/-- The name at the beginning of a text, and what follows it. -/
def name? (text : Text) : Option (Text × Text) :=
  (rawName? text).map fun found => (unescape false found.1, found.2)

/-- The length of a quoted string, up to the closing quotation mark. -/
def stringLength (quote : Char) : Text → Option Nat
  | [] => none
  | ['\\'] => none
  | '\\' :: _ :: rest => (stringLength quote rest).map (· + 2)
  | c :: rest =>
      if c == quote then some 0
      else if c == '\r' || c == '\n' || c == '\x0c' then none
      else (stringLength quote rest).map (· + 1)

/-- The names that stand at the beginning of a text without anything between them. -/
def names? : Nat → Text → Option (Text × Text)
  | 0, _ => none
  | fuel + 1, text =>
      match rawName? text with
      | none => none
      | some (first, rest) =>
          match names? fuel rest with
          | some (more, rest) => some (first ++ more, rest)
          | none => some (first, rest)

/-- A value at the beginning of a text: a quoted string, or a name. -/
def value? (text : Text) : Option (Text × Text) :=
  match text with
  | c :: rest =>
      if c == '"' || c == '\'' then
        (stringLength c rest).map fun length =>
          (unescape true (rest.take length), rest.drop (length + 1))
      else (names? text.length text).map fun found => (unescape false found.1, found.2)
  | [] => none

/-! ## Attributes -/

/-- The comparison that a sign before the equals sign asks for. -/
def comparisonOf : Char → Comparison
  | '^' => .beginning
  | '$' => .ending
  | '*' => .containing
  | '~' => .word
  | '|' => .dashed
  | _ => .equal

/-- The comparison at the beginning of a text: its kind, whether it must fail, and what
follows it. -/
def comparison? (text : Text) : Option (Comparison × Bool × Text) :=
  match text with
  | '=' :: rest => some (.equal, false, rest)
  | c :: '=' :: rest =>
      if "!~^|*$".toList.elem c then some (comparisonOf c, c == '!', rest) else none
  | _ => none

/-- Drop the namespace before the name of an attribute. -/
def dropSpace (text : Text) : Text :=
  match text with
  | '|' :: rest => if Text.startsWith rest ['='] then text else rest
  | '*' :: '|' :: rest => rest
  | _ =>
      match rawName? text with
      | some (_, '|' :: rest) => if Text.startsWith rest ['='] then text else rest
      | _ => text

/-- The test of an attribute, after its opening bracket. -/
def attributeTest? (text : Text) : Option (Token × Text) := do
  let (key, rest) ← name? (dropSpace (skip text))
  let isType := key.lower == "type".toList
  let rest := skip rest
  match rest with
  | ']' :: rest => some (.attributeIs ⟨key, .present, [], false⟩ false, rest)
  | _ =>
      let (comparison, negated, rest) ← comparison? rest
      let (value, rest) ← value? (skip rest)
      let rest := skip rest
      match rest with
      | ']' :: rest => some (.attributeIs ⟨key, comparison, value, isType⟩ negated, rest)
      | c :: rest =>
          let ignores := c == 'i' || c == 'I'
          if ignores || c == 's' || c == 'S' then
            match skip rest with
            | ']' :: rest =>
                some (.attributeIs ⟨key, comparison, value, ignores⟩ negated, rest)
            | _ => none
          else none
      | [] => none

/-! ## Pseudo-classes -/

/-- What follows a closing bracket, blanks before it aside. -/
def closed? (text : Text) : Option Text :=
  match skip text with
  | ')' :: rest => some rest
  | _ => none

/-- Values separated by commas, up to a closing bracket. -/
def values? : Nat → Text → Option (List Text × Text)
  | 0, _ => none
  | fuel + 1, text => do
      let (value, rest) ← value? text
      match skip rest with
      | ')' :: rest => some ([value], rest)
      | ',' :: rest => do
          let (others, rest) ← values? fuel (skip rest)
          some (value :: others, rest)
      | _ => none

/-- A sign, as a factor, and what follows it. -/
def sign : Text → Int × Text
  | '-' :: rest => (-1, rest)
  | '+' :: rest => (1, rest)
  | text => (1, text)

/-- The number that digits write, unless they are too many. -/
def count? (digits : Text) : Option Int :=
  if Integer.digitLimit < digits.length then none else some (Integer.readAscii digits)

/-- Positions at the beginning of a text: step, whether they repeat, and offset. -/
def positions? (text : Text) : Option ((Int × Bool × Int) × Text) :=
  let word (n : Nat) : Text := Text.lower (text.take n)
  if word 4 == "even".toList then some ((2, true, 0), text.drop 4)
  else if word 3 == "odd".toList then some ((2, true, 1), text.drop 3)
  else
    let (factor, rest) := sign text
    let digits := rest.takeWhile Entity.isDigit
    let after := rest.drop digits.length
    match after with
    | c :: more =>
        if c == 'n' || c == 'N' then
          let size? : Option Int := if digits.isEmpty then some 1 else count? digits
          let next := skip more
          size?.bind fun size =>
            match next with
            | s :: _ =>
                if s == '-' || s == '+' then
                  let (factor₂, offset) := sign next
                  let offset := skip offset
                  let digits := offset.takeWhile Entity.isDigit
                  if digits.isEmpty then some ((factor * size, true, 0), more)
                  else
                    (count? digits).map fun distance =>
                      ((factor * size, true, factor₂ * distance), offset.drop digits.length)
                else some ((factor * size, true, 0), more)
            | [] => some ((factor * size, true, 0), more)
        else if digits.isEmpty then none
        else (count? digits).map fun size => ((factor * size, false, 0), after)
    | [] =>
        if digits.isEmpty then none
        else (count? digits).map fun size => ((factor * size, false, 0), after)

/-- What follows the word that announces a nested selector; a blank stands on both
sides of it. -/
def nestedAfter? (text : Text) : Option Text :=
  let rest := skip text
  let after := rest.drop 2
  let next := skip after
  if rest.length < text.length && Text.lower (rest.take 2) == "of".toList &&
      next.length < after.length then some next
  else none

/-- Positions, after the opening bracket. -/
def positionToken? (sameName fromEnd : Bool) (text : Text) : Option (Token × Text) := do
  let ((step, repeats, offset), rest) ← positions? text
  let positions : Positions := ⟨step, repeats, offset, sameName, fromEnd⟩
  match closed? rest with
  | some rest => some (.position positions false, rest)
  | none =>
      if sameName then none
      else (nestedAfter? rest).map fun rest => (.position positions true, rest)

/-- A pseudo-class with a notation of its own, after its opening bracket. -/
def special? (name text : Text) : Option (Token × Text) :=
  let values := values? (text.length + 1) text
  match String.ofList name with
  | "contains" => values.map fun found => (.contains false found.1, found.2)
  | "-soup-contains" => values.map fun found => (.contains false found.1, found.2)
  | "-soup-contains-own" => values.map fun found => (.contains true found.1, found.2)
  | "nth-child" => positionToken? false false text
  | "nth-last-child" => positionToken? false true text
  | "nth-of-type" => positionToken? true false text
  | "nth-last-of-type" => positionToken? true true text
  | "lang" => values.map fun found => (.language found.1, found.2)
  | "dir" =>
      let word := Text.lower (text.take 3)
      if word == "ltr".toList || word == "rtl".toList then
        (closed? (text.drop 3)).map fun rest => (.direction, rest)
      else none
  | _ => none

/-- A pseudo-class, after its colon. -/
def pseudo? (text : Text) : Option (Token × Text) :=
  match name? text with
  | none => none
  | some (found, rest) =>
      let label := found.lower
      if text.startsWith ['-', '-'] then none
      else
        match rest with
        | '(' :: rest =>
            let inside := skip rest
            match special? label inside with
            | some found => some found
            | none => some (.pseudo label true, inside)
        | _ => some (.pseudo label false, rest)

/-! ## Names and combinators -/

/-- A name with its namespace. -/
def tag? (text : Text) : Option (Token × Text) :=
  let part (text : Text) : Option (Text × Text) :=
    match text with
    | '*' :: rest => some (['*'], rest)
    | _ => name? text
  let spaced (space : Text) (rest : Text) : Option (Token × Text) :=
    (part rest).map fun found => (.name (some space) found.1, found.2)
  match text with
  | '|' :: rest => spaced [] rest
  | _ =>
      match part text with
      | none => none
      | some (word, rest) =>
          let plain := (Token.name none word, rest)
          match rest with
          | '|' :: after => some ((spaced word after).getD plain)
          | _ => some plain

/-- The combinator of a character. -/
def combinatorOf : Char → Option Combinator
  | ',' => some .comma
  | '>' => some .child
  | '+' => some .previous
  | '~' => some .earlier
  | _ => none

/-- A combinator.  A blank counts as one unless another combinator follows directly;
`fuel` bounds the number of blanks and comments before it. -/
def combinator? : Nat → Text → Option (Token × Text)
  | 0, _ => none
  | fuel + 1, text =>
      match text with
      | [] => none
      | c :: rest =>
          match combinatorOf c with
          | some found => some (.combinator found, skip rest)
          | none =>
              if isBlank c then
                let rest := if c == '\r' && Text.startsWith rest ['\n'] then rest.drop 1 else rest
                if (rest.head?.bind combinatorOf).isSome then combinator? fuel rest
                else some (.combinator .descendant, skip rest)
              else (comment? text).bind (combinator? fuel)

/-! ## The scan -/

/-- The token at the beginning of a text that is not empty, and what follows it. -/
def next? (text : Text) : Option (Token × Text) :=
  match closed? text with
  | some rest => some (.close, rest)
  | none =>
      match text with
      | ':' :: rest => pseudo? rest
      | '&' :: rest => some (.scope, rest)
      | '#' :: rest => (name? rest).map fun found => (.identifier found.1, found.2)
      | '.' :: rest => (name? rest).map fun found => (.ofClass found.1, found.2)
      | '[' :: rest => attributeTest? rest
      | _ =>
          match tag? text with
          | some found => some found
          | none => combinator? (text.length + 1) text

/-- The tokens of a text; nothing when it has a part that is none. -/
def scanAux : Nat → Text → Option (List Token)
  | 0, _ => some []
  | fuel + 1, text =>
      if (skip text).isEmpty then some []
      else do
        let (token, rest) ← next? text
        let tokens ← scanAux fuel rest
        some (token :: tokens)

/-- The tokens of a selector. -/
def scan (text : Text) : Option (List Token) :=
  let text := text.map fun c => if c == '\x00' then '\uFFFD' else c
  scanAux (text.length + 1) (skip text)

end Token

end Selector

end RuleProbe
