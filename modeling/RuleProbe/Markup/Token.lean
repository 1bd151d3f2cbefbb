import RuleProbe.Fault
import RuleProbe.Markup.Entity
import RuleProbe.Text.Case

/-!
# Tokens of hypertext

A page falls into tags, comments, declarations and the text between them.  Whatever is
not well formed counts as text, so that every page can be read; only a marked section
without a known name is refused, and a decimal reference of too many digits.  The scan runs twice over the end of a page: the
first run stops where more text could change the reading, and the second takes what is
left as it stands.
-/

namespace RuleProbe

namespace Markup

/-- A token. -/
inductive Token where
  /-- Text, with its references replaced. -/
  | text (value : Text)
  /-- A start tag; `closed` when it ends in a slash. -/
  | start (name : Text) (attributes : List (Text × Text)) (closed : Bool)
  /-- An end tag. -/
  | stop (name : Text)
  /-- A comment. -/
  | comment (value : Text)
  /-- A document type. -/
  | doctype (value : Text)
  /-- A marked section, with its name. -/
  | marked (value : Text)
  /-- A processing instruction. -/
  | instruction (value : Text)
  deriving Inhabited

namespace Token

/-! ## Tags -/

/-- A letter of the basic alphabet. -/
def isLetter (c : Char) : Bool := Letter.isAsciiLetter c.toNat

/-- A character that ends the name of a tag. -/
def endsName (c : Char) : Bool :=
  c == '\t' || c == '\n' || c == '\r' || c == '\x0c' || c == ' ' || c == '/' || c == '>' ||
    c == '\x00'

/-- The name of a tag and what follows it. -/
def tagName? : Text → Option (Text × Text)
  | c :: rest =>
      if isLetter c then
        some (c :: rest.takeWhile (fun d => !endsName d), rest.dropWhile fun d => !endsName d)
      else none
  | [] => none

/-- Skip blanks, and slashes that do not end the tag.  The last character before the
rest is given along. -/
def skipGap : Char → Text → Char × Text
  | last, [] => (last, [])
  | last, c :: rest =>
      if Text.isBlank c || (c == '/' && !(Text.startsWith rest ['>'])) then skipGap c rest
      else (last, c :: rest)

/-- The value of an attribute, after its equals signs and the blanks that follow them. -/
def bareValue (text : Text) : Text × Text :=
  let keeps := fun c => !(c == '>' || Text.isBlank c)
  (text.takeWhile keeps, text.dropWhile keeps)

/-- The value of an attribute, from its name on: the last character that was read,
the value and the rest.  A quotation mark that is never closed makes the value end
before it. -/
def value? (text : Text) : Option (Char × Text × Text) :=
  match text.dropWhile Text.isBlank with
  | '=' :: after =>
      let more := (after.takeWhile (· == '=')).length
      let gap := (after.drop more).takeWhile Text.isBlank
      let rest := after.drop (more + gap.length)
      let quoted? : Option (Char × Text × Text) :=
        match rest with
        | quote :: body =>
            if quote == '"' || quote == '\'' then
              (Text.cut? [quote] body).map fun parts => (quote, parts.1, parts.2)
            else none
        | [] => none
      let isQuote := (rest.head?.map fun c => c == '"' || c == '\'').getD false
      match quoted? with
      | some found => some found
      | none =>
          if !isQuote then
            let (value, rest) := bareValue rest
            some ('=', value, rest)
          else if !gap.isEmpty then some (' ', [], rest)
          else if 0 < more then
            let (value, rest) := bareValue rest
            some ('=', '=' :: value, rest)
          else none
  | _ => none

/-- The name of an attribute and what follows it.  A name stands after a blank, a slash
or a quotation mark. -/
def attributeName? (last : Char) (text : Text) : Option (Text × Text) :=
  if last == '"' || last == '\'' || last == '/' || Text.isBlank last then
    match text with
    | c :: rest =>
        if Text.isBlank c || c == '/' || c == '>' then none
        else
          let keeps := fun d => !(Text.isBlank d || d == '/' || d == '=' || d == '>')
          some (c :: rest.takeWhile keeps, rest.dropWhile keeps)
    | [] => none
  else none

/-- The attributes of a tag as they are written, with the last character before the rest,
and the rest.  `fuel` bounds their number. -/
def attributes : Nat → Char → Text → List (Text × Text) × Char × Text
  | 0, last, source => ([], last, source)
  | fuel + 1, last, source =>
      match attributeName? last source with
      | none => ([], last, source)
      | some (name, after) =>
          let (value, last, rest) :=
            match value? after with
            | some (last, value, rest) => (value, last, rest)
            | none => ([], name.getLast?.getD ' ', after)
          let (last, rest) := skipGap last rest
          let (others, last, rest) := attributes fuel last rest
          ((name.lower, value) :: others, last, rest)

/-- A start tag, from its name on, and what follows it; nothing in its place when the value
of an attribute cannot be read.  No token is given for a tag that is not finished; one that
is broken off becomes text. -/
def startTag? (text : Text) : Option (Option Token × Text) :=
  match tagName? text with
  | none => none
  | some (name, after) =>
      let (last, rest) := skipGap (name.getLast?.getD ' ') after
      let (found, _, rest) := attributes rest.length last rest
      let read (token : Token) : Option Token :=
        if found.any fun (_, value) => Entity.hasOverlong value then none else some token
      let decoded := found.map fun (name, value) => (name, Entity.decode value)
      match rest with
      | '>' :: rest => some (read (.start name.lower decoded false), rest)
      | '/' :: '>' :: rest => some (read (.start name.lower decoded true), rest)
      | [] => none
      | c :: _ =>
          if isLetter c || c == '=' || c == '/' then none
          else some (read (.text ('<' :: text.take (text.length - rest.length))), rest)

/-- A character that may stand in the name of a plain end tag. -/
def isEndNameChar (c : Char) : Bool :=
  isLetter c || Entity.isDigit c || c == '-' || c == '.' || c == ':' || c == '_'

/-- The name of an end tag that holds nothing but a name, after its slash, and what
follows the tag. -/
def plainEnd? (text : Text) : Option (Text × Text) :=
  match text.dropWhile Text.isBlank with
  | c :: rest =>
      if isLetter c then
        match (rest.dropWhile isEndNameChar).dropWhile Text.isBlank with
        | '>' :: after => some (c :: rest.takeWhile isEndNameChar, after)
        | _ => none
      else none
  | [] => none

/-- An end tag, after its slash, and what follows it. -/
def endTag? (text : Text) : Option (List Token × Text) :=
  match Text.cut? ['>'] text with
  | none => none
  | some (inside, after) =>
      match plainEnd? text with
      | some (name, rest) => some ([.stop name.lower], rest)
      | none =>
          match tagName? text with
          | some (name, rest) =>
              match Text.cut? ['>'] rest with
              | some (_, rest) => some ([.stop name.lower], rest)
              | none => some ([.stop name.lower], after)
          | none =>
              if inside.isEmpty then some ([], after) else some ([.comment inside], after)

/-! ## Comments and declarations -/

/-- Cut a text where some characters stand one after the other, blanks between them
aside: what stands before them and after them. -/
def cutSpaced (marks : Text) : Text → Text → Option (Text × Text)
  | _, [] => none
  | before, c :: rest =>
      match spaced marks (c :: rest) with
      | some after => some (before.reverse, after)
      | none => cutSpaced marks (c :: before) rest
where
  /-- What follows the characters at the beginning of a text. -/
  spaced : Text → Text → Option Text
    | [], source => some source
    | [mark], source => if source.startsWith [mark] then some (source.drop 1) else none
    | mark :: marks, source =>
        if source.startsWith [mark] then
          spaced marks ((source.drop 1).dropWhile Text.isBlank)
        else none

/-- A comment, after its opening, and what follows it: it ends in two hyphens and an
angle bracket, blanks between these aside. -/
def comment? : Text → Text → Option (Text × Text)
  | _, [] => none
  | before, c :: rest =>
      let finished? : Option Text :=
        if c == '-' && Text.startsWith rest ['-'] then
          match (rest.drop 1).dropWhile Text.isBlank with
          | '>' :: after => some after
          | _ => none
        else none
      match finished? with
      | some after => some (before.reverse, after)
      | none => comment? (c :: before) rest

/-- What a declaration gives. -/
inductive Declared where
  /-- A token, and what follows it. -/
  | found (token : Token) (rest : Text)
  /-- The declaration is not finished. -/
  | unfinished
  /-- The declaration is refused. -/
  | refused
  deriving Inhabited

/-- A character that may stand in the name of a marked section. -/
def isSectionNameChar (c : Char) : Bool :=
  isLetter c || Entity.isDigit c || c == '-' || c == '_' || c == '.'

/-- A marked section, after its opening. -/
def section? (text : Text) : Declared :=
  match text with
  | [] => .unfinished
  | c :: rest =>
      if !isLetter c then .refused
      else
        let name := Text.lower (c :: rest.takeWhile isSectionNameChar)
        let after := (rest.dropWhile isSectionNameChar).dropWhile Text.isBlank
        if after.isEmpty then .unfinished
        else
          let named := fun (names : List String) => names.any fun n => n.toList == name
          let cut :=
            if named ["temp", "cdata", "ignore", "include", "rcdata"] then
              some (cutSpaced [']', ']', '>'] [] text)
            else if named ["if", "else", "endif"] then some (cutSpaced [']', '>'] [] text)
            else none
          match cut with
          | some (some (inside, rest)) => .found (.marked inside) rest
          | some none => .unfinished
          | none => .refused

/-- What an exclamation mark after an angle bracket opens, from behind the mark. -/
def declaration (text : Text) : Declared :=
  if text.startsWith ['-', '-'] then
    match comment? [] (text.drop 2) with
    | some (value, rest) => .found (.comment value) rest
    | none => .unfinished
  else if text.startsWith ['['] then section? (text.drop 1)
  else
    match Text.cut? ['>'] text with
    | none => .unfinished
    | some (value, rest) =>
        if Text.lower (text.take 7) == "doctype".toList then
          .found (.doctype (value.drop 8)) rest
        else .found (.comment value) rest

/-! ## The scan -/

/-- The state of a scan: the element whose content is raw, if one is open. -/
abbrev Raw := Option Text

/-- Why a page is refused. -/
inductive Refusal where
  /-- A marked section has no known name. -/
  | markup
  /-- A decimal reference has too many digits. -/
  | reference
  deriving Inhabited

/-- The defect that refusing a page is. -/
def Refusal.defect (page : Text) : Refusal → Defect
  | markup => .rejectedMarkup page
  | reference => .longReference page

/-- What a step of the scan gives. -/
inductive Step where
  /-- Tokens, the state afterwards and the rest. -/
  | next (tokens : List Token) (raw : Raw) (rest : Text)
  /-- The scan stops here. -/
  | halt (tokens : List Token) (rest : Text)
  /-- The page is refused. -/
  | refused (refusal : Refusal)
  deriving Inhabited

/-- The end tag that closes raw content: what stands before it and after it. -/
def cutRaw (name : Text) : Text → Text → Option (Text × Text)
  | _, [] => none
  | before, c :: rest =>
      let closed? : Option Text :=
        if c == '<' && Text.startsWith rest ['/'] then
          match plainEnd? (rest.drop 1) with
          | some (found, after) => if found.lower == name then some after else none
          | none => none
        else none
      match closed? with
      | some after => some (before.reverse, after)
      | none => cutRaw name (c :: before) rest

/-- A text token, unless the text is empty. -/
def textTokens (text : Text) : List Token := if text.isEmpty then [] else [.text text]

/-- What stands at an angle bracket that opens nothing complete: in the final run it
is text, up to a closing bracket or the next opening one. -/
def asText (final : Bool) (text : Text) : Step :=
  if !final then .halt [] text
  else
    match Text.cut? ['>'] (text.drop 1) with
    | some (inside, rest) => .next [.text (text.take 1 ++ inside ++ ['>'])] none rest
    | none =>
        match Text.cut? ['<'] (text.drop 1) with
        | some (inside, rest) => .next [.text (text.take 1 ++ inside)] none ('<' :: rest)
        | none => .next [.text (text.take 1)] none (text.drop 1)

/-- The elements whose content is raw. -/
def isRawName (name : Text) : Bool := name == "script".toList || name == "style".toList

/-- A step at an opening angle bracket. -/
def bracketStep (final : Bool) (text : Text) : Step :=
  match text.drop 1 with
  | [] => .halt [] text
  | c :: rest =>
      if isLetter c then
        match startTag? (c :: rest) with
        | some (some (.start name attributes closed), after) =>
            let raw := if !closed && isRawName name then some name else none
            .next [.start name attributes closed] raw after
        | some (some token, after) => .next [token] none after
        | some (none, _) => .refused .reference
        | none => asText final text
      else if c == '/' then
        match endTag? rest with
        | some (tokens, after) => .next tokens none after
        | none => asText final text
      else if c == '?' then
        match Text.cut? ['>'] rest with
        | some (value, after) => .next [.instruction value] none after
        | none => asText final text
      else if c == '!' then
        match declaration rest with
        | .found token after => .next [token] none after
        | .unfinished => asText final text
        | .refused => .refused .markup
      else .next [.text ['<']] none (c :: rest)

/-- The character of a numeric reference inside text. -/
def numericText (number : Nat) : Text :=
  if Entity.isOutside number then ['\uFFFD'] else [Char.ofNat (Entity.westernCode number)]

/-- A numeric reference after its opening: the number and the rest.  Something must
follow the digits; a semicolon is taken along. -/
def numericReference? (text : Text) : Option (Nat × Text) :=
  let ended (number : Nat) : Text → Option (Nat × Text)
    | [] => none
    | ';' :: rest => some (number, rest)
    | c :: rest => if Entity.isHexDigit c then none else some (number, c :: rest)
  match text with
  | c :: rest =>
      if c == 'x' || c == 'X' then
        let digits := rest.takeWhile Entity.isHexDigit
        if digits.isEmpty then none
        else ended (Entity.hexNumber digits) (rest.drop digits.length)
      else
        let digits := text.takeWhile Entity.isDigit
        if digits.isEmpty then none
        else ended (Integer.readAscii digits) (text.drop digits.length)
  | [] => none

/-- A character that may stand in the name of a reference. -/
def isReferenceChar (c : Char) : Bool :=
  isLetter c || Entity.isDigit c || c == '-' || c == '.'

/-- A named reference after its ampersand: the name and the rest.  Something that is no
letter or digit must follow the name; a semicolon is taken along. -/
def namedReference? (text : Text) : Option (Text × Text) :=
  match text with
  | c :: rest =>
      if !isLetter c then none
      else
        let name := c :: rest.takeWhile isReferenceChar
        let after := rest.dropWhile isReferenceChar
        match after with
        | ';' :: after => some (name, after)
        | _ :: _ => some (name, after)
        | [] =>
            let tail := (name.reverse.takeWhile fun d => isLetter d || Entity.isDigit d).length
            if tail < name.length then
              let length := name.length - tail - 1
              some (name.take length, name.drop length)
            else none
  | [] => none

/-- A step at an ampersand. -/
def ampersandStep (final : Bool) (text : Text) : Step :=
  let rest := text.drop 1
  if Text.startsWith rest ['#'] then
    match numericReference? (rest.drop 1) with
    | some (number, after) =>
        if Entity.isOverlong text then .refused .reference
        else .next [.text (numericText number)] none after
    | none =>
        if text.contains [';'] then .halt [.text ['&', '#']] (rest.drop 1)
        else .halt [] text
  else
    match namedReference? rest with
    | some (name, after) =>
        let value :=
          match Entity.find? name with
          | some named => named.value
          | none => '&' :: name
        .next [.text value] none after
    | none =>
        match rest with
        | [] => .halt [] text
        | c :: more =>
            if !isLetter c then .next [.text ['&']] none rest
            else if final && more.isEmpty then .halt [] rest
            else .halt [] text

/-- One step of the scan. -/
def scanStep (final : Bool) (raw : Raw) (text : Text) : Step :=
  match raw with
  | some name =>
      match cutRaw name [] text with
      | some (inside, rest) => .next (textTokens inside ++ [.stop name]) none rest
      | none => .halt [] text
  | none =>
      let plain := text.takeWhile fun c => c != '&' && c != '<'
      let rest := text.drop plain.length
      let step : Step :=
        match rest with
        | [] => .next [] none []
        | c :: _ => if c == '<' then bracketStep final rest else ampersandStep final rest
      match step with
      | .next tokens raw rest => .next (textTokens plain ++ tokens) raw rest
      | .halt tokens rest => .halt (textTokens plain ++ tokens) rest
      | .refused refusal => .refused refusal

/-- A run of the scan: the tokens, the state and what is left.  `fuel` bounds the
number of steps. -/
def run (final : Bool) : Nat → Raw → Text → Except Refusal (List Token × Raw × Text)
  | 0, raw, source => .ok ([], raw, source)
  | fuel + 1, raw, source =>
      if source.isEmpty then .ok ([], raw, [])
      else
        match scanStep final raw source with
        | .next tokens raw rest =>
            (run final fuel raw rest).map fun found => (tokens ++ found.1, found.2)
        | .halt tokens rest => .ok (tokens, raw, rest)
        | .refused refusal => .error refusal

/-- The tokens of a page. -/
def scan (text : Text) : Except Fault (List Token) :=
  match run false (text.length + 1) none text with
  | .error refusal => .error (.defect (refusal.defect text))
  | .ok (first, raw, rest) =>
      match run true (rest.length + 1) raw rest with
      | .error refusal => .error (.defect (refusal.defect text))
      | .ok (second, raw, rest) =>
          let left := if raw.isSome then [] else textTokens rest
          .ok (first ++ second ++ left)

end Token

end Markup

end RuleProbe
