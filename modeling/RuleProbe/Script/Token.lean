import RuleProbe.Script.Units
import RuleProbe.Numeral.Written

/-!
# Tokens of scripts

A script is read token by token, from wherever the reader stands: what a slash or a
closing brace begins depends on what stands before it.
-/

namespace RuleProbe

namespace Script

/-- Marks of punctuation. -/
inductive Punct where
  | openBrace | closeBrace | openParen | closeParen | openBracket | closeBracket
  | dot | spread | semicolon | comma | question | optionalDot | colon | arrow
  | less | greater | lessEqual | greaterEqual | equal | notEqual | same | notSame
  | plus | minus | star | slash | percent | power | increment | decrement
  | shiftLeft | shiftRight | shiftRightZero | bitAnd | bitOr | bitXor | bitNot | not
  | and | or | nullish | assign
  | plusAssign | minusAssign | starAssign | slashAssign | percentAssign | powerAssign
  | shiftLeftAssign | shiftRightAssign | shiftRightZeroAssign
  | bitAndAssign | bitOrAssign | bitXorAssign | andAssign | orAssign | nullishAssign
  deriving DecidableEq, Inhabited

/-- How marks are written, longer ones first. -/
def Punct.spellings : List (String × Punct) :=
  [(">>>=", .shiftRightZeroAssign), ("...", .spread), ("===", .same), ("!==", .notSame),
   ("**=", .powerAssign), ("<<=", .shiftLeftAssign), (">>=", .shiftRightAssign),
   (">>>", .shiftRightZero), ("&&=", .andAssign), ("||=", .orAssign),
   ("??=", .nullishAssign), ("=>", .arrow), ("<=", .lessEqual), (">=", .greaterEqual),
   ("==", .equal), ("!=", .notEqual), ("**", .power), ("++", .increment),
   ("--", .decrement), ("<<", .shiftLeft), (">>", .shiftRight), ("&&", .and), ("||", .or),
   ("??", .nullish), ("?.", .optionalDot), ("+=", .plusAssign), ("-=", .minusAssign),
   ("*=", .starAssign), ("/=", .slashAssign), ("%=", .percentAssign),
   ("&=", .bitAndAssign), ("|=", .bitOrAssign), ("^=", .bitXorAssign),
   ("\x7b", .openBrace), ("\x7d", .closeBrace), ("(", .openParen), (")", .closeParen),
   ("[", .openBracket), ("]", .closeBracket), (".", .dot), (";", .semicolon),
   (",", .comma), ("?", .question), (":", .colon), ("<", .less), (">", .greater),
   ("+", .plus), ("-", .minus), ("*", .star), ("/", .slash), ("%", .percent),
   ("&", .bitAnd), ("|", .bitOr), ("^", .bitXor), ("~", .bitNot), ("!", .not),
   ("=", .assign)]

/-- The texts of marks, longer ones first. -/
def Punct.table : List (Text × Punct) :=
  Punct.spellings.map fun entry => (entry.1.toList, entry.2)

/-- A token. -/
inductive Token where
  /-- A name or a word of the language. -/
  | word (name : Text)
  /-- A number. -/
  | number (value : Float)
  /-- A string. -/
  | string (value : Units)
  /-- A piece of a template, and whether the template ends after it. -/
  | template (value : Units) (last : Bool)
  /-- A mark. -/
  | mark (punct : Punct)
  /-- The end of the script. -/
  | stop
  deriving Inhabited

/-- A token where it stands. -/
structure Lexeme where
  /-- A line break stands before it. -/
  afterBreak : Bool
  /-- The token. -/
  token : Token
  /-- The script from the token on. -/
  start : Text
  /-- The script after the token. -/
  rest : Text
  deriving Inhabited

namespace Token

/-- A line break. -/
def isLineBreak (c : Char) : Bool :=
  c == '\n' || c == '\r' || c == '\u2028' || c == '\u2029'

/-- A blank within a line. -/
def isSpace (c : Char) : Bool :=
  c == '\ufeff' || (Blank.isBlankCode c.toNat && c.toNat != 0x85 &&
    !(0x1c ≤ c.toNat && c.toNat ≤ 0x1f) && !isLineBreak c)

/-- What is being skipped. -/
inductive Gap where
  | blank | lineComment | blockComment

/-- Skip blanks and comments; the flag tells whether a line break was among them. -/
def skipGap : Gap → Bool → Text → Option (Bool × Text)
  | .blank, broken, '/' :: '/' :: rest => skipGap .lineComment broken rest
  | .blank, broken, '/' :: '*' :: rest => skipGap .blockComment broken rest
  | .blank, broken, c :: rest =>
      if isLineBreak c then skipGap .blank true rest
      else if isSpace c then skipGap .blank broken rest
      else some (broken, c :: rest)
  | .lineComment, broken, c :: rest =>
      if isLineBreak c then skipGap .blank true rest else skipGap .lineComment broken rest
  | .blockComment, broken, '*' :: '/' :: rest => skipGap .blank broken rest
  | .blockComment, broken, c :: rest => skipGap .blockComment (broken || isLineBreak c) rest
  | .blockComment, _, [] => none
  | _, broken, [] => some (broken, [])

/-- A character that begins a name. -/
def isNameStart (c : Char) : Bool :=
  c == '$' || c == '_' || Letter.isNameStart c.toNat

/-- A character within a name. -/
def isNamePart (c : Char) : Bool :=
  c == '$' || c == '\u200c' || c == '\u200d' || Letter.isNamePart c.toNat

/-- The value of a digit of a number in a base. -/
def digitValue? (base : Nat) (c : Char) : Option Nat :=
  let code := c.toNat
  let value :=
    if 48 ≤ code && code ≤ 57 then code - 48
    else if 97 ≤ code && code ≤ 122 then code - 87
    else if 65 ≤ code && code ≤ 90 then code - 55
    else 99
  if value < base then some value else none

/-- The digits of a number in a base, and the rest. -/
def spanDigits (base : Nat) (text : Text) : Text × Text :=
  text.span fun c => (digitValue? base c).isSome

/-- The number that digits write in a base. -/
def numberIn (base : Nat) (digits : Text) : Nat :=
  digits.foldl (fun value c => value * base + (digitValue? base c).getD 0) 0

/-- A number in the base that a letter after a zero announces. -/
def readBased? (base : Nat) (text : Text) : Option (Float × Text) :=
  let (digits, rest) := spanDigits base text
  if digits.isEmpty then none else some (Decimal.toFloat (numberIn base digits) 0, rest)

/-- A number, whatever follows it. -/
def readNumber? (text : Text) : Option (Float × Text) :=
  match text with
  | '0' :: letter :: rest =>
      if letter == 'x' || letter == 'X' then readBased? 16 rest
      else if letter == 'o' || letter == 'O' then readBased? 8 rest
      else if letter == 'b' || letter == 'B' then readBased? 2 rest
      else if (digitValue? 10 letter).isSome then
        let (digits, _) := spanDigits 10 (letter :: rest)
        if digits.all fun c => (digitValue? 8 c).isSome then readBased? 8 (letter :: rest)
        else readBased? 10 (letter :: rest)
      else Decimal.readPrefix? text
  | text => Decimal.readPrefix? text

/-- A code as units. -/
def unitsOfCode (code : Nat) : List UInt16 := (Units.ofCodes [code]).toList

/-- A code in hexadecimal digits, four of them or any number within braces. -/
def readCode? (text : Text) : Option (Nat × Text) :=
  match text with
  | '\x7b' :: rest =>
      let (digits, rest) := spanDigits 16 rest
      match rest with
      | '\x7d' :: rest =>
          let code := numberIn 16 digits
          if digits.isEmpty || 0x10ffff < code then none else some (code, rest)
      | _ => none
  | text =>
      let digits := text.take 4
      if digits.length == 4 && digits.all fun c => (digitValue? 16 c).isSome then
        some (numberIn 16 digits, text.drop 4)
      else none

/-- What an octal escape stands for. -/
def readOctal (first : Char) (rest : Text) : Nat × Text :=
  let limit := if first.toNat < 52 then 2 else 1
  let more := (rest.take limit).takeWhile fun c => (digitValue? 8 c).isSome
  (numberIn 8 (first :: more), rest.drop more.length)

/-- The units that an escape stands for, after its backslash. -/
def readEscape (inTemplate : Bool) : Text → Option (List UInt16 × Text)
  | [] => none
  | c :: rest =>
      let one (code : Nat) : Option (List UInt16 × Text) := some (unitsOfCode code, rest)
      if c == 'n' then one 10
      else if c == 't' then one 9
      else if c == 'r' then one 13
      else if c == 'b' then one 8
      else if c == 'f' then one 12
      else if c == 'v' then one 11
      else if c == 'x' then
        let digits := rest.take 2
        if digits.length == 2 && digits.all fun d => (digitValue? 16 d).isSome then
          some (unitsOfCode (numberIn 16 digits), rest.drop 2)
        else none
      else if c == 'u' then (readCode? rest).map fun found => (unitsOfCode found.1, found.2)
      else if c == '\r' then
        some ([], match rest with | '\n' :: rest => rest | rest => rest)
      else if isLineBreak c then some ([], rest)
      else if (digitValue? 10 c).isSome && inTemplate then
        let more := (rest.head?.bind (digitValue? 10)).isSome
        if c == '0' && !more then one 0 else none
      else if (digitValue? 8 c).isSome then
        let (code, rest) := readOctal c rest
        some (unitsOfCode code, rest)
      else one c.toNat

/-- The units of a string up to its closing mark, after those read already, last
first. -/
def readString (close : Char) : Nat → List UInt16 → Text → Option (Units × Text)
  | 0, _, _ => none
  | _ + 1, _, [] => none
  | fuel + 1, read, c :: rest =>
      if c == close then some (read.reverse.toArray, rest)
      else if c == '\n' || c == '\r' then none
      else if c == '\\' then
        match readEscape false rest with
        | some (units, rest) => readString close fuel (units.reverse ++ read) rest
        | none => none
      else readString close fuel ((Units.ofChar c).reverse ++ read) rest

/-- A piece of a template up to an expression or the end. -/
def readTemplate : Nat → List UInt16 → Text → Option (Token × Text)
  | 0, _, _ => none
  | _ + 1, _, [] => none
  | fuel + 1, read, c :: rest =>
      if c == '\x60' then some (.template read.reverse.toArray true, rest)
      else if c == '$' && Text.startsWith rest ['\x7b'] then
        some (.template read.reverse.toArray false, rest.drop 1)
      else if c == '\\' then
        match readEscape true rest with
        | some (units, rest) => readTemplate fuel (units.reverse ++ read) rest
        | none => none
      else if c == '\r' then
        readTemplate fuel (10 :: read) (match rest with | '\n' :: rest => rest | rest => rest)
      else readTemplate fuel ((Units.ofChar c).reverse ++ read) rest

/-- The source of a regular expression up to its closing slash, and what follows. -/
def readPattern : Bool → Text → Text → Option (Text × Text)
  | _, _, [] => none
  | inSet, read, '\\' :: c :: rest =>
      if isLineBreak c then none else readPattern inSet (c :: '\\' :: read) rest
  | inSet, read, c :: rest =>
      if isLineBreak c then none
      else if c == '/' && !inSet then some (read.reverse, rest)
      else readPattern (if c == '[' then true else if c == ']' then false else inSet)
        (c :: read) rest

/-- A mark at the beginning of a text. -/
def readMark? (text : Text) : Option (Punct × Text) :=
  match Punct.table.find? fun entry => Text.startsWith text entry.1 with
  | some (_, .optionalDot) =>
      -- A point that begins a number is no part of the mark.
      if ((text.drop 2).head?.bind (digitValue? 10)).isSome then
        some (.question, text.drop 1)
      else some (.optionalDot, text.drop 2)
  | some (written, punct) => some (punct, text.drop written.length)
  | none => none

/-- The token at the beginning of a text, and what follows. -/
def read? (text : Text) : Option (Token × Text) :=
  match text with
  | [] => some (.stop, [])
  | c :: rest =>
      if isNameStart c then
        let (name, rest) := text.span isNamePart
        some (.word name, rest)
      else if (digitValue? 10 c).isSome ||
          (c == '.' && (rest.head?.bind (digitValue? 10)).isSome) then
        match readNumber? text with
        | some (value, rest) =>
            if rest.head?.any fun d => isNamePart d then none else some (.number value, rest)
        | none => none
      else if c == '"' || c == '\'' then
        (readString c text.length [] rest).map fun found => (.string found.1, found.2)
      else if c == '\x60' then readTemplate text.length [] rest
      else (readMark? text).map fun found => (.mark found.1, found.2)

end Token

/-- The next token of a script. -/
def Lexeme.next? (text : Text) : Option Lexeme :=
  match Token.skipGap .blank false text with
  | none => none
  | some (afterBreak, start) =>
      (Token.read? start).map fun found => ⟨afterBreak, found.1, start, found.2⟩

end Script

end RuleProbe
