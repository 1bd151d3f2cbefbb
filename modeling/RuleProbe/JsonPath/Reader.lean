import RuleProbe.Json.Value
import RuleProbe.Numeral.Written

/-!
# Paths into JSON values as texts

A text is cut into tokens, and a path is read from those.
-/

namespace RuleProbe

/-!
## Paths into JSON values

A path leads from values to values inside them.  Its parts are fields, positions,
slices, filters and orders, and paths are joined one after the other, at any depth or
side by side.
-/

namespace JsonPath

/-- How a filter compares a value with a constant. -/
inductive Comparison where
  | equal
  | unequal
  | less
  | lessEqual
  | greater
  | greaterEqual
  | similar
  deriving DecidableEq, Inhabited

/-- A path. -/
inductive Path where
  /-- The whole value. -/
  | root
  /-- The value at hand. -/
  | this
  /-- The value around the value at hand. -/
  | parent
  /-- Fields of an object. -/
  | fields (names : List Text)
  /-- Positions of an array. -/
  | positions (indices : List Int)
  /-- A slice of an array. -/
  | slice (start stop step : Option Int)
  /-- The items of an array that satisfy some conditions. -/
  | filter (conditions : List (Path × Option (Comparison × Json)))
  /-- An array in order: by some paths, each downward or upward, or by its items. -/
  | sorted (orders : List (Path × Bool))
  /-- The number of items, members or characters. -/
  | size
  /-- The keys of an object. -/
  | keys
  /-- A path followed by another. -/
  | child (left right : Path)
  /-- A path followed by another at any depth. -/
  | descendants (left right : Path)
  /-- The values of two paths. -/
  | union (left right : Path)
  /-- The values that two paths share, which is not supported. -/
  | intersection (left right : Path)
  /-- The values of a path that have, or do not have, a value of another. -/
  | having (left right : Path) (present : Bool)
  deriving Inhabited

end JsonPath

namespace JsonPath

/-!
## Tokens of paths into JSON values

The words for truth are recognised even at the beginning of a longer name, and a number
may carry its sign.
-/

/-- A token. -/
inductive Token where
  /-- A name, with or without quotation marks. -/
  | name (value : Text)
  /-- An integer. -/
  | integer (value : Int)
  /-- A number with a fraction. -/
  | decimal (value : Float)
  /-- A truth value. -/
  | truth (value : Bool)
  /-- The direction of an order, with the comma before it. -/
  | direction (downward : Bool)
  /-- A comparison. -/
  | comparison (value : Comparison)
  /-- A named operator. -/
  | operator (name : Text)
  /-- The words that join a path with a condition. -/
  | having (present : Bool)
  /-- The word for the value around, which is a name of its own. -/
  | around
  /-- Two points. -/
  | deep
  /-- A single character. -/
  | mark (value : Char)
  deriving Inhabited

namespace Token

/-- A character that begins a name. -/
def isNameStart (c : Char) : Bool := Letter.isAsciiLetter c.toNat || c == '_'

/-- A character of a name. -/
def isNamePart (c : Char) : Bool :=
  isNameStart c || Letter.isAsciiDigit c.toNat || c == '@' || c == '-'

/-- The token of a name. -/
def ofName (name : Text) : Token :=
  match String.ofList name with
  | "parent" => around
  | "where" => having true
  | "wherenot" => having false
  | _ => .name name

/-- The content of quotation marks and what follows them; a backslash keeps the
character behind it. -/
def quoted? (quote : Char) : Text → Option (Text × Text)
  | [] => none
  | '\\' :: c :: rest =>
      if c == '\n' then none
      else (quoted? quote rest).map fun found => (c :: found.1, found.2)
  | c :: rest =>
      if c == quote then some ([], rest)
      else if c == '\\' then none
      else (quoted? quote rest).map fun found => (c :: found.1, found.2)

/-- The characters that stand for themselves. -/
def marks : Text := "*.[]()$,:|&~?@+-".toList

/-- The marks of comparisons, the longer ones first. -/
def comparisons : List (Text × Comparison) :=
  [ (['=', '~'], .similar), (['=', '='], .equal), (['='], .equal), (['<', '='], .lessEqual),
    (['>', '='], .greaterEqual), (['!', '='], .unequal), (['<'], .less), (['>'], .greater) ]

/-- The direction of an order at the beginning of a text. -/
def direction? (text : Text) : Option (Token × Text) :=
  let rest :=
    match text with
    | ',' :: rest => rest.dropWhile Text.isBlank
    | rest => rest.dropWhile Text.isBlank
  match rest with
  | '/' :: rest => some (.direction false, rest)
  | '\\' :: rest => some (.direction true, rest)
  | _ => none

/-- A number at the beginning of a text; a whole one has a limit on its digits. -/
def number? (text : Text) : Option (Token × Text) :=
  let (negative, rest) : Bool × Text :=
    match text with
    | '-' :: rest => (true, rest)
    | rest => (false, rest)
  let (whole, rest) := Decimal.spanDigits rest
  if whole.isEmpty then none
  else
    let size : Int := Integer.readAscii whole
    let integer : Option (Token × Text) :=
      if Integer.digitLimit < whole.length then none
      else some (.integer (if negative then -size else size), rest)
    match rest with
    | '.' :: more =>
        let (fraction, after) := Decimal.spanDigits more
        if fraction.isEmpty then integer
        else
          let size := Decimal.ofParts whole fraction 0
          some (.decimal (if negative then -size else size), after)
    | _ => integer

/-- A name at the beginning of a text. -/
def name? (text : Text) : Option (Token × Text) :=
  let (sign, rest) : Text × Text :=
    match text with
    | '@' :: rest => (['@'], rest)
    | rest => ([], rest)
  match rest with
  | c :: _ =>
      if isNameStart c then
        some (ofName (sign ++ rest.takeWhile isNamePart), rest.dropWhile isNamePart)
      else none
  | [] => none

/-- A comparison, two points or a single mark. -/
def sign? (text : Text) : Option (Token × Text) :=
  match comparisons.findSome? fun (spelling, value) =>
      (Text.dropStart? text spelling).map fun rest => (Token.comparison value, rest) with
  | some found => some found
  | none =>
      match text with
      | '.' :: '.' :: rest => some (.deep, rest)
      | c :: rest => if marks.elem c then some (.mark c, rest) else none
      | [] => none

/-- The token at the beginning of a text, and what follows it. -/
def next? (text : Text) : Option (Token × Text) :=
  match text with
  | 't' :: 'r' :: 'u' :: 'e' :: rest => some (.truth true, rest)
  | 'f' :: 'a' :: 'l' :: 's' :: 'e' :: rest => some (.truth false, rest)
  | '\'' :: rest => (quoted? '\'' rest).map fun found => (.name found.1, found.2)
  | '"' :: rest => (quoted? '"' rest).map fun found => (.name found.1, found.2)
  | '\x60' :: rest => (quoted? '\x60' rest).map fun found => (.operator found.1, found.2)
  | text =>
      match direction? text with
      | some found => some found
      | none =>
          match name? text with
          | some found => some found
          | none =>
              match number? text with
              | some found => some found
              | none => sign? text

/-- The tokens of a text; `fuel` bounds their number. -/
def scanAux : Nat → Text → Option (List Token)
  | 0, _ => none
  | fuel + 1, source =>
      match source.dropWhile fun c => c == ' ' || c == '\t' with
      | [] => some []
      | '\n' :: rest => scanAux fuel rest
      | rest =>
          match next? rest with
          | some (token, rest) => (scanAux fuel rest).map (token :: ·)
          | none => none

/-- The tokens of a path; nothing is given for a text with another character. -/
def scan? (text : Text) : Option (List Token) := scanAux (text.length + 1) text

end Token

/-!
## Reading paths into JSON values

Paths are joined by operators of different strength; a bracket binds loosest, so it
applies to all that stands before it.
-/

namespace Reader

/-- How two paths are joined. -/
abbrev Joint := Path → Path → Path

/-- The operator at the beginning: its strength, how it joins, and the rest. -/
def joint? : List Token → Option (Nat × Joint × List Token)
  | .deep :: rest => some (1, .descendants, rest)
  | .mark '.' :: rest => some (2, .child, rest)
  | .mark '|' :: rest => some (3, .union, rest)
  | .mark '&' :: rest => some (4, .intersection, rest)
  | .having true :: rest => some (5, fun left right => .having left right true, rest)
  | .having false :: rest => some (6, fun left right => .having left right false, rest)
  | _ => none

/-- Further names of fields, and the rest. -/
def moreNames : List Token → Option (List Text × List Token)
  | .mark ',' :: .name value :: rest =>
      (moreNames rest).map fun found => (value :: found.1, found.2)
  | .mark ',' :: _ => none
  | rest => some ([], rest)

/-- Further positions, and the rest. -/
def moreIndices : List Token → Option (List Int × List Token)
  | .mark ',' :: .integer value :: rest =>
      (moreIndices rest).map fun found => (value :: found.1, found.2)
  | .mark ',' :: _ => none
  | rest => some ([], rest)

/-- A bound of a slice, when one is given. -/
def bound : List Token → Option Int × List Token
  | .integer value :: rest => (some value, rest)
  | rest => (none, rest)

/-- A slice, and the rest. -/
def slice? (tokens : List Token) : Option (Path × List Token) :=
  let (start, rest) := bound tokens
  match rest with
  | .mark ':' :: rest =>
      let (stop, rest) := bound rest
      match rest with
      | .mark ':' :: rest =>
          let (step, rest) := bound rest
          some (.slice start stop step, rest)
      | rest => some (.slice start stop none, rest)
  | _ => none

/-- What stands in brackets by itself, and the rest behind the bracket. -/
def simpleBracket? (tokens : List Token) : Option (Path × List Token) :=
  let content? : Option (Path × List Token) :=
    match tokens with
    | .mark '*' :: rest => some (.slice none none none, rest)
    | .name value :: rest =>
        (moreNames rest).map fun found => (.fields (value :: found.1), found.2)
    | tokens =>
        match slice? tokens with
        | some found => some found
        | none =>
            match tokens with
            | .integer value :: rest =>
                (moreIndices rest).map fun found => (.positions (value :: found.1), found.2)
            | _ => none
  match content? with
  | some (path, .mark ']' :: rest) => some (path, rest)
  | _ => none

/-- The path of a named operator. -/
def operatorPath? (name : Text) : Option Path :=
  match String.ofList name with
  | "this" => some .this
  | "parent" => some .parent
  | "len" => some .size
  | "keys" => some .keys
  | "sorted" => some (.sorted [])
  | _ => none

/-- The constant at the beginning, and the rest. -/
def constant? : List Token → Option (Json × List Token)
  | .name value :: rest => some (.str value, rest)
  | .integer value :: rest => some (.int value, rest)
  | .decimal value :: rest => some (.float value, rest)
  | .truth value :: rest => some (.bool value, rest)
  | _ => none

/-- A condition of a filter. -/
abbrev Condition := Path × Option (Comparison × Json)

/-- The name of a field that is a number: each of its characters is one. -/
def digitNames (value : Int) : List Text := (Integer.write value).map fun c => [c]

mutual

/-- A path of operators of a strength or more, and the rest. -/
def readPath : Nat → Nat → List Token → Option (Path × List Token)
  | 0, _, _ => none
  | fuel + 1, strength, tokens =>
      match readFirst fuel tokens with
      | some (left, rest) => readMore fuel strength left rest
      | none => none

/-- What joins a path that has been read, and the rest. -/
def readMore : Nat → Nat → Path → List Token → Option (Path × List Token)
  | 0, _, _, _ => none
  | fuel + 1, strength, left, tokens =>
      match joint? tokens with
      | some (level, join, rest) =>
          if strength ≤ level then
            match readPath fuel (level + 1) rest with
            | some (right, rest) => readMore fuel strength (join left right) rest
            | none => none
          else some (left, tokens)
      | none =>
          match tokens with
          | .mark '[' :: rest =>
              if strength == 0 then
                match readBracket fuel rest with
                | some (right, rest) => readMore fuel strength (.child left right) rest
                | none => none
              else some (left, tokens)
          | _ => some (left, tokens)

/-- What a path may begin with, and the rest. -/
def readFirst : Nat → List Token → Option (Path × List Token)
  | 0, _ => none
  | fuel + 1, tokens =>
      match tokens with
      | .mark '$' :: rest => some (.root, rest)
      | .mark '@' :: rest => some (.this, rest)
      | .mark '*' :: rest => some (.fields [['*']], rest)
      | .integer value :: rest => some (.fields (digitNames value), rest)
      | .operator name :: rest => (operatorPath? name).map fun path => (path, rest)
      | .name value :: rest =>
          (moreNames rest).map fun found => (.fields (value :: found.1), found.2)
      | .mark '(' :: rest =>
          match readPath fuel 0 rest with
          | some (path, .mark ')' :: rest) => some (path, rest)
          | _ => none
      | .mark '[' :: rest => simpleBracket? rest
      | _ => none

/-- What stands in brackets behind a path, and the rest. -/
def readBracket : Nat → List Token → Option (Path × List Token)
  | 0, _ => none
  | fuel + 1, tokens =>
      match tokens with
      | .mark '?' :: rest =>
          match readConditions fuel rest with
          | some (conditions, .mark ']' :: rest) => some (.filter conditions, rest)
          | _ => none
      | .direction _ :: _ =>
          match readOrders fuel tokens with
          | some (orders, .mark ']' :: rest) => some (.sorted orders, rest)
          | _ => none
      | tokens => simpleBracket? tokens

/-- The conditions of a filter, and the rest. -/
def readConditions : Nat → List Token → Option (List Condition × List Token)
  | 0, _ => none
  | fuel + 1, tokens =>
      match readCondition fuel tokens with
      | some (first, .mark '&' :: rest) =>
          (readConditions fuel rest).map fun found => (first ++ found.1, found.2)
      | some found => some found
      | none => none

/-- A condition of a filter, or several in brackets, and the rest. -/
def readCondition : Nat → List Token → Option (List Condition × List Token)
  | 0, _ => none
  | fuel + 1, tokens =>
      let single? : Option (List Condition × List Token) :=
        match readPath fuel 0 tokens with
        | some (path, .comparison comparison :: rest) =>
            (constant? rest).map fun found => ([(path, some (comparison, found.1))], found.2)
        | some (path, rest) => some ([(path, none)], rest)
        | none => none
      match single? with
      | some found => some found
      | none =>
          match tokens with
          | .mark '(' :: rest =>
              match readConditions fuel rest with
              | some (conditions, .mark ')' :: rest) => some (conditions, rest)
              | _ => none
          | _ => none

/-- The orders of a bracket, and the rest. -/
def readOrders : Nat → List Token → Option (List (Path × Bool) × List Token)
  | 0, _ => none
  | fuel + 1, tokens =>
      match tokens with
      | .direction downward :: rest =>
          match readPath fuel 0 rest with
          | some (path, rest) =>
              (readOrders fuel rest).map fun found => ((path, downward) :: found.1, found.2)
          | none => none
      | tokens => some ([], tokens)

end

end Reader

/-- Read a path; nothing is given for a text that is none. -/
def read? (text : Text) : Option Path :=
  match Token.scan? text with
  | none => none
  | some tokens =>
      match Reader.readPath (4 * (tokens.length + 2)) 0 tokens with
      | some (path, []) => some path
      | _ => none

end JsonPath

end RuleProbe
