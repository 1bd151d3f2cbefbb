import RuleProbe.Numeral.Written
import RuleProbe.XPath.Syntax

/-!
# Reading paths into documents

The grammar is read from left to right without looking for words first, so an operator
that is a word needs no blank around it after an operand.  A name begins a function
when a bracket follows it and it is not one of the kinds of nodes.
-/

namespace RuleProbe

namespace XPath

namespace Reader

/-- A blank of the grammar. -/
def isSpace (c : Char) : Bool := c == ' ' || c == '\t' || c == '\n' || c == '\r'

/-- Skip blanks. -/
def skip (text : Text) : Text := text.dropWhile isSpace

/-- A character that may begin a name. -/
def isNameStart (c : Char) : Bool :=
  let n := c.toNat
  Letter.isAsciiLetter n || c == '_' || (0xc0 ≤ n && n ≤ 0x2ff && n != 0xd7 && n != 0xf7) ||
    (0x370 ≤ n && n ≤ 0x1fff && n != 0x37e) || n == 0x200c || n == 0x200d ||
    (0x2070 ≤ n && n ≤ 0x218f) || (0x2c00 ≤ n && n ≤ 0x2fef) || (0x3001 ≤ n && n ≤ 0xd7ff) ||
    (0xf900 ≤ n && n ≤ 0xfdcf) || (0xfdf0 ≤ n && n ≤ 0xfffd) || (0x10000 ≤ n && n ≤ 0xeffff)

/-- A character that may stand in a name. -/
def isNamePart (c : Char) : Bool :=
  let n := c.toNat
  isNameStart c || Letter.isAsciiDigit n || c == '-' || c == '.' || n == 0xb7 ||
    (0x300 ≤ n && n ≤ 0x36f) || n == 0x203f || n == 0x2040

/-- A name and what follows it. -/
def name? : Text → Option (Text × Text)
  | c :: rest =>
      if isNameStart c then some (c :: rest.takeWhile isNamePart, rest.dropWhile isNamePart)
      else none
  | [] => none

/-- A name that may hold colons, for looking ahead. -/
def longName (text : Text) : Text :=
  match text with
  | c :: rest =>
      if isNameStart c || c == ':' then
        c :: rest.takeWhile fun d => isNamePart d || d == ':'
      else []
  | [] => []

/-- The kinds of nodes. -/
def kinds : List (Text × NodeTest) :=
  [ ("node".toList, .node),
    ("text".toList, .text),
    ("comment".toList, .comment),
    ("processing-instruction".toList, .instruction) ]

/-- A text between quotation marks, and what follows it. -/
def literal? : Text → Option (Text × Text)
  | c :: rest => if c == '"' || c == '\'' then Text.cut? [c] rest else none
  | [] => none

/-- A digit stands at the beginning. -/
def beginsWithDigit (text : Text) : Bool :=
  match text with
  | c :: _ => Letter.isAsciiDigit c.toNat
  | [] => false

/-- A path stands here, rather than a number, a text, a variable, a bracket or a call of
a function. -/
def beginsPath (text : Text) : Option Bool :=
  match text with
  | [] => none
  | c :: rest =>
      if c == '$' || c == '(' || c == '\'' || c == '"' || beginsWithDigit text then some false
      else if c == '.' then some (!beginsWithDigit rest)
      else if c == '*' || c == '/' || c == '@' then some true
      else
        let name := longName text
        if name.isEmpty then none
        else if Text.contains name "::".toList then some true
        else
          match skip (text.drop name.length) with
          | '(' :: _ => some ((kinds.lookup name).isSome)
          | _ => some true

/-- The marks of the operators on each level, from the loosest. -/
def marks : Nat → List (Text × Operator)
  | 0 => [("or".toList, .or)]
  | 1 => [("and".toList, .and)]
  | 2 => [(['='], .equal), (['!', '='], .unequal)]
  | 3 => [(['<', '='], .lessEqual), (['>', '='], .greaterEqual), (['<'], .less), (['>'], .greater)]
  | 4 => [(['+'], .plus), (['-'], .minus)]
  | 5 => [(['*'], .times), ("div".toList, .divide), ("mod".toList, .remainder)]
  | 6 => [(['|'], .union)]
  | _ => []

/-- The operator of a level that stands here, and what follows it. -/
def operator? (level : Nat) (text : Text) : Option (Operator × Text) :=
  (marks level).findSome? fun (mark, operator) =>
    (Text.dropStart? text mark).map fun rest => (operator, skip rest)

/-- The number of signs at the beginning, and what follows them. -/
def signs (text : Text) : Nat × Text :=
  if text.startsWith ['-'] then
    let run := text.takeWhile fun c => c == '-' || isSpace c
    (run.count '-', text.drop run.length)
  else (0, text)

/-- A node test, and what follows it; `name` is given when the name has been read. -/
def nodeTest? (name : Option Text) (text : Text) : Option (NodeTest × Text) :=
  match name, skip text with
  | none, '*' :: rest => some (.any, rest)
  | _, _ =>
      let named? : Option (Text × Text) :=
        match name with
        | some name => some (name, text)
        | none => name? (skip text)
      match named? with
      | none => none
      | some (name, rest) =>
          match skip rest, rest with
          | '(' :: inside, _ =>
              match kinds.lookup name with
              | none => none
              | some kind =>
                  let inside := skip inside
                  let inside :=
                    if kind == .instruction then
                      match literal? inside with
                      | some (_, after) => skip after
                      | none => inside
                    else inside
                  match inside with
                  | ')' :: rest => some (kind, rest)
                  | _ => none
          | _, ':' :: '*' :: rest => some (.foreign, rest)
          | _, ':' :: rest => (name? rest).map fun found => (.foreign, found.2)
          | rest, _ => some (.named name, rest)

/-- The axis and the node test of a step. -/
def axisTest? (text : Text) : Option (Axis × NodeTest × Text) :=
  match text with
  | '@' :: rest => (nodeTest? none rest).map fun found => (.attributes, found)
  | _ =>
      match name? text with
      | none => (nodeTest? none text).map fun found => (.child, found)
      | some (name, rest) =>
          match Axis.named.lookup name, skip rest with
          | some axis, ':' :: ':' :: rest => (nodeTest? none rest).map fun found => (axis, found)
          | _, _ => (nodeTest? (some name) rest).map fun found => (.child, found)

/-- An expression behind a number of signs; one behind any sign is a number. -/
def negated (count : Nat) (inner : Expr) : Expr :=
  if count == 0 then inner
  else if count % 2 == 1 then .negate inner
  else .negate (.negate inner)

/-- A character may begin a relative path after the slash at the beginning. -/
def mayBeginStep (c : Char) : Bool :=
  Letter.isAsciiLetter c.toNat || 0x80 ≤ c.toNat || c == '_' || c == '.' || c == '@' || c == '*'

mutual

/-- An expression of a level, and what follows it. -/
def readLevel : Nat → Nat → Text → Option (Expr × Text)
  | 0, _, _ => none
  | fuel + 1, level, source =>
      if level < 6 then
        if level == 5 then
          match readSigned fuel source with
          | some (left, rest) => readMore fuel level left (skip rest)
          | none => none
        else
          match readLevel fuel (level + 1) source with
          | some (left, rest) => readMore fuel level left (skip rest)
          | none => none
      else
        match readPath fuel (skip source) with
        | some (left, rest) => readMore fuel level left (skip rest)
        | none => none

/-- The operators of a level that follow an operand. -/
def readMore : Nat → Nat → Expr → Text → Option (Expr × Text)
  | 0, _, _, _ => none
  | fuel + 1, level, left, source =>
      match operator? level source with
      | none => some (left, source)
      | some (operator, rest) =>
          let right? :=
            if level == 5 then readSigned fuel rest
            else if level == 6 then readPath fuel (skip rest)
            else readLevel fuel (level + 1) rest
          match right? with
          | some (right, rest) => readMore fuel level (.binary operator left right) (skip rest)
          | none => none

/-- An operand with its signs. -/
def readSigned : Nat → Text → Option (Expr × Text)
  | 0, _ => none
  | fuel + 1, source =>
      let (count, rest) := signs (skip source)
      match readLevel fuel 6 rest with
      | some (inner, rest) => some (negated count inner, rest)
      | none => none

/-- A path, or what a path may begin with. -/
def readPath : Nat → Text → Option (Expr × Text)
  | 0, _ => none
  | fuel + 1, source =>
      match beginsPath source with
      | none => none
      | some true =>
          match source with
          | '/' :: _ => readAbsolute fuel .document source
          | _ => readSteps fuel .here source
      | some false =>
          match readPrimary fuel source with
          | none => none
          | some (first, rest) =>
              match readFilters fuel first (skip rest) with
              | none => none
              | some (inner, rest) =>
                  match rest with
                  | '/' :: '/' :: rest => readSteps fuel inner.andBelow (skip rest)
                  | '/' :: rest => readSteps fuel inner (skip rest)
                  | rest => some (inner, rest)

/-- A path from the document. -/
def readAbsolute : Nat → Expr → Text → Option (Expr × Text)
  | 0, _, _ => none
  | fuel + 1, origin, source =>
      match source with
      | '/' :: '/' :: rest =>
          match readSteps fuel origin.andBelow (skip rest) with
          | some (path, rest) => readAbsolute fuel path rest
          | none => none
      | '/' :: rest =>
          match skip rest with
          | c :: rest =>
              if mayBeginStep c then
                match readSteps fuel origin (c :: rest) with
                | some (path, rest) => readAbsolute fuel path rest
                | none => none
              else readAbsolute fuel origin (c :: rest)
          | [] => some (origin, [])
      | rest => some (origin, rest)

/-- The steps of a path. -/
def readSteps : Nat → Expr → Text → Option (Expr × Text)
  | 0, _, _ => none
  | fuel + 1, origin, source =>
      match source with
      | '/' :: '/' :: rest => readSteps fuel origin.andBelow (skip rest)
      | '/' :: rest => readSteps fuel origin (skip rest)
      | source =>
          match readStep fuel origin source with
          | none => none
          | some (path, rest) =>
              match skip rest with
              | '/' :: '/' :: rest => readSteps fuel path.andBelow (skip rest)
              | '/' :: rest => readSteps fuel path (skip rest)
              | rest => some (path, rest)

/-- One step of a path. -/
def readStep : Nat → Expr → Text → Option (Expr × Text)
  | 0, _, _ => none
  | fuel + 1, origin, source =>
      match source with
      | '.' :: '.' :: rest => some (.step origin .parent .node [], rest)
      | '.' :: rest => some (.step origin .self .node [], rest)
      | source =>
          match axisTest? source with
          | none => none
          | some (axis, test, rest) =>
              match readPredicates fuel (skip rest) with
              | some (predicates, rest) => some (.step origin axis test predicates, rest)
              | none => none

/-- The predicates of a step. -/
def readPredicates : Nat → Text → Option (List Expr × Text)
  | 0, _ => none
  | fuel + 1, source =>
      match source with
      | '[' :: rest =>
          match readLevel fuel 0 (skip rest) with
          | some (predicate, rest) =>
              match skip rest with
              | ']' :: rest =>
                  (readPredicates fuel (skip rest)).map fun found =>
                    (predicate :: found.1, found.2)
              | _ => none
          | none => none
      | source => some ([], source)

/-- The predicates that follow something other than a step. -/
def readFilters : Nat → Expr → Text → Option (Expr × Text)
  | 0, _, _ => none
  | fuel + 1, inner, source =>
      match source with
      | '[' :: rest =>
          match readLevel fuel 0 (skip rest) with
          | some (predicate, rest) =>
              match skip rest with
              | ']' :: rest => readFilters fuel (.filter inner predicate) (skip rest)
              | _ => none
          | none => none
      | source => some (inner, source)

/-- A number, a text, a variable, a bracket or a call. -/
def readPrimary : Nat → Text → Option (Expr × Text)
  | 0, _ => none
  | fuel + 1, source =>
      match source with
      | '$' :: rest =>
          match name? rest with
          | some (_, ':' :: rest) => (name? rest).map fun found => (.unbound, found.2)
          | some (_, rest) => some (.unbound, rest)
          | none => none
      | '(' :: rest =>
          match readLevel fuel 0 (skip rest) with
          | some (inner, rest) =>
              match skip rest with
              | ')' :: rest => some (inner, rest)
              | _ => none
          | none => none
      | source =>
          match literal? source with
          | some (value, rest) => some (.literal value, rest)
          | none =>
              match Decimal.readPrefix? source with
              | some (value, rest) => some (.number value, rest)
              | none => readCall fuel source

/-- A call of a function. -/
def readCall : Nat → Text → Option (Expr × Text)
  | 0, _ => none
  | fuel + 1, source =>
      let head? : Option (Text × Text) :=
        match name? source with
        | some (_, ':' :: rest) => (name? rest).map fun found => ([], found.2)
        | other => other
      match head? with
      | none => none
      | some (name, rest) =>
          match skip rest with
          | '(' :: rest =>
              match skip rest with
              | ')' :: rest => some (.call name [], rest)
              | rest =>
                  match readArguments fuel rest with
                  | some (arguments, rest) => some (.call name arguments, rest)
                  | none => none
          | _ => none

/-- The arguments of a call, and what follows its bracket. -/
def readArguments : Nat → Text → Option (List Expr × Text)
  | 0, _ => none
  | fuel + 1, source =>
      match readLevel fuel 0 source with
      | none => none
      | some (argument, rest) =>
          match skip rest with
          | ')' :: rest => some ([argument], rest)
          | ',' :: rest =>
              (readArguments fuel (skip rest)).map fun found => (argument :: found.1, found.2)
          | _ => none

end

end Reader

/-- Read an expression; nothing is given for a text that is none. -/
def read? (text : Text) : Option Expr :=
  match Reader.readLevel (16 * (text.length + 2)) 0 (Reader.skip text) with
  | some (expression, rest) => if (Reader.skip rest).isEmpty then some expression else none
  | none => none

end XPath

end RuleProbe
