import RuleProbe.Pattern.Syntax
import RuleProbe.Script.Token

/-!
# Regular expressions of scripts

The notation in which scripts write patterns.  A group is forgotten at the start of
each turn of a repetition around it, a turn beyond the required ones must consume
something, and a reference to a group without a match stands for nothing.  What would
be no escape or no repetition stands for its own characters, except in patterns over
whole characters.
-/

namespace RuleProbe

namespace Script

/-- What the flags of a regular expression ask for. -/
structure RegexFlags where
  /-- All matches are of interest. -/
  global : Bool := false
  /-- Characters agree up to case. -/
  ignoreCase : Bool := false
  /-- Anchors also stand at line breaks. -/
  multiline : Bool := false
  /-- The dot matches line breaks. -/
  dotAll : Bool := false
  /-- The subject is a sequence of characters, not of units. -/
  unicode : Bool := false
  /-- A match begins where the search begins. -/
  sticky : Bool := false
  deriving DecidableEq, Inhabited

/-- Read flags, each of which may be given once. -/
def RegexFlags.read? : RegexFlags → Text → Option RegexFlags
  | flags, [] => some flags
  | flags, c :: rest =>
      if c == 'g' && !flags.global then read? { flags with global := true } rest
      else if c == 'i' && !flags.ignoreCase then read? { flags with ignoreCase := true } rest
      else if c == 'm' && !flags.multiline then read? { flags with multiline := true } rest
      else if c == 's' && !flags.dotAll then read? { flags with dotAll := true } rest
      else if c == 'u' && !flags.unicode then read? { flags with unicode := true } rest
      else if c == 'y' && !flags.sticky then read? { flags with sticky := true } rest
      else none

namespace Regex

/-- What holds for a whole pattern. -/
structure Setting where
  /-- The flags. -/
  flags : RegexFlags
  /-- The number of groups. -/
  groupCount : Nat
  /-- Some group has a name. -/
  named : Bool

/-- What a reader of a pattern has met so far. -/
structure Progress where
  /-- The codes still to be read. -/
  rest : Text
  /-- The number of groups opened. -/
  opened : Nat
  /-- The names of groups. -/
  names : List (Text × Nat)

/-- A reader of a part of a pattern. -/
abbrev RegexReader := StateT Progress Option

/-- Count the groups of a pattern, and see whether some has a name. -/
def countGroups : Bool → Text → Nat × Bool
  | inSet, '\\' :: _ :: rest => countGroups inSet rest
  | false, '(' :: '?' :: '<' :: c :: rest =>
      let (count, named) := countGroups false (c :: rest)
      if c == '=' || c == '!' then (count, named) else (count + 1, true)
  | false, '(' :: '?' :: rest => countGroups false rest
  | false, '(' :: rest =>
      let (count, named) := countGroups false rest
      (count + 1, named)
  | false, '[' :: rest => countGroups true rest
  | true, ']' :: rest => countGroups false rest
  | inSet, _ :: rest => countGroups inSet rest
  | _, [] => (0, false)

/-- A line break ends what the dot matches. -/
def isBreakCode (code : Nat) : Bool :=
  code == 10 || code == 13 || code == 0x2028 || code == 0x2029

/-- The rule by which characters agree. -/
def Setting.caseRule (setting : Setting) : Pattern.CaseRule :=
  if !setting.flags.ignoreCase then .exact
  else if setting.flags.unicode then .full else .upper

/-- Take a text that comes next. -/
def accept (text : Text) : RegexReader Bool := do
  match Text.dropStart? (← get).rest text with
  | some rest =>
      modify fun progress => { progress with rest }
      return true
  | none => return false

/-- Take a text that must come next. -/
def expect (text : Text) : RegexReader Unit := do
  if ← accept text then return () else failure

/-- Go on with the given rest. -/
def goOn (rest : Text) : RegexReader Unit :=
  modify fun progress => { progress with rest }

/-- The class that an escaped letter names. -/
def namedClass? : Char → Option Pattern.SetItem
  | 'd' => some (.named false .asciiDigit)
  | 'D' => some (.named true .asciiDigit)
  | 's' => some (.named false .scriptBlank)
  | 'S' => some (.named true .scriptBlank)
  | 'w' => some (.named false .asciiWord)
  | 'W' => some (.named true .asciiWord)
  | _ => none

/-- The code of a control character written by a letter. -/
def controlCode? : Char → Option Nat
  | 'f' => some 12
  | 'n' => some 10
  | 'r' => some 13
  | 't' => some 9
  | 'v' => some 11
  | _ => none

/-- A numeric escape after its letter: its code and what follows. -/
def numericEscape? (unicode : Bool) (letter : Char) (rest : Text) : Option (Nat × Text) :=
  if letter == 'x' then
    let digits := rest.take 2
    if digits.length == 2 && digits.all fun c => (Token.digitValue? 16 c).isSome then
      some (Token.numberIn 16 digits, rest.drop 2)
    else none
  else if letter == 'u' then
    if Text.startsWith rest ['\x7b'] && !unicode then none
    else
      match Token.readCode? rest with
      | some (high, '\\' :: 'u' :: more) =>
          match Token.readCode? more with
          | some (low, after) =>
              if unicode && 0xd800 ≤ high && high < 0xdc00 && 0xdc00 ≤ low && low < 0xe000 then
                some (0x10000 + (high - 0xd800) * 0x400 + (low - 0xdc00), after)
              else some (high, '\\' :: 'u' :: more)
          | none => some (high, '\\' :: 'u' :: more)
      | found => found
  else none

/-- An octal escape: at most three digits and at most 255. -/
def octalEscape (text : Text) : Nat × Text :=
  let limit := match text with
    | c :: _ => if c.toNat < 52 then 3 else 2
    | [] => 0
  let digits := (text.take limit).takeWhile fun c => (Token.digitValue? 8 c).isSome
  (Token.numberIn 8 digits, text.drop digits.length)

/-- A character that may stand escaped for itself in any pattern. -/
def isSyntaxMark (c : Char) : Bool := ("^$\\.*+?()[]\x7b\x7d|/".toList).elem c

/-- An escape that stands for one character, after its backslash. -/
def readCharEscape (setting : Setting) (inSet : Bool) : RegexReader Nat := do
  let unicode := setting.flags.unicode
  match (← get).rest with
  | [] => failure
  | c :: rest =>
      if let some code := controlCode? c then
        goOn rest
        return code
      if c == 'c' then
        match rest with
        | d :: more =>
            if Letter.isAsciiLetter d.toNat ||
                (inSet && !unicode && (Letter.isAsciiDigit d.toNat || d == '_')) then
              goOn more
              return d.toNat % 32
        | [] => pure ()
        -- The backslash stands for itself, and the letter comes again.
        if unicode then failure else return 92
      if c == 'x' || c == 'u' then
        match numericEscape? unicode c rest with
        | some (code, rest) =>
            goOn rest
            return code
        | none =>
            if unicode then failure
            goOn rest
            return c.toNat
      if (Token.digitValue? 8 c).isSome then
        if unicode then
          if c == '0' && !(rest.head?.any fun d => Letter.isAsciiDigit d.toNat) then
            goOn rest
            return 0
          else failure
        let (code, rest) := octalEscape (c :: rest)
        goOn rest
        return code
      if unicode && !(isSyntaxMark c || (inSet && c == '-')) then failure
      goOn rest
      return c.toNat

/-- One item of a set. -/
def readSetItem (setting : Setting) : RegexReader Pattern.SetItem := do
  match (← get).rest with
  | [] => failure
  | '\\' :: c :: rest =>
      match namedClass? c with
      | some item =>
          goOn rest
          return item
      | none =>
          if c == 'b' then
            goOn rest
            return .range 8 8
          goOn (c :: rest)
          let code ← readCharEscape setting true
          return .range code code
  | c :: rest =>
      goOn rest
      return .range c.toNat c.toNat

/-- The single character of an item. -/
def singleCode? : Pattern.SetItem → Option Nat
  | .range low high => if low == high then some low else none
  | .named _ _ => none

/-- The items of a set up to its closing bracket, after those already read. -/
def readSetItems (setting : Setting) :
    Nat → List Pattern.SetItem → RegexReader (List Pattern.SetItem)
  | 0, _ => failure
  | fuel + 1, read => do
      if ← accept "]" then return read
      let item ← readSetItem setting
      match (← get).rest with
      | '-' :: c :: rest =>
          if c == ']' then readSetItems setting fuel (read ++ [item])
          else
            goOn (c :: rest)
            let last ← readSetItem setting
            match singleCode? item, singleCode? last with
            | some low, some high =>
                if high < low then failure
                readSetItems setting fuel (read ++ [.range low high])
            | _, _ =>
                if setting.flags.unicode then failure
                readSetItems setting fuel (read ++ [item, .range 45 45, last])
      | _ => readSetItems setting fuel (read ++ [item])

/-- The counts of a repetition in braces. -/
def counts? (text : Text) : Option (Nat × Option Nat × Text) :=
  let (low, rest) := Token.spanDigits 10 text
  if low.isEmpty then none
  else
    let least := Token.numberIn 10 low
    match rest with
    | '\x7d' :: rest => some (least, some least, rest)
    | ',' :: '\x7d' :: rest => some (least, none, rest)
    | ',' :: rest =>
        let (high, rest) := Token.spanDigits 10 rest
        match rest with
        | '\x7d' :: rest =>
            if high.isEmpty then none else some (least, some (Token.numberIn 10 high), rest)
        | _ => none
    | _ => none

/-- A repetition that comes next. -/
def readTurns (setting : Setting) : RegexReader (Option (Nat × Option Nat)) := do
  if ← accept "*" then return some (0, none)
  if ← accept "+" then return some (1, none)
  if ← accept "?" then return some (0, some 1)
  match (← get).rest with
  | '\x7b' :: rest =>
      match counts? rest with
      | some (low, high, rest) =>
          if high.any fun n => n < low then failure
          goOn rest
          return some (low, high)
      | none => if setting.flags.unicode then failure else return none
  | _ => return none

/-- The name of a group up to its closing bracket. -/
def readName : RegexReader Text := do
  let (name, rest) := (← get).rest.span fun c => c != '>'
  match name, rest with
  | first :: more, _ :: rest =>
      if Token.isNameStart first && more.all Token.isNamePart then
        goOn rest
        return name
      else failure
  | _, _ => failure

/-- The names of all groups of a pattern. -/
def groupNames : Nat → Bool → Text → List (Text × Nat)
  | count, inSet, '\\' :: _ :: rest => groupNames count inSet rest
  | count, false, '(' :: '?' :: '<' :: c :: rest =>
      if c == '=' || c == '!' then groupNames count false rest
      else
        ((c :: rest).takeWhile fun d => d != '>', count + 1) ::
          groupNames (count + 1) false rest
  | count, false, '(' :: '?' :: rest => groupNames count false rest
  | count, false, '(' :: rest => groupNames (count + 1) false rest
  | count, false, '[' :: rest => groupNames count true rest
  | count, true, ']' :: rest => groupNames count false rest
  | count, inSet, _ :: rest => groupNames count inSet rest
  | _, _, [] => []

/-- An escape outside a set, after its backslash: what it matches, and whether it may
be repeated. -/
def readEscape (setting : Setting) (whole : Text) : RegexReader (Pattern.Node × Bool) := do
  let rule := setting.caseRule
  match (← get).rest with
  | [] => failure
  | c :: rest =>
      if c == 'b' then
        goOn rest
        return (.anchor (.boundary .asciiWord), false)
      if c == 'B' then
        goOn rest
        return (.anchor (.inside true .asciiWord), false)
      if let some item := namedClass? c then
        goOn rest
        return (.set rule false [item], true)
      if c == 'k' && (setting.named || setting.flags.unicode) then
        goOn rest
        expect "<"
        let name ← readName
        match (groupNames 0 false whole).find? fun entry => entry.1 == name with
        | some (_, index) => return (.backref rule true index, true)
        | none => failure
      if Letter.isAsciiDigit c.toNat && c != '0' then
        let (digits, after) := Token.spanDigits 10 (c :: rest)
        let index := Token.numberIn 10 digits
        if index ≤ setting.groupCount then
          goOn after
          return (.backref rule true index, true)
        if setting.flags.unicode then failure
      let code ← readCharEscape setting false
      return (.char rule code, true)

/-- A character that stands for itself: in a sequence of units it may take two. -/
def literal (setting : Setting) (c : Char) : Pattern.Node :=
  match Units.ofChar c with
  | [high, low] =>
      if setting.flags.unicode then .char setting.caseRule c.toNat
      else .seq (.char .exact high.toNat) (.char .exact low.toNat)
  | _ => .char setting.caseRule c.toNat

/-- Wrap a repetition around a pattern; groups opened since `before` are forgotten at
each turn. -/
def repeated (before after : Nat) (low : Nat) (high : Option Nat) (isLazy : Bool)
    (node : Pattern.Node) : Pattern.Node :=
  .repeat (if isLazy then .lazy else .greedy) low high
    ((List.range (after - before)).map fun i => before + 1 + i) false node

mutual

/-- Alternatives up to a closing parenthesis or the end. -/
def readChoice (setting : Setting) (whole : Text) : Nat → RegexReader Pattern.Node
  | 0 => failure
  | fuel + 1 => do
      let first ← readSequence setting whole fuel []
      if ← accept "|" then return .alt first (← readChoice setting whole fuel) else return first

/-- A sequence of terms, after those already read, last first. -/
def readSequence (setting : Setting) (whole : Text) :
    Nat → List Pattern.Node → RegexReader Pattern.Node
  | 0, _ => failure
  | fuel + 1, read => do
      match (← get).rest with
      | [] => return Pattern.Node.sequence read.reverse
      | '|' :: _ => return Pattern.Node.sequence read.reverse
      | ')' :: _ => return Pattern.Node.sequence read.reverse
      | _ =>
          let before := (← get).opened
          let (node, repeatable) ← readTerm setting whole fuel
          let rest := (← get).rest
          match ← readTurns setting with
          | none => readSequence setting whole fuel (node :: read)
          | some (low, high) =>
              if !repeatable then failure
              let isLazy ← accept "?"
              if rest.isEmpty then failure
              let turn := repeated before (← get).opened low high isLazy node
              readSequence setting whole fuel (turn :: read)

/-- One term without its repetition, and whether it may be repeated. -/
def readTerm (setting : Setting) (whole : Text) : Nat → RegexReader (Pattern.Node × Bool)
  | 0 => failure
  | fuel + 1 => do
      let rule := setting.caseRule
      match (← get).rest with
      | [] => failure
      | '^' :: rest =>
          goOn rest
          let anchor : Pattern.Anchor :=
            if setting.flags.multiline then .lineStart isBreakCode else .start
          return (.anchor anchor, false)
      | '$' :: rest =>
          goOn rest
          let anchor : Pattern.Anchor :=
            if setting.flags.multiline then .lineStop isBreakCode else .stop
          return (.anchor anchor, false)
      | '.' :: rest =>
          goOn rest
          let excluded : List Pattern.SetItem :=
            if setting.flags.dotAll then []
            else [.range 10 10, .range 13 13, .range 0x2028 0x2029]
          return (.set .exact true excluded, true)
      | '[' :: rest =>
          goOn rest
          let negated ← accept "^"
          let items ← readSetItems setting (rest.length + 1) []
          return (.set rule negated items, true)
      | '\\' :: rest =>
          goOn rest
          readEscape setting whole
      | '(' :: rest =>
          goOn rest
          if ← accept "?:" then
            let body ← readChoice setting whole fuel
            expect ")"
            return (body, true)
          else if ← accept "?=" then
            let body ← readChoice setting whole fuel
            expect ")"
            return (.look true false body, !setting.flags.unicode)
          else if ← accept "?!" then
            let body ← readChoice setting whole fuel
            expect ")"
            return (.look true true body, !setting.flags.unicode)
          else if ← accept "?<=" then
            let body ← readChoice setting whole fuel
            expect ")"
            return (.look false false body, false)
          else if ← accept "?<!" then
            let body ← readChoice setting whole fuel
            expect ")"
            return (.look false true body, false)
          else
            let name ← if ← accept "?<" then some <$> readName else pure none
            let progress ← get
            let index := progress.opened + 1
            match name with
            | some name =>
                if progress.names.any fun entry => entry.1 == name then failure
                modify fun progress =>
                  { progress with
                    opened := index
                    names := progress.names ++ [(name, index)] }
            | none => modify fun progress => { progress with opened := index }
            let body ← readChoice setting whole fuel
            expect ")"
            return (.group index body, true)
      | c :: rest =>
          if c == '*' || c == '+' || c == '?' then failure
          if c == '\x7b' && (setting.flags.unicode || (counts? rest).isSome) then failure
          if (c == '\x7d' || c == ']') && setting.flags.unicode then failure
          goOn rest
          return (literal setting c, true)

end

/-- Read a whole pattern. -/
def readWhole (setting : Setting) (whole : Text) : RegexReader Pattern.Node := do
  let node ← readChoice setting whole (2 * whole.length + 3)
  if (← get).rest.isEmpty then return node else failure

/-- Read the pattern of a regular expression. -/
def read? (flags : RegexFlags) (source : Text) : Option Pattern :=
  let (groupCount, named) := countGroups false source
  match (readWhole ⟨flags, groupCount, named⟩ source).run ⟨source, 0, []⟩ with
  | some (node, progress) => some ⟨node, progress.opened, progress.names⟩
  | none => none

/-- The subject in which a regular expression is searched. -/
def subjectOf (unicode : Bool) (units : Units) : Array Nat :=
  if unicode then units.codes.toArray else units.map fun unit => unit.toNat

/-- The number of units before a position of a subject. -/
def unitOffset (unicode : Bool) (subject : Array Nat) (pos : Nat) : Nat :=
  if unicode then
    (subject.extract 0 pos).foldl (fun count code => count + if code < 0x10000 then 1 else 2) 0
  else pos

/-- The position of a subject that stands after so many units. -/
def positionAt (unicode : Bool) (units : Units) (offset : Nat) : Nat :=
  if unicode then (Units.codes (units.extract 0 offset)).length else offset

end Regex

end Script

end RuleProbe
