import RuleProbe.Numeral.Written
import RuleProbe.Pattern.Syntax

/-!
# Reading patterns

The notation in which rules write patterns.  Flags given in a group apply inside it;
flags for the whole pattern stand at its beginning.  A name or number must refer to
a group that is closed, and a look-behind must have one width.
-/

namespace RuleProbe

namespace Pattern

/-- Why a text is no pattern. -/
inductive SyntaxFault where
  /-- The text does not follow the notation. -/
  | malformed
  /-- A repetition count is too large to be represented. -/
  | countTooLarge
  /-- Flags of the whole pattern exclude each other. -/
  | flagsClash
  deriving DecidableEq, Inhabited

/-- What flags ask for. -/
structure Flags where
  /-- Characters agree up to case. -/
  ignoreCase : Bool := false
  /-- Anchors also stand at line breaks. -/
  multiline : Bool := false
  /-- The dot matches line breaks. -/
  dotAll : Bool := false
  /-- Blanks and comments in the pattern are skipped. -/
  verbose : Bool := false
  /-- Classes and case know ASCII only. -/
  ascii : Bool := false
  deriving Inhabited

/-- The least and the greatest number of characters that a pattern consumes; nothing
stands for no bound. -/
abbrev Width := Nat × Option Nat

/-- The sum of two widths. -/
def Width.add (a b : Width) : Width :=
  (a.1 + b.1, match a.2, b.2 with | some x, some y => some (x + y) | _, _ => none)

/-- The width of one of two alternatives. -/
def Width.join (a b : Width) : Width :=
  (min a.1 b.1, match a.2, b.2 with | some x, some y => some (max x y) | _, _ => none)

/-- What a reader has met so far. -/
structure ReaderState where
  /-- The text still to be read. -/
  rest : Text
  /-- The flags of the whole pattern. -/
  flags : Flags
  /-- The whole pattern was marked as one over Unicode. -/
  markedUnicode : Bool
  /-- The width of each group, by index less one; nothing while it is open. -/
  groups : Array (Option Width)
  /-- The names of groups. -/
  names : List (Text × Nat)
  /-- The number of groups opened before the outermost look-behind in progress. -/
  behind : Option Nat
  /-- The greatest group number that a condition refers to. -/
  condition : Nat
  deriving Inhabited

/-- A reader of a part of a pattern. -/
abbrev PatternReader := StateT ReaderState (Except SyntaxFault)

namespace PatternReader

/-- Fail: the text is no pattern. -/
def refuse {α : Type} : PatternReader α := throw .malformed

/-- The next token: a character, or a backslash with the character it escapes. -/
def peek : PatternReader (Option Text) := do
  match (← get).rest with
  | [] => return none
  | ['\\'] => refuse
  | '\\' :: c :: _ => return some ['\\', c]
  | c :: _ => return some [c]

/-- Take the next token. -/
def take : PatternReader (Option Text) := do
  let token ← peek
  match token with
  | none => return none
  | some token =>
      modify fun state => { state with rest := state.rest.drop token.length }
      -- A lone backslash at the end is refused as soon as it comes next.
      let _ ← peek
      return some token

/-- Take the next token when it is the given character. -/
def accept (c : Char) : PatternReader Bool := do
  if (← peek) == some [c] then
    let _ ← take
    return true
  else return false

/-- Take the given character, or fail. -/
def expect (c : Char) : PatternReader Unit := do
  if ← accept c then return () else refuse

/-- Take characters that satisfy a test, at most `limit`. -/
def takeWhile (test : Char → Bool) : Nat → PatternReader Text
  | 0 => return []
  | limit + 1 => do
      match ← peek with
      | some [c] =>
          if test c then
            let _ ← take
            return c :: (← takeWhile test limit)
          else return []
      | _ => return []

/-- Take tokens up to a closing character, which is taken too; there must be one
token at least. -/
def takeName (close : Char) : Nat → Text → PatternReader Text
  | 0, _ => refuse
  | fuel + 1, read => do
      match ← take with
      | none => refuse
      | some token =>
          if token == [close] then
            if read.isEmpty then refuse else return read
          else takeName close fuel (read ++ token)

/-- A bound on the number of tokens still to come. -/
def fuel : PatternReader Nat := do return (← get).rest.length + 1

/-- Open a group. -/
def openGroup (name : Option Text) : PatternReader Nat := do
  let state ← get
  let index := state.groups.size + 1
  match name with
  | none => set { state with groups := state.groups.push none }
  | some name =>
      if state.names.any fun entry => entry.1 == name then refuse
      set { state with
        groups := state.groups.push none
        names := state.names ++ [(name, index)] }
  return index

/-- Close a group. -/
def closeGroup (index : Nat) (width : Width) : PatternReader Unit :=
  modify fun state =>
    { state with groups := state.groups.setIfInBounds (index - 1) (some width) }

/-- The width of a closed group. -/
def closedWidth (index : Nat) : PatternReader Width := do
  match (← get).groups[index - 1]? with
  | some (some width) => return width
  | _ => refuse

/-- A reference to a group inside a look-behind must lead to one closed before it. -/
def checkBehind (index : Nat) : PatternReader Unit := do
  match (← get).behind with
  | none => return ()
  | some opened =>
      let _ ← closedWidth index
      if opened < index then refuse

end PatternReader

open PatternReader

/-- A hexadecimal digit. -/
def isHexDigit (c : Char) : Bool :=
  Letter.isAsciiDigit c.toNat || (97 ≤ c.toNat && c.toNat ≤ 102) ||
    (65 ≤ c.toNat && c.toNat ≤ 70)

/-- An octal digit. -/
def isOctalDigit (c : Char) : Bool := 48 ≤ c.toNat && c.toNat ≤ 55

/-- The number written by digits in a base. -/
def numberIn (base : Nat) (digits : Text) : Nat :=
  digits.foldl (fun value c =>
    let code := c.toNat
    let digit :=
      if code ≤ 57 then code - 48 else if 97 ≤ code then code - 87 else code - 55
    value * base + digit) 0

/-- The code of a control character written by a letter. -/
def controlCode? : Char → Option Nat
  | 'a' => some 7
  | 'b' => some 8
  | 'f' => some 12
  | 'n' => some 10
  | 'r' => some 13
  | 't' => some 9
  | 'v' => some 11
  | '\\' => some 92
  | _ => none

/-- The class that an escaped letter names. -/
def namedClass? (flags : Flags) : Char → Option SetItem
  | 'd' => some (.named false (if flags.ascii then .asciiDigit else .digit))
  | 'D' => some (.named true (if flags.ascii then .asciiDigit else .digit))
  | 's' => some (.named false (if flags.ascii then .asciiBlank else .blank))
  | 'S' => some (.named true (if flags.ascii then .asciiBlank else .blank))
  | 'w' => some (.named false (if flags.ascii then .asciiWord else .word))
  | 'W' => some (.named true (if flags.ascii then .asciiWord else .word))
  | _ => none

/-- The case rule that flags ask for. -/
def Flags.caseRule (flags : Flags) : CaseRule :=
  if flags.ignoreCase then (if flags.ascii then .ascii else .full) else .exact

/-- A numeric escape of a fixed number of hexadecimal digits. -/
def readHexEscape (count : Nat) : PatternReader Nat := do
  let digits ← takeWhile isHexDigit count
  if digits.length != count then refuse
  let code := numberIn 16 digits
  if 0x110000 ≤ code then refuse
  return code

/-- An escape that stands for one character both inside and outside a set. -/
def readCharEscape (c : Char) : PatternReader Nat := do
  if c == 'x' then readHexEscape 2
  else if c == 'u' then readHexEscape 4
  else if c == 'U' then readHexEscape 8
  else if Letter.isAsciiLetter c.toNat then refuse
  else return c.toNat

/-- An escape inside a set. -/
def readSetEscape (flags : Flags) (c : Char) : PatternReader SetItem := do
  match controlCode? c with
  | some code => return .range code code
  | none =>
      match namedClass? flags c with
      | some item => return item
      | none =>
          if isOctalDigit c then
            let more ← takeWhile isOctalDigit 2
            let code := numberIn 8 (c :: more)
            if 0o377 < code then refuse
            return .range code code
          else if Letter.isAsciiDigit c.toNat then refuse
          else
            let code ← readCharEscape c
            return .range code code

/-- The single character of a set item. -/
def singleCode? : SetItem → Option Nat
  | .range low high => if low == high then some low else none
  | .named _ _ => none

/-- One item of a set, its first token given. -/
def readSetToken (flags : Flags) (token : Text) : PatternReader SetItem :=
  match token with
  | ['\\', c] => readSetEscape flags c
  | [c] => return .range c.toNat c.toNat
  | _ => refuse

/-- The items of a set up to its closing bracket, after those already read. -/
def readSetItems (flags : Flags) : Nat → List SetItem → PatternReader (List SetItem)
  | 0, _ => refuse
  | fuel + 1, read => do
      match ← take with
      | none => refuse
      | some token =>
          if token == [']'] && !read.isEmpty then return read
          let item ← readSetToken flags token
          if ← accept '-' then
            match ← take with
            | none => refuse
            | some other =>
                if other == [']'] then return read ++ [item, .range 45 45]
                let last ← readSetToken flags other
                match singleCode? item, singleCode? last with
                | some low, some high =>
                    if high < low then refuse
                    readSetItems flags fuel (read ++ [.range low high])
                | _, _ => refuse
          else readSetItems flags fuel (read ++ [item])

/-- A set after its opening bracket. -/
def readSet (flags : Flags) : PatternReader Node := do
  let negated ← accept '^'
  let items ← readSetItems flags (← fuel) []
  return .set flags.caseRule negated items

/-- What kind of item a sequence ends with, as far as repeating it goes. -/
inductive ItemKind where
  /-- An item that may be repeated. -/
  | plain
  /-- A condition on the position, which may not. -/
  | anchor
  /-- A repetition, which may not. -/
  | repetition
  deriving DecidableEq

/-- A part of a sequence. -/
structure Item where
  /-- What it matches. -/
  node : Node
  /-- Its width. -/
  width : Width
  /-- What kind of item it is. -/
  kind : ItemKind

/-- An item of one character. -/
def Item.single (node : Node) : Item := ⟨node, (1, some 1), .plain⟩

/-- The condition at the beginning of a line, or of the subject. -/
def Flags.startAnchor (flags : Flags) : Anchor :=
  if flags.multiline then .lineStart (· == 10) else .start

/-- The condition at the end of a line, or of the subject. -/
def Flags.stopAnchor (flags : Flags) : Anchor :=
  if flags.multiline then .lineStop (· == 10) else .lastLine

/-- A condition on the position that an escaped letter names. -/
def escapedAnchor? (flags : Flags) : Char → Option Anchor
  | 'A' => some .start
  | 'Z' => some .stop
  | 'b' => some (.boundary (if flags.ascii then .asciiWord else .word))
  | 'B' => some (.inside false (if flags.ascii then .asciiWord else .word))
  | _ => none

/-- A reference to a group by number. -/
def readReference (flags : Flags) (index : Nat) : PatternReader Item := do
  if (← get).groups.size < index then refuse
  let width ← closedWidth index
  checkBehind index
  return ⟨.backref flags.caseRule false index, width, .plain⟩

/-- An escape outside a set. -/
def readEscape (flags : Flags) (c : Char) : PatternReader Item := do
  let literal (code : Nat) : Item := .single (.char flags.caseRule code)
  if let some anchor := escapedAnchor? flags c then
    return ⟨.anchor anchor, (0, some 0), .anchor⟩
  if let some item := namedClass? flags c then
    return .single (.set flags.caseRule false [item])
  if let some code := controlCode? c then return literal code
  if c == '0' then
    let more ← takeWhile isOctalDigit 2
    return literal (numberIn 8 more)
  else if Letter.isAsciiDigit c.toNat then
    match ← takeWhile (fun d => Letter.isAsciiDigit d.toNat) 1 with
    | [d] =>
        let third ←
          if isOctalDigit c && isOctalDigit d then takeWhile isOctalDigit 1 else pure []
        match third with
        | [e] =>
            let code := numberIn 8 [c, d, e]
            if 0o377 < code then refuse
            return literal code
        | _ => readReference flags (numberIn 10 [c, d])
    | _ => readReference flags (numberIn 10 [c])
  else
    let code ← readCharEscape c
    return literal code

/-- The greatest count of a repetition. -/
def countLimit : Nat := 4294967295

/-- The counts of a repetition in braces, or nothing when the brace stands for
itself. -/
def readCounts : PatternReader (Option (Nat × Option Nat)) := do
  let before ← get
  let isDigit : Char → Bool := fun c => Letter.isAsciiDigit c.toNat
  let low ← takeWhile isDigit (← fuel)
  let comma ← accept ','
  let high ← if comma then takeWhile isDigit (← fuel) else pure low
  if ← accept '}' then
    let least := numberIn 10 low
    let most := if high.isEmpty then none else some (numberIn 10 high)
    if countLimit ≤ least || (most.any fun n => countLimit ≤ n) then throw .countTooLarge
    if most.any fun n => n < least then refuse
    return some (least, most)
  else
    set before
    return none

/-- The order in which a repetition tries its counts, by the mark behind them. -/
def readGreed : PatternReader Greed := do
  if ← accept '?' then return .lazy
  if ← accept '+' then return .possessive
  return .greedy

/-- Repeat the last item of a sequence, given last first. -/
def repeatLast (low : Nat) (high : Option Nat) (items : List Item) :
    PatternReader (List Item) := do
  match items with
  | [] => refuse
  | item :: rest =>
      if item.kind != .plain then refuse
      let greed ← readGreed
      let most : Option Nat :=
        match item.width.2, high with
        | some 0, _ => some 0
        | some width, some count => some (width * count)
        | _, _ => none
      return ⟨.repeat greed low high [] true item.node, (item.width.1 * low, most),
        .repetition⟩ :: rest

/-- A flag by its letter, set to a value. -/
def Flags.set? (flags : Flags) (value : Bool) : Char → Option Flags
  | 'i' => some { flags with ignoreCase := value }
  | 'm' => some { flags with multiline := value }
  | 's' => some { flags with dotAll := value }
  | 'x' => some { flags with verbose := value }
  | 'a' => some { flags with ascii := value }
  | 'u' => some flags
  | 't' => some flags
  | _ => none

/-- The letters of flags that choose the kind of text. -/
def isKindFlag (c : Char) : Bool := c == 'a' || c == 'u'

/-- Flag letters up to one of the given closing characters, which is returned. -/
def readFlagLetters (closers : Text) : Nat → Text → PatternReader (Text × Char)
  | 0, _ => refuse
  | fuel + 1, read => do
      match ← take with
      | some [c] =>
          if closers.elem c && !read.isEmpty then return (read, c)
          if (Flags.set? {} true c).isNone then refuse
          if isKindFlag c && (read.any fun d => isKindFlag d && d != c) then refuse
          readFlagLetters closers fuel (read ++ [c])
      | _ => refuse

/-- Flags set by letters. -/
def Flags.apply (flags : Flags) (value : Bool) (letters : Text) : Flags :=
  letters.foldl (fun flags c => (flags.set? value c).getD flags) flags

/-- Flags after the opening of a group, `first` being the letter or sign that stands
there.  Nothing is returned when they were flags of the whole pattern. -/
def readGroupFlags (flags : Flags) (first : Char) : PatternReader (Option Flags) := do
  let count ← fuel
  let (added, closer) ←
    if first == '-' then pure ([], '-')
    else if (Flags.set? {} true first).isNone then refuse
    else readFlagLetters [')', '-', ':'] count [first]
  if closer == ')' then
    let state ← get
    set { state with
      flags := state.flags.apply true added
      markedUnicode := state.markedUnicode || added.elem 'u' }
    return none
  if added.elem 't' then refuse
  if closer == ':' then
    let base := if added.elem 'u' then { flags with ascii := false } else flags
    return some (base.apply true added)
  let (removed, _) ← readFlagLetters [':'] count []
  if removed.any fun c => isKindFlag c || c == 't' || added.elem c then refuse
  let base := if added.elem 'u' then { flags with ascii := false } else flags
  return some ((base.apply true added).apply false removed)

/-- A name: a letter or underscore, then letters, digits and underscores. -/
def isName (name : Text) : Bool :=
  match name with
  | [] => false
  | c :: rest =>
      Letter.isNameStart c.toNat && rest.all fun d => Letter.isNamePart d.toNat

/-- Skip a comment up to its closing parenthesis. -/
def skipComment : Nat → PatternReader Unit
  | 0 => refuse
  | fuel + 1 => do
      match ← take with
      | none => refuse
      | some token => if token == [')'] then return () else skipComment fuel

/-- Skip a comment up to the end of its line. -/
def skipLine : Nat → PatternReader Unit
  | 0 => return ()
  | fuel + 1 => do
      match ← take with
      | none => return ()
      | some token => if token == ['\n'] then return () else skipLine fuel

/-- A blank that verbose patterns skip. -/
def isSkippedBlank (c : Char) : Bool := c == ' ' || (9 ≤ c.toNat && c.toNat ≤ 13)

/-- What the opening of a group leads to. -/
inductive Opening where
  /-- A group that is recorded, perhaps under a name. -/
  | capture (name : Option Text)
  /-- A group that is not, with its flags. -/
  | plain (flags : Flags)
  /-- A group of which only the first way to match counts. -/
  | atomic
  /-- A look-ahead or look-behind. -/
  | look (ahead negated : Bool)
  /-- A pattern that depends on a group. -/
  | condition (index : Nat)
  /-- A reference to a group. -/
  | reference (item : Item)
  /-- Nothing: a comment. -/
  | nothing
  /-- Flags of the whole pattern. -/
  | wholeFlags

/-- A group that a condition names. -/
def readConditionName : PatternReader Nat := do
  let name ← takeName ')' (← fuel) []
  if isName name then
    match (← get).names.find? fun entry => entry.1 == name with
    | some entry => checkBehind entry.2; return entry.2
    | none => refuse
  else
    match Integer.read? name with
    | some (.ofNat (n + 1)) =>
        modify fun state => { state with condition := max state.condition (n + 1) }
        checkBehind (n + 1)
        return n + 1
    | _ => refuse

/-- The beginning of a group, after its parenthesis. -/
def readOpening (flags : Flags) : PatternReader Opening := do
  if !(← accept '?') then return .capture none
  match ← take with
  | some ['P'] =>
      if ← accept '<' then
        let name ← takeName '>' (← fuel) []
        if isName name then return .capture (some name) else refuse
      else if ← accept '=' then
        let name ← takeName ')' (← fuel) []
        match (← get).names.find? fun entry => entry.1 == name with
        | some entry => return .reference (← readReference flags entry.2)
        | none => refuse
      else refuse
  | some [':'] => return .plain flags
  | some ['#'] =>
      skipComment (← fuel)
      return .nothing
  | some ['='] => return .look true false
  | some ['!'] => return .look true true
  | some ['<'] =>
      if ← accept '=' then return .look false false
      else if ← accept '!' then return .look false true
      else refuse
  | some ['('] => return .condition (← readConditionName)
  | some ['>'] => return .atomic
  | some [c] =>
      match ← readGroupFlags flags c with
      | some inner => return .plain inner
      | none => return .wholeFlags
  | _ => refuse

/-- A sequence and its width. -/
def gather (items : List Item) : Node × Width :=
  (Node.sequence (items.reverse.map (·.node)),
    items.foldl (fun width item => width.add item.width) (0, some 0))

mutual

/-- Alternatives up to a closing parenthesis or the end. -/
def readChoice : Nat → Flags → Bool → PatternReader (Node × Width)
  | 0, _, _ => refuse
  | fuel + 1, flags, whole => do
      let (first, width) ← readSequence fuel flags whole []
      if ← accept '|' then
        -- Flags given at the beginning hold for all alternatives.
        let flags ← if whole then do pure (← get).flags else pure flags
        let (second, otherWidth) ← readChoice fuel flags false
        return (.alt first second, width.join otherWidth)
      else return (first, width)

/-- A sequence of items up to an alternative, a closing parenthesis or the end;
`first` tells that it begins the whole pattern. -/
def readSequence : Nat → Flags → Bool → List Item → PatternReader (Node × Width)
  | 0, _, _, _ => refuse
  | fuel + 1, flags, first, items => do
      match ← peek with
      | none => return gather items
      | some ['|'] => return gather items
      | some [')'] => return gather items
      | some token =>
          let _ ← take
          match token with
          | ['\\', c] => readSequence fuel flags first ((← readEscape flags c) :: items)
          | ['['] => readSequence fuel flags first (.single (← readSet flags) :: items)
          | ['.'] =>
              let excluded := if flags.dotAll then [] else [SetItem.range 10 10]
              readSequence fuel flags first (.single (.set .exact true excluded) :: items)
          | ['^'] =>
              readSequence fuel flags first
                (⟨.anchor flags.startAnchor, (0, some 0), .anchor⟩ :: items)
          | ['$'] =>
              readSequence fuel flags first
                (⟨.anchor flags.stopAnchor, (0, some 0), .anchor⟩ :: items)
          | ['*'] => readSequence fuel flags first (← repeatLast 0 none items)
          | ['+'] => readSequence fuel flags first (← repeatLast 1 none items)
          | ['?'] => readSequence fuel flags first (← repeatLast 0 (some 1) items)
          | ['{'] =>
              let brace : Item := .single (.char flags.caseRule 123)
              if (← peek) == some ['}'] then readSequence fuel flags first (brace :: items)
              else
                match ← readCounts with
                | none => readSequence fuel flags first (brace :: items)
                | some (low, high) =>
                    readSequence fuel flags first (← repeatLast low high items)
          | ['('] =>
              match ← readOpening flags with
              | .nothing => readSequence fuel flags first items
              | .reference item => readSequence fuel flags first (item :: items)
              | .wholeFlags =>
                  if !first || !items.isEmpty then refuse
                  readSequence fuel (← get).flags first items
              | .capture name =>
                  let index ← openGroup name
                  let (node, width) ← readChoice fuel flags false
                  expect ')'
                  closeGroup index width
                  readSequence fuel flags first
                    (⟨.group index node, width, .plain⟩ :: items)
              | .plain inner =>
                  let (node, width) ← readChoice fuel inner false
                  expect ')'
                  readSequence fuel flags first (⟨node, width, .plain⟩ :: items)
              | .atomic =>
                  let (node, width) ← readChoice fuel flags false
                  expect ')'
                  readSequence fuel flags first (⟨.atomic node, width, .plain⟩ :: items)
              | .look ahead negated =>
                  let outer := (← get).behind
                  if !ahead && outer.isNone then
                    modify fun state => { state with behind := some state.groups.size }
                  let (node, width) ← readChoice fuel flags false
                  if !ahead then modify fun state => { state with behind := outer }
                  expect ')'
                  if !ahead && width.2 != some width.1 then refuse
                  readSequence fuel flags first
                    (⟨.look ahead negated node, (0, some 0), .plain⟩ :: items)
              | .condition index =>
                  let (yes, yesWidth) ← readSequence fuel flags false []
                  let (no, noWidth) ←
                    if ← accept '|' then readSequence fuel flags false []
                    else pure (.empty, (0, some 0))
                  expect ')'
                  readSequence fuel flags first
                    (⟨.branch index yes no, yesWidth.join noWidth, .plain⟩ :: items)
          | [c] =>
              if flags.verbose && isSkippedBlank c then readSequence fuel flags first items
              else if flags.verbose && c == '#' then do
                skipLine fuel
                readSequence fuel flags first items
              else
                readSequence fuel flags first
                  (.single (.char flags.caseRule c.toNat) :: items)
          | _ => refuse

end

/-- Read a whole pattern. -/
def readWhole (flags : Flags) : PatternReader Node := do
  let _ ← peek
  let (node, _) ← readChoice (2 * (← fuel) + 2) flags true
  let state ← get
  if state.flags.ascii && state.markedUnicode then throw .flagsClash
  if !state.rest.isEmpty then refuse
  if state.groups.size < state.condition then refuse
  return node

/-- Read a pattern under flags. -/
def read (flags : Flags) (text : Text) : Except SyntaxFault Pattern := do
  let state : ReaderState :=
    { rest := text, flags, markedUnicode := false, groups := #[], names := []
      behind := none, condition := 0 }
  let (node, state) ← (readWhole flags).run state
  return ⟨node, state.groups.size, state.names⟩

end Pattern

end RuleProbe
