import RuleProbe.Pattern.Syntax

/-!
# Matches of patterns

A pattern is matched at a position of a subject, and searched from position to position.
-/

namespace RuleProbe

namespace Pattern

/-!
## Matching

A pattern is matched by backtracking, in continuation style: the matcher of a node
takes a position with the spans recorded so far and a continuation for the rest of
the pattern, and gives the first way in which both succeed.  Repetition recurses on
a bound of its turns: a turn that is not required either consumes something or is
the last one.
-/

/-- A sequence of character codes. -/
abbrev Subject := Array Nat

/-- A position with the spans recorded so far. -/
structure Trail where
  /-- The position. -/
  pos : Nat
  /-- First and last position of each group that has matched. -/
  spans : Array (Option (Nat × Nat))

/-- What must still match. -/
abbrev Goal := Trail → Option Trail

/-- A way to match from a position on, with the rest as a goal. -/
abbrev Matcher := Trail → Goal → Option Trail

/-- Up to case, characters agree by this key. -/
def caseKey (code : Nat) : List Nat := Case.upperCodes (Case.lowerCode code)

/-- The ASCII lower case of a character. -/
def asciiLower (code : Nat) : Nat := if 65 ≤ code && code ≤ 90 then code + 32 else code

/-- The single-character upper case by which characters of scripts compare: it never
leads into ASCII from outside. -/
def scriptUpper (code : Nat) : Nat :=
  match Case.upperCodes code with
  | [upper] => if 128 ≤ code && upper < 128 then code else upper
  | _ => code

namespace CaseRule

/-- Two characters agree. -/
def same : CaseRule → Nat → Nat → Bool
  | exact, a, b => a == b
  | ascii, a, b => asciiLower a == asciiLower b
  | full, a, b =>
      if a < 128 && b < 128 then asciiLower a == asciiLower b
      else a == b || caseKey a == caseKey b
  | upper, a, b => a == b || scriptUpper a == scriptUpper b

/-- Characters one mapping away from a character, in either direction. -/
def neighbours (code : Nat) : List Nat :=
  let preimages (table : CaseTable) : List Nat :=
    table.runs.filterMap fun run =>
      let source := ((code : Int) - run.shift).toNat
      if CaseTable.covers run source then some source else none
  let asciiPartners : List Nat :=
    if Letter.isAsciiLetter code then [asciiLower code, asciiLower code - 32] else []
  [code, Case.lowerCode code, Case.upperCode code] ++ asciiPartners ++
    preimages Case.lowerRuns ++ preimages Case.upperRuns ++
    (if code == 0x69 || code == 0x49 then [0x130] else [])

/-- Characters that agree with a character. -/
def partners : CaseRule → Nat → List Nat
  | exact, code => [code]
  | ascii, code =>
      if Letter.isAsciiLetter code then [asciiLower code, asciiLower code - 32] else [code]
  | rule, code =>
      (((neighbours code).flatMap neighbours).eraseDups).filter fun other =>
        rule.same code other

end CaseRule

namespace SetItem

/-- The character itself belongs to the item. -/
def holds : SetItem → Nat → Bool
  | range low high, code => low ≤ code && code ≤ high
  | named negated charClass, code => charClass.holds code != negated

/-- A character that agrees with the given one belongs to the item.  Classes do not
depend on case. -/
def admits (rule : CaseRule) : SetItem → Nat → Bool
  | range low high, code =>
      (low ≤ code && code ≤ high) ||
        (rule != .exact && (rule.partners code).any fun other => low ≤ other && other ≤ high)
  | named negated charClass, code => charClass.holds code != negated

end SetItem

/-- The test of a node that matches exactly one character. -/
def Node.unit? : Node → Option (Nat → Bool)
  | .char rule code => some fun other => rule.same code other
  | .set rule negated items =>
      some fun other => (items.any fun item => item.admits rule other) != negated
  | _ => none

/-- A word begins or ends at a position. -/
def isBoundary (subject : Subject) (pos : Nat) (charClass : CharClass) : Bool :=
  let before := 0 < pos && (subject[pos - 1]?.any charClass.holds)
  let after := subject[pos]?.any charClass.holds
  before != after

/-- A position satisfies a condition. -/
def Anchor.holds (subject : Subject) (pos : Nat) : Anchor → Bool
  | start => pos == 0
  | stop => pos == subject.size
  | lastLine =>
      pos == subject.size || (pos + 1 == subject.size && subject[pos]? == some 10)
  | lineStart isBreak => pos == 0 || (subject[pos - 1]?.any isBreak)
  | lineStop isBreak => pos == subject.size || (subject[pos]?.any isBreak)
  | boundary charClass => isBoundary subject pos charClass
  | inside ifEmpty charClass =>
      (ifEmpty || subject.size != 0) && !isBoundary subject pos charClass

/-- Match one character that passes a test, forward or backward. -/
def matchUnit (subject : Subject) (forward : Bool) (test : Nat → Bool) : Matcher :=
  fun trail goal =>
    if forward then
      match subject[trail.pos]? with
      | some code => if test code then goal { trail with pos := trail.pos + 1 } else none
      | none => none
    else if trail.pos == 0 then none
    else
      match subject[trail.pos - 1]? with
      | some code => if test code then goal { trail with pos := trail.pos - 1 } else none
      | none => none

/-- How many characters pass a test from a position on, at most `limit`. -/
def countUnits (subject : Subject) (forward : Bool) (test : Nat → Bool) :
    Nat → Nat → Nat
  | 0, _ => 0
  | limit + 1, pos =>
      if forward then
        match subject[pos]? with
        | some code =>
            if test code then countUnits subject forward test limit (pos + 1) + 1 else 0
        | none => 0
      else if pos == 0 then 0
      else
        match subject[pos - 1]? with
        | some code =>
            if test code then countUnits subject forward test limit (pos - 1) + 1 else 0
        | none => 0

/-- The trail `count` characters further. -/
def Trail.advance (trail : Trail) (forward : Bool) (count : Nat) : Trail :=
  { trail with pos := if forward then trail.pos + count else trail.pos - count }

/-- Try the goal after `low + extra` characters, then after fewer. -/
def tryDown (forward : Bool) (low : Nat) (trail : Trail) (goal : Goal) :
    Nat → Option Trail
  | 0 => goal (trail.advance forward low)
  | extra + 1 =>
      match goal (trail.advance forward (low + (extra + 1))) with
      | some result => some result
      | none => tryDown forward low trail goal extra

/-- Try the goal after `count` characters, then after more, `extra` at most. -/
def tryUp (forward : Bool) (trail : Trail) (goal : Goal) : Nat → Nat → Option Trail
  | 0, count => goal (trail.advance forward count)
  | extra + 1, count =>
      match goal (trail.advance forward count) with
      | some result => some result
      | none => tryUp forward trail goal extra (count + 1)

/-- Repeat a test of single characters. -/
def repeatUnit (subject : Subject) (forward : Bool) (test : Nat → Bool) (greed : Greed)
    (low : Nat) (high : Option Nat) : Matcher :=
  fun trail goal =>
    let limit := high.getD (subject.size + 1)
    let available := countUnits subject forward test limit trail.pos
    if available < low then none
    else
      match greed with
      | .greedy => tryDown forward low trail goal (available - low)
      | .lazy => tryUp forward trail goal (available - low) low
      | .possessive => goal (trail.advance forward available)

/-- Forget the spans of groups. -/
def Trail.forget (trail : Trail) (groups : List Nat) : Trail :=
  ⟨trail.pos, groups.foldl (fun spans index => spans.setIfInBounds index none) trail.spans⟩

/-- A repetition's parameters. -/
structure Turns where
  /-- The least number of turns. -/
  low : Nat
  /-- The greatest number of turns. -/
  high : Option Nat
  /-- The groups that a turn forgets first. -/
  forget : List Nat
  /-- Whether a turn that is not required may consume nothing. -/
  emptyTurn : Bool

/-- Another turn is allowed after `count` of them. -/
def Turns.allows (turns : Turns) (count : Nat) : Bool :=
  match turns.high with
  | some high => count < high
  | none => true

/-- Repeat `body`, most turns first.  `last` is where the previous optional turn
began: a turn that begins there again would consume nothing. -/
def repeatGreedy (turns : Turns) (body : Matcher) :
    Nat → Nat → Option Nat → Matcher
  | 0, _, _ => fun _ _ => none
  | fuel + 1, count, last => fun trail goal =>
      if count < turns.low then
        body (trail.forget turns.forget) fun next =>
          repeatGreedy turns body fuel (count + 1) last next goal
      else if turns.allows count && last != some trail.pos then
        let further := body (trail.forget turns.forget) fun next =>
          if !turns.emptyTurn && next.pos == trail.pos then none
          else repeatGreedy turns body fuel (count + 1) (some trail.pos) next goal
        match further with
        | some result => some result
        | none => goal trail
      else goal trail

/-- Repeat `body`, fewest turns first. -/
def repeatLazy (turns : Turns) (body : Matcher) :
    Nat → Nat → Option Nat → Matcher
  | 0, _, _ => fun _ _ => none
  | fuel + 1, count, last => fun trail goal =>
      if count < turns.low then
        body (trail.forget turns.forget) fun next =>
          repeatLazy turns body fuel (count + 1) last next goal
      else
        match goal trail with
        | some result => some result
        | none =>
            if turns.allows count && last != some trail.pos then
              body (trail.forget turns.forget) fun next =>
                if !turns.emptyTurn && next.pos == trail.pos then none
                else repeatLazy turns body fuel (count + 1) (some trail.pos) next goal
            else none

/-- Repeat `body` as often as possible, each turn in its first way. -/
def repeatPossessive (turns : Turns) (body : Matcher) : Nat → Nat → Trail → Option Trail
  | 0, _, _ => none
  | fuel + 1, count, trail =>
      if turns.allows count then
        match body trail some with
        | some next =>
            if turns.low ≤ count && next.pos == trail.pos then some trail
            else repeatPossessive turns body fuel (count + 1) next
        | none => if count < turns.low then none else some trail
      else some trail

/-- The characters of a span. -/
def slice (subject : Subject) (span : Nat × Nat) : List Nat :=
  (subject.extract span.1 span.2).toList

/-- Match given characters from a position on, forward. -/
def matchCodes (subject : Subject) (rule : CaseRule) : List Nat → Nat → Bool
  | [], _ => true
  | code :: rest, pos =>
      (subject[pos]?.any fun other => rule.same code other) &&
        matchCodes subject rule rest (pos + 1)

/-- The matcher of a node. -/
def Node.matcher (subject : Subject) : Node → Bool → Matcher
  | .empty, _ => fun trail goal => goal trail
  | .fail, _ => fun _ _ => none
  | .char rule code, forward =>
      matchUnit subject forward fun other => rule.same code other
  | .set rule negated items, forward =>
      matchUnit subject forward fun other =>
        (items.any fun item => item.admits rule other) != negated
  | .seq first second, forward => fun trail goal =>
      if forward then
        first.matcher subject forward trail fun next => second.matcher subject forward next goal
      else
        second.matcher subject forward trail fun next => first.matcher subject forward next goal
  | .alt first second, forward => fun trail goal =>
      match first.matcher subject forward trail goal with
      | some result => some result
      | none => second.matcher subject forward trail goal
  | .group index body, forward => fun trail goal =>
      body.matcher subject forward trail fun next =>
        let span := if forward then (trail.pos, next.pos) else (next.pos, trail.pos)
        goal { next with spans := next.spans.setIfInBounds index (some span) }
  | .repeat greed low high forget emptyTurn body, forward => fun trail goal =>
      match body.unit? with
      | some test => repeatUnit subject forward test greed low high trail goal
      | none =>
          let turns : Turns := ⟨low, high, forget, emptyTurn⟩
          let fuel := low + subject.size + 3
          match greed with
          | .greedy =>
              repeatGreedy turns (body.matcher subject forward) fuel 0 none trail goal
          | .lazy =>
              repeatLazy turns (body.matcher subject forward) fuel 0 none trail goal
          | .possessive =>
              match repeatPossessive turns (body.matcher subject forward) fuel 0 trail with
              | some next => goal next
              | none => none
  | .backref rule ifUnset index, forward => fun trail goal =>
      match trail.spans[index]?.join with
      | none => if ifUnset then goal trail else none
      | some span =>
          let length := span.2 - span.1
          if forward then
            if matchCodes subject rule (slice subject span) trail.pos then
              goal (trail.advance true length)
            else none
          else if trail.pos < length then none
          else if matchCodes subject rule (slice subject span) (trail.pos - length) then
            goal (trail.advance false length)
          else none
  | .look ahead negated body, _ => fun trail goal =>
      match body.matcher subject ahead trail some with
      | some next => if negated then none else goal { next with pos := trail.pos }
      | none => if negated then goal trail else none
  | .atomic body, forward => fun trail goal =>
      match body.matcher subject forward trail some with
      | some next => goal next
      | none => none
  | .anchor condition, _ => fun trail goal =>
      if condition.holds subject trail.pos then goal trail else none
  | .branch index yes no, forward => fun trail goal =>
      if (trail.spans[index]?.join).isSome then yes.matcher subject forward trail goal
      else no.matcher subject forward trail goal

/-!
## Searching

A search tries the positions of the subject from left to right.  Successive matches
do not overlap, and a match that is empty is followed by one that is not empty or
begins further on.
-/

/-- A match: its span, and the spans of the groups, the whole match being group
zero. -/
structure Match where
  /-- Where the match begins. -/
  start : Nat
  /-- Where the match ends. -/
  stop : Nat
  /-- The spans of all groups. -/
  spans : Array (Option (Nat × Nat))
  deriving Inhabited

/-- The match of a pattern at a position, or no match when it would be empty and
must not be. -/
def matchAt (pattern : Pattern) (subject : Subject) (pos : Nat) (mustAdvance : Bool) :
    Option Match :=
  let trail : Trail := ⟨pos, Array.replicate (pattern.groupCount + 1) none⟩
  let goal : Goal := fun next => if mustAdvance && next.pos == pos then none else some next
  (pattern.root.matcher subject true trail goal).map fun next =>
    { start := pos
      stop := next.pos
      spans := next.spans.setIfInBounds 0 (some (pos, next.pos)) }

/-- The first match among `count` positions from `pos` on. -/
def searchFrom (pattern : Pattern) (subject : Subject) :
    Nat → Nat → Bool → Option Match
  | 0, _, _ => none
  | count + 1, pos, mustAdvance =>
      match matchAt pattern subject pos mustAdvance with
      | some found => some found
      | none => searchFrom pattern subject count (pos + 1) false

/-- The first match at or after a position. -/
def search (pattern : Pattern) (subject : Subject) (pos : Nat) : Option Match :=
  searchFrom pattern subject (subject.size + 1 - pos) pos false

/-- The matches at or after a position; `fuel` bounds their number. -/
def matchesFrom (pattern : Pattern) (subject : Subject) :
    Nat → Nat → Bool → List Match
  | 0, _, _ => []
  | fuel + 1, pos, mustAdvance =>
      match searchFrom pattern subject (subject.size + 1 - pos) pos mustAdvance with
      | none => []
      | some found =>
          found :: matchesFrom pattern subject fuel found.stop (found.stop == found.start)

/-- All matches, from left to right. -/
def matchesIn (pattern : Pattern) (subject : Subject) : List Match :=
  matchesFrom pattern subject (2 * subject.size + 2) 0 false

/-- The codes of a text. -/
def subjectOf (text : Text) : Subject := (text.map Char.toNat).toArray

/-- The text of codes. -/
def textOf (codes : List Nat) : Text := codes.map Char.ofNat

/-- The text that a group matched. -/
def Match.group? (found : Match) (subject : Subject) (index : Nat) : Option Text :=
  (found.spans[index]?.join).map fun span => textOf (slice subject span)

/-- The texts of all groups, the whole match first. -/
def Match.groups (found : Match) (subject : Subject) : List (Option Text) :=
  found.spans.toList.map fun span => span.map fun s => textOf (slice subject s)

/-- The text that matched. -/
def Match.text (found : Match) (subject : Subject) : Text :=
  textOf (slice subject (found.start, found.stop))

/-- The text between matches and what `write` puts in their places, from `pos` on. -/
def replaceFrom (subject : Subject) (write : Match → Text) : Nat → List Match → Text
  | pos, [] => textOf (slice subject (pos, subject.size))
  | pos, found :: rest =>
      textOf (slice subject (pos, found.start)) ++ write found ++
        replaceFrom subject write found.stop rest

/-- A text with every match replaced. -/
def replaceAll (pattern : Pattern) (write : Subject → Match → Text) (text : Text) : Text :=
  let subject := subjectOf text
  replaceFrom subject (write subject) 0 (matchesIn pattern subject)

end Pattern

end RuleProbe
