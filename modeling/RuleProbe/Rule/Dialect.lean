import RuleProbe.Pattern.Matcher

/-!
# Kinds of rules

A rule may hold scripts, and a single rule is written in one of five dialects.
-/

namespace RuleProbe

/-!
## Script regions of a rule

A rule may hold scripts: between `<js>` and `</js>`, or from `@js:` to its end.  The
rule falls into steps accordingly, texts between scripts being rules themselves.
-/

/-- A step of a rule with scripts. -/
inductive ScriptStep where
  /-- A rule. -/
  | rule (text : Text)
  /-- The code of a script. -/
  | code (text : Text)
  deriving DecidableEq, Inhabited

namespace ScriptStep

/-- `text` begins with `mark`, up to case. -/
def beginsWith (mark text : Text) : Bool :=
  mark.length ≤ text.length &&
    (mark.zip text).all fun pair => Pattern.CaseRule.full.same pair.1.toNat pair.2.toNat

/-- The marks that open a script. -/
def openers : List Text := [['<', 'j', 's', '>'], ['@', 'j', 's', ':']]

/-- The mark that closes a script. -/
def closer : Text := ['<', '/', 'j', 's', '>']

/-- The first opening mark of a text: the text before it, given as a reversed
accumulator, the mark itself and the text after it. -/
def findOpener : Text → Text → Option (Text × Text × Text)
  | _, [] => none
  | before, c :: rest =>
      if openers.any fun mark => beginsWith mark (c :: rest) then
        some (before.reverse, (c :: rest).take 4, (c :: rest).drop 4)
      else findOpener (c :: before) rest

/-- A rule step, unless the text is blank. -/
def ruleStep (text : Text) : List ScriptStep :=
  if text.isBlankText then [] else [.rule (Text.trim text)]

/-- The steps of a text; each turn consumes an opening mark at least. -/
def splitSteps : Nat → Text → List ScriptStep
  | 0, _ => []
  | fuel + 1, text =>
      match findOpener [] text with
      | none => ruleStep text
      | some (before, mark, after) =>
          ruleStep before ++
            if Text.lower mark == ['@', 'j', 's', ':'] then [.code after]
            else
              let start := before.length + mark.length
              -- The closing mark is sought in the lower case of the text, whose
              -- positions are those of the text unless a character has grown.
              match Text.indexFrom? closer (Text.lower text) start with
              | none => [.code after]
              | some stop =>
                  .code ((text.take stop).drop start) ::
                    splitSteps fuel (text.drop (stop + closer.length))

/-- The steps of a rule. -/
def ofRule (rule : Text) : List ScriptStep := splitSteps (rule.length + 1) rule

end ScriptStep

/-- A rule holds a script. -/
def hasScript (rule : Text) : Bool := (ScriptStep.findOpener [] rule).isSome

/-!
## Dialects of rules

A single rule is written in one of five dialects, which its beginning tells apart.
Scripts are recognised first, so that their code is never taken for anything else,
and a bare path counts as a path into JSON only where the content is JSON.
-/

/-- A single rule, by its dialect. -/
inductive Dialect where
  /-- A chain of selectors. -/
  | chain (chain : Text)
  /-- A path into a document tree. -/
  | xpath (expression : Text)
  /-- A path into JSON values. -/
  | jsonPath (path : Text)
  /-- A regular expression. -/
  | regex (pattern : Text)
  /-- A rule with scripts. -/
  | script (steps : List ScriptStep)
  deriving DecidableEq, Inhabited

namespace BarePath

/-- A character that may continue a name of a path. -/
def isNamePart (c : Char) : Bool := Letter.isWord c.toNat || c == '-'

/-- A character that may begin a name of a path. -/
def isNameStart (c : Char) : Bool := Letter.isAsciiLetter c.toNat || c == '_'

/-- The inside of brackets: a number or an asterisk. -/
def isIndex : Text → Bool
  | ['*'] => true
  | '-' :: digits => !digits.isEmpty && digits.all fun c => Letter.isDecimal c.toNat
  | digits => !digits.isEmpty && digits.all fun c => Letter.isDecimal c.toNat

/-- Where the reader of a bare path stands. -/
inductive Place where
  /-- A name must begin. -/
  | nameStart
  /-- Inside a name. -/
  | name
  /-- Inside brackets, after these characters, last first. -/
  | index (read : Text)
  /-- After a closing bracket. -/
  | indexEnd

/-- The rest of a text continues a bare path. -/
def continues : Place → Text → Bool
  | .name, [] => true
  | .indexEnd, [] => true
  | _, [] => false
  | .nameStart, c :: rest => isNameStart c && continues .name rest
  | .index read, c :: rest =>
      if c == ']' then isIndex read.reverse && continues .indexEnd rest
      else continues (.index (c :: read)) rest
  | place, c :: rest =>
      if c == '.' then continues .nameStart rest
      else if c == '[' then continues (.index []) rest
      else
        match place with
        | .name => isNamePart c && continues .name rest
        | _ => false

/-- Beginnings of chain segments, which no bare path has. -/
def reserved : List Text := ["class.", "id.", "tag.", "text.", "children"]

/-- A text without one line feed at its end. -/
def dropFinalFeed (text : Text) : Text :=
  if text.getLast? == some '\n' then text.dropLast else text

end BarePath

/-- A path of names and indices, such as `data.list[0].title`. -/
def isBarePath (rule : Text) : Bool :=
  BarePath.continues .nameStart (BarePath.dropFinalFeed rule) &&
    !rule.startsWithAny BarePath.reserved

namespace Dialect

/-- A path into JSON values, from the root. -/
def rooted (path : Text) : Text :=
  let path := path.trim
  if path.startsWith ['$'] then path
  else if path.startsWith ['['] then '$' :: path
  else '$' :: '.' :: path

/-- The dialect of a single rule; `jsonContent` tells that its content is JSON. -/
def ofRule (rule : Text) (jsonContent : Bool) : Dialect :=
  let text := rule.trim
  let lower := text.lower
  if hasScript text then script (ScriptStep.ofRule text)
  else if lower.startsWith "@json:" then jsonPath (rooted (text.drop 6))
  else if text == ['$'] || text.startsWith ['$', '.'] || text.startsWith ['$', '['] then
    jsonPath text
  else if jsonContent && isBarePath text then jsonPath (rooted text)
  else if lower.startsWith "@xpath:" then xpath (Text.trim (text.drop 7))
  else if text.startsWith ['/'] then xpath text
  else if text.startsWith [':'] then regex (text.drop 1)
  else if lower.startsWith "@css:" then chain (Text.trim (text.drop 5))
  else if text.startsWith ['@', '@'] then chain (Text.trim (text.drop 2))
  else chain text

end Dialect

end RuleProbe
