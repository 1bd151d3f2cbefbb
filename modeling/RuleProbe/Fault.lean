import RuleProbe.Text.Quoted

/-!
# Faults

What can go wrong while rules are read and evaluated.  A flaw of a rule costs one
field, a flaw of a template or a failed request ends a stage, and a failed script
costs one value.  A defect is anything that no part of the engine provides for; its
kind is all that is reported of it.
-/

namespace RuleProbe

/-- What is wrong with a rule. -/
inductive RuleFlaw where
  /-- A regular expression that cannot be read. -/
  | regex (pattern : Text)
  /-- A selector that cannot be read. -/
  | selector (selector : Text)
  /-- A path into JSON values that cannot be read. -/
  | jsonPath (path : Text)
  /-- A path into JSON values that cannot be followed. -/
  | jsonPathFailed (path : Text)
  /-- A path into a document tree that cannot be read or followed. -/
  | xpath (expression : Text)
  /-- A number of an index expression that is none. -/
  | index (number : Text)
  /-- A slice of an index expression with too many parts. -/
  | slice (part : Text)
  deriving DecidableEq, Inhabited

/-- The wording of a flaw. -/
def RuleFlaw.message : RuleFlaw → Text
  | regex text => "Invalid regex " ++ Quoted.write text
  | selector text => "Invalid CSS selector " ++ Quoted.write text
  | jsonPath text => "Invalid JSONPath " ++ Quoted.write text
  | jsonPathFailed text => "JSONPath " ++ Quoted.write text ++ " failed"
  | xpath text => "Invalid XPath " ++ Quoted.write text
  | index text => "Invalid index " ++ Quoted.write text
  | slice text => "Invalid slice " ++ Quoted.write text

/-- What is wrong with the template of an address. -/
inductive TemplateFlaw where
  /-- There is no template. -/
  | emptyTemplate
  /-- There is no address. -/
  | emptyAddress
  /-- There is no search template. -/
  | emptySearch
  /-- The address is not an absolute one. -/
  | notAbsolute (address : Text)
  /-- The charset of the parameters is not known. -/
  | unknownCharset (charset : Text)
  /-- The script that gives the address failed. -/
  | scriptFailed (message : Text)
  /-- The script that gives the address returned nothing. -/
  | scriptEmpty
  deriving DecidableEq, Inhabited

/-- The wording of a flaw. -/
def TemplateFlaw.message : TemplateFlaw → Text
  | emptyTemplate => "URL template is empty"
  | emptyAddress => "URL is empty"
  | emptySearch => "ruleSearchUrl is empty"
  | notAbsolute address => "Cannot build an absolute URL from " ++ Quoted.write address
  | unknownCharset charset => "Unknown charset " ++ Quoted.write charset
  | scriptFailed message => "URL script failed: " ++ message
  | scriptEmpty => "URL script returned nothing"

/-- The kinds of defects. -/
inductive Defect where
  /-- A value outside the range that an operation accepts. -/
  | value
  /-- A value of the wrong type. -/
  | type
  /-- A value without the part that an operation needs. -/
  | missingPart
  /-- A name that a table does not hold. -/
  | lookup
  /-- A text that a charset cannot express. -/
  | unencodable
  /-- Bytes that a charset does not assign. -/
  | undecodable
  /-- Evaluation nested too deeply. -/
  | recursion
  /-- A number too large to be represented. -/
  | overflow
  /-- A broken expectation. -/
  | assertion
  /-- A position outside a sequence. -/
  | index
  /-- A key that is not bound. -/
  | key
  /-- A character that is not a digit of the expected kind. -/
  | unicode
  /-- A page that cannot be read at all. -/
  | rejectedMarkup (page : Text)
  /-- A JSON text with an integer of too many digits. -/
  | longInteger (text : Text)
  /-- A JSON text whose containers are nested too deeply. -/
  | deepNesting (text : Text)
  /-- A text with a numeric character reference of too many digits. -/
  | longReference (text : Text)
  /-- An address whose authority cannot be used. -/
  | brokenAddress (address : Text)
  /-- A regular expression with a count that is too large. -/
  | hugeCount (pattern : Text)
  /-- A regular expression with flags that exclude each other. -/
  | clashingFlags (pattern : Text)
  /-- A path into a document tree with a character that no document holds. -/
  | strayCharacter (expression : Text)
  /-- A value of another type where a rule must stand. -/
  | noRule (type : Text)
  /-- A value of another type where a handle must stand. -/
  | noHandle (type : Text)
  /-- A script that has put another value in the place of its puts. -/
  | replacedPuts (code : Text)
  deriving DecidableEq, Inhabited

/-- The name under which a defect is reported. -/
def Defect.name : Defect → Text
  | value => "ValueError"
  | type => "TypeError"
  | missingPart => "AttributeError"
  | lookup => "LookupError"
  | unencodable => "UnicodeEncodeError"
  | undecodable => "UnicodeDecodeError"
  | recursion => "RecursionError"
  | overflow => "OverflowError"
  | assertion => "AssertionError"
  | index => "IndexError"
  | key => "KeyError"
  | unicode => "UnicodeError"
  | rejectedMarkup _ => "ParserRejectedMarkup"
  | longInteger _ => "ValueError"
  | deepNesting _ => "RecursionError"
  | longReference _ => "ValueError"
  | brokenAddress _ => "ValueError"
  | hugeCount _ => "OverflowError"
  | clashingFlags _ => "ValueError"
  | strayCharacter _ => "ValueError"
  | noRule _ => "AttributeError"
  | noHandle _ => "AttributeError"
  | replacedPuts _ => "AttributeError"

/-- What ends an evaluation before it has a result. -/
inductive Fault where
  /-- A rule is flawed. -/
  | rule (flaw : RuleFlaw)
  /-- A template is flawed. -/
  | template (flaw : TemplateFlaw)
  /-- A page on which a stage depends was not there. -/
  | network (message : Text)
  /-- A script failed where its result was required. -/
  | script (message : Text)
  /-- Something went wrong that was not provided for. -/
  | defect (kind : Defect)
  deriving DecidableEq, Inhabited

namespace Fault

/-- The name under which a fault is reported. -/
def name : Fault → Text
  | rule _ => "RuleSyntaxError"
  | template _ => "TemplateError"
  | network _ => "NetworkError"
  | script _ => "ScriptError"
  | defect kind => kind.name

/-- The wording of a fault; a defect has none. -/
def message? : Fault → Option Text
  | rule flaw => some flaw.message
  | template flaw => some flaw.message
  | network message => some message
  | script message => some message
  | defect _ => none

end Fault

end RuleProbe
