import RuleProbe.Fault
import RuleProbe.Json.Reader
import RuleProbe.Json.Writer
import RuleProbe.Text.Case

/-!
# Headers

Headers of a request come as a JSON object, or as lines with a name and a value.  Names
that are no tokens are left out, and so is the host.
-/

namespace RuleProbe

namespace Header

/-- The agent that requests name. -/
def desktopAgent : Text := "Mozilla/5.0 (Windows NT 10.0; Win64; x64) AppleWebKit/537.36 (KHTML, like Gecko) Chrome/131.0.0.0 Safari/537.36".toList

/-- The agent that requests name in place of a phone. -/
def mobileAgent : Text := "Mozilla/5.0 (Linux; Android 14; Pixel 8) AppleWebKit/537.36 (KHTML, like Gecko) Chrome/131.0.0.0 Mobile Safari/537.36".toList

/-- The headers of every request. -/
def standard : Keyed Text :=
  [("User-Agent".toList, desktopAgent),
    ("Accept".toList, "text/html,application/xhtml+xml,application/xml;q=0.9,application/json;q=0.8,*/*;q=0.7".toList),
    ("Accept-Language".toList, "zh-CN,zh;q=0.9,en;q=0.8".toList),
    ("Accept-Encoding".toList, "gzip, deflate".toList),
    ("Connection".toList, "keep-alive".toList)]

/-- A character of a token. -/
def isTokenChar (c : Char) : Bool :=
  Letter.isAsciiLetter c.toNat || Letter.isAsciiDigit c.toNat ||
    "!#$%&'*+-.^_`|~".toList.elem c

/-- A name that may be sent. -/
def isName (name : Text) : Bool :=
  !name.isEmpty && name.all isTokenChar && Text.lower name != "host".toList

/-- A value as it is sent. -/
def cleanValue (value : Text) : Text :=
  Text.trimQuotes (Text.trim (value.filter fun c => c != '\r' && c != '\n'))

/-- Add a header, unless it has no value or cannot be sent. -/
def add (headers : Keyed Text) (entry : Text × Json) : Keyed Text :=
  let name := entry.1.trim
  match entry.2 with
  | .null => headers
  | value => if isName name then headers.put name (cleanValue value.display) else headers

/-- The headers that may be sent. -/
def filter (headers : Json.Members) : Keyed Text := headers.foldl add []

/-- The header of a line. -/
def ofLine? (line : Text) : Option (Text × Text) :=
  (Text.cut? [':'] line).map fun parts => (parts.1.trim, parts.2.trim)

/-- The headers of lines. -/
def ofLines (text : Text) : Keyed Text :=
  let entries := Keyed.update [] ((Text.lines text).filterMap ofLine?)
  filter (entries.map fun entry => (entry.1, .str entry.2))

/-- The headers that a text writes, as an object or in lines. -/
def ofText (text : Text) : Except Fault (Keyed Text) :=
  let text := text.trim
  if text.startsWith ['{'] then
    match Json.read text with
    | .ok (.obj members) => .ok (filter members)
    | .ok _ => .ok (ofLines text)
    | .error .malformed => .ok (ofLines text)
    | .error .integerTooLong => .error (.defect (.longInteger text))
    | .error .tooDeep => .error (.defect (.deepNesting text))
  else .ok (ofLines text)

/-- The headers that a value gives. -/
def ofValue (value : Json) : Except Fault (Keyed Text) :=
  if !value.isGiven then .ok []
  else
    match value with
    | .obj members => .ok (filter members)
    | value => ofText value.display

end Header

end RuleProbe
