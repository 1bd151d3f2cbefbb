import RuleProbe.Markup.Entity
import RuleProbe.Pattern.Reader
import RuleProbe.Pattern.Matcher
import RuleProbe.Url

/-!
# Images

The images of a chapter are found in its tags, or else as bare addresses.  Each address
is named once, where it first occurs.
-/

namespace RuleProbe

namespace Image

/-- The pattern of a notation, case aside. -/
def patternOf (notation_ : String) : Pattern :=
  match Pattern.read { ignoreCase := true } notation_.toList with
  | .ok pattern => pattern
  | .error _ => default

/-- A tag of an image; its group is the address. -/
def tagPattern : Pattern := patternOf
  r#"<img[^>]*\s(?:data-src|data-original|src)\s*=\s*['"]([^'"]+)['"][^>]*>"#

/-- An address of an image outside of tags. -/
def barePattern : Pattern := patternOf
  r#"(https?://[^\s<>"']+\.(?:jpg|jpeg|png|gif|webp|bmp)(?:\?[^\s<>"']*)?)"#

/-- The end of an address of an image. -/
def extensionPattern : Pattern := patternOf r#"\.(?:jpg|jpeg|png|gif|webp|bmp)(?:[?#].*)?$"#

/-- The texts that the first group of a pattern matches, from left to right. -/
def groupTexts (pattern : Pattern) (text : Text) : List Text :=
  let subject := Pattern.subjectOf text
  (Pattern.matchesIn pattern subject).map fun found => (found.group? subject 1).getD []

/-- Add addresses to those found so far, empty ones and repetitions left out. -/
def collect (found : List Text) (addresses : List Text) : List Text :=
  addresses.foldl
    (fun found url => if url.isEmpty || found.elem url then found else found ++ [url]) found

/-- The absolute addresses of the images in a text. -/
def extract (content baseUrl : Text) : Except Fault (List Text) := do
  let sources ← (groupTexts tagPattern content).mapM fun source => do
    Entity.check source
    Url.resolve (Entity.decode source) baseUrl
  let images := collect [] sources
  .ok (if images.isEmpty then collect [] (groupTexts barePattern content) else images)

/-- What an address begins with. -/
def addressStarts : List Text :=
  ["http://".toList, "https://".toList, "//".toList, "/".toList, "data:image".toList]

/-- A value is an address, rather than a page. -/
def isAddress (value : Text) : Bool :=
  let value := value.trim
  !value.isEmpty && !value.any (fun c => c == '<' || c == '\n' || c == ' ') &&
    (value.startsWithAny addressStarts ||
      (Pattern.search extensionPattern (Pattern.subjectOf value) 0).isSome)

/-- The addresses that a value gives: its own, or those of the images in it. -/
def ofValue (baseUrl value : Text) : Except Fault (List Text) :=
  if isAddress value then (Url.resolve value baseUrl).map fun url => [url]
  else extract value baseUrl

/-- The addresses of the images in some values, each named once. -/
def collectAll (baseUrl : Text) (values : List Text) : Except Fault (List Text) :=
  (values.mapM (ofValue baseUrl)).map fun found => collect [] found.flatten

end Image

end RuleProbe
