import RuleProbe.Charset.Codec
import RuleProbe.Pattern.Reader
import RuleProbe.Pattern.Matcher

/-!
# The charset of a page

The charset of a page is the one that its content type names, else the one that the
page names at its beginning, else UTF-8.  A page that cannot be read in its charset is
read as UTF-8 as far as possible.
-/

namespace RuleProbe

namespace PageCharset

/-- The label that is assumed when none is given. -/
def standard : Text := "utf-8".toList

/-- Old labels that stand for a wider charset. -/
def widened (label : Text) : Text :=
  match String.ofList label with
  | "gb2312" => "gbk".toList
  | "gb_2312-80" => "gbk".toList
  | "x-gbk" => "gbk".toList
  | _ => label

/-- A label in its usual form; nothing when there is none. -/
def normalize (label : Text) : Option Text :=
  if label.isEmpty then none
  else some (widened (Text.lower (Text.trimQuotes label.trim)))

/-- A label in its usual form, or the one that is assumed. -/
def normalizeOr (default : Text) (label : Option Text) : Text :=
  match label.bind normalize with
  | some label => if label.isEmpty then default else label
  | none => default

/-- The pattern of a notation, case aside. -/
def patternOf (notation_ : String) : Pattern :=
  match Pattern.read { ignoreCase := true } notation_.toList with
  | .ok pattern => pattern
  | .error _ => default

/-- Where a content type names a charset. -/
def contentTypePattern : Pattern := patternOf r#"charset\s*=\s*["']?([\w.:-]+)"#

/-- Where a page names its charset. -/
def metaPattern : Pattern := patternOf r#"<meta[^>]+charset\s*=\s*["']?\s*([\w.:-]+)"#

/-- The label that the first group of a pattern finds. -/
def find? (pattern : Pattern) (text : Text) : Option Text :=
  let subject := Pattern.subjectOf text
  (Pattern.search pattern subject 0).map fun found =>
    widened (Text.lower ((found.group? subject 1).getD []))

/-- The number of bytes of a page in which a charset is looked for. -/
def sniffedBytes : Nat := 2000

/-- The characters of the basic alphabet at the beginning of a page. -/
def headOf (raw : Bytes) : Text :=
  ((raw.take sniffedBytes).filter fun b => b < 128).map fun b => Char.ofNat b.toNat

/-- The charset of a page. -/
def detect (contentType : Option Text) (raw : Bytes) : Text :=
  ((contentType.bind (find? contentTypePattern)).or (find? metaPattern (headOf raw))).getD
    standard

/-- The text of a page under a label. -/
def decodeBody (raw : Bytes) (label : Option Text) : Except Defect Text :=
  let label := normalizeOr standard label
  if raw.isEmpty && !label.elem '\x00' then .ok []
  else
    match (Charset.ofLabel label).bind fun charset => charset.decode raw with
    | .ok text => .ok text
    | .error .lookup => .ok (Utf8.decodeLossy raw)
    | .error .undecodable => .ok (Utf8.decodeLossy raw)
    | .error defect => .error defect

end PageCharset

end RuleProbe
