import RuleProbe.Source
import RuleProbe.Stage.Basic

/-!
# Fields, lists and records

A stage reads fields, and lists of elements whose fields make records.  Whatever a rule
brings, or fails to bring, is reported.
-/

namespace RuleProbe

namespace Stage

variable (site : Site)

/-! ## Fields -/

/-- How a field is read. -/
structure FieldStyle where
  /-- What stands before the name of the field in reports. -/
  label : Text := []
  /-- What joins the texts of the field; only the first one counts when there is nothing. -/
  joint : Option Text := none
  /-- Only flaws of the rule are reported. -/
  quiet : Bool := false

/-- The value of a field with some texts. -/
def FieldStyle.value (style : FieldStyle) (texts : List Text) : Text :=
  match style.joint with
  | some joint => Text.join joint texts
  | none => texts.headD []

/-- Read a field; one without a rule, or without a text, has no value. -/
def readField (context : Extraction.Context) (name : Text) (rule : Json)
    (style : FieldStyle := {}) : Work (Option Text) := do
  if !rule.isGiven then return none
  let text ← lift ((Extraction.ruleOf rule).mapError .defect)
  let result ← extract (Extraction.evaluate site.engine context text)
  let label := style.label ++ name
  match result.reason? with
  | some reason =>
      report .warning .parse (label ++ ": rule error: " ++ reason) [ruleDetail rule]
      return none
  | none =>
      let texts := result.givenTexts
      if texts.isEmpty then
        if !style.quiet then
          report .warning .field (label ++ ": empty") [ruleDetail rule, countDetail 0]
        return none
      let value := style.value texts
      if !style.quiet then
        report .success .field (label ++ ": " ++ Json.previewText Json.previewLimit value)
          [ruleDetail rule, countDetail texts.length,
            ("value", .str (Json.previewText 200 (texts.headD [])))]
      return some value

/-- The style of a field: kinds are joined by commas. -/
def styleOf (name : Text) (label : Text := []) : FieldStyle :=
  { label, joint := if name == "kind".toList then some "," else none }

/-! ## Lists -/

/-- The elements that a rule finds. -/
def readElements (context : Extraction.Context) (rule : Json) (what : Text) :
    Work (List Extraction.Found) := do
  if !rule.isGiven then
    report .warning .parse ("No " ++ what ++ " rule configured")
    return []
  let text ← lift ((Extraction.ruleOf rule).mapError .defect)
  let result ← extract (Extraction.evaluateList site.engine context text)
  match result with
  | .failed reason =>
      report .warning .parse (what ++ " rule error: " ++ reason) [ruleDetail rule]
      return []
  | .found values =>
      if values.isEmpty then
        report .warning .parse (what ++ " rule matched 0 elements")
          [ruleDetail rule, countDetail 0]
      else
        report .info .parse
          (what ++ " rule matched " ++ countText values.length ++ " elements")
          [ruleDetail rule, countDetail values.length,
            ("first", .str (Json.previewText 200 result.firstText))]
      return values

/-! ## Books -/

/-- A record: values under the names of fields. -/
abbrev Record := Json.Members

/-- The text of a field of a record; a field that is missing has none. -/
def Record.text (record : Record) (name : Text) : Text :=
  match Keyed.get? record name with
  | some (.str text) => text
  | _ => []

/-- Set the text of a field. -/
def Record.put (record : Record) (name value : Text) : Record :=
  Keyed.put record name (.str value)

/-- The mark of an item in reports. -/
def itemLabel (position : Nat) : Text := '[' :: countText position ++ "] ".toList

/-- The name of the field that is read last, when the rest of the record is known. -/
def addressField : Text := "bookUrl"

/-- Read the fields of an element but for the one that is read last. -/
def readFields (context : Extraction.Context) (label : Text)
    (rules : List (Text × Json)) : Work Record :=
  rules.foldlM
    (fun record (name, rule) => do
      match ← readField site context name rule (styleOf name label) with
      | none => return record
      | some value =>
          let value ←
            if name == "coverUrl".toList then resolve site value context.baseUrl else pure value
          return Record.put record name value)
    []

/-- Read the address of a book, whose other fields its rule can see. -/
def readAddress (context : Extraction.Context) (label : Text) (rule : Json)
    (record : Record) : Work Record := do
  if !rule.isGiven then return record
  let inner := { context with book := .obj record, chapter := .null }
  match ← readField site inner addressField rule { label } with
  | none => return record
  | some value => return Record.put record addressField (← resolve site value context.baseUrl)

/-- Read the book of an element; one that has neither a name nor an address is dropped. -/
def readBook (context : Extraction.Context) (label : Text) (rules : List (Text × Json))
    (addressRule : Json) : Work (Option Record) := do
  let record ← readFields site context label rules
  let record ← readAddress site context label addressRule record
  if (record.text "name").isEmpty && (record.text addressField).isEmpty then
    report .warning .parse (label ++ "dropped: neither name nor bookUrl")
    return none
  return some record

/-- Read the books of a list. -/
def readBooks (context : Extraction.Context) (listRule : Json)
    (rules : List (Text × Json)) (what : Text) : Work (List Record) := do
  let elements ← readElements site context listRule what
  let limit := site.settings.itemLimit
  if limit < elements.length then
    report .info .parse ("Parsing the first " ++ Integer.write limit ++ " of ".toList ++
      countText elements.length ++ " elements".toList)
  let addressRule := (Keyed.get? rules addressField).getD .null
  let others := rules.filter fun rule => rule.1 != addressField
  let books ← (takeUpTo limit elements).zipIdx.filterMapM fun (element, i) =>
    readBook site (context.withElement element) (itemLabel (i + 1)) others addressRule
  report .success .parse ("Parsed " ++ countText books.length ++ " books".toList)
  return books

/-! ## Chapters -/

/-- The number of chapters that are reported before the last one. -/
def shownChapters : Nat := 5

/-- A text, or a word for its absence. -/
def orWord (word text : Text) : Text := if text.isEmpty then word else text

/-- The line of a chapter in reports. -/
def chapterLine (position : Nat) (chapter : Record) : Text :=
  itemLabel position ++ orWord "(no name)" (chapter.text "name") ++ " | ".toList ++
    orWord "(no url)" (chapter.text "url")

/-- Report the first chapters and the last one, and how many have a name or an address. -/
def reportChapters (chapters : List Record) : Work Unit := do
  let total := chapters.length
  chapters.zipIdx.forM fun (chapter, i) => do
    if i < shownChapters || i + 1 == total then
      report .info .parse (chapterLine (i + 1) chapter)
    else if i == shownChapters then
      report .info .parse ("... " ++ countText (total - shownChapters - 1) ++
        " more chapters ...".toList)
  let named := chapters.countP fun chapter => !(chapter.text "name").isEmpty
  let linked := chapters.countP fun chapter => !(chapter.text "url").isEmpty
  report .success .parse ("Parsed " ++ countText total ++ " chapters (named: ".toList ++
    countText named ++ ", linked: ".toList ++ countText linked ++ ")".toList)

/-- The number of chapters whose fields are reported. -/
def reportedChapters : Nat := 3

/-- Read the chapters of a list: `read` gives the record of an element, and one that has
neither a name nor an address is dropped. -/
def readChapters (context : Extraction.Context) (listRule : Json)
    (read : Extraction.Context → FieldStyle → Work Record) : Work (List Record) := do
  let elements ← readElements site context listRule "Chapter list"
  let chapters ← elements.zipIdx.filterMapM fun (element, i) => do
    let style : FieldStyle :=
      { label := itemLabel (i + 1), quiet := reportedChapters < i + 1 }
    let record ← read (context.withElement element) style
    let empty := (record.text "name").isEmpty && (record.text "url").isEmpty
    return if empty then none else some record
  reportChapters chapters
  return chapters

/-- The absolute address of a link, empty when there is none. -/
def linkAddress (link : Option Text) (pageUrl : Text) : Work Text :=
  match link with
  | none => pure []
  | some link => resolve site link pageUrl

/-! ## Addresses -/

/-- The address in a target, without the title before it. -/
def withoutTitle (target : Text) : Work Text :=
  match Text.cut? Entry.divider target with
  | some (title, address) => do
      report .info .request ("Explore category: " ++ title)
      return address
  | none => return target

/-- The address to explore: the first of the entries when none is given. -/
def exploredAddress (url : Text) (entries : Work (List Entry)) : Work Text := do
  let target ←
    if url.isEmpty then (fun found => (found.head?.map Entry.url).getD []) <$> entries
    else pure url
  withoutTitle target

/-- Report that the chapters are looked for on the page of the book. -/
def reportOwnChapters (pageUrl : Text) : Work Unit :=
  report .info .field ("tocUrl defaults to the detail URL: " ++ pageUrl)

/-! ## Content -/

/-- Report the flaw of a rule for content, if it has one. -/
def reportContentFlaw (result : Extraction.Result) (rule : Json) : Work Unit :=
  match result.reason? with
  | some reason => report .warning .parse ("content rule error: " ++ reason) [ruleDetail rule]
  | none => pure ()

/-- Report the images of a page. -/
def reportImages (images : List Text) : Work Unit :=
  match images with
  | first :: _ =>
      report .success .field ("Extracted " ++ countText images.length ++ " images".toList)
        [("first", .str first)]
  | [] => report .warning .field "No images found"

/-- Report how many images stand in the page itself, if any. -/
def reportRawImages (images : List Text) : Work Unit :=
  if images.isEmpty then pure ()
  else
    report .info .field ("Found " ++ countText images.length ++
      " images in the raw response".toList)

end Stage

end RuleProbe
