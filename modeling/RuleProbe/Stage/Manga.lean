import RuleProbe.Content.Image
import RuleProbe.Source
import RuleProbe.Stage.Task
import RuleProbe.Url

/-!
# Stages of manga sources

A source of manga has flat rules, each of which may end in headers of its own.  Its
addresses name the keyword and the page by plain words, and the content of its pages is
always images.
-/

namespace RuleProbe

namespace Stage

namespace Manga

variable (site : Site)

/-! ## The definition -/

/-- The rule of a value, and the headers that it ends in. -/
def ruleOf (value : Json) : Except Fault (Text × Keyed Text) :=
  match value with
  | .str text => .ok (SourceRule.withoutHeaders text)
  | value => if value.isGiven then .error (.defect .type) else .ok ([], [])

/-- The rule under a name. -/
def rule (name : Text) : Except Fault Text :=
  (ruleOf (site.entry name)).map fun found => found.1

/-- The headers of the source. -/
def headers : Except Fault Json.Members :=
  (Header.ofValue (site.entry "header")).map fun read =>
    let given := read.map fun header => (header.1, Json.str header.2)
    let agent := site.entry "httpUserAgent"
    if agent.isGiven then Keyed.put given "User-Agent" agent else given

/-! ## Addresses -/

/-- The absolute address of an address. -/
def absolute (url : Text) : Work Text := do
  let url := url.trim
  if url.isEmpty then throw (.template .emptyAddress)
  let url ← resolve site url []
  if url.startsWithAny absoluteStarts then return url
  else throw (.template (.notAbsolute url))

/-- The word that stands for the keyword. -/
def keywordMark : Text := "searchKey"

/-- The word that stands for the page. -/
def pageMark : Text := "searchPage"

/-- The address that searches for a keyword, which is not escaped. -/
def searchAddress (keyword : Text) (page : Int) : Work Text := do
  let template ← lift ((Extraction.ruleOf (site.entry "ruleSearchUrl")).mapError .defect)
  if template.isBlankText then throw (.template .emptySearch)
  absolute site
    (Text.replaceAll pageMark (Integer.write page) (Text.replaceAll keywordMark keyword template))

/-- Fetch the page of an address. -/
def fetch (url : Text) : Work Page := do
  fetchPage site (← lift (headers site)) { url }

/-- Store the parameters of an address, unless there are variables of these names that say
something. -/
def storeParameters (url : Text) : Work Unit := do
  let url ← lift (Url.read [] url)
  (Query.parameters url.query).forM fun (key, value) => do
    let known := ((← extract (Extraction.stored? key)).getD .null).isGiven
    if !value.isEmpty && !known then storeParameter key value "URL parameter "

/-! ## Searching and exploring -/

/-- The fields of a book in a list, with the names of their rules. -/
def listFields : Keyed Text :=
  [("name", "ruleSearchName"), ("author", "ruleSearchAuthor"), ("kind", "ruleSearchKind"),
    ("lastChapter", "ruleSearchLastChapter"), ("coverUrl", "ruleSearchCoverUrl"),
    ("bookUrl", "ruleSearchNoteUrl")]

/-- Read the books of a page. -/
def readBookList (context : Extraction.Context) (what : Text) : Work Payload := do
  let fieldRules ← lift (listFields.mapM fun (name, key) =>
    (rule site key).map fun text => (name, Json.str text))
  let listRule ← lift (rule site "ruleSearchList")
  return .records (← readBooks site context (.str listRule)
    (fieldRules.filter fun fieldRule => fieldRule.2.isGiven) what)

/-- Search for a keyword. -/
def search (keyword : Text) (page : Int) : Work Payload := do
  let url ← searchAddress site keyword page
  report .info .request ("Search URL: " ++ url)
  let found ← fetch site url
  readBookList site (← contextOf site found.body (pageAddress found url)) "Search list"

/-- The pages to explore. -/
def entries : Except Fault (List Entry) :=
  match site.entry "ruleFindUrl" with
  | .str text => .ok (Entry.ofTexts text)
  | value => if value.isGiven then .error (.defect .type) else .ok []

/-- Read a page to explore. -/
def explore (url : Text) : Work Payload := do
  let target ← exploredAddress url (lift (entries site))
  let url ← absolute site (Text.replaceAll pageMark "1" target)
  let found ← fetch site url
  readBookList site (← contextOf site found.body (pageAddress found url)) "Explore list"

/-! ## Details -/

/-- The fields of a book on its own page, with the names of their rules. -/
def detailFields : Keyed Text :=
  [("name", "ruleBookName"), ("author", "ruleBookAuthor"), ("intro", "ruleIntroduce"),
    ("kind", "ruleBookKind"), ("lastChapter", "ruleBookLastChapter"),
    ("coverUrl", "ruleCoverUrl")]

/-- Read what a page tells of a book. -/
def detail (url : Text) (book : Json) : Work Payload := do
  let url ← absolute site url
  storeParameters url
  let found ← fetch site url
  let pageUrl := pageAddress found url
  let context ← contextOf site found.body pageUrl book
  let record : Record ← detailFields.foldlM
    (fun record (name, key) => do
      match ← readField site context name (.str (← lift (rule site key))) (styleOf name) with
      | none => return record
      | some value =>
          let value ←
            if name == "coverUrl".toList then resolve site value pageUrl else pure value
          return Record.put record name value)
    []
  match ← readField site context "tocUrl" (.str (← lift (rule site "ruleChapterUrl"))) with
  | some chapters => return .record (record.put "tocUrl" (← resolve site chapters pageUrl))
  | none =>
      reportOwnChapters pageUrl
      return .record (record.put "tocUrl" pageUrl)

/-! ## Chapters -/

/-- What an address begins with that the network can answer. -/
def networkStarts : List Text := ["http://".toList, "https://".toList]

/-- The value of a header that stands for the origin of the source. -/
def hostMark : Text := "host"

/-- The headers of a request for chapters, with those of its rule. -/
def chapterHeaders (given : Keyed Text) : Work (Keyed Text) := do
  let origin ← lift site.origin
  return given.foldl
    (fun all header =>
      Keyed.put all header.1 (if header.2 == hostMark then origin else header.2))
    [("Referer", origin ++ ['/'])]

/-- The text of the page of chapters, when it is another one than the page at hand. -/
def chapterPage (context : Extraction.Context) (pageUrl : Text) : Work (Option Text) := do
  let (text, given) ← lift (ruleOf (site.entry "ruleChapterUrl"))
  match ← readField site context "chapterApiUrl" (.str text) with
  | none => return none
  | some url =>
      let url ← resolve site url pageUrl
      if url == pageUrl || !url.startsWithAny networkStarts then return none
      let others ← chapterHeaders site given
      report .info .request ("Requesting chapter API: " ++ url)
      let all := Keyed.update (← lift (headers site))
        (others.map fun header => (header.1, Json.str header.2))
      let found ← fetchPage site all { url } false
      if found.success then return some found.body
      report .warning .request
        "Chapter API failed, parsing the table-of-contents page instead"
      return none

/-- The context of the page of chapters, given that of the page at hand. -/
def chapterContext (context : Extraction.Context) (pageUrl : Text) (book : Json) :
    Work Extraction.Context := do
  match ← chapterPage site context pageUrl with
  | some body => contextOf site body pageUrl book
  | none => return context

/-- Read the chapter of an element. -/
def readChapter (nameRule urlRule pageUrl : Text) (context : Extraction.Context)
    (style : FieldStyle) : Work Record := do
  let name ← readField site context "chapterName" (.str nameRule) style
  let link ← readField site context "chapterUrl" (.str urlRule) style
  let url ← linkAddress site link pageUrl
  return [("name", .str (name.getD [])), ("url", .str url)]

/-- Read the chapters of a book. -/
def chapters (url : Text) (book : Json) : Work Payload := do
  let url ← absolute site url
  storeParameters url
  let found ← fetch site url
  let pageUrl := pageAddress found url
  let context ← contextOf site found.body pageUrl book
  let context ← chapterContext site context pageUrl book
  let nameRule ← lift (rule site "ruleChapterName")
  let urlRule ← lift (rule site "ruleContentUrl")
  let listRule ← lift (rule site "ruleChapterList")
  let chapters ← readChapters site context (.str listRule)
    (readChapter site nameRule urlRule pageUrl)
  let nextRule ← lift (rule site "ruleChapterUrlNext")
  noteNext site pageUrl (← readField site context "nextTocUrl" (.str nextRule))
  return .records chapters

/-! ## Content -/

/-- The texts that a rule finds in the content of a page. -/
def contentTexts (context : Extraction.Context) (text : Text) : Work (List Text) := do
  if text.isEmpty then
    report .warning .parse "No ruleBookContent configured"
    return []
  let result ← extract (Extraction.evaluate site.engine context text)
  reportContentFlaw result (.str text)
  let texts := result.givenTexts
  report .info .field ("content matched " ++ countText texts.length ++ " values".toList)
    [ruleDetail (.str text), countDetail texts.length]
  return texts

/-- The images among some texts or in their markup, or else in the page. -/
def readImages (context : Extraction.Context) (texts : List Text) (pageUrl : Text) :
    Work (List Text) := do
  let images ← lift (Image.collectAll pageUrl texts)
  if !images.isEmpty then return images
  let images ← lift (Image.extract (Text.join ['\n'] texts) pageUrl)
  if !images.isEmpty then return images
  let images ← lift (Image.extract context.document.body pageUrl)
  reportRawImages images
  return images

/-- Read the content of a chapter. -/
def content (url : Text) (chapter book : Json) : Work Payload := do
  let url ← absolute site url
  let found ← fetch site url
  let pageUrl := pageAddress found url
  let context ← contextOf site found.body pageUrl book chapter
  let texts ← contentTexts site context (← lift (rule site "ruleBookContent"))
  let images ← readImages context texts pageUrl
  reportImages images
  let nextRule ← lift (rule site "ruleContentUrlNext")
  noteNext site pageUrl (← readField site context "nextContentUrl" (.str nextRule))
  return .images images

/-- The work of a task; a browser is never asked. -/
def work : Task → Work Payload
  | .search keyword page => search site keyword page
  | .detail url book => detail site url book
  | .chapters url book => chapters site url book
  | .content url chapter book _ => content site url chapter book
  | .explore url => explore site url

end Manga

end Stage

end RuleProbe
