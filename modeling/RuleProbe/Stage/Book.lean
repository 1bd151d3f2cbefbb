import RuleProbe.Content.Image
import RuleProbe.Content.Paragraph
import RuleProbe.Rule.Replace
import RuleProbe.Source
import RuleProbe.Stage.Task
import RuleProbe.Url

/-!
# Stages of book sources

A source of books groups its rules by stage.  The addresses of its pages come from
templates, which scripts may write; what a rule cannot find in the content of a page, a
browser may.
-/

namespace RuleProbe

namespace Stage

namespace Book

variable (site : Site)

/-! ## The definition -/

/-- The rules of a group; a group may also be written as a JSON text. -/
def group (name : Text) : Except Fault Record :=
  match site.entry name with
  | .str text =>
      ((Extraction.readJson text).mapError Fault.defect).map fun found =>
        (found.getD .null).members
  | value => .ok value.members

/-- The rule of a group under a name; null when there is none. -/
def ruleIn (rules : Record) (name : Text) : Json := (Keyed.get? rules name).getD .null

/-- The number that the definition gives for the type of the source, if it is one. -/
def typeNumber? : Json → Except Fault (Option Int)
  | .int n => .ok (some n)
  | .bool b => .ok (some (if b then 1 else 0))
  | .float x =>
      if x.isNaN then .ok none
      else if x.isInf then .error (.defect .overflow)
      else .ok (some (Json.integralValue (if x < 0 then x.ceil else x.floor)))
  | .str text => .ok (if text.isEmpty then some 0 else Integer.read? text)
  | value => .ok (if value.isGiven then none else some 0)

/-- The number of the type whose pages are images. -/
def imageType : Int := 2

/-- The pages of the source are images. -/
def hasImages : Except Fault Bool :=
  (typeNumber? (site.entry "bookSourceType")).map fun number => number == some imageType

/-! ## Headers -/

/-- The value of a result: that of a handle is its text. -/
def valueOf : Extraction.Found → Json
  | .plain value => value
  | .handle handle => .str handle.text

/-- The value of the first result; an empty text when there is none, or nothing in it. -/
def firstValue (result : Extraction.Result) : Json :=
  match result.values.head?.map valueOf with
  | some value => if value.isGiven then value else .str []
  | none => .str []

/-- The headers that a value gives: those of a text or an object. -/
def headersOf (value : Json) : Except Fault (Keyed Text) :=
  match value with
  | .obj members => Header.ofValue (.obj members)
  | value => Header.ofValue (.str value.fieldText)

/-- The headers that the definition gives. -/
def readHeaders : Work (Keyed Text) :=
  match site.entry "header" with
  | .str text => do
      if hasScript text then
        let context ← contextOf site [] (← lift site.origin)
        let result ← extract (Extraction.evaluate site.engine context text)
        lift (headersOf (firstValue result))
      else lift (Header.ofValue (.str text))
  | value => if value.isGiven then throw (.defect .type) else pure []

/-- The headers of the source, which are read once. -/
def headers : Work (Keyed Text) := do
  match (← get).headers with
  | some headers => return headers
  | none =>
      let headers ← readHeaders site
      modify fun walk => { walk with headers := some headers }
      return headers

/-- The headers of the source, and others over them. -/
def mergedHeaders (others : Keyed Text) : Work Json.Members := do
  let all := Keyed.update (← headers site) others
  return all.map fun header => (header.1, .str header.2)

/-! ## Addresses -/

/-- What the placeholders of a template stand for. -/
structure Filling where
  /-- The key. -/
  key : Text := []
  /-- The page. -/
  page : Int := 1
  /-- The charset in which the key is escaped. -/
  charset : Json := .null

/-- The key as it stands in an address. -/
def escapedKey (filling : Filling) : Except Fault Text :=
  if filling.key.isEmpty then .ok []
  else
    let encoded (label : Text) : Except Defect Bytes :=
      (Charset.ofLabel label).bind fun charset => charset.encode filling.key
    let label : Except Fault Text :=
      match filling.charset with
      | .str label => .ok (if label.isEmpty then PageCharset.standard else label)
      | value => if value.isGiven then .error (.defect .type) else .ok PageCharset.standard
    label.bind fun label =>
      match encoded label with
      | .ok bytes => .ok (Percent.encode [] bytes)
      | .error .lookup => .error (.template (.unknownCharset label))
      | .error defect => .error (.defect defect)

/-- A template with its placeholders filled. -/
def fill (context : Extraction.Context) (filling : Filling) (text : Text) : Work Text := do
  let key ← lift (escapedKey filling)
  let text := AddressTemplate.fill "key" key text
  let text := AddressTemplate.fill "page" (Integer.write filling.page) text
  if Template.isTemplate text then
    extract (Extraction.interpolate site.engine context text)
  else return text

/-- A template is written by scripts. -/
def isScripted (template : Text) : Bool :=
  template.startsWith "@js:" || Text.startsWith (Text.lower template) "<js>"

/-- The template that scripts write, each given the value of the one before. -/
def scriptedTemplate (context : Extraction.Context) (template : Text) : Work Text := do
  let value ← (ScriptStep.ofRule template).foldlM
    (fun value step =>
      match step with
      | .rule _ => pure value
      | .code code =>
          tryCatch (extract (Extraction.runScript site.engine context code value true))
            fun fault =>
              match fault with
              | .script message => throw (.template (.scriptFailed message))
              | other => throw other)
    Json.null
  let written := value.fieldText.trim
  if written.isEmpty then throw (.template .scriptEmpty) else return written

/-- The text of a body in options. -/
def bodyText : Json → Text
  | .str text => text
  | value => value.toJsonText

/-- The method of a request: the one that is asked for, or else one that suits the body. -/
def methodOf (options : Record) (body : Option Text) : Text :=
  let asked := ruleIn options "method"
  if asked.isGiven then Text.upper asked.display
  else if (body.getD []).isEmpty then "GET" else "POST"

/-- The body of a request, as its options give it. -/
def bodyOf (context : Extraction.Context) (filling : Filling) (options : Record) :
    Work (Option Text) :=
  match ruleIn options "body" with
  | .null => pure none
  | value => some <$> fill site context filling (bodyText value)

/-- The template for a page, and its options. -/
def chooseTemplate (context : Extraction.Context) (page : Int) (template : Text) :
    Work (Text × Record) := do
  let template ←
    if isScripted template then scriptedTemplate site context template else pure template
  lift (AddressTemplate.splitOptions (AddressTemplate.forPage page template))

/-- The request for a template. -/
def buildRequest (template : Json) (filling : Filling := {}) (book : Json := .null) :
    Work PageRequest := do
  let template := (← lift ((Extraction.ruleOf template).mapError .defect)).trim
  if template.isEmpty then throw (.template .emptyTemplate)
  let context ← contextOf site [] (← lift site.origin) book .null
    [("key", .str filling.key), ("page", .int filling.page)]
  let (template, options) ← chooseTemplate site context filling.page template
  let charset := ruleIn options "charset"
  let filling := { filling with charset := if charset.isGiven then charset else .null }
  let url := Text.trim (← fill site context filling template)
  let body ← bodyOf site context filling options
  let url ← resolve site url []
  if !url.startsWithAny absoluteStarts then throw (.template (.notAbsolute template))
  let method := methodOf options body
  let headers ← lift (Header.ofValue (ruleIn options "headers"))
  let rendered := (ruleIn options "webView").isGiven
  return { url, method, body, headers, charset := filling.charset, rendered }

/-- Fetch the page of a request. -/
def fetchAsked (ask : PageRequest) : Work Page := do
  fetchPage site (← mergedHeaders site ask.headers) ask

/-- The digits of a part of a path that is a number, at the beginning of what follows a
slash. -/
def pathNumber? (text : Text) : Option Text :=
  let digits := text.takeWhile fun c => Letter.isDecimal c.toNat
  let rest : Text := text.drop digits.length
  let ends := rest.isEmpty || rest.startsWith ['/'] || rest.startsWith ".htm"
  if digits.isEmpty || !ends then none else some digits

/-- The first part of a path that is a number. -/
def pathId? : Text → Option Text
  | [] => none
  | c :: rest => ((if c == '/' then pathNumber? rest else none)).or (pathId? rest)

/-- Store the parameters of an address, and the number in its path, unless there are
variables of these names. -/
def storeParameters (url : Text) : Work Unit := do
  let url ← lift (Url.read [] url)
  (Query.parameters url.query).forM fun (key, value) => do
    if (← extract (Extraction.stored? key)).isNone then
      storeParameter key value "URL parameter "
  match pathId? url.path with
  | some number =>
      if (← extract (Extraction.stored? "id")).isNone then
        storeParameter "id" number "URL path "
  | none => pure ()

/-! ## Searching and exploring -/

/-- The fields of a book in a list. -/
def listFields : List Text :=
  Text.words "name author intro kind lastChapter updateTime coverUrl wordCount bookUrl"

/-- Read the books of a page; one without an address has that of the page. -/
def readBookList (context : Extraction.Context) (rules : Record) (pageUrl what : Text) :
    Work Payload := do
  let fieldRules := listFields.filterMap fun name =>
    let rule := ruleIn rules name
    if rule.isGiven then some (name, rule) else none
  let books ← readBooks site context (ruleIn rules "bookList") fieldRules what
  return .records (books.map fun book =>
    if (book.text addressField).isEmpty then book.put addressField pageUrl else book)

/-- Search for a keyword. -/
def search (keyword : Text) (page : Int) : Work Payload := do
  let ask ← buildRequest site (site.entry "searchUrl") { key := keyword, page }
  report .info .request ("Search URL: " ++ ask.url)
  let found ← fetchAsked site ask
  let pageUrl := pageAddress found ask.url
  let context ← contextOf site found.body pageUrl .null .null
    [("key", .str keyword), ("page", .int page)]
  readBookList site context (← lift (group site "ruleSearch")) pageUrl "Search list"

/-- The entry of an item of a list. -/
def entryOf? (item : Json) : Option Entry :=
  let title := item.member "title"
  let url := item.member "url"
  if url.isGiven then some ⟨if title.isGiven then title.display else [], url.display⟩
  else none

/-- The entries that a value lists: an array of objects, perhaps written as text, or lines. -/
def entriesOf (value : Json) : Except Fault (List Entry) := do
  let read ←
    match value with
    | .str text => (Extraction.readJson text).mapError Fault.defect
    | value => .ok (some value)
  match read with
  | some (.arr items) => .ok (items.filterMap entryOf?)
  | _ => .ok (Entry.ofTexts value.fieldText)

/-- The pages to explore. -/
def entries : Work (List Entry) := do
  let listed := site.entry "exploreUrl"
  let value ←
    match listed with
    | .str text => do
        if hasScript text then
          let context ← contextOf site [] (← lift site.origin)
          let result ← extract (Extraction.evaluate site.engine context text)
          match result.values with
          | .plain (.obj _) :: _ => pure (.arr (result.values.map valueOf))
          | _ => pure (firstValue result)
        else pure listed
    | value => pure (if value.isGiven then value else .str [])
  lift (entriesOf value)

/-- Read a page to explore. -/
def explore (url : Text) : Work Payload := do
  let target ← exploredAddress url (entries site)
  let ask ← buildRequest site (.str target)
  let found ← fetchAsked site ask
  let pageUrl := pageAddress found ask.url
  let context ← contextOf site found.body pageUrl .null .null
    [("key", .str []), ("page", .int 1)]
  let rules ← lift (group site "ruleExplore")
  let rules ←
    if (ruleIn rules "bookList").isGiven then pure rules
    else do
      report .warning .parse "No ruleExplore configured, using ruleSearch"
      lift (group site "ruleSearch")
  readBookList site context rules pageUrl "Explore list"

/-! ## Details -/

/-- The fields of a book on its own page. -/
def detailFields : List Text :=
  Text.words "name author intro kind lastChapter updateTime coverUrl tocUrl wordCount"

/-- The variable that holds the groups that the first rule of the details matched. -/
def groupsVariable : Text := "_bookInfoInit"

/-- The groups of a match under the letters of the alphabet, as far as it goes. -/
def namedGroups (groups : List (Option Text)) : Record :=
  (groups.take 26).zipIdx.map fun (group, i) => ([Char.ofNat (97 + i)], .str (group.getD []))

/-- Match a pattern on the page, and go on with its groups. -/
def applyPattern (context : Extraction.Context) (init : Text) : Work Extraction.Context := do
  let rule := ruleDetail (.str init)
  match RuleRegex.compile {} (init.drop 1) with
  | .error fault =>
      report .warning .parse ("init rule error: " ++ (fault.message?.getD fault.name)) [rule]
      return context
  | .ok pattern =>
      let subject := Pattern.subjectOf context.document.body
      match Pattern.search pattern subject 0 with
      | none =>
          report .warning .parse "init rule matched nothing" [rule]
          return context
      | some found =>
          let groups := namedGroups ((found.groups subject).drop 1)
          extract (Extraction.setVariable groupsVariable (.obj groups))
          report .success .parse
            ("init extracted " ++ countText groups.length ++ " groups".toList) [rule]
          return context.withValue (.obj groups)

/-- Run a script on the page, and go on with its value: a text becomes the page. -/
def applyScript (context : Extraction.Context) (init : Text) : Work Extraction.Context := do
  let rule := ruleDetail (.str init)
  let result ← extract (Extraction.evaluate site.engine context init)
  match result.values with
  | [] =>
      report .warning .parse "init script returned nothing" [rule]
      return context
  | found :: _ =>
      report .success .parse "init script applied" [rule]
      match found with
      | .plain (.str text) => contextOf site text context.baseUrl context.book
      | .plain value => return context.withValue value
      | .handle handle => return context.withElement (.handle handle)

/-- Narrow the page to the first element that a rule finds. -/
def applyNarrowing (context : Extraction.Context) (init : Text) :
    Work Extraction.Context := do
  let rule := ruleDetail (.str init)
  let result ← extract (Extraction.evaluateList site.engine context init)
  match result.values with
  | [] =>
      report .warning .parse "init rule matched nothing"
        [rule, ("error", (result.reason?.map Json.str).getD .null)]
      return context
  | found :: rest =>
      report .success .parse
        ("init narrowed to " ++ countText (rest.length + 1) ++ " elements".toList) [rule]
      return context.withElement found

/-- Apply the first rule of the details, which prepares what the others see. -/
def applyInit (context : Extraction.Context) (init : Json) : Work Extraction.Context := do
  if !init.isGiven then return context
  let init ← lift ((Extraction.ruleOf init).mapError .defect)
  if init.startsWith [':'] then applyPattern context init
  else if hasScript init then applyScript site context init
  else applyNarrowing site context init

/-- Resolve the address in a field of a record, if it is there. -/
def resolveField (record : Record) (name pageUrl : Text) : Work Record := do
  let url := record.text name
  if url.isEmpty then return record else return record.put name (← resolve site url pageUrl)

/-- Read the fields of a book on its own page. -/
def readDetails (context : Extraction.Context) (rules : Record) : Work Record :=
  detailFields.foldlM
    (fun record name => do
      match ← readField site context name (ruleIn rules name) (styleOf name) with
      | some value => return Record.put record name value
      | none => return record)
    []

/-- Read what a page tells of a book. -/
def detail (url : Text) (book : Json) : Work Payload := do
  let ask ← buildRequest site (.str url) {} book
  let found ← fetchAsked site ask
  let pageUrl := pageAddress found ask.url
  storeParameters ask.url
  let context ← contextOf site found.body pageUrl book
  let rules ← lift (group site "ruleBookInfo")
  if rules.isEmpty then report .warning .parse "No ruleBookInfo configured"
  let context ← applyInit site context (ruleIn rules "init")
  let record ← readDetails site context rules
  let record ← resolveField site record "coverUrl" pageUrl
  if (record.text "tocUrl").isEmpty then
    reportOwnChapters pageUrl
    return .record (record.put "tocUrl" pageUrl)
  else return .record (← resolveField site record "tocUrl" pageUrl)

/-! ## Chapters -/

/-- Read the chapter of an element. -/
def readChapter (rules : Record) (pageUrl : Text) (context : Extraction.Context)
    (style : FieldStyle) : Work Record := do
  let read (name : Text) : Work (Option Text) :=
    readField site context name (ruleIn rules name) style
  let name ← read "chapterName"
  let link ← read "chapterUrl"
  let isVolume := SourceRule.affirms (← read "isVolume")
  let url ← linkAddress site link pageUrl
  let chapter : Record :=
    [("name", .str (name.getD [])), ("url", .str url), ("isVolume", .bool isVolume)]
  match ← read "updateTime" with
  | some updated => return chapter.put "updateTime" updated
  | none => return chapter

/-- Read the chapters of a book. -/
def chapters (url : Text) (book : Json) : Work Payload := do
  let ask ← buildRequest site (.str url) {} book
  let found ← fetchAsked site ask
  let pageUrl := pageAddress found ask.url
  storeParameters ask.url
  let context ← contextOf site found.body pageUrl book
  let rules ← lift (group site "ruleToc")
  let chapters ← readChapters site context (ruleIn rules "chapterList")
    (readChapter site rules pageUrl)
  noteNext site pageUrl
    (← readField site context "nextTocUrl" (ruleIn rules "nextTocUrl"))
  return .records chapters

/-! ## Content -/

/-- The texts that a rule finds when it asks for text instead of markup; none when it does
so already. -/
def retryForText (context : Extraction.Context) (rule : Text) : Work (List Text) :=
  match SourceRule.forText? rule with
  | none => pure []
  | some changed => do
      report .info .parse ("content empty, retrying with " ++ Quoted.write changed)
      let texts := (← extract (Extraction.evaluate site.engine context changed)).givenTexts
      if !texts.isEmpty then
        report .info .field ("fallback matched " ++ countText texts.length ++ " values".toList)
          [ruleDetail (.str changed)]
      return texts

/-- The texts that a rule finds in the content of a page; when it finds none, it is tried
again for text. -/
def contentTexts (context : Extraction.Context) (rule : Json) : Work (List Text) := do
  let text ← lift ((Extraction.ruleOf rule).mapError .defect)
  let result ← extract (Extraction.evaluate site.engine context text)
  reportContentFlaw result rule
  match result.givenTexts with
  | first :: rest =>
      report .info .field ("content matched " ++ countText (rest.length + 1) ++ " values".toList)
        [ruleDetail rule, countDetail (rest.length + 1), ("value", .str (first.take 200))]
      return first :: rest
  | [] =>
      let texts ← retryForText site context text
      if texts.isEmpty then
        report .warning .field "content: empty" [ruleDetail rule, countDetail 0]
      return texts

/-- The milliseconds of some seconds. -/
def milliseconds (seconds : Float) : Except Fault Int :=
  let scaled := seconds * 1000
  if scaled.isNaN then .error (.defect .value)
  else if scaled.isInf then .error (.defect .overflow)
  else .ok (Json.integralValue (if scaled < 0 then scaled.ceil else scaled.floor))

/-- Have a browser render a page. -/
def render (url : Text) (others : Keyed Text) : Work (Option Text) := do
  let all ← mergedHeaders site others
  report .info .request ("WebView render: " ++ url)
  let timeout ← lift (milliseconds site.settings.requestTimeout)
  modify fun walk =>
    { walk with calls := .rendering url (Header.filter all) timeout :: walk.calls }
  match (site.browser url).filter fun page => !page.isEmpty with
  | some page =>
      report .success .request ("WebView rendered " ++ countText page.length ++ " chars".toList)
      return some page
  | none =>
      report .warning .request "WebView rendering failed"
      return none

/-- The images among some texts, or else in the page. -/
def readImages (context : Extraction.Context) (texts : List Text) (pageUrl : Text) :
    Work Payload := do
  let images ← lift (Image.collectAll pageUrl texts)
  let images ←
    if images.isEmpty then do
      let images ← lift (Image.extract context.document.body pageUrl)
      reportRawImages images
      pure images
    else pure images
  reportImages images
  return .images images

/-- The paragraphs of some texts, changed as the rules ask for. -/
def readText (rules : Record) (texts : List Text) : Work Payload := do
  let text ← lift (Paragraph.readContent (Text.join ['\n'] texts))
  let changes := ruleIn rules "replaceRegex"
  let text ←
    if changes.isGiven && !text.isEmpty then do
      let lines ← lift ((Extraction.ruleOf changes).mapError .defect)
      let text ← lift (Replacement.applyLines text lines)
      report .info .parse "Applied replaceRegex" [ruleDetail changes]
      pure text
    else pure text
  report (if text.isEmpty then .warning else .success) .field
    ("Content length: " ++ countText text.length)
  return .text text

/-- The text of a page, which a browser may have to render. -/
def contentBody (found : Page) (pageUrl : Text) (headers : Keyed Text) (rendered : Bool) :
    Work Text :=
  if rendered then (fun page => page.getD found.body) <$> render site pageUrl headers
  else pure found.body

/-- The texts that a rule finds in the content of a page, and the page where it finds them:
when there are none, a browser may render the page. -/
def findContent (context : Extraction.Context) (rule : Json) (pageUrl : Text)
    (headers : Keyed Text) (mayRender : Bool) : Work (Extraction.Context × List Text) := do
  let texts ← contentTexts site context rule
  if texts.isEmpty && mayRender then
    report .info .parse "Content still empty, trying WebView"
    match ← render site pageUrl headers with
    | some page => do
        let context ← contextOf site page pageUrl context.book context.chapter
        return (context, ← contentTexts site context rule)
    | none => return (context, texts)
  else return (context, texts)

/-- Read the content of a chapter. -/
def content (url : Text) (chapter book : Json) (rendered : Bool) : Work Payload := do
  let ask ← buildRequest site (.str url) {} book
  let found ← fetchAsked site ask
  let pageUrl := pageAddress found ask.url
  let isJson := (← lift ((Extraction.readJson found.body).mapError .defect)).isSome
  let wantsBrowser := rendered || ask.rendered
  let body ← contentBody site found pageUrl ask.headers (wantsBrowser && !isJson)
  let rules ← lift (group site "ruleContent")
  let rule := ruleIn rules "content"
  if !rule.isGiven then
    report .warning .parse "No ruleContent.content configured"
    return if ← lift (hasImages site) then .images [] else .text []
  let context ← contextOf site body pageUrl book chapter
  let mayRender := site.settings.useBrowser && !isJson && !wantsBrowser
  let (context, texts) ← findContent site context rule pageUrl ask.headers mayRender
  noteNext site pageUrl
    (← readField site context "nextContentUrl" (ruleIn rules "nextContentUrl"))
  if ← lift (hasImages site) then readImages context texts pageUrl
  else readText rules texts

/-- The work of a task. -/
def work : Task → Work Payload
  | .search keyword page => search site keyword page
  | .detail url book => detail site url book
  | .chapters url book => chapters site url book
  | .content url chapter book rendered => content site url chapter book rendered
  | .explore url => explore site url

end Book

end Stage

end RuleProbe
