import RuleProbe.Content.Replacement
import RuleProbe.Extraction.Evaluate
import RuleProbe.Http.Fetch
import RuleProbe.Json.Writer
import RuleProbe.Settings
import RuleProbe.Source
import RuleProbe.Url

/-!
# Stages

A stage walks one step into a source: it fetches a page, evaluates the rules of the source
on it and reports what it finds.  All stages of a session share a variable store.  Only a
flawed template or a page that is not there ends a stage early.
-/

namespace RuleProbe

namespace Stage

/-! ## The world around a stage -/

/-- A browser: what it makes of an address, if it can. -/
abbrev Browser := Text → Option Text

/-- A source, the settings, and the world. -/
structure Site where
  /-- The kind of the source. -/
  kind : SourceKind
  /-- The definition of the source. -/
  definition : Json.Members
  /-- The settings. -/
  settings : Settings
  /-- The network. -/
  network : Http.Network
  /-- The browser. -/
  browser : Browser

namespace Site

/-- The entry of the definition under a name; null when there is none. -/
def entry (site : Site) (name : Text) : Json :=
  (Keyed.get? site.definition name).getD .null

/-- The address of the source. -/
def url (site : Site) : Json := site.entry "bookSourceUrl"

/-- The name of the source, or its address when it has none. -/
def title (site : Site) : Json :=
  if (site.entry "bookSourceName").isGiven then site.entry "bookSourceName"
  else if site.url.isGiven then site.url
  else .str "(unnamed)"

/-- The scheme and the authority of the source. -/
def origin (site : Site) : Except Fault Text := do
  let url ← (Extraction.ruleOf site.url).mapError Fault.defect
  Url.originOf url

/-- How the scripts of the source are run. -/
def engine (site : Site) : Extraction.Engine :=
  { library := site.entry "jsLib"
    timeout := site.settings.scriptTimeout }

end Site

/-- What the world was asked for. -/
inductive Call where
  /-- The page of a request. -/
  | request (request : Http.Request)
  /-- The page that a browser makes of an address, within so many milliseconds. -/
  | rendering (url : Text) (headers : Keyed Text) (timeout : Int)

/-! ## The work of a stage -/

/-- What the stages of a session leave behind. -/
structure Walk where
  /-- The variable store, and the log of the stage. -/
  session : Extraction.Session := ⟨[], []⟩
  /-- The number of documents so far. -/
  documents : Nat := 0
  /-- The headers of the source, once they are known. -/
  headers : Option (Keyed Text) := none
  /-- The page on which the stage depends. -/
  page : Option Page := none
  /-- The address of the page that continues the one of the stage. -/
  nextUrl : Option Text := none
  /-- What the world was asked for, the latest first. -/
  calls : List Call := []
  deriving Inhabited

/-- The work of a stage. -/
abbrev Work := ExceptT Fault (StateM Walk)

/-- Take over a computation without effects. -/
def lift {α : Type} (value : Except Fault α) : Work α := MonadExcept.ofExcept value

/-- Take over an evaluation. -/
def extract {α : Type} (action : Extraction.Extract α) : Work α := do
  let walk ← get
  let (ended, session) := action.run.run walk.session
  set { walk with session }
  lift ended

/-- Write a log entry. -/
def report (level : Log.Level) (topic : Log.Topic) (message : Text)
    (details : Json.Members := []) : Work Unit :=
  extract (Extraction.report { level, topic, message, details })

/-- The entry of details that names a rule. -/
def ruleDetail (rule : Json) : Text × Json := ("rule", rule)

/-- The entry of details that counts. -/
def countDetail (count : Nat) : Text × Json := ("matched", .int count)

/-- The text of a count. -/
def countText (count : Nat) : Text := Integer.writeNat count

/-- What a rule is evaluated in, for the text of a page. -/
def contextOf (site : Site) (body pageUrl : Text) (book : Json := .null)
    (chapter : Json := .null) (extra : Json.Members := []) : Work Extraction.Context := do
  let baseUrl ← if pageUrl.isEmpty then lift site.origin else pure pageUrl
  let serial := (← get).documents
  modify fun walk => { walk with documents := serial + 1 }
  return { document := .ofBody serial body, baseUrl, book, chapter, extra }

/-- The absolute address of an address found on a page of the source. -/
def resolve (site : Site) (url base : Text) : Work Text := do
  let base ← if base.isEmpty then lift site.origin else pure base
  lift (Url.resolve url base)

/-- What an absolute address begins with. -/
def absoluteStarts : List Text := ["http://".toList, "https://".toList, "data:".toList]

/-! ## Fetching -/

/-- A page to ask for. -/
structure PageRequest where
  /-- The address. -/
  url : Text
  /-- The method. -/
  method : Text := "GET"
  /-- The body. -/
  body : Option Text := none
  /-- Headers over those of the source. -/
  headers : Keyed Text := []
  /-- The charset of the page and the body. -/
  charset : Json := .null
  /-- A browser shall render the page. -/
  rendered : Bool := false
  deriving Inhabited

/-- Report what is asked for. -/
def reportRequest (ask : PageRequest) (headers : Json.Members) : Work Unit := do
  report .info .request (ask.method ++ ' ' :: ask.url)
    (if headers.isEmpty then [] else [("headers", .obj headers)])
  match ask.body with
  | some body => report .info .request ("Body: " ++ Json.previewText 200 body)
  | none => pure ()

/-- The options of a request. -/
def optionsOf (settings : Settings) (ask : PageRequest) (headers : Json.Members) :
    Http.Options :=
  { method := ask.method
    headers := headers
    body := (ask.body.map Json.str).getD .null
    timeout := settings.requestTimeout
    charset := ask.charset
    proxy := settings.proxy.getD []
    maxRedirects := some settings.maxRedirects }

/-- A text for a status or a charset that may be missing. -/
def orNothing (text : Option Text) : Text := text.getD "None"

/-- What is reported of a page. -/
def pageSummary (page : Page) : Text :=
  "HTTP ".toList ++ orNothing (page.status.map Integer.write) ++ " (0ms, ".toList ++
    countText page.body.length ++ " chars, ".toList ++ orNothing page.charset ++ ")".toList

/-- Fetch a page with headers.  A stage that depends on it, as it does on a primary page,
ends when it is not there. -/
def fetchPage (site : Site) (headers : Json.Members) (ask : PageRequest)
    (primary : Bool := true) : Work Page := do
  reportRequest ask headers
  let (page, request) ← lift
    ((Http.fetch site.network ask.url (optionsOf site.settings ask headers)).mapError .defect)
  modify fun walk =>
    { walk with
      calls := request.toList.map Call.request ++ walk.calls
      page := if primary then some page else walk.page }
  if page.success then
    report .success .request (pageSummary page)
      [("final_url", (page.finalUrl.map Json.str).getD .null)]
  else
    let message : Text :=
      "Request failed: " ++ orNothing page.error ++ " (".toList ++ ask.url ++ ")".toList
    if primary then throw (.network message)
    else report .warning .request message
  return page

/-- The address of a page: the one that answered, or else the one that was asked for. -/
def pageAddress (page : Page) (asked : Text) : Text :=
  match page.finalUrl with
  | some url => if url.isEmpty then asked else url
  | none => asked

/-! ## Lasting results -/

/-- Note the page that continues this one, when it is another one. -/
def noteNext (site : Site) (pageUrl : Text) (found : Option Text) : Work Unit := do
  match found with
  | none => pure ()
  | some url =>
      let url ← resolve site url pageUrl
      if url != pageUrl then modify fun walk => { walk with nextUrl := some url }

/-- Store a parameter of an address. -/
def storeParameter (key value label : Text) : Work Unit := do
  extract (Extraction.setVariable key (.str value))
  report .info .parse (label ++ key ++ '=' :: value)

end Stage

end RuleProbe
