import RuleProbe.Proofs.Evaluation.Blind
import RuleProbe.Proofs.Stage.Reading
import RuleProbe.Stage.Book
import RuleProbe.Stage.Manga

/-!
# Secluded work

Most of the work of a stage has nothing to do with what has been reported or asked for before: it
reads neither, and asks for nothing itself.  Such a secluded piece of work ends alike in two walks
that share all the rest, and leaves the calls and the page of each of them as they are.
-/

namespace RuleProbe

namespace Stage

open Extraction (Blind Context Found)

/-- Two walks share variables, documents, headers and the address that they have noted; the one
has the calls and the page of `first`, the other those of `second`. -/
structure Alongside (first second one two : Walk) : Prop where
  /-- The walks have the same variables. -/
  store : two.session.store = one.session.store
  /-- They have numbered as many documents. -/
  documents : two.documents = one.documents
  /-- They know the same headers. -/
  headers : two.headers = one.headers
  /-- They have noted the same address. -/
  nextUrl : two.nextUrl = one.nextUrl
  /-- The calls of the one walk. -/
  firstCalls : one.calls = first.calls
  /-- The page of the one walk. -/
  firstPage : one.page = first.page
  /-- The calls of the other walk. -/
  secondCalls : two.calls = second.calls
  /-- The page of the other walk. -/
  secondPage : two.page = second.page

/-- Two walks share all that work which is secluded can see. -/
def Alike (one two : Walk) : Prop :=
  Alongside one two one two

theorem Alike.refl (walk : Walk) : Alike walk walk :=
  ⟨rfl, rfl, rfl, rfl, rfl, rfl, rfl, rfl⟩

theorem Alongside.alike
    {first second one two : Walk}
    (alongside : Alongside first second one two) :
    Alike one two :=
  { alongside with
    firstCalls := rfl
    firstPage := rfl
    secondCalls := rfl
    secondPage := rfl }

variable {α β : Type}

/-- A piece of work ends alike in walks that share all but what has been reported and asked for,
and asks for nothing. -/
abbrev Secluded (first second : Walk) (action : Work α) : Prop :=
  Parallel (Alongside first second) id action action

/-- Secluded work ends alike in walks that share what it can see, and they still share it. -/
theorem Secluded.endsAlike
    {action : Work α}
    {one two : Walk}
    (secluded : Secluded one two action)
    (alike : Alike one two) :
    (runFrom action two).1 = (runFrom action one).1 ∧
      Alike (runFrom action one).2 (runFrom action two).2 := by
  obtain ⟨same, after⟩ := secluded one two alike
  rw [Except.map_id, id_eq] at same
  exact ⟨same, after.alike⟩

/-- Secluded work leaves the calls as they are. -/
theorem Secluded.calls_eq
    {action : Work α}
    {walk : Walk}
    (secluded : Secluded walk walk action) :
    (runFrom action walk).2.calls = walk.calls :=
  (secluded walk walk (Alike.refl walk)).2.firstCalls

/-- Secluded work leaves the page as it is. -/
theorem Secluded.page_eq
    {action : Work α}
    {walk : Walk}
    (secluded : Secluded walk walk action) :
    (runFrom action walk).2.page = walk.page :=
  (secluded walk walk (Alike.refl walk)).2.firstPage

/-- Secluded work that comes after other work leaves the calls and the page of that. -/
theorem Secluded.behind
    (action : Work α)
    {next : α → Work β}
    (secluded : ∀ value walk, Secluded walk walk (next value))
    (walk : Walk) :
    (runFrom (action >>= next) walk).2.calls = (runFrom action walk).2.calls ∧
      (runFrom (action >>= next) walk).2.page = (runFrom action walk).2.page := by
  rw [runFrom_bind]
  cases runFrom action walk with
  | mk result after =>
      cases result with
      | error fault => exact ⟨rfl, rfl⟩
      | ok value => exact ⟨(secluded value after).calls_eq, (secluded value after).page_eq⟩

namespace Secluded

variable {first second : Walk}
variable {site : Site}

/-! ## Pieces that all stages share -/

theorem lift (value : Except Fault α) : Secluded first second (lift value) :=
  .of_except value

theorem extract
    {action : Extraction.Extract α}
    (blind : Blind action) :
    Secluded first second (extract action) := by
  intro one two alongside
  obtain ⟨same, stores⟩ := blind one.session two.session alongside.store
  rw [runFrom_extract, runFrom_extract]
  exact ⟨same, { alongside with store := stores }⟩

theorem report
    (level : Log.Level)
    (topic : Log.Topic)
    (message : Text)
    (details : Json.Members) :
    Secluded first second (report level topic message details) :=
  extract (Extraction.report_blind _)

theorem reportThen
    (level : Log.Level)
    (topic : Log.Topic)
    (message : Text)
    (details : Json.Members)
    (value : α) :
    Secluded first second
      (Stage.report level topic message details >>= fun _ => pure value) :=
  (report level topic message details).andThen fun _ => .of_pure value

theorem evaluate (context : Context) (rule : Text) :
    Secluded first second (Stage.extract (Extraction.evaluate site.engine context rule)) :=
  extract ((Extraction.blindAt site.engine _).rule context rule false)

theorem evaluateList (context : Context) (rule : Text) :
    Secluded first second (Stage.extract (Extraction.evaluateList site.engine context rule)) :=
  extract ((Extraction.blindAt site.engine _).rule context rule true)

theorem contextOf
    (body pageUrl : Text)
    (book chapter : Json)
    (extra : Json.Members) :
    Secluded first second (contextOf site body pageUrl book chapter extra) := by
  have built (baseUrl : Text) :
      Secluded first second (do
        let serial := (← (get : Work Walk)).documents
        modify fun walk => { walk with documents := serial + 1 }
        return ({ document := .ofBody serial body, baseUrl, book, chapter, extra } :
          Context)) := by
    intro one two alongside
    simp only [runFrom_bind, runFrom_get, runFrom_modify, runFrom_pure, alongside.documents]
    exact ⟨rfl, { alongside with documents := rfl }⟩
  unfold Stage.contextOf
  simp only
  split
  · exact (lift _).andThen built
  · exact built pageUrl

theorem resolve (url base : Text) : Secluded first second (resolve site url base) := by
  unfold Stage.resolve
  simp only
  split
  · exact (lift _).andThen fun _ => lift _
  · exact lift _

theorem reportRequest (ask : PageRequest) (headers : Json.Members) :
    Secluded first second (reportRequest ask headers) := by
  unfold Stage.reportRequest
  refine (report _ _ _ _).andThen fun _ => ?_
  split
  · exact report _ _ _ _
  · exact .of_pure _

theorem noteNext (pageUrl : Text) (found : Option Text) :
    Secluded first second (noteNext site pageUrl found) := by
  unfold Stage.noteNext
  cases found with
  | none => exact .of_pure _
  | some url =>
      refine (resolve url pageUrl).andThen fun resolved => ?_
      refine .ite (.of_modify fun _ _ alongside => ?_) (.of_pure _)
      exact { alongside with nextUrl := rfl }

theorem stored? (key : Text) :
    Secluded first second (Stage.extract (Extraction.stored? key)) :=
  extract (Extraction.stored?_blind key)

theorem storeParameter (key value label : Text) :
    Secluded first second (storeParameter key value label) :=
  (extract (Extraction.setVariable_blind _ _)).andThen fun _ => report _ _ _ _

/-! ## Fields -/

theorem readField (context : Context) (name : Text) (rule : Json) (style : FieldStyle) :
    Secluded first second (readField site context name rule style) := by
  unfold Stage.readField
  refine .ite (.of_pure _) ?_
  refine (lift _).andThen fun text => ?_
  refine (evaluate context text).andThen fun result => ?_
  cases result.reason? with
  | some reason => exact reportThen _ _ _ _ none
  | none =>
      refine .ite ?_ ?_
      · exact .optionally (report _ _ _ _) (.of_pure _)
      · exact .optionally (report _ _ _ _) (.of_pure _)

theorem readElements (context : Context) (rule : Json) (what : Text) :
    Secluded first second (readElements site context rule what) := by
  unfold Stage.readElements
  refine .ite (reportThen _ _ _ _ []) ?_
  refine (lift _).andThen fun text => ?_
  refine (evaluateList context text).andThen fun result => ?_
  cases result with
  | failed reason => exact reportThen _ _ _ _ []
  | found values => exact .ite (reportThen _ _ _ _ values) (reportThen _ _ _ _ values)

/-! ## Books -/

theorem addField (context : Context) (label : Text) (record : Record) (rule : Text × Json) :
    Secluded first second (addField site context label record rule) := by
  unfold Stage.addField
  refine (readField context _ _ _).andThen fun found => ?_
  cases found with
  | none => exact .of_pure record
  | some value =>
      refine .ite ?_ ?_
      · exact (resolve _ _).andThen fun resolved => .of_pure _
      · exact .of_pure _

theorem readFields (context : Context) (label : Text) (rules : List (Text × Json)) :
    Secluded first second (readFields site context label rules) :=
  .foldlM (fun record rule _ => addField context label record rule) []

theorem readAddress (context : Context) (label : Text) (rule : Json) (record : Record) :
    Secluded first second (readAddress site context label rule record) := by
  unfold Stage.readAddress
  refine .ite (.of_pure record) ?_
  refine (readField _ _ _ _).andThen fun found => ?_
  cases found with
  | none => exact .of_pure record
  | some value => exact (resolve _ _).andThen fun resolved => .of_pure _

theorem readBook
    (context : Context)
    (label : Text)
    (rules : List (Text × Json))
    (addressRule : Json) :
    Secluded first second (readBook site context label rules addressRule) := by
  unfold Stage.readBook
  refine (readFields context label rules).andThen fun record => ?_
  refine (readAddress context label addressRule record).andThen fun record => ?_
  exact .ite (reportThen _ _ _ _ none) (.of_pure _)

/-- A loop that may pass items over is secluded when its turns are. -/
theorem filterMapM
    {items : List β}
    {body : β → Work (Option α)}
    (each : ∀ item, Secluded first second (body item)) :
    Secluded first second (items.filterMapM body) := by
  have all : Parallel (Alongside first second) id (items.filterMapM body)
      ((items.map id).filterMapM body) := .filterMapM items each
  rwa [List.map_id] at all

theorem readBooks
    (context : Context)
    (listRule : Json)
    (rules : List (Text × Json))
    (what : Text) :
    Secluded first second (readBooks site context listRule rules what) := by
  unfold Stage.readBooks
  refine (readElements context listRule what).andThen fun elements => ?_
  refine .optionally (report _ _ _ _) ?_
  refine (filterMapM fun turn => readBook _ _ _ _).andThen fun books => ?_
  exact reportThen _ _ _ _ books

/-! ## Chapters -/

theorem reportChapters (chapters : List Record) :
    Secluded first second (reportChapters chapters) := by
  unfold Stage.reportChapters
  refine Parallel.andThen (.forM fun turn _ => ?_) fun _ => report _ _ _ _
  refine .ite (report _ _ _ _) ?_
  exact .ite (report _ _ _ _) (.of_pure _)

theorem readChapters
    (context : Context)
    (listRule : Json)
    {read : Context → FieldStyle → Work Record}
    (reads : ∀ inner style, Secluded first second (read inner style)) :
    Secluded first second (readChapters site context listRule read) := by
  unfold Stage.readChapters
  refine (readElements context listRule _).andThen fun elements => ?_
  refine (filterMapM fun turn => ?_).andThen fun chapters => ?_
  · exact (reads _ _).andThen fun record => .of_pure _
  · exact (reportChapters chapters).andThen fun _ => .of_pure chapters

theorem linkAddress (link : Option Text) (pageUrl : Text) :
    Secluded first second (linkAddress site link pageUrl) := by
  cases link with
  | none => exact .of_pure _
  | some link => exact resolve link pageUrl

/-! ## Addresses -/

theorem withoutTitle (target : Text) : Secluded first second (withoutTitle target) := by
  unfold Stage.withoutTitle
  cases Text.cut? Entry.divider target with
  | none => exact .of_pure target
  | some cut => exact reportThen _ _ _ _ _

theorem exploredAddress
    (url : Text)
    {entries : Work (List Entry)}
    (secluded : Secluded first second entries) :
    Secluded first second (exploredAddress url entries) := by
  unfold Stage.exploredAddress
  simp only
  split
  · exact (secluded.alike _).andThen fun target => withoutTitle target
  · exact withoutTitle url

/-! ## Content -/

theorem reportContentFlaw (result : Extraction.Result) (rule : Json) :
    Secluded first second (reportContentFlaw result rule) := by
  unfold Stage.reportContentFlaw
  cases result.reason? with
  | some reason => exact report _ _ _ _
  | none => exact .of_pure _

theorem reportImages (images : List Text) : Secluded first second (reportImages images) := by
  cases images with
  | nil => exact report _ _ _ _
  | cons first rest => exact report _ _ _ _

theorem reportRawImages (images : List Text) :
    Secluded first second (reportRawImages images) := by
  unfold Stage.reportRawImages
  exact .ite (.of_pure _) (report _ _ _ _)

end Secluded

end Stage

/-!
## Secluded work of book sources

In a stage of a source of books, all but the requests for pages and for renderings is secluded.
Headers that are known are shared by walks that secluded work cannot tell apart, so it makes no
difference whether they are known or read.
-/

namespace Stage

namespace Book

open Extraction (Context Found)

variable {first second : Walk}
variable {site : Site}

/-! ### Headers -/

theorem readHeaders_secluded : Secluded first second (readHeaders site) := by
  unfold readHeaders
  split
  · refine .ite ?_ (Secluded.lift _)
    refine (Secluded.lift _).andThen fun origin => ?_
    refine (Secluded.contextOf _ _ _ _ _).andThen fun context => ?_
    exact (Secluded.evaluate context _).andThen fun result => Secluded.lift _
  · exact .ite (.of_throw _) (.of_pure _)

theorem headers_secluded : Secluded first second (headers site) := by
  intro one two alongside
  unfold headers
  rw [runFrom_bind, runFrom_bind, runFrom_get, runFrom_get]
  simp only [alongside.headers]
  cases one.headers with
  | some headers => exact ⟨rfl, alongside⟩
  | none =>
      refine readHeaders_secluded.andThen (fun headers => ?_) one two alongside
      refine Parallel.andThen (.of_modify fun _ _ alongside => ?_) fun _ => .of_pure headers
      exact { alongside with headers := rfl }

theorem mergedHeaders_secluded (others : Keyed Text) :
    Secluded first second (mergedHeaders site others) := by
  unfold mergedHeaders
  exact headers_secluded.andThen fun headers => .of_pure _

/-! ### Requests -/

theorem fill_secluded (context : Context) (filling : Filling) (text : Text) :
    Secluded first second (fill site context filling text) := by
  unfold fill
  refine (Secluded.lift _).andThen fun key => ?_
  refine .ite (Secluded.extract ?_) (.of_pure _)
  exact (Extraction.blindAt site.engine _).template context _

theorem scriptedTemplate_secluded (context : Context) (template : Text) :
    Secluded first second (scriptedTemplate site context template) := by
  unfold scriptedTemplate
  refine Parallel.andThen (.foldlM (fun value step _ => ?_) _) fun value => ?_
  · cases step with
    | rule text => exact .of_pure value
    | code code =>
        have ran : Secluded first second
            (extract (Extraction.runScript site.engine context code value true)) :=
          Secluded.extract (Extraction.runScript_blind site.engine context code value true)
        refine ran.tryCatch fun fault => ?_
        cases fault <;> exact .of_throw _
  · exact .ite (.of_throw _) (.of_pure _)

theorem bodyOf_secluded (context : Context) (filling : Filling) (options : Record) :
    Secluded first second (bodyOf site context filling options) := by
  unfold bodyOf
  split
  · exact .of_pure none
  · exact Parallel.alike (fill_secluded context filling _) some

theorem chooseTemplate_secluded (context : Context) (page : Int) (template : Text) :
    Secluded first second (chooseTemplate site context page template) := by
  unfold chooseTemplate
  simp only
  split
  · exact (scriptedTemplate_secluded context template).andThen fun _ => Secluded.lift _
  · exact Secluded.lift _

theorem buildRequest_secluded (template : Json) (filling : Filling) (book : Json) :
    Secluded first second (buildRequest site template filling book) := by
  unfold buildRequest
  refine (Secluded.lift _).andThen fun template => ?_
  refine .optionally (.of_throw _) ?_
  refine (Secluded.lift _).andThen fun origin => ?_
  refine (Secluded.contextOf _ _ _ _ _).andThen fun context => ?_
  refine (chooseTemplate_secluded context _ _).andThen fun chosen => ?_
  refine (fill_secluded context _ _).andThen fun url => ?_
  refine (bodyOf_secluded context _ _).andThen fun body => ?_
  refine (Secluded.resolve _ _).andThen fun resolved => ?_
  refine .optionally (.of_throw _) ?_
  exact (Secluded.lift _).andThen fun headers => .of_pure _

theorem storeParameters_secluded (url : Text) :
    Secluded first second (storeParameters url) := by
  unfold storeParameters
  refine (Secluded.lift _).andThen fun read => ?_
  refine Parallel.andThen (.forM fun parameter _ => ?_) fun _ => ?_
  · refine (Secluded.stored? _).andThen fun known => ?_
    exact .ite (Secluded.storeParameter _ _ _) (.of_pure _)
  · split
    · refine (Secluded.stored? _).andThen fun known => ?_
      exact .ite (Secluded.storeParameter _ _ _) (.of_pure _)
    · exact .of_pure _

/-! ### Searching and exploring -/

theorem readBookList_secluded (context : Context) (rules : Record) (pageUrl what : Text) :
    Secluded first second (readBookList site context rules pageUrl what) := by
  unfold readBookList
  exact (Secluded.readBooks context _ _ _).andThen fun books => .of_pure _

theorem entries_secluded : Secluded first second (entries site) := by
  unfold entries
  simp only
  split
  · refine .ite ?_ (Secluded.lift _)
    refine (Secluded.lift _).andThen fun origin => ?_
    refine (Secluded.contextOf _ _ _ _ _).andThen fun context => ?_
    refine (Secluded.evaluate context _).andThen fun result => ?_
    split
    · exact Parallel.andThen (.of_pure _) fun value => Secluded.lift _
    · exact Parallel.andThen (.of_pure _) fun value => Secluded.lift _
  · exact Secluded.lift _

/-! ### Details -/

theorem applyPattern_secluded (context : Context) (init : Text) :
    Secluded first second (applyPattern context init) := by
  unfold applyPattern
  simp only
  split
  · exact Secluded.reportThen _ _ _ _ context
  · split
    · exact Secluded.reportThen _ _ _ _ context
    · refine (Secluded.extract (Extraction.setVariable_blind _ _)).andThen fun _ => ?_
      exact Secluded.reportThen _ _ _ _ _

theorem applyScript_secluded (context : Context) (init : Text) :
    Secluded first second (applyScript site context init) := by
  unfold applyScript
  refine (Secluded.evaluate context init).andThen fun result => ?_
  split
  · exact Secluded.reportThen _ _ _ _ context
  · refine (Secluded.report _ _ _ _).andThen fun _ => ?_
    split
    · exact Secluded.contextOf _ _ _ _ _
    · exact .of_pure _
    · exact .of_pure _

theorem applyNarrowing_secluded (context : Context) (init : Text) :
    Secluded first second (applyNarrowing site context init) := by
  unfold applyNarrowing
  refine (Secluded.evaluateList context init).andThen fun result => ?_
  split
  · exact Secluded.reportThen _ _ _ _ context
  · exact Secluded.reportThen _ _ _ _ _

theorem applyInit_secluded (context : Context) (init : Json) :
    Secluded first second (applyInit site context init) := by
  unfold applyInit
  refine .ite (.of_pure context) ?_
  refine (Secluded.lift _).andThen fun init => ?_
  refine .ite (applyPattern_secluded context init) ?_
  exact .ite (applyScript_secluded context init) (applyNarrowing_secluded context init)

theorem resolveField_secluded (record : Record) (name pageUrl : Text) :
    Secluded first second (resolveField site record name pageUrl) := by
  unfold resolveField
  refine .ite (.of_pure record) ?_
  exact (Secluded.resolve _ _).andThen fun url => .of_pure _

theorem readDetails_secluded (context : Context) (rules : Record) :
    Secluded first second (readDetails site context rules) := by
  unfold readDetails
  refine .foldlM (fun record name _ => ?_) []
  refine (Secluded.readField context _ _ _).andThen fun found => ?_
  cases found with
  | none => exact .of_pure record
  | some value => exact .of_pure _

/-! ### Chapters -/

theorem readChapter_secluded
    (rules : Record)
    (pageUrl : Text)
    (context : Context)
    (style : FieldStyle) :
    Secluded first second (readChapter site rules pageUrl context style) := by
  unfold readChapter
  refine (Secluded.readField context _ _ _).andThen fun name => ?_
  refine (Secluded.readField context _ _ _).andThen fun link => ?_
  refine (Secluded.readField context _ _ _).andThen fun volume => ?_
  refine (Secluded.linkAddress _ _).andThen fun url => ?_
  refine (Secluded.readField context _ _ _).andThen fun updated => ?_
  cases updated with
  | none => exact .of_pure _
  | some value => exact .of_pure _

/-! ### Content -/

theorem retryForText_secluded (context : Context) (rule : Text) :
    Secluded first second (retryForText site context rule) := by
  unfold retryForText
  cases SourceRule.forText? rule with
  | none => exact .of_pure []
  | some changed =>
      refine (Secluded.report _ _ _ _).andThen fun _ => ?_
      refine (Secluded.evaluate context changed).andThen fun result => ?_
      exact .optionally (Secluded.report _ _ _ _) (.of_pure _)

theorem contentTexts_secluded (context : Context) (rule : Json) :
    Secluded first second (contentTexts site context rule) := by
  unfold contentTexts
  refine (Secluded.lift _).andThen fun text => ?_
  refine (Secluded.evaluate context text).andThen fun result => ?_
  refine (Secluded.reportContentFlaw result rule).andThen fun _ => ?_
  cases result.givenTexts with
  | cons first rest => exact Secluded.reportThen _ _ _ _ _
  | nil =>
      refine (retryForText_secluded context text).andThen fun texts => ?_
      exact .optionally (Secluded.report _ _ _ _) (.of_pure texts)

theorem readImages_secluded (context : Context) (texts : List Text) (pageUrl : Text) :
    Secluded first second (readImages context texts pageUrl) := by
  unfold readImages
  refine (Secluded.lift _).andThen fun images => ?_
  have reported (images : List Text) :
      Secluded first second
        (reportImages images >>= fun _ => pure (Payload.images images)) :=
    (Secluded.reportImages images).andThen fun _ => .of_pure _
  refine .ite ?_ (reported images)
  refine (Secluded.lift _).andThen fun images => ?_
  exact (Secluded.reportRawImages images).andThen fun _ => reported images

theorem readText_secluded (rules : Record) (texts : List Text) :
    Secluded first second (readText rules texts) := by
  unfold readText
  refine (Secluded.lift _).andThen fun text => ?_
  simp only
  split
  · refine (Secluded.lift _).andThen fun lines => ?_
    refine (Secluded.lift _).andThen fun text => ?_
    refine (Secluded.report _ _ _ _).andThen fun _ => ?_
    exact Secluded.reportThen _ _ _ _ _
  · exact Secluded.reportThen _ _ _ _ _

end Book

end Stage

/-!
## Secluded work of manga sources

In a stage of a source of manga, all but the requests for pages is secluded.
-/

namespace Stage

namespace Manga

open Extraction (Context)

variable {first second : Walk}
variable {site : Site}

/-! ### Addresses -/

theorem absolute_secluded (url : Text) : Secluded first second (absolute site url) := by
  unfold absolute
  refine .optionally (.of_throw _) ?_
  refine (Secluded.resolve _ _).andThen fun resolved => ?_
  exact .ite (.of_pure _) (.of_throw _)

theorem searchAddress_secluded (keyword : Text) (page : Int) :
    Secluded first second (searchAddress site keyword page) := by
  unfold searchAddress
  refine (Secluded.lift _).andThen fun template => ?_
  exact .optionally (.of_throw _) (absolute_secluded _)

theorem storeParameters_secluded (url : Text) :
    Secluded first second (storeParameters url) := by
  unfold storeParameters
  refine (Secluded.lift _).andThen fun read => .forM fun parameter _ => ?_
  refine (Secluded.stored? _).andThen fun known => ?_
  exact .ite (Secluded.storeParameter _ _ _) (.of_pure _)

/-! ### Lists of books -/

theorem readBookList_secluded (context : Context) (what : Text) :
    Secluded first second (readBookList site context what) := by
  unfold readBookList
  refine (Secluded.lift _).andThen fun fieldRules => ?_
  refine (Secluded.lift _).andThen fun listRule => ?_
  exact (Secluded.readBooks context _ _ _).andThen fun books => .of_pure _

/-! ### Chapters -/

theorem chapterHeaders_secluded (given : Keyed Text) :
    Secluded first second (chapterHeaders site given) := by
  unfold chapterHeaders
  exact (Secluded.lift _).andThen fun origin => .of_pure _

theorem readChapter_secluded
    (nameRule urlRule pageUrl : Text)
    (context : Context)
    (style : FieldStyle) :
    Secluded first second (readChapter site nameRule urlRule pageUrl context style) := by
  unfold readChapter
  refine (Secluded.readField context _ _ _).andThen fun name => ?_
  refine (Secluded.readField context _ _ _).andThen fun link => ?_
  exact (Secluded.linkAddress _ _).andThen fun url => .of_pure _

/-- List the chapters of a book, once the context in which they stand is there. -/
def listChapters (site : Site) (pageUrl : Text) (context : Context) : Work Payload := do
  let nameRule ← lift (rule site "ruleChapterName")
  let urlRule ← lift (rule site "ruleContentUrl")
  let listRule ← lift (rule site "ruleChapterList")
  let chapters ← readChapters site context (.str listRule)
    (readChapter site nameRule urlRule pageUrl)
  let nextRule ← lift (rule site "ruleChapterUrlNext")
  noteNext site pageUrl (← readField site context "nextTocUrl" (.str nextRule))
  return .records chapters

theorem listChapters_secluded (pageUrl : Text) (context : Context) :
    Secluded first second (listChapters site pageUrl context) := by
  unfold listChapters
  refine (Secluded.lift _).andThen fun nameRule => ?_
  refine (Secluded.lift _).andThen fun urlRule => ?_
  refine (Secluded.lift _).andThen fun listRule => ?_
  refine (Secluded.readChapters context _
    (readChapter_secluded nameRule urlRule _)).andThen fun chapters => ?_
  refine (Secluded.lift _).andThen fun nextRule => ?_
  refine (Secluded.readField context _ _ _).andThen fun next => ?_
  exact (Secluded.noteNext _ next).andThen fun _ => .of_pure _

/-! ### Content -/

theorem contentTexts_secluded (context : Context) (text : Text) :
    Secluded first second (contentTexts site context text) := by
  unfold contentTexts
  refine .ite (Secluded.reportThen _ _ _ _ []) ?_
  refine (Secluded.evaluate context text).andThen fun result => ?_
  refine (Secluded.reportContentFlaw result _).andThen fun _ => ?_
  exact Secluded.reportThen _ _ _ _ _

theorem readImages_secluded (context : Context) (texts : List Text) (pageUrl : Text) :
    Secluded first second (readImages context texts pageUrl) := by
  unfold readImages
  refine (Secluded.lift _).andThen fun collected => ?_
  refine .ite (.of_pure collected) ?_
  refine (Secluded.lift _).andThen fun extracted => ?_
  refine .ite (.of_pure extracted) ?_
  refine (Secluded.lift _).andThen fun raw => ?_
  exact (Secluded.reportRawImages raw).andThen fun _ => .of_pure raw

end Manga

end Stage

end RuleProbe
