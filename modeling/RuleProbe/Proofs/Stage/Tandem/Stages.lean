import RuleProbe.Proofs.Stage.Tandem
import RuleProbe.Stage.Manga

/-!
# Stages in tandem

A stage of a source of books reads of a walk what a tandem relates, and the headers that are
known.  Headers that no script gives are the same whether they are known or read again, so from
related walks every stage ends alike, as long as the walks know the same headers where a script
gives them.

A stage of a source of manga reads of a walk nothing but what a tandem relates, so from related
walks it ends alike.
-/

namespace RuleProbe

namespace Stage

namespace Book

open Extraction (Context Found)

variable {site : Site}

/-! ## Headers -/

/-- The headers that an entry of a definition gives, unless a script gives them. -/
def plainHeaders? (entry : Json) : Option (Except Fault (Keyed Text)) :=
  match entry with
  | .str text => if hasScript text then none else some (Header.ofValue (.str text))
  | value => some (if value.isGiven then .error (.defect .type) else .ok [])

/-- Headers that no script gives are read without effects. -/
theorem readHeaders_of_plain
    {read : Except Fault (Keyed Text)}
    (plain : plainHeaders? (site.entry "header") = some read) :
    readHeaders site = lift read := by
  unfold plainHeaders? at plain
  unfold readHeaders
  generalize site.entry "header" = entry at plain ⊢
  cases entry with
  | str text =>
      simp only at plain ⊢
      split at plain
      · cases plain
      · rename_i unscripted
        cases plain
        rw [if_neg unscripted]
  | null | bool _ | int _ | float _ | arr _ | obj _ =>
      cases plain
      simp only
      split <;> rfl

/-- A walk knows no other headers than these. -/
def Knows (walk : Walk) (given : Keyed Text) : Prop :=
  walk.headers = none ∨ walk.headers = some given

/-- Two walks know the same headers, or no others than those that the definition gives. -/
def SameHeaders (site : Site) (one two : Walk) : Prop :=
  two.headers = one.headers ∨
    ∃ given, plainHeaders? (site.entry "header") = some (.ok given) ∧
      Knows one given ∧ Knows two given

/-- A tandem that keeps account of the headers of a source. -/
structure HeaderTandem (site : Site) extends Tandem where
  /-- The walks know the same headers. -/
  known {one two : Walk} : Related one two → SameHeaders site one two
  /-- Both walks come to know the same headers, which are those that the definition gives if it
  gives any. -/
  learned {one two : Walk} {given : Keyed Text} :
    Related one two →
      (∀ read, plainHeaders? (site.entry "header") = some read → read = .ok given) →
      Related { one with headers := some given } { two with headers := some given }

theorem runFrom_headers_of_plain
    {given : Keyed Text}
    (plain : plainHeaders? (site.entry "header") = some (.ok given))
    {walk : Walk}
    (knows : Knows walk given) :
    runFrom (headers site) walk = (.ok given, { walk with headers := some given }) := by
  unfold headers
  rw [runFrom_bind, runFrom_get]
  rcases knows with unknown | known
  · simp only [unknown]
    rw [readHeaders_of_plain plain]
    rfl
  · simp only [known]
    rw [← known]
    rfl

@[simp] theorem valueOf_renumber (offset : Nat) (found : Found) :
    valueOf (found.renumber offset) = valueOf found := by
  cases found <;> rfl

@[simp] theorem firstValue_renumber (offset : Nat) (result : Extraction.Result) :
    firstValue (result.renumber offset) = firstValue result := by
  simp [firstValue, Function.comp_def]

variable (tandem : HeaderTandem site)

theorem readHeaders_alike : tandem.Alike (readHeaders site) (readHeaders site) := by
  unfold readHeaders
  split
  · refine .ite ?_ (tandem.lift _)
    refine (tandem.lift _).andThen fun origin => ?_
    refine (tandem.contextOf _ _ _ _ _).bind fun context => ?_
    refine (tandem.evaluate context _).bind fun result => ?_
    rw [firstValue_renumber]
    exact tandem.lift _
  · exact .ite (.of_throw _) (.of_pure _)

/-- Both walks come to the same headers: they read them alike, or know already what they would
read. -/
theorem headers_alike : tandem.Alike (headers site) (headers site) := by
  have read :
      tandem.Alike
        (do
          let headers ← readHeaders site
          modify fun walk : Walk => { walk with headers := some headers }
          return headers)
        (do
          let headers ← readHeaders site
          modify fun walk : Walk => { walk with headers := some headers }
          return headers) := by
    refine (readHeaders_alike tandem).bind_of_returned fun given state after returned => ?_
    refine Parallel.andThen (.of_modify fun one two related => ?_) fun _ => .of_pure given
    refine tandem.learned related fun read plain => ?_
    rw [readHeaders_of_plain plain] at returned
    unfold lift at returned
    rw [runFrom_ofExcept] at returned
    exact congrArg Prod.fst returned
  intro one two related
  rcases tandem.known related with same | ⟨given, plain, oneKnows, twoKnows⟩
  · unfold headers
    rw [runFrom_bind, runFrom_bind, runFrom_get, runFrom_get]
    simp only [same]
    cases one.headers with
    | none => exact read one two related
    | some headers => exact ⟨rfl, related⟩
  · rw [runFrom_headers_of_plain plain oneKnows, runFrom_headers_of_plain plain twoKnows]
    refine ⟨rfl, tandem.learned related fun read written => ?_⟩
    rw [plain] at written
    exact (Option.some.inj written).symm

theorem mergedHeaders_alike (others : Keyed Text) :
    tandem.Alike (mergedHeaders site others) (mergedHeaders site others) := by
  unfold mergedHeaders
  exact (headers_alike tandem).andThen fun headers => .of_pure _

/-! ## Requests -/

theorem fill_alike (context : Context) (filling : Filling) (text : Text) :
    tandem.Alike (fill site context filling text)
      (fill site (context.renumber tandem.offset) filling text) := by
  unfold fill
  refine (tandem.lift _).andThen fun key => ?_
  exact .ite (tandem.interpolate context _) (.of_pure _)

theorem scriptedTemplate_alike (context : Context) (template : Text) :
    tandem.Alike (scriptedTemplate site context template)
      (scriptedTemplate site (context.renumber tandem.offset) template) := by
  unfold scriptedTemplate
  refine Parallel.andThen (.foldlM (fun value step _ => ?_) _) fun value => ?_
  · cases step with
    | rule text => exact .of_pure value
    | code code =>
        refine (tandem.runScript context code value true).tryCatch fun fault => ?_
        cases fault <;> exact .of_throw _
  · exact .ite (.of_throw _) (.of_pure _)

theorem bodyOf_alike (context : Context) (filling : Filling) (options : Record) :
    tandem.Alike (bodyOf site context filling options)
      (bodyOf site (context.renumber tandem.offset) filling options) := by
  unfold bodyOf
  split
  · exact .of_pure none
  · exact (fill_alike tandem context filling _).map fun _ => rfl

theorem chooseTemplate_alike (context : Context) (page : Int) (template : Text) :
    tandem.Alike (chooseTemplate site context page template)
      (chooseTemplate site (context.renumber tandem.offset) page template) := by
  unfold chooseTemplate
  simp only
  split
  · exact (scriptedTemplate_alike tandem context template).andThen fun _ => tandem.lift _
  · exact tandem.lift _

theorem buildRequest_alike (template : Json) (filling : Filling) (book : Json) :
    tandem.Alike (buildRequest site template filling book)
      (buildRequest site template filling book) := by
  unfold buildRequest
  refine (tandem.lift _).andThen fun template => ?_
  refine .optionally (.of_throw _) ?_
  refine (tandem.lift _).andThen fun origin => ?_
  refine (tandem.contextOf _ _ _ _ _).bind fun context => ?_
  refine (chooseTemplate_alike tandem context _ _).andThen fun chosen => ?_
  refine (fill_alike tandem context _ _).andThen fun url => ?_
  refine (bodyOf_alike tandem context _ _).andThen fun body => ?_
  refine (tandem.resolve _ _).andThen fun resolved => ?_
  refine .optionally (.of_throw _) ?_
  exact (tandem.lift _).andThen fun headers => .of_pure _

theorem fetchAsked_alike (ask : PageRequest) :
    tandem.Alike (fetchAsked site ask) (fetchAsked site ask) := by
  unfold fetchAsked
  exact (mergedHeaders_alike tandem _).andThen fun headers => tandem.fetchPage headers ask true

theorem storeParameters_alike (url : Text) :
    tandem.Alike (storeParameters url) (storeParameters url) := by
  unfold storeParameters
  refine tandem.liftThen fun read found => ?_
  refine Parallel.andThen (.forM fun parameter given => ?_) fun _ => ?_
  · refine (tandem.stored? _).andThen fun known => ?_
    exact .ite (tandem.storeParameter found given _) (.of_pure _)
  · split
    · rename_i number within
      refine (tandem.stored? _).andThen fun known => ?_
      refine .ite ?_ (.of_pure _)
      unfold storeParameter
      refine (tandem.extract fun session => ?_).andThen fun _ => tandem.report _ _ _ _
      exact (Extraction.Step.pathId session found within).reaches
    · exact .of_pure _

/-! ## Searching and exploring -/

theorem readBookList_alike (context : Context) (rules : Record) (pageUrl what : Text) :
    tandem.Alike (readBookList site context rules pageUrl what)
      (readBookList site (context.renumber tandem.offset) rules pageUrl what) := by
  unfold readBookList
  exact (tandem.readBooks context _ _ _).andThen fun books => .of_pure _

theorem search_alike (keyword : Text) (page : Int) :
    tandem.Alike (search site keyword page) (search site keyword page) := by
  unfold search
  refine (buildRequest_alike tandem _ _ _).andThen fun ask => ?_
  refine (tandem.report _ _ _ _).andThen fun _ => ?_
  refine (fetchAsked_alike tandem ask).andThen fun found => ?_
  refine (tandem.contextOf _ _ _ _ _).bind fun context => ?_
  refine (tandem.lift _).andThen fun rules => ?_
  exact readBookList_alike tandem context _ _ _

theorem entries_alike : tandem.Alike (entries site) (entries site) := by
  unfold entries
  simp only
  split
  · refine .ite ?_ ?_
    · refine (tandem.lift _).andThen fun origin => ?_
      refine (tandem.contextOf _ _ _ _ _).bind fun context => ?_
      refine (tandem.evaluate context _).bind fun result => ?_
      have first := firstValue_renumber tandem.offset result
      have all (values : List Found) :
          (values.map (Found.renumber tandem.offset)).map valueOf = values.map valueOf := by
        simp [Function.comp_def]
      rw [Extraction.Result.renumber_values, first, all]
      cases result.values with
      | nil => exact Parallel.andThen (.of_pure _) fun value => tandem.lift _
      | cons found rest =>
          cases found with
          | handle pointer => exact Parallel.andThen (.of_pure _) fun value => tandem.lift _
          | plain value =>
              cases value with
              | obj members => exact Parallel.andThen (.of_pure _) fun value => tandem.lift _
              | null | bool _ | int _ | float _ | str _ | arr _ =>
                  exact Parallel.andThen (.of_pure _) fun value => tandem.lift _
    · exact tandem.lift _
  · exact tandem.lift _

theorem explore_alike (url : Text) :
    tandem.Alike (explore site url) (explore site url) := by
  unfold explore
  refine (tandem.exploredAddress url (entries_alike tandem)).andThen fun target => ?_
  refine (buildRequest_alike tandem _ _ _).andThen fun ask => ?_
  refine (fetchAsked_alike tandem ask).andThen fun found => ?_
  refine (tandem.contextOf _ _ _ _ _).bind fun context => ?_
  refine (tandem.lift _).andThen fun rules => ?_
  refine .ite (readBookList_alike tandem context _ _ _) ?_
  refine (tandem.report _ _ _ _).andThen fun _ => ?_
  exact (tandem.lift _).andThen fun rules => readBookList_alike tandem context _ _ _

/-! ## Details -/

theorem applyPattern_alike (context : Context) (init : Text) :
    Parallel tandem.Related (Context.renumber tandem.offset) (applyPattern context init)
      (applyPattern (context.renumber tandem.offset) init) := by
  unfold applyPattern
  simp only
  cases compiled : RuleRegex.compile {} (init.drop 1) with
  | error fault => exact tandem.reportThen _ _ _ _ _ context
  | ok pattern =>
      simp only [Context.renumber_body]
      cases matched : Pattern.search pattern (Pattern.subjectOf context.document.body) 0 with
      | none => exact tandem.reportThen _ _ _ _ _ context
      | some found =>
          refine (tandem.extract fun session => ?_).andThen fun _ => ?_
          · exact (Extraction.Step.groups session compiled matched).reaches
          · exact tandem.reportThen _ _ _ _ _ (context.withValue _)

theorem applyScript_alike (context : Context) (init : Text) :
    Parallel tandem.Related (Context.renumber tandem.offset) (applyScript site context init)
      (applyScript site (context.renumber tandem.offset) init) := by
  unfold applyScript
  refine (tandem.evaluate context init).bind fun result => ?_
  rw [Extraction.Result.renumber_values]
  cases result.values with
  | nil => exact tandem.reportThen _ _ _ _ _ context
  | cons found rest =>
      refine (tandem.report _ _ _ _).andThen fun _ => ?_
      cases found with
      | plain value =>
          cases value with
          | str text => exact tandem.contextOf _ _ _ _ _
          | null | bool _ | int _ | float _ | arr _ | obj _ => exact .of_pure _
      | handle pointer => exact .of_pure (context.withElement (.handle pointer))

theorem applyNarrowing_alike (context : Context) (init : Text) :
    Parallel tandem.Related (Context.renumber tandem.offset) (applyNarrowing site context init)
      (applyNarrowing site (context.renumber tandem.offset) init) := by
  unfold applyNarrowing
  refine (tandem.evaluateList context init).bind fun result => ?_
  rw [Extraction.Result.renumber_values, Extraction.Result.renumber_reason?]
  cases result.values with
  | nil => exact tandem.reportThen _ _ _ _ _ context
  | cons found rest =>
      rw [List.map_cons]
      simp only [List.length_map]
      exact tandem.reportThen _ _ _ _ _ (context.withElement found)

theorem applyInit_alike (context : Context) (init : Json) :
    Parallel tandem.Related (Context.renumber tandem.offset) (applyInit site context init)
      (applyInit site (context.renumber tandem.offset) init) := by
  unfold applyInit
  refine .ite (.of_pure context) ?_
  refine (tandem.lift _).andThen fun init => ?_
  refine .ite (applyPattern_alike tandem context init) ?_
  exact .ite (applyScript_alike tandem context init) (applyNarrowing_alike tandem context init)

theorem resolveField_alike (record : Record) (name pageUrl : Text) :
    tandem.Alike (resolveField site record name pageUrl)
      (resolveField site record name pageUrl) := by
  unfold resolveField
  refine .ite (.of_pure record) ?_
  exact (tandem.resolve _ _).andThen fun url => .of_pure _

theorem readDetails_alike (context : Context) (rules : Record) :
    tandem.Alike (readDetails site context rules)
      (readDetails site (context.renumber tandem.offset) rules) := by
  unfold readDetails
  refine .foldlM (fun record name _ => ?_) []
  refine (tandem.readField context _ _ _).andThen fun found => ?_
  cases found with
  | none => exact .of_pure record
  | some value => exact .of_pure _

theorem detail_alike (url : Text) (book : Json) :
    tandem.Alike (detail site url book) (detail site url book) := by
  unfold detail
  refine (buildRequest_alike tandem _ _ _).andThen fun ask => ?_
  refine (fetchAsked_alike tandem ask).andThen fun found => ?_
  refine (storeParameters_alike tandem _).andThen fun _ => ?_
  refine (tandem.contextOf _ _ _ _ _).bind fun context => ?_
  refine (tandem.lift _).andThen fun rules => ?_
  refine .optionally (tandem.report _ _ _ _) ?_
  refine (applyInit_alike tandem context _).bind fun context => ?_
  refine (readDetails_alike tandem context rules).andThen fun record => ?_
  refine (resolveField_alike tandem record _ _).andThen fun record => ?_
  refine .ite ?_ ?_
  · exact tandem.reportThen _ _ _ _ id _
  · exact (resolveField_alike tandem record _ _).andThen fun record => .of_pure _

/-! ## Chapters -/

theorem readChapter_alike
    (rules : Record)
    (pageUrl : Text)
    (context : Context)
    (style : FieldStyle) :
    tandem.Alike (readChapter site rules pageUrl context style)
      (readChapter site rules pageUrl (context.renumber tandem.offset) style) := by
  unfold readChapter
  refine (tandem.readField context _ _ _).andThen fun name => ?_
  refine (tandem.readField context _ _ _).andThen fun link => ?_
  refine (tandem.readField context _ _ _).andThen fun volume => ?_
  refine (tandem.linkAddress _ _).andThen fun url => ?_
  refine (tandem.readField context _ _ _).andThen fun updated => ?_
  cases updated with
  | none => exact .of_pure _
  | some value => exact .of_pure _

theorem chapters_alike (url : Text) (book : Json) :
    tandem.Alike (chapters site url book) (chapters site url book) := by
  unfold chapters
  refine (buildRequest_alike tandem _ _ _).andThen fun ask => ?_
  refine (fetchAsked_alike tandem ask).andThen fun found => ?_
  refine (storeParameters_alike tandem _).andThen fun _ => ?_
  refine (tandem.contextOf _ _ _ _ _).bind fun context => ?_
  refine (tandem.lift _).andThen fun rules => ?_
  refine (tandem.readChapters context _
    (readChapter_alike tandem rules _)).andThen fun chapters => ?_
  refine (tandem.readField context _ _ _).andThen fun next => ?_
  exact (tandem.noteNext _ next).andThen fun _ => .of_pure _

/-! ## Content -/

theorem retryForText_alike (context : Context) (rule : Text) :
    tandem.Alike (retryForText site context rule)
      (retryForText site (context.renumber tandem.offset) rule) := by
  unfold retryForText
  cases SourceRule.forText? rule with
  | none => exact .of_pure []
  | some changed =>
      refine (tandem.report _ _ _ _).andThen fun _ => ?_
      refine (tandem.evaluate context changed).bind fun result => ?_
      simp only [Extraction.Result.renumber_givenTexts]
      exact .optionally (tandem.report _ _ _ _) (.of_pure _)

theorem contentTexts_alike (context : Context) (rule : Json) :
    tandem.Alike (contentTexts site context rule)
      (contentTexts site (context.renumber tandem.offset) rule) := by
  unfold contentTexts
  refine (tandem.lift _).andThen fun text => ?_
  refine (tandem.evaluate context text).bind fun result => ?_
  refine (tandem.reportContentFlaw result rule).andThen fun _ => ?_
  rw [Extraction.Result.renumber_givenTexts]
  cases result.givenTexts with
  | cons first rest => exact tandem.reportThen _ _ _ _ id _
  | nil =>
      refine (retryForText_alike tandem context text).andThen fun texts => ?_
      exact .optionally (tandem.report _ _ _ _) (.of_pure texts)

theorem render_alike (url : Text) (others : Keyed Text) :
    tandem.Alike (render site url others) (render site url others) := by
  unfold render
  refine (mergedHeaders_alike tandem others).andThen fun all => ?_
  refine (tandem.report _ _ _ _).andThen fun _ => ?_
  refine (tandem.lift _).andThen fun timeout => ?_
  refine Parallel.andThen (.of_modify fun one two related => ?_) fun _ => ?_
  · exact tandem.called [.rendering url (Header.filter all) timeout] related
  · split
    · exact tandem.reportThen _ _ _ _ id _
    · exact tandem.reportThen _ _ _ _ id none

theorem readImages_alike (context : Context) (texts : List Text) (pageUrl : Text) :
    tandem.Alike (readImages context texts pageUrl)
      (readImages (context.renumber tandem.offset) texts pageUrl) := by
  unfold readImages
  refine (tandem.lift _).andThen fun images => ?_
  have reported (images : List Text) :
      tandem.Alike (reportImages images >>= fun _ => pure (Payload.images images))
        (reportImages images >>= fun _ => pure (Payload.images images)) :=
    (tandem.reportImages images).andThen fun _ => .of_pure _
  refine .ite ?_ (reported images)
  refine (tandem.lift _).andThen fun images => ?_
  exact (tandem.reportRawImages images).andThen fun _ => reported images

theorem readText_alike (rules : Record) (texts : List Text) :
    tandem.Alike (readText rules texts) (readText rules texts) := by
  unfold readText
  refine (tandem.lift _).andThen fun text => ?_
  simp only
  split
  · refine (tandem.lift _).andThen fun lines => ?_
    refine (tandem.lift _).andThen fun text => ?_
    refine (tandem.report _ _ _ _).andThen fun _ => ?_
    exact tandem.reportThen _ _ _ _ id _
  · exact tandem.reportThen _ _ _ _ id _

theorem contentBody_alike
    (found : Page)
    (pageUrl : Text)
    (headers : Keyed Text)
    (rendered : Bool) :
    tandem.Alike (contentBody site found pageUrl headers rendered)
      (contentBody site found pageUrl headers rendered) := by
  unfold contentBody
  exact .ite ((render_alike tandem pageUrl headers).map fun _ => rfl) (.of_pure _)

theorem findContent_alike
    (context : Context)
    (rule : Json)
    (pageUrl : Text)
    (headers : Keyed Text)
    (mayRender : Bool) :
    Parallel tandem.Related (Prod.map (Context.renumber tandem.offset) id)
      (findContent site context rule pageUrl headers mayRender)
      (findContent site (context.renumber tandem.offset) rule pageUrl headers mayRender) := by
  unfold findContent
  refine (contentTexts_alike tandem context rule).andThen fun texts => ?_
  refine .ite ?_ (.of_pure (context, texts))
  refine (tandem.report _ _ _ _).andThen fun _ => ?_
  refine (render_alike tandem pageUrl headers).andThen fun page? => ?_
  cases page? with
  | none => exact .of_pure (context, texts)
  | some page =>
      refine (tandem.contextOf _ _ _ _ _).bind fun context => ?_
      exact (contentTexts_alike tandem context rule).andThen fun texts => .of_pure (context, texts)

theorem content_alike (url : Text) (chapter book : Json) (rendered : Bool) :
    tandem.Alike (content site url chapter book rendered)
      (content site url chapter book rendered) := by
  unfold content
  refine (buildRequest_alike tandem _ _ _).andThen fun ask => ?_
  refine (fetchAsked_alike tandem ask).andThen fun found => ?_
  refine (tandem.lift _).andThen fun read => ?_
  refine (contentBody_alike tandem _ _ _ _).andThen fun body => ?_
  refine (tandem.lift _).andThen fun rules => ?_
  refine .ite ?_ ?_
  · refine (tandem.report _ _ _ _).andThen fun _ => ?_
    exact (tandem.lift _).andThen fun images => .of_pure _
  · refine (tandem.contextOf _ _ _ _ _).bind fun context => ?_
    refine (findContent_alike tandem context _ _ _ _).bind fun found => ?_
    refine (tandem.readField found.1 _ _ _).andThen fun next => ?_
    refine (tandem.noteNext _ next).andThen fun _ => ?_
    refine (tandem.lift _).andThen fun images => ?_
    exact .ite (readImages_alike tandem found.1 _ _) (readText_alike tandem _ _)

/-- From related walks, every task ends alike. -/
theorem work_alike (task : Task) : tandem.Alike (work site task) (work site task) := by
  cases task with
  | search keyword page => exact search_alike tandem keyword page
  | detail url book => exact detail_alike tandem url book
  | chapters url book => exact chapters_alike tandem url book
  | content url chapter book rendered => exact content_alike tandem url chapter book rendered
  | explore url => exact explore_alike tandem url

end Book

end Stage

namespace Stage

namespace Manga

open Extraction (Context)

variable {site : Site}
variable (tandem : Tandem)

/-! ## Addresses -/

theorem absolute_alike (url : Text) :
    tandem.Alike (absolute site url) (absolute site url) := by
  unfold absolute
  refine .optionally (.of_throw _) ?_
  refine (tandem.resolve _ _).andThen fun resolved => ?_
  exact .ite (.of_pure _) (.of_throw _)

theorem searchAddress_alike (keyword : Text) (page : Int) :
    tandem.Alike (searchAddress site keyword page) (searchAddress site keyword page) := by
  unfold searchAddress
  refine (tandem.lift _).andThen fun template => ?_
  exact .optionally (.of_throw _) (absolute_alike tandem _)

theorem fetch_alike (url : Text) : tandem.Alike (fetch site url) (fetch site url) := by
  unfold fetch
  exact (tandem.lift _).andThen fun headers => tandem.fetchPage headers _ _

theorem storeParameters_alike (url : Text) :
    tandem.Alike (storeParameters url) (storeParameters url) := by
  unfold storeParameters
  refine tandem.liftThen fun read found => .forM fun parameter given => ?_
  refine (tandem.stored? _).andThen fun known => ?_
  exact .ite (tandem.storeParameter found given _) (.of_pure _)

/-! ## Searching and exploring -/

theorem readBookList_alike (context : Context) (what : Text) :
    tandem.Alike (readBookList site context what)
      (readBookList site (context.renumber tandem.offset) what) := by
  unfold readBookList
  refine (tandem.lift _).andThen fun fieldRules => ?_
  refine (tandem.lift _).andThen fun listRule => ?_
  exact (tandem.readBooks context _ _ _).andThen fun books => .of_pure _

theorem search_alike (keyword : Text) (page : Int) :
    tandem.Alike (search site keyword page) (search site keyword page) := by
  unfold search
  refine (searchAddress_alike tandem _ _).andThen fun url => ?_
  refine (tandem.report _ _ _ _).andThen fun _ => ?_
  refine (fetch_alike tandem url).andThen fun found => ?_
  exact (tandem.contextOf _ _ _ _ _).bind fun context => readBookList_alike tandem context _

theorem explore_alike (url : Text) :
    tandem.Alike (explore site url) (explore site url) := by
  unfold explore
  refine (tandem.exploredAddress url (tandem.lift _)).andThen fun target => ?_
  refine (absolute_alike tandem _).andThen fun url => ?_
  refine (fetch_alike tandem url).andThen fun found => ?_
  exact (tandem.contextOf _ _ _ _ _).bind fun context => readBookList_alike tandem context _

/-! ## Details -/

theorem detail_alike (url : Text) (book : Json) :
    tandem.Alike (detail site url book) (detail site url book) := by
  unfold detail
  refine (absolute_alike tandem _).andThen fun url => ?_
  refine (storeParameters_alike tandem url).andThen fun _ => ?_
  refine (fetch_alike tandem url).andThen fun found => ?_
  refine (tandem.contextOf _ _ _ _ _).bind fun context => ?_
  refine Parallel.andThen (.foldlM (fun record field _ => ?_) []) fun record => ?_
  · refine (tandem.lift _).andThen fun text => ?_
    refine (tandem.readField context _ _ _).andThen fun value? => ?_
    cases value? with
    | none => exact .of_pure record
    | some value =>
        refine .ite ?_ ?_
        · exact (tandem.resolve _ _).andThen fun resolved => .of_pure _
        · exact .of_pure _
  · refine (tandem.lift _).andThen fun text => ?_
    refine (tandem.readField context _ _ _).andThen fun value? => ?_
    cases value? with
    | none => exact tandem.reportThen _ _ _ _ id _
    | some chapters => exact (tandem.resolve _ _).andThen fun resolved => .of_pure _

/-! ## Chapters -/

theorem chapterHeaders_alike (given : Keyed Text) :
    tandem.Alike (chapterHeaders site given) (chapterHeaders site given) := by
  unfold chapterHeaders
  exact (tandem.lift _).andThen fun origin => .of_pure _

theorem chapterPage_alike (context : Context) (pageUrl : Text) :
    tandem.Alike (chapterPage site context pageUrl)
      (chapterPage site (context.renumber tandem.offset) pageUrl) := by
  unfold chapterPage
  refine (tandem.lift _).andThen fun given => ?_
  refine (tandem.readField context _ _ _).andThen fun found => ?_
  cases found with
  | none => exact .of_pure none
  | some url =>
      refine (tandem.resolve _ _).andThen fun url => ?_
      refine .ite (.of_pure none) ?_
      refine (chapterHeaders_alike tandem _).andThen fun others => ?_
      refine (tandem.report _ _ _ _).andThen fun _ => ?_
      refine (tandem.lift _).andThen fun headers => ?_
      refine (tandem.fetchPage _ _ _).andThen fun page => ?_
      exact .ite (.of_pure _) (tandem.reportThen _ _ _ _ id none)

theorem chapterContext_alike (context : Context) (pageUrl : Text) (book : Json) :
    Parallel tandem.Related (Context.renumber tandem.offset)
      (chapterContext site context pageUrl book)
      (chapterContext site (context.renumber tandem.offset) pageUrl book) := by
  unfold chapterContext
  refine (chapterPage_alike tandem context pageUrl).andThen fun found => ?_
  cases found with
  | none => exact .of_pure context
  | some body => exact tandem.contextOf _ _ _ _ _

theorem readChapter_alike
    (nameRule urlRule pageUrl : Text)
    (context : Context)
    (style : FieldStyle) :
    tandem.Alike (readChapter site nameRule urlRule pageUrl context style)
      (readChapter site nameRule urlRule pageUrl (context.renumber tandem.offset) style) := by
  unfold readChapter
  refine (tandem.readField context _ _ _).andThen fun name => ?_
  refine (tandem.readField context _ _ _).andThen fun link => ?_
  exact (tandem.linkAddress _ _).andThen fun url => .of_pure _

theorem chapters_alike (url : Text) (book : Json) :
    tandem.Alike (chapters site url book) (chapters site url book) := by
  unfold chapters
  refine (absolute_alike tandem _).andThen fun url => ?_
  refine (storeParameters_alike tandem url).andThen fun _ => ?_
  refine (fetch_alike tandem url).andThen fun found => ?_
  refine (tandem.contextOf _ _ _ _ _).bind fun context => ?_
  refine (chapterContext_alike tandem context _ _).bind fun context => ?_
  refine (tandem.lift _).andThen fun nameRule => ?_
  refine (tandem.lift _).andThen fun urlRule => ?_
  refine (tandem.lift _).andThen fun listRule => ?_
  refine (tandem.readChapters context _
    (readChapter_alike tandem nameRule urlRule _)).andThen fun chapters => ?_
  refine (tandem.lift _).andThen fun nextRule => ?_
  refine (tandem.readField context _ _ _).andThen fun next => ?_
  exact (tandem.noteNext _ next).andThen fun _ => .of_pure _

/-! ## Content -/

theorem contentTexts_alike (context : Context) (text : Text) :
    tandem.Alike (contentTexts site context text)
      (contentTexts site (context.renumber tandem.offset) text) := by
  unfold contentTexts
  refine .ite (tandem.reportThen _ _ _ _ id []) ?_
  refine (tandem.evaluate context text).bind fun result => ?_
  refine (tandem.reportContentFlaw result _).andThen fun _ => ?_
  rw [Extraction.Result.renumber_givenTexts]
  exact tandem.reportThen _ _ _ _ id _

theorem readImages_alike (context : Context) (texts : List Text) (pageUrl : Text) :
    tandem.Alike (readImages context texts pageUrl)
      (readImages (context.renumber tandem.offset) texts pageUrl) := by
  unfold readImages
  refine (tandem.lift _).andThen fun collected => ?_
  refine .ite (.of_pure collected) ?_
  refine (tandem.lift _).andThen fun extracted => ?_
  refine .ite (.of_pure extracted) ?_
  refine (tandem.lift _).andThen fun raw => ?_
  exact (tandem.reportRawImages raw).andThen fun _ => .of_pure raw

theorem content_alike (url : Text) (chapter book : Json) :
    tandem.Alike (content site url chapter book) (content site url chapter book) := by
  unfold content
  refine (absolute_alike tandem _).andThen fun url => ?_
  refine (fetch_alike tandem url).andThen fun found => ?_
  refine (tandem.contextOf _ _ _ _ _).bind fun context => ?_
  refine (tandem.lift _).andThen fun text => ?_
  refine (contentTexts_alike tandem context text).andThen fun texts => ?_
  refine (readImages_alike tandem context texts _).andThen fun images => ?_
  refine (tandem.reportImages images).andThen fun _ => ?_
  refine (tandem.lift _).andThen fun nextRule => ?_
  refine (tandem.readField context _ _ _).andThen fun next => ?_
  exact (tandem.noteNext _ next).andThen fun _ => .of_pure _

/-- From related walks, every task ends alike. -/
theorem work_alike (task : Task) : tandem.Alike (work site task) (work site task) := by
  cases task with
  | search keyword page => exact search_alike tandem keyword page
  | detail url book => exact detail_alike tandem url book
  | chapters url book => exact chapters_alike tandem url book
  | content url chapter book rendered => exact content_alike tandem url chapter book
  | explore url => exact explore_alike tandem url

end Manga

end Stage

end RuleProbe
