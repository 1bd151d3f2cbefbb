import RuleProbe.Proofs.Stage.Late

/-!
# Stages of book sources wait for their pages

Every stage of a source of books builds its request and fetches its page before it evaluates
a rule on it.  What it does afterwards ends in late faults only.
-/

namespace RuleProbe

namespace Stage

namespace Book

open Extraction (Context)

variable {site : Site}

/-! ## Definitions of texts -/

/-- The entries of the definition that group rules. -/
def groupNames : List Text :=
  ["ruleSearch".toList, "ruleExplore".toList, "ruleBookInfo".toList, "ruleToc".toList,
    "ruleContent".toList]

/-- A value of a definition is a group of texts. -/
def IsGroup (value : Json) : Prop :=
  ∃ members, value = .obj members ∧ ∀ member ∈ members, ∃ text, member.2 = .str text

/-- A source of books whose entries are texts, or groups of texts where rules are grouped. -/
structure Textual (site : Site) : Prop where
  /-- The address of the source is a text. -/
  url : IsField site.url
  /-- The type of the source is a text. -/
  kind : IsField (site.entry "bookSourceType")
  /-- The headers of the source are a text. -/
  header : IsField (site.entry "header")
  /-- A group is a text or a group of texts. -/
  groups : ∀ name ∈ groupNames, IsField (site.entry name) ∨ IsGroup (site.entry name)

/-! ## Groups of rules -/

/-- Every rule of a group can be read. -/
def AreRules (site : Site) (rules : Record) : Prop :=
  ∀ name, IsRule site (ruleIn rules name)

theorem exists_key_of_get?
    {α : Type}
    {entries : Keyed α}
    {name : Text}
    {value : α}
    (here : Keyed.get? entries name = some value) :
    ∃ key, (key, value) ∈ entries := by
  induction entries with
  | nil => cases here
  | cons entry rest hypothesis =>
      rw [Keyed.get?] at here
      split at here
      · cases here
        exact ⟨entry.1, List.mem_cons_self⟩
      · obtain ⟨key, member⟩ := hypothesis here
        exact ⟨key, List.mem_cons_of_mem _ member⟩

theorem areRules_of_members
    {members : Json.Members}
    (each : ∀ key value, (key, value) ∈ members → IsRule site value) :
    AreRules site members := by
  intro name
  unfold ruleIn
  cases here : Keyed.get? members name with
  | none => exact isRule_of_field (.inl rfl)
  | some value =>
      obtain ⟨key, member⟩ := exists_key_of_get? here
      exact each key value member

/-- A member of a group that is written as a JSON text is a rule, or the group holds what is
no text. -/
theorem isRule_of_written
    {name text key : Text}
    {members : Json.Members}
    {value : Json}
    (written : site.entry name = .str text)
    (read : Extraction.readJson text = .ok (some (.obj members)))
    (member : (key, value) ∈ members) :
    IsRule site value := by
  intro fault failed
  unfold Extraction.ruleOf at failed
  split at failed
  · cases failed
  · rename_i foreign
    split at failed
    · rename_i given
      cases failed
      exact .foreignRule written read member given foreign
    · cases failed

theorem group_ends
    (textual : Textual site)
    {name : Text}
    (isGroup : name ∈ groupNames) :
    Ends (AreRules site) (Late site) (lift (group site name)) := by
  have noRules : AreRules site [] := areRules_of_members fun key value member => by cases member
  unfold group
  cases written : site.entry name with
  | str text =>
      simp only
      cases read : Extraction.readJson text with
      | error defect =>
          exact .of_except (Yields.of_error _)
            (FailsBy.of_error (readJson_refused read))
      | ok found =>
          refine .of_except (Yields.of_ok ?_) (FailsBy.of_ok _)
          cases found with
          | none => exact noRules
          | some value =>
              cases value with
              | obj members =>
                  exact areRules_of_members fun key value member =>
                    isRule_of_written written read member
              | _ => exact noRules
  | obj members =>
      refine .of_except (.of_ok ?_) (.of_ok _)
      rcases textual.groups name isGroup with field | ⟨others, same, texts⟩
      · rw [written] at field
        rcases field with same | ⟨text, same⟩
        · cases same
        · cases same
      · rw [written] at same
        cases same
        refine areRules_of_members fun key value member => ?_
        obtain ⟨text, isText⟩ := texts (key, value) member
        exact isRule_of_field (.inr ⟨text, isText⟩)
  | _ => exact .of_except (.of_ok noRules) (.of_ok _)

theorem hasImages_late (textual : Textual site) : FailsBy (Late site) (hasImages site) := by
  unfold hasImages
  refine FailsBy.map ?_ _
  rcases textual.kind with missing | ⟨text, same⟩
  · rw [missing]
    exact .of_ok _
  · rw [same]
    exact .of_ok _

/-! ## Headers -/

theorem headersOf_failsBy
    {bad : Fault → Prop}
    [Fault.Covers bad]
    (value : Json) :
    FailsBy bad (headersOf value) := by
  unfold headersOf
  split
  · exact Header.ofValue_failsBy _
  · exact Header.ofValue_failsBy _

theorem readHeaders_late (textual : Textual site) : EndsLate site (readHeaders site) := by
  unfold readHeaders
  rcases textual.header with missing | ⟨text, same⟩
  · rw [missing]
    exact .of_pure trivial
  · rw [same]
    simp only
    split
    · refine (lift_ends (origin_late textual.url)).bind fun origin _ => ?_
      refine (contextOf_late textual.url _ _ _ _ _).bind fun context valid => ?_
      refine (extract_ends (evaluateAt_late valid.staged _ _ _ _)).bind fun result _ => ?_
      exact lift_ends (headersOf_failsBy _)
    · exact lift_ends (Header.ofValue_failsBy _)

theorem mergedHeaders_late (textual : Textual site) (others : Keyed Text) :
    EndsLate site (mergedHeaders site others) := by
  unfold mergedHeaders
  refine Ends.bind (?_ : EndsLate site _) fun _ _ => .of_pure trivial
  unfold headers
  refine .of_get fun walk => ?_
  split
  · exact .of_pure trivial
  · refine (readHeaders_late textual).bind fun headers _ => ?_
    exact (Ends.of_modify _).bind fun _ _ => .of_pure trivial

theorem mergedHeaders_keeps (others : Keyed Text) : KeepsPage (mergedHeaders site others) := by
  have read : KeepsPage (readHeaders site) := by
    unfold readHeaders
    split
    · split
      · refine .bind (.of_lift _) fun _ => ?_
        refine .bind (contextOf_keeps _ _ _ _ _) fun _ => ?_
        exact .bind (.of_extract _) fun _ => .of_lift _
      · exact .of_lift _
    · split
      · exact .of_throw _
      · exact .of_pure _
  unfold mergedHeaders headers
  refine .bind ?_ fun _ => .of_pure _
  refine .bind .of_get fun walk => ?_
  split
  · exact .of_pure _
  · exact .bind read fun _ => .bind (.of_modify fun _ => rfl) fun _ => .of_pure _

/-! ## Requests -/

theorem fill_keeps (context : Context) (filling : Filling) (text : Text) :
    KeepsPage (fill site context filling text) := by
  unfold fill
  refine .bind (.of_lift _) fun key => ?_
  simp only
  split
  · exact .of_extract _
  · exact .of_pure _

theorem scriptedTemplate_keeps (context : Context) (template : Text) :
    KeepsPage (scriptedTemplate site context template) := by
  unfold scriptedTemplate
  refine .bind (.foldlM (fun value step => ?_) _) fun value => ?_
  · cases step with
    | rule text => exact .of_pure _
    | code code =>
        refine .tryCatch (.of_extract _) fun fault => ?_
        split
        · exact .of_throw _
        · exact .of_throw _
  · simp only
    split
    · exact .of_throw _
    · exact .of_pure _

theorem bodyOf_keeps (context : Context) (filling : Filling) (options : Record) :
    KeepsPage (bodyOf site context filling options) := by
  unfold bodyOf
  split
  · exact .of_pure _
  · exact (fill_keeps _ _ _).map _

theorem chooseTemplate_keeps (context : Context) (page : Int) (template : Text) :
    KeepsPage (chooseTemplate site context page template) := by
  unfold chooseTemplate
  simp only
  split
  · exact .bind (scriptedTemplate_keeps _ _) fun _ => .of_lift _
  · exact .of_lift _

/-- Building a request leaves the page alone, with whatever fault it may end. -/
theorem buildRequest_keeps (template : Json) (filling : Filling) (book : Json) :
    KeepsPage (buildRequest site template filling book) := by
  unfold buildRequest
  refine .bind (.of_lift _) fun template => ?_
  refine .guarded _ ?_
  refine .bind (.of_lift _) fun origin => ?_
  refine .bind (contextOf_keeps _ _ _ _ _) fun context => ?_
  refine .bind (chooseTemplate_keeps _ _ _) fun chosen => ?_
  refine .bind (fill_keeps _ _ _) fun url => ?_
  refine .bind (bodyOf_keeps _ _ _) fun body => ?_
  refine .bind (resolve_keeps _ _) fun resolved => ?_
  refine .guarded _ ?_
  exact .bind (.of_lift _) fun headers => .of_pure _

theorem entries_keeps : KeepsPage (entries site) := by
  unfold entries
  simp only
  split
  · split
    · refine .bind (.of_lift _) fun origin => ?_
      refine .bind (contextOf_keeps _ _ _ _ _) fun context => ?_
      refine .bind (.of_extract _) fun result => ?_
      split
      · exact .bind (.of_pure _) fun _ => .of_lift _
      · exact .bind (.of_pure _) fun _ => .of_lift _
    · exact .of_lift _
  · exact .of_lift _

/-- Work that goes on with the page of a request waits for it. -/
theorem fetchAsked_awaits
    {α : Type}
    {next : Page → Work α}
    (ask : PageRequest)
    (rest : ∀ page, EndsLate site (next page)) :
    AwaitsPage site (fetchAsked site ask >>= next) := by
  unfold fetchAsked
  rw [bind_assoc]
  exact .bind (mergedHeaders_keeps _) fun headers => .fetchPage headers ask rest

theorem storeParameters_late (url : Text) : EndsLate site (storeParameters url) := by
  unfold storeParameters
  refine (lift_ends (Url.read_failsBy [] url)).bind fun url _ => ?_
  have stored (key : Text) : EndsLate site (extract (Extraction.stored? key)) :=
    extract_ends (.of_get fun _ => .of_pure trivial)
  have storing (key value label : Text) : EndsLate site (storeParameter key value label) := by
    refine (extract_ends (.of_modify _)).bind fun _ _ => ?_
    exact report_ends _ _ _ _
  refine (Ends.forM fun parameter _ => ?_).bind fun _ _ => ?_
  · refine (stored _).bind fun known _ => ?_
    split
    · exact storing _ _ _
    · exact .of_pure trivial
  · split
    · refine (stored _).bind fun known _ => ?_
      split
      · exact storing _ _ _
      · exact .of_pure trivial
    · exact .of_pure trivial

/-! ## Searching and exploring -/

theorem readBookList_late
    (textual : Textual site)
    {context : Context}
    (staged : context.Staged)
    {rules : Record}
    (areRules : AreRules site rules)
    (pageUrl what : Text) :
    EndsLate site (readBookList site context rules pageUrl what) := by
  unfold readBookList
  refine (readBooks_late textual.url staged (areRules _) (fun rule member => ?_) what).bind
    fun books _ => .of_pure trivial
  obtain ⟨name, -, here⟩ := List.mem_filterMap.mp member
  simp only at here
  split at here
  · cases here
    exact areRules name
  · cases here

theorem search_awaits
    (textual : Textual site)
    (keyword : Text)
    (page : Int) :
    AwaitsPage site (search site keyword page) := by
  unfold search
  refine .bind (buildRequest_keeps _ _ _) fun ask => ?_
  refine .bind (.of_report _ _ _ _) fun _ => ?_
  refine fetchAsked_awaits ask fun found => ?_
  refine (contextOf_late textual.url _ _ _ _ _).bind fun context valid => ?_
  refine (group_ends textual (by decide)).bind fun rules areRules => ?_
  exact readBookList_late textual valid.staged areRules _ _

theorem explore_awaits (textual : Textual site) (url : Text) :
    AwaitsPage site (explore site url) := by
  unfold explore
  refine .bind (exploredAddress_keeps url entries_keeps) fun target => ?_
  refine .bind (buildRequest_keeps _ _ _) fun ask => ?_
  refine fetchAsked_awaits ask fun found => ?_
  refine (contextOf_late textual.url _ _ _ _ _).bind fun context valid => ?_
  refine (group_ends textual (by decide)).bind fun rules areRules => ?_
  simp only
  split
  · exact readBookList_late textual valid.staged areRules _ _
  · refine (report_ends _ _ _ _).bind fun _ _ => ?_
    refine (group_ends textual (by decide)).bind fun others areOthers => ?_
    exact readBookList_late textual valid.staged areOthers _ _

/-! ## Details -/

theorem applyPattern_late
    {context : Context}
    (staged : context.Staged)
    (init : Text) :
    Ends Context.Staged (Late site) (applyPattern context init) := by
  unfold applyPattern
  simp only
  split
  · exact reportThen_ends staged
  · split
    · exact reportThen_ends staged
    · refine (extract_ends (.of_modify _)).bind fun _ _ => ?_
      exact reportThen_ends (staged.withValue _)

theorem applyScript_late
    (textual : Textual site)
    {context : Context}
    (staged : context.Staged)
    (init : Text) :
    Ends Context.Staged (Late site) (applyScript site context init) := by
  unfold applyScript
  refine (extract_ends (evaluateAt_late staged _ _ _ _)).bind fun result _ => ?_
  split
  · exact reportThen_ends staged
  · refine (report_ends _ _ _ _).bind fun _ _ => ?_
    split
    · exact (contextOf_late textual.url _ _ _ _ _).mono (fun _ valid => valid.staged)
        fun _ holds => holds
    · exact .of_pure (staged.withValue _)
    · exact .of_pure (staged.withElement (.inr ⟨_, rfl⟩))

theorem applyNarrowing_late
    {context : Context}
    (staged : context.Staged)
    (init : Text) :
    Ends Context.Staged (Late site) (applyNarrowing site context init) := by
  unfold applyNarrowing
  refine (extract_ends (evaluateList_late staged _ init)).bind fun result elements => ?_
  split
  · exact reportThen_ends staged
  · rename_i found rest here
    refine reportThen_ends (staged.withElement ?_)
    exact elements found (by rw [here]; exact List.mem_cons_self)

theorem applyInit_late
    (textual : Textual site)
    {context : Context}
    (staged : context.Staged)
    {init : Json}
    (isRule : IsRule site init) :
    Ends Context.Staged (Late site) (applyInit site context init) := by
  unfold applyInit
  split
  · exact .of_pure staged
  · refine (lift_ends isRule).bind fun text _ => ?_
    split
    · exact applyPattern_late staged text
    · split
      · exact applyScript_late textual staged text
      · exact applyNarrowing_late staged text

theorem resolveField_late
    (textual : Textual site)
    (record : Record)
    (name pageUrl : Text) :
    EndsLate site (resolveField site record name pageUrl) := by
  unfold resolveField
  simp only
  split
  · exact .of_pure trivial
  · exact (resolve_late textual.url _ _).bind fun _ _ => .of_pure trivial

theorem readDetails_late
    {context : Context}
    (staged : context.Staged)
    {rules : Record}
    (areRules : AreRules site rules) :
    EndsLate site (readDetails site context rules) := by
  unfold readDetails
  refine Ends.foldlM (fun _ _ => True) (fun _ name record _ _ => ?_) trivial
  refine (readField_late staged name (areRules name) _).bind fun found _ => ?_
  cases found with
  | none => exact .of_pure trivial
  | some value => exact .of_pure trivial

theorem detail_awaits
    (textual : Textual site)
    (url : Text)
    (book : Json) :
    AwaitsPage site (detail site url book) := by
  unfold detail
  refine .bind (buildRequest_keeps _ _ _) fun ask => ?_
  refine fetchAsked_awaits ask fun found => ?_
  refine (storeParameters_late _).bind fun _ _ => ?_
  refine (contextOf_late textual.url _ _ _ _ _).bind fun context valid => ?_
  refine (group_ends textual (by decide)).bind fun rules areRules => ?_
  refine .optionally (report_ends _ _ _ _) ?_
  refine (applyInit_late textual valid.staged (areRules _)).bind fun context staged => ?_
  refine (readDetails_late staged areRules).bind fun record _ => ?_
  refine (resolveField_late textual _ _ _).bind fun record _ => ?_
  split
  · exact reportThen_ends trivial
  · exact (resolveField_late textual _ _ _).bind fun _ _ => .of_pure trivial

/-! ## Chapters -/

theorem readChapter_late
    (textual : Textual site)
    {rules : Record}
    (areRules : AreRules site rules)
    (pageUrl : Text)
    {context : Context}
    (staged : context.Staged)
    (style : FieldStyle) :
    EndsLate site (readChapter site rules pageUrl context style) := by
  have field (name : Text) :
      EndsLate site (readField site context name (ruleIn rules name) style) :=
    readField_late staged name (areRules name) style
  unfold readChapter
  refine (field _).bind fun name _ => ?_
  refine (field _).bind fun link _ => ?_
  refine (field _).bind fun volume _ => ?_
  refine (linkAddress_late textual.url _ _).bind fun url _ => ?_
  refine (field _).bind fun updated _ => ?_
  cases updated with
  | none => exact .of_pure trivial
  | some updated => exact .of_pure trivial

theorem chapters_awaits
    (textual : Textual site)
    (url : Text)
    (book : Json) :
    AwaitsPage site (chapters site url book) := by
  unfold chapters
  refine .bind (buildRequest_keeps _ _ _) fun ask => ?_
  refine fetchAsked_awaits ask fun found => ?_
  refine (storeParameters_late _).bind fun _ _ => ?_
  refine (contextOf_late textual.url _ _ _ _ _).bind fun context valid => ?_
  refine (group_ends textual (by decide)).bind fun rules areRules => ?_
  refine (readChapters_late valid.staged (areRules _) fun inner style staged =>
    readChapter_late textual areRules _ staged style).bind fun found _ => ?_
  refine (readField_late valid.staged _ (areRules _) _).bind fun next _ => ?_
  exact (noteNext_late textual.url _ _).bind fun _ _ => .of_pure trivial

/-! ## Content -/

theorem retryForText_late
    {context : Context}
    (staged : context.Staged)
    (rule : Text) :
    EndsLate site (retryForText site context rule) := by
  unfold retryForText
  split
  · exact .of_pure trivial
  · refine (report_ends _ _ _ _).bind fun _ _ => ?_
    refine (extract_ends (evaluateAt_late staged _ _ _ _)).bind fun result _ => ?_
    exact .optionally (report_ends _ _ _ _) (.of_pure trivial)

theorem contentTexts_late
    {context : Context}
    (staged : context.Staged)
    {rule : Json}
    (isRule : IsRule site rule) :
    EndsLate site (contentTexts site context rule) := by
  unfold contentTexts
  refine (lift_ends isRule).bind fun text _ => ?_
  refine (extract_ends (evaluateAt_late staged _ _ _ _)).bind fun result _ => ?_
  refine (reportContentFlaw_late _ _).bind fun _ _ => ?_
  split
  · exact reportThen_ends trivial
  · refine (retryForText_late staged text).bind fun texts _ => ?_
    exact .optionally (report_ends _ _ _ _) (.of_pure trivial)

theorem render_late
    (textual : Textual site)
    (url : Text)
    (others : Keyed Text) :
    EndsLate site (render site url others) := by
  unfold render
  refine (mergedHeaders_late textual others).bind fun all _ => ?_
  refine (report_ends _ _ _ _).bind fun _ _ => ?_
  refine (lift_ends fun fault refused => Late.untimed refused).bind fun timeout _ => ?_
  refine (Ends.of_modify _).bind fun _ _ => ?_
  split
  · exact reportThen_ends trivial
  · exact reportThen_ends trivial

theorem readImages_late
    (context : Context)
    (texts : List Text)
    (pageUrl : Text) :
    EndsLate site (readImages context texts pageUrl) := by
  unfold readImages
  have extracted : FailsBy (Late site) _ :=
    Image.extract_failsBy context.document.body pageUrl
  generalize Image.extract context.document.body pageUrl = raw at extracted ⊢
  refine (lift_ends (Image.collectAll_failsBy pageUrl texts)).bind
    fun images _ => ?_
  simp only
  split
  · refine (lift_ends extracted).bind fun images _ => ?_
    refine (reportRawImages_late images).bind fun _ _ => ?_
    exact (reportImages_late images).bind fun _ _ => .of_pure trivial
  · exact (reportImages_late images).bind fun _ _ => .of_pure trivial

theorem readText_late
    {rules : Record}
    (areRules : AreRules site rules)
    (texts : List Text) :
    EndsLate site (readText rules texts) := by
  unfold readText
  have formatted : FailsBy (Late site) _ :=
    Paragraph.readContent_failsBy (Text.join ['\n'] texts)
  generalize Paragraph.readContent (Text.join ['\n'] texts) = formatted? at formatted ⊢
  refine (lift_ends formatted).bind fun text _ => ?_
  simp only
  split
  · refine (lift_ends (areRules _)).bind fun lines _ => ?_
    have applied : FailsBy (Late site) _ := Replacement.applyLines_failsBy text lines
    generalize Replacement.applyLines text lines = changed at applied ⊢
    refine (lift_ends applied).bind fun text _ => ?_
    refine (report_ends _ _ _ _).bind fun _ _ => ?_
    exact reportThen_ends trivial
  · exact reportThen_ends trivial

theorem contentBody_late
    (textual : Textual site)
    (found : Page)
    (pageUrl : Text)
    (headers : Keyed Text)
    (rendered : Bool) :
    EndsLate site (contentBody site found pageUrl headers rendered) := by
  unfold contentBody
  split
  · exact (render_late textual _ _).map fun _ _ => trivial
  · exact .of_pure trivial

theorem findContent_late
    (textual : Textual site)
    {context : Context}
    (staged : context.Staged)
    {rule : Json}
    (isRule : IsRule site rule)
    (pageUrl : Text)
    (headers : Keyed Text)
    (mayRender : Bool) :
    Ends (fun found => found.1.Staged) (Late site)
      (findContent site context rule pageUrl headers mayRender) := by
  unfold findContent
  refine (contentTexts_late staged isRule).bind fun texts _ => ?_
  split
  · refine (report_ends _ _ _ _).bind fun _ _ => ?_
    refine (render_late textual _ _).bind fun page? _ => ?_
    cases page? with
    | none => exact .of_pure staged
    | some page =>
        refine (contextOf_late textual.url _ _ _ _ _).bind fun inner valid => ?_
        exact (contentTexts_late valid.staged isRule).bind fun _ _ => .of_pure valid.staged
  · exact .of_pure staged

theorem content_awaits
    (textual : Textual site)
    (url : Text)
    (chapter book : Json)
    (rendered : Bool) :
    AwaitsPage site (content site url chapter book rendered) := by
  unfold content
  refine .bind (buildRequest_keeps _ _ _) fun ask => ?_
  refine fetchAsked_awaits ask fun found => ?_
  refine (lift_ends (readJson_failsBy _)).bind fun json _ => ?_
  refine (contentBody_late textual _ _ _ _).bind fun body _ => ?_
  refine (group_ends textual (by decide)).bind fun rules areRules => ?_
  have images : EndsLate site (lift (hasImages site)) := lift_ends (hasImages_late textual)
  simp only
  split
  · refine (report_ends _ _ _ _).bind fun _ _ => ?_
    exact images.bind fun _ _ => .of_pure trivial
  · refine (contextOf_late textual.url _ _ _ _ _).bind fun context valid => ?_
    refine (findContent_late textual valid.staged (areRules _) _ _ _).bind
      fun texts staged => ?_
    refine (readField_late staged _ (areRules _) _).bind fun next _ => ?_
    refine (noteNext_late textual.url _ _).bind fun _ _ => ?_
    refine images.bind fun asked _ => ?_
    split
    · exact readImages_late _ _ _
    · exact readText_late areRules _

/-- Every stage of a source of books waits for its page. -/
theorem work_awaits (textual : Textual site) (task : Task) :
    AwaitsPage site (work site task) := by
  cases task with
  | search keyword page => exact search_awaits textual keyword page
  | detail url book => exact detail_awaits textual url book
  | chapters url book => exact chapters_awaits textual url book
  | content url chapter book rendered => exact content_awaits textual url chapter book rendered
  | explore url => exact explore_awaits textual url

end Book

end Stage

end RuleProbe
