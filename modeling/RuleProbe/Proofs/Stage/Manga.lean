import RuleProbe.Proofs.Stage.Late

/-!
# Stages of manga sources wait for their pages

A stage of a source of manga makes its address absolute and stores the parameters of the
address before it fetches its page.  The rules are flat, so what it does afterwards cannot
fail for what a group holds.
-/

namespace RuleProbe

namespace Stage

namespace Manga

open Extraction (Context)

variable {site : Site}

/-! ## Definitions of texts -/

/-- The entries of the definition that the stages read as rules. -/
def ruleNames : List Text :=
  listFields.map Prod.snd ++ detailFields.map Prod.snd ++
    ["ruleSearchList".toList, "ruleChapterUrl".toList, "ruleChapterName".toList,
      "ruleContentUrl".toList, "ruleChapterList".toList, "ruleChapterUrlNext".toList,
      "ruleBookContent".toList, "ruleContentUrlNext".toList]

/-- A source of manga whose rules are texts. -/
structure Textual (site : Site) : Prop where
  /-- The address of the source is a text. -/
  url : IsField site.url
  /-- A rule is a text. -/
  rules : ∀ name ∈ ruleNames, IsField (site.entry name)

/-- A rule that is a text can be told from the headers that it ends in. -/
theorem exists_ruleOf_eq_ok {value : Json} (field : IsField value) :
    ∃ given, ruleOf value = .ok given := by
  rcases field with rfl | ⟨text, rfl⟩
  · exact ⟨_, rfl⟩
  · exact ⟨_, rfl⟩

theorem exists_rule_eq_ok
    (textual : Textual site)
    {name : Text}
    (isRule : name ∈ ruleNames) :
    ∃ text, rule site name = .ok text := by
  obtain ⟨given, read⟩ := exists_ruleOf_eq_ok (textual.rules name isRule)
  exact ⟨given.1, by rw [rule, read]; rfl⟩

theorem rule_late
    (textual : Textual site)
    {name : Text}
    (isRule : name ∈ ruleNames) :
    EndsLate site (lift (rule site name)) := by
  obtain ⟨text, read⟩ := exists_rule_eq_ok textual isRule
  rw [read]
  exact lift_ends (.of_ok text)

/-! ## Addresses -/

theorem absolute_keeps (url : Text) : KeepsPage (absolute site url) := by
  unfold absolute
  refine .guarded _ ?_
  refine .bind (resolve_keeps _ _) fun resolved => ?_
  split
  · exact .of_pure _
  · exact .of_throw _

theorem searchAddress_keeps (keyword : Text) (page : Int) :
    KeepsPage (searchAddress site keyword page) := by
  unfold searchAddress
  refine .bind (.of_lift _) fun template => ?_
  exact .guarded _ (absolute_keeps _)

theorem storeParameters_keeps (url : Text) : KeepsPage (storeParameters url) := by
  unfold storeParameters
  refine .bind (.of_lift _) fun url => .forM fun parameter => ?_
  refine .bind (.of_extract _) fun known => ?_
  simp only
  split
  · exact .bind (.of_extract _) fun _ => .of_report _ _ _ _
  · exact .of_pure _

/-- Work that goes on with the page of an address waits for it. -/
theorem fetch_awaits
    {α : Type}
    {next : Page → Work α}
    (url : Text)
    (rest : ∀ page, EndsLate site (next page)) :
    AwaitsPage site (fetch site url >>= next) := by
  unfold fetch
  rw [bind_assoc]
  exact .bind (.of_lift _) fun headers => .fetchPage headers _ rest

theorem headers_failsBy {bad : Fault → Prop} [Fault.Covers bad] : FailsBy bad (headers site) :=
  (Header.ofValue_failsBy _).map _

/-! ## Searching and exploring -/

theorem readBookList_late
    (textual : Textual site)
    {context : Context}
    (staged : context.Staged)
    (what : Text) :
    EndsLate site (readBookList site context what) := by
  have fieldRule : ∀ field ∈ listFields, ∃ fieldRule,
      (rule site field.2).map (fun text => (field.1, Json.str text)) = .ok fieldRule ∧
        IsRule site fieldRule.2 := by
    intro field member
    have isRule : field.2 ∈ ruleNames :=
      List.mem_append_left _ (List.mem_append_left _ (List.mem_map_of_mem member))
    obtain ⟨text, read⟩ := exists_rule_eq_ok textual isRule
    exact ⟨(field.1, .str text), by rw [read]; rfl, isRule_str text⟩
  obtain ⟨fieldRules, read, areRules⟩ := exists_mapM_eq_ok fieldRule
  unfold readBookList
  rw [read]
  have given : Ends (fun rules => ∀ rule ∈ rules, IsRule site rule.2) (Late site)
      (lift (.ok fieldRules)) :=
    .of_except (.of_ok areRules) (.of_ok _)
  refine given.bind fun fieldRules areRules => ?_
  refine (rule_late textual (by simp [ruleNames])).bind fun listRule _ => ?_
  refine (readBooks_late textual.url staged (isRule_str listRule)
    (fun rule member => ?_) what).bind fun books _ => .of_pure trivial
  exact areRules rule (List.mem_of_mem_filter member)

theorem search_awaits
    (textual : Textual site)
    (keyword : Text)
    (page : Int) :
    AwaitsPage site (search site keyword page) := by
  unfold search
  refine .bind (searchAddress_keeps _ _) fun url => ?_
  refine .bind (.of_report _ _ _ _) fun _ => ?_
  refine fetch_awaits url fun found => ?_
  refine (contextOf_late textual.url _ _ _ _ _).bind fun context valid => ?_
  exact readBookList_late textual valid.staged _

theorem explore_awaits (textual : Textual site) (url : Text) :
    AwaitsPage site (explore site url) := by
  unfold explore
  refine .bind (exploredAddress_keeps url (.of_lift _)) fun target => ?_
  refine .bind (absolute_keeps _) fun url => ?_
  refine fetch_awaits url fun found => ?_
  refine (contextOf_late textual.url _ _ _ _ _).bind fun context valid => ?_
  exact readBookList_late textual valid.staged _

/-! ## Details -/

theorem detail_awaits
    (textual : Textual site)
    (url : Text)
    (book : Json) :
    AwaitsPage site (detail site url book) := by
  unfold detail
  refine .bind (absolute_keeps _) fun url => ?_
  refine .bind (storeParameters_keeps _) fun _ => ?_
  refine fetch_awaits url fun found => ?_
  refine (contextOf_late textual.url _ _ _ _ _).bind fun context valid => ?_
  refine Ends.bind (?_ : EndsLate site _) fun record _ => ?_
  · refine Ends.foldlM (fun _ _ => True) (fun _ field record member _ => ?_) trivial
    simp only
    have isRule : field.2 ∈ ruleNames :=
      List.mem_append_left _ (List.mem_append_right _ (List.mem_map_of_mem member))
    refine (rule_late textual isRule).bind fun text _ => ?_
    refine (readField_late valid.staged _ (isRule_str text) _).bind fun found _ => ?_
    cases found with
    | none => exact .of_pure trivial
    | some value =>
        simp only
        split
        · exact (resolve_late textual.url _ _).bind fun _ _ => .of_pure trivial
        · exact .of_pure trivial
  · refine (rule_late textual (by simp [ruleNames])).bind fun text _ => ?_
    refine (readField_late valid.staged _ (isRule_str text) _).bind fun found _ => ?_
    cases found with
    | none => exact reportThen_ends trivial
    | some chapters => exact (resolve_late textual.url _ _).bind fun _ _ => .of_pure trivial

/-! ## Chapters -/

theorem chapterHeaders_late (textual : Textual site) (given : Keyed Text) :
    EndsLate site (chapterHeaders site given) := by
  unfold chapterHeaders
  exact (lift_ends (origin_late textual.url)).bind fun origin _ => .of_pure trivial

theorem chapterPage_late
    (textual : Textual site)
    {context : Context}
    (staged : context.Staged)
    (pageUrl : Text) :
    EndsLate site (chapterPage site context pageUrl) := by
  unfold chapterPage
  obtain ⟨given, read⟩ := exists_ruleOf_eq_ok (textual.rules "ruleChapterUrl" (by simp [ruleNames]))
  rw [read]
  refine (lift_ends (.of_ok given)).bind fun given _ => ?_
  refine (readField_late staged _ (isRule_str given.1) _).bind fun found _ => ?_
  cases found with
  | none => exact .of_pure trivial
  | some url =>
      refine (resolve_late textual.url _ _).bind fun url _ => ?_
      split
      · exact .of_pure trivial
      · refine (chapterHeaders_late textual _).bind fun others _ => ?_
        refine (report_ends _ _ _ _).bind fun _ _ => ?_
        refine (lift_ends headers_failsBy).bind fun given _ => ?_
        refine (fetchSecondary_late _ _).bind fun found _ => ?_
        split
        · exact .of_pure trivial
        · exact reportThen_ends trivial

theorem chapterContext_late
    (textual : Textual site)
    {context : Context}
    (valid : context.Valid)
    (pageUrl : Text)
    (book : Json) :
    Ends Context.Valid (Late site) (chapterContext site context pageUrl book) := by
  unfold chapterContext
  refine (chapterPage_late textual valid.staged pageUrl).bind fun body? _ => ?_
  cases body? with
  | none => exact .of_pure valid
  | some body => exact contextOf_late textual.url _ _ _ _ _

theorem readChapter_late
    (textual : Textual site)
    (nameRule urlRule pageUrl : Text)
    {context : Context}
    (staged : context.Staged)
    (style : FieldStyle) :
    EndsLate site (readChapter site nameRule urlRule pageUrl context style) := by
  unfold readChapter
  refine (readField_late staged _ (isRule_str nameRule) _).bind fun name _ => ?_
  refine (readField_late staged _ (isRule_str urlRule) _).bind fun link _ => ?_
  exact (linkAddress_late textual.url link pageUrl).bind fun url _ => .of_pure trivial

theorem chapters_awaits
    (textual : Textual site)
    (url : Text)
    (book : Json) :
    AwaitsPage site (chapters site url book) := by
  unfold chapters
  refine .bind (absolute_keeps _) fun url => ?_
  refine .bind (storeParameters_keeps _) fun _ => ?_
  refine fetch_awaits url fun found => ?_
  refine (contextOf_late textual.url _ _ _ _ _).bind fun context valid => ?_
  refine (chapterContext_late textual valid _ _).bind fun context valid => ?_
  refine (rule_late textual (by simp [ruleNames])).bind fun nameRule _ => ?_
  refine (rule_late textual (by simp [ruleNames])).bind fun urlRule _ => ?_
  refine (rule_late textual (by simp [ruleNames])).bind fun listRule _ => ?_
  refine (readChapters_late valid.staged (isRule_str listRule) fun inner style staged =>
    readChapter_late textual _ _ _ staged style).bind fun found _ => ?_
  refine (rule_late textual (by simp [ruleNames])).bind fun nextRule _ => ?_
  refine (readField_late valid.staged _ (isRule_str nextRule) _).bind fun next _ => ?_
  exact (noteNext_late textual.url _ _).bind fun _ _ => .of_pure trivial

/-! ## Content -/

theorem contentTexts_late
    {context : Context}
    (staged : context.Staged)
    (rule : Text) :
    EndsLate site (contentTexts site context rule) := by
  unfold contentTexts
  split
  · exact reportThen_ends trivial
  · refine (extract_ends (evaluateAt_late staged _ _ _ _)).bind fun result _ => ?_
    refine (reportContentFlaw_late _ _).bind fun _ _ => ?_
    exact reportThen_ends trivial

theorem readImages_late
    (context : Context)
    (texts : List Text)
    (pageUrl : Text) :
    EndsLate site (readImages context texts pageUrl) := by
  have extracted : FailsBy (Late site) _ :=
    Image.extract_failsBy (Text.join ['\n'] texts) pageUrl
  have raw : FailsBy (Late site) _ := Image.extract_failsBy context.document.body pageUrl
  unfold readImages
  generalize Image.extract (Text.join ['\n'] texts) pageUrl = inMarkup at extracted ⊢
  generalize Image.extract context.document.body pageUrl = inPage at raw ⊢
  refine (lift_ends (Image.collectAll_failsBy pageUrl texts)).bind fun images _ => ?_
  split
  · exact .of_pure trivial
  · refine (lift_ends extracted).bind fun images _ => ?_
    split
    · exact .of_pure trivial
    · refine (lift_ends raw).bind fun images _ => ?_
      exact (reportRawImages_late images).bind fun _ _ => .of_pure trivial

theorem content_awaits
    (textual : Textual site)
    (url : Text)
    (chapter book : Json) :
    AwaitsPage site (content site url chapter book) := by
  unfold content
  refine .bind (absolute_keeps _) fun url => ?_
  refine fetch_awaits url fun found => ?_
  refine (contextOf_late textual.url _ _ _ _ _).bind fun context valid => ?_
  refine (rule_late textual (by simp [ruleNames])).bind fun text _ => ?_
  refine (contentTexts_late valid.staged text).bind fun texts _ => ?_
  refine (readImages_late context texts _).bind fun images _ => ?_
  refine (reportImages_late images).bind fun _ _ => ?_
  refine (rule_late textual (by simp [ruleNames])).bind fun next _ => ?_
  refine (readField_late valid.staged _ (isRule_str next) _).bind fun found _ => ?_
  exact (noteNext_late textual.url _ _).bind fun _ _ => .of_pure trivial

/-- Every stage of a source of manga waits for its page. -/
theorem work_awaits (textual : Textual site) (task : Task) :
    AwaitsPage site (work site task) := by
  cases task with
  | search keyword page => exact search_awaits textual keyword page
  | detail url book => exact detail_awaits textual url book
  | chapters url book => exact chapters_awaits textual url book
  | content url chapter book rendered => exact content_awaits textual url chapter book
  | explore url => exact explore_awaits textual url

end Manga

end Stage

end RuleProbe
