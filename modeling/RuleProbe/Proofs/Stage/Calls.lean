import RuleProbe.Proofs.Http
import RuleProbe.Proofs.Stage.Work
import RuleProbe.Proofs.Stage.Secluded
import RuleProbe.Stage

/-!
# What stages send

A stage asks the world for pages and for renderings, and for nothing else.  What it asks for
comes on top of what was asked for before, and every call of it carries harmless headers only,
wherever the definition of the source, its scripts or a page took them from.
-/

namespace RuleProbe

namespace Stage

open Extraction (Context)
open Header (AllHarmless)

/-! ## Calls -/

/-- The headers that a call sends. -/
def Call.headers : Call → Keyed Text
  | .request asked => asked.headers
  | .rendering _ headers _ => headers

/-- On the way from one walk to another, calls have been made that send harmless headers. -/
def SendsHarmless (before after : Walk) : Prop :=
  ∃ calls : List Call, after.calls = calls ++ before.calls ∧
    ∀ call ∈ calls, AllHarmless call.headers

instance : IsPreorder Walk SendsHarmless where
  refl _ := ⟨[], rfl, by simp⟩
  trans _ _ _ := by
    rintro ⟨early, first, earlyHarmless⟩ ⟨late, second, lateHarmless⟩
    refine ⟨late ++ early, by rw [second, first, List.append_assoc], fun call member => ?_⟩
    rcases List.mem_append.mp member with here | there
    · exact lateHarmless call here
    · exact earlyHarmless call there

/-- A piece of work sends harmless headers only. -/
abbrev Harmless {α : Type} (action : Work α) : Prop :=
  Leads SendsHarmless action

variable {α : Type}
variable {site : Site}

/-- Secluded work makes no calls at all. -/
theorem harmless_of_secluded
    {action : Work α}
    (secluded : ∀ walk, Secluded walk walk action) :
    Harmless action := by
  intro walk
  exact ⟨[], (secluded walk).calls_eq, by simp⟩

/-- What comes after secluded work makes all the calls. -/
theorem Harmless.after
    {β : Type}
    {action : Work β}
    {next : β → Work α}
    (secluded : ∀ walk, Secluded walk walk action)
    (rest : ∀ value, Harmless (next value)) :
    Harmless (action >>= next) :=
  (harmless_of_secluded secluded).bind rest

/-- A page is asked for with filtered headers. -/
theorem fetchPage_harmless
    (headers : Json.Members)
    (ask : PageRequest)
    (primary : Bool) :
    Harmless (fetchPage site headers ask primary) := by
  unfold fetchPage
  refine Harmless.after (fun _ => Secluded.reportRequest ask headers) fun _ => ?_
  refine Leads.bind_of_returned (.of_except _) fun found before after returned => ?_
  refine Leads.bind (?_ : Harmless _) fun _ => harmless_of_secluded fun _ => ?_
  · intro walk
    refine ⟨found.2.toList.map Call.request, rfl, fun call member => ?_⟩
    obtain ⟨request, made, rfl⟩ := List.mem_map.mp member
    obtain ⟨page, sent⟩ := found
    obtain rfl := Option.mem_toList.mp made
    unfold lift at returned
    rw [runFrom_ofExcept] at returned
    have fetched := congrArg Prod.fst returned
    cases made : Http.fetch site.network ask.url (optionsOf site.settings ask headers) with
    | error defect =>
        rw [made] at fetched
        cases fetched
    | ok found =>
        rw [made] at fetched
        cases fetched
        exact Http.fetch_allHarmless made
  · refine .ite (Secluded.reportThen _ _ _ _ found.1) ?_
    refine .ite ?_ (Secluded.reportThen _ _ _ _ found.1)
    exact Parallel.andThen (.of_throw _) fun _ : PUnit => .of_pure found.1

/-! ## Stages of book sources -/

namespace Book

theorem fetchAsked_harmless (ask : PageRequest) : Harmless (fetchAsked site ask) := by
  unfold fetchAsked
  refine Harmless.after (fun _ => mergedHeaders_secluded _) fun headers => ?_
  exact fetchPage_harmless headers ask true

theorem search_harmless (keyword : Text) (page : Int) : Harmless (search site keyword page) := by
  unfold search
  refine Harmless.after (fun _ => buildRequest_secluded _ _ _) fun ask => ?_
  refine Harmless.after (fun _ => Secluded.report _ _ _ _) fun _ => ?_
  refine (fetchAsked_harmless ask).bind fun found => harmless_of_secluded fun _ => ?_
  refine (Secluded.contextOf _ _ _ _ _).andThen fun context => ?_
  refine (Secluded.lift _).andThen fun rules => ?_
  exact readBookList_secluded context _ _ _

theorem explore_harmless (url : Text) : Harmless (explore site url) := by
  unfold explore
  refine Harmless.after (fun _ => Secluded.exploredAddress url entries_secluded) fun target => ?_
  refine Harmless.after (fun _ => buildRequest_secluded _ _ _) fun ask => ?_
  refine (fetchAsked_harmless ask).bind fun found => harmless_of_secluded fun _ => ?_
  refine (Secluded.contextOf _ _ _ _ _).andThen fun context => ?_
  refine (Secluded.lift _).andThen fun rules => ?_
  refine .ite (readBookList_secluded context _ _ _) ?_
  refine (Secluded.report _ _ _ _).andThen fun _ => ?_
  exact (Secluded.lift _).andThen fun rules => readBookList_secluded context _ _ _

theorem detail_harmless (url : Text) (book : Json) : Harmless (detail site url book) := by
  unfold detail
  refine Harmless.after (fun _ => buildRequest_secluded _ _ _) fun ask => ?_
  refine (fetchAsked_harmless ask).bind fun found => harmless_of_secluded fun _ => ?_
  refine (storeParameters_secluded _).andThen fun _ => ?_
  refine (Secluded.contextOf _ _ _ _ _).andThen fun context => ?_
  refine (Secluded.lift _).andThen fun rules => ?_
  refine .optionally (Secluded.report _ _ _ _) ?_
  refine (applyInit_secluded context _).andThen fun context => ?_
  refine (readDetails_secluded context rules).andThen fun record => ?_
  refine (resolveField_secluded record _ _).andThen fun record => ?_
  refine .ite (Secluded.reportThen _ _ _ _ _) ?_
  exact (resolveField_secluded record _ _).andThen fun record => .of_pure _

theorem chapters_harmless (url : Text) (book : Json) : Harmless (chapters site url book) := by
  unfold chapters
  refine Harmless.after (fun _ => buildRequest_secluded _ _ _) fun ask => ?_
  refine (fetchAsked_harmless ask).bind fun found => harmless_of_secluded fun _ => ?_
  refine (storeParameters_secluded _).andThen fun _ => ?_
  refine (Secluded.contextOf _ _ _ _ _).andThen fun context => ?_
  refine (Secluded.lift _).andThen fun rules => ?_
  refine (Secluded.readChapters context _
    (readChapter_secluded rules _)).andThen fun chapters => ?_
  refine (Secluded.readField context _ _ _).andThen fun next => ?_
  exact (Secluded.noteNext _ next).andThen fun _ => .of_pure _

/-- A browser is given filtered headers. -/
theorem render_harmless (url : Text) (others : Keyed Text) :
    Harmless (render site url others) := by
  unfold render
  refine Harmless.after (fun _ => mergedHeaders_secluded _) fun all => ?_
  refine Harmless.after (fun _ => Secluded.report _ _ _ _) fun _ => ?_
  refine Harmless.after (fun _ => Secluded.lift _) fun timeout => ?_
  refine Leads.bind (?_ : Harmless _) fun _ => harmless_of_secluded fun _ => ?_
  · intro walk
    refine ⟨[.rendering url (Header.filter all) timeout], rfl, fun call member => ?_⟩
    cases List.mem_singleton.mp member
    exact .filter all
  · split
    · exact Secluded.reportThen _ _ _ _ _
    · exact Secluded.reportThen _ _ _ _ none

theorem contentBody_harmless
    (found : Page)
    (pageUrl : Text)
    (headers : Keyed Text)
    (rendered : Bool) :
    Harmless (contentBody site found pageUrl headers rendered) := by
  unfold contentBody
  split
  · exact (render_harmless pageUrl headers).map _
  · exact .of_pure _

theorem findContent_harmless
    (context : Context)
    (rule : Json)
    (pageUrl : Text)
    (headers : Keyed Text)
    (mayRender : Bool) :
    Harmless (findContent site context rule pageUrl headers mayRender) := by
  unfold findContent
  refine Harmless.after (fun _ => contentTexts_secluded context rule) fun texts => ?_
  split
  · refine Harmless.after (fun _ => Secluded.report _ _ _ _) fun _ => ?_
    refine (render_harmless pageUrl headers).bind fun page? => harmless_of_secluded fun _ => ?_
    cases page? with
    | none => exact .of_pure (context, texts)
    | some page =>
        refine (Secluded.contextOf _ _ _ _ _).andThen fun context => ?_
        exact (contentTexts_secluded context rule).andThen fun texts => .of_pure (context, texts)
  · exact .of_pure (context, texts)

theorem content_harmless (url : Text) (chapter book : Json) (rendered : Bool) :
    Harmless (content site url chapter book rendered) := by
  unfold content
  refine Harmless.after (fun _ => buildRequest_secluded _ _ _) fun ask => ?_
  refine (fetchAsked_harmless ask).bind fun found => ?_
  refine Harmless.after (fun _ => Secluded.lift _) fun read => ?_
  refine (contentBody_harmless _ _ _ _).bind fun body => ?_
  refine Harmless.after (fun _ => Secluded.lift _) fun rules => ?_
  simp only
  split
  · refine harmless_of_secluded fun _ => ?_
    refine (Secluded.report _ _ _ _).andThen fun _ => ?_
    exact (Secluded.lift _).andThen fun images => .of_pure _
  · refine Harmless.after (fun _ => Secluded.contextOf _ _ _ _ _) fun context => ?_
    refine (findContent_harmless context _ _ _ _).bind fun found =>
      harmless_of_secluded fun _ => ?_
    refine (Secluded.readField found.1 _ _ _).andThen fun next => ?_
    refine (Secluded.noteNext _ next).andThen fun _ => ?_
    refine (Secluded.lift _).andThen fun images => ?_
    exact .ite (readImages_secluded found.1 _ _) (readText_secluded _ _)

theorem work_harmless (task : Task) : Harmless (work site task) := by
  cases task with
  | search keyword page => exact search_harmless keyword page
  | detail url book => exact detail_harmless url book
  | chapters url book => exact chapters_harmless url book
  | content url chapter book rendered => exact content_harmless url chapter book rendered
  | explore url => exact explore_harmless url

end Book

/-! ## Stages of manga sources -/

namespace Manga

theorem fetch_harmless (url : Text) : Harmless (fetch site url) := by
  unfold fetch
  exact Harmless.after (fun _ => Secluded.lift _) fun headers => fetchPage_harmless headers _ _

theorem search_harmless (keyword : Text) (page : Int) : Harmless (search site keyword page) := by
  unfold search
  refine Harmless.after (fun _ => searchAddress_secluded _ _) fun url => ?_
  refine Harmless.after (fun _ => Secluded.report _ _ _ _) fun _ => ?_
  refine (fetch_harmless url).bind fun found => harmless_of_secluded fun _ => ?_
  exact (Secluded.contextOf _ _ _ _ _).andThen fun context => readBookList_secluded context _

theorem explore_harmless (url : Text) : Harmless (explore site url) := by
  unfold explore
  refine Harmless.after (fun _ => Secluded.exploredAddress url (Secluded.lift _)) fun target => ?_
  refine Harmless.after (fun _ => absolute_secluded _) fun url => ?_
  refine (fetch_harmless url).bind fun found => harmless_of_secluded fun _ => ?_
  exact (Secluded.contextOf _ _ _ _ _).andThen fun context => readBookList_secluded context _

theorem detail_harmless (url : Text) (book : Json) : Harmless (detail site url book) := by
  unfold detail
  refine Harmless.after (fun _ => absolute_secluded _) fun url => ?_
  refine Harmless.after (fun _ => storeParameters_secluded url) fun _ => ?_
  refine (fetch_harmless url).bind fun found => harmless_of_secluded fun _ => ?_
  refine (Secluded.contextOf _ _ _ _ _).andThen fun context => ?_
  refine Parallel.andThen (.foldlM (fun record field _ => ?_) []) fun record => ?_
  · refine (Secluded.lift _).andThen fun text => ?_
    refine (Secluded.readField context _ _ _).andThen fun value? => ?_
    cases value? with
    | none => exact .of_pure record
    | some value =>
        refine .ite ?_ (.of_pure _)
        exact (Secluded.resolve _ _).andThen fun resolved => .of_pure _
  · refine (Secluded.lift _).andThen fun text => ?_
    refine (Secluded.readField context _ _ _).andThen fun value? => ?_
    cases value? with
    | none => exact Secluded.reportThen _ _ _ _ _
    | some chapters => exact (Secluded.resolve _ _).andThen fun resolved => .of_pure _

/-- The headers that a rule for chapters ends in are filtered with all others. -/
theorem chapterPage_harmless (context : Context) (pageUrl : Text) :
    Harmless (chapterPage site context pageUrl) := by
  unfold chapterPage
  refine Harmless.after (fun _ => Secluded.lift _) fun given => ?_
  refine Harmless.after (fun _ => Secluded.readField context _ _ _) fun found => ?_
  cases found with
  | none => exact .of_pure none
  | some url =>
      refine Harmless.after (fun _ => Secluded.resolve _ _) fun url => ?_
      simp only
      split
      · exact .of_pure none
      · refine Harmless.after (fun _ => chapterHeaders_secluded _) fun others => ?_
        refine Harmless.after (fun _ => Secluded.report _ _ _ _) fun _ => ?_
        refine Harmless.after (fun _ => Secluded.lift _) fun headers => ?_
        refine (fetchPage_harmless _ _ _).bind fun page => harmless_of_secluded fun _ => ?_
        exact .ite (.of_pure _) (Secluded.reportThen _ _ _ _ none)

theorem chapterContext_harmless (context : Context) (pageUrl : Text) (book : Json) :
    Harmless (chapterContext site context pageUrl book) := by
  unfold chapterContext
  refine (chapterPage_harmless context pageUrl).bind fun found => harmless_of_secluded fun _ => ?_
  cases found with
  | none => exact .of_pure context
  | some body => exact Secluded.contextOf _ _ _ _ _

theorem chapters_harmless (url : Text) (book : Json) : Harmless (chapters site url book) := by
  unfold chapters
  refine Harmless.after (fun _ => absolute_secluded _) fun url => ?_
  refine Harmless.after (fun _ => storeParameters_secluded url) fun _ => ?_
  refine (fetch_harmless url).bind fun found => ?_
  refine Harmless.after (fun _ => Secluded.contextOf _ _ _ _ _) fun context => ?_
  refine (chapterContext_harmless context _ _).bind fun context => ?_
  exact harmless_of_secluded fun _ => listChapters_secluded _ context

theorem content_harmless (url : Text) (chapter book : Json) :
    Harmless (content site url chapter book) := by
  unfold content
  refine Harmless.after (fun _ => absolute_secluded _) fun url => ?_
  refine (fetch_harmless url).bind fun found => harmless_of_secluded fun _ => ?_
  refine (Secluded.contextOf _ _ _ _ _).andThen fun context => ?_
  refine (Secluded.lift _).andThen fun text => ?_
  refine (contentTexts_secluded context text).andThen fun texts => ?_
  refine (readImages_secluded context texts _).andThen fun images => ?_
  refine (Secluded.reportImages images).andThen fun _ => ?_
  refine (Secluded.lift _).andThen fun nextRule => ?_
  refine (Secluded.readField context _ _ _).andThen fun next => ?_
  exact (Secluded.noteNext _ next).andThen fun _ => .of_pure _

theorem work_harmless (task : Task) : Harmless (work site task) := by
  cases task with
  | search keyword page => exact search_harmless keyword page
  | detail url book => exact detail_harmless url book
  | chapters url book => exact chapters_harmless url book
  | content url chapter book rendered => exact content_harmless url chapter book
  | explore url => exact explore_harmless url

end Manga

/-! ## All stages -/

theorem work_harmless (task : Task) : Harmless (work site task) := by
  unfold work
  cases site.kind with
  | book => exact Book.work_harmless task
  | manga => exact Manga.work_harmless task

/-- Whatever a source holds and whatever a stage does, each call that the stage makes of the world
carries headers whose names are tokens other than the host and whose values stay on one line. -/
theorem run_injects_nothing (site : Site) (task : Task) (walk : Walk) :
    ∃ calls : List Call,
      ((run site task).run walk).2.calls = calls ++ walk.calls ∧
        ∀ call ∈ calls, ∀ header ∈ call.headers, Header.Harmless header := by
  have sent : SendsHarmless walk.begun (runFrom (work site task) walk.begun).2 :=
    work_harmless task walk.begun
  unfold run
  rw [perform_eq, Walk.reported_calls]
  exact sent

end Stage

end RuleProbe
