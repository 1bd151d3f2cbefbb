import RuleProbe.Proofs.Stage.Book
import RuleProbe.Proofs.Stage.Manga
import RuleProbe.Proofs.Stage.Tandem.Stages
import RuleProbe.Proofs.Stage.Work
import RuleProbe.Stage

/-!
# Stages of a source

A flawed template or a page that is not there ends a stage early.  A stage whose page is
there comes to its end, unless its work comes upon one of the late faults.  From related walks
a stage has the same outcome, and leaves related walks.

Whatever is evaluated, filled, run or walked, and however it ends, a trail leads from the session
before to the session after.  So the store is only ever updated: no variable is lost, and one
that nothing has written keeps its value.

Two instances of a source have gone through different histories of stages, and have come to the
same variables.  The next stage asks for the same pages, reports the same and leaves the same
variables, unless it is given by a script what the headers of the source are: a source of books
runs this script once, and what the script stores and reports comes with the first page only.
-/

namespace RuleProbe

namespace Stage

/-! ## Success -/

variable {site : Site}

/-- The entries of a definition are texts, or groups of texts where rules are grouped. -/
def Site.Textual (site : Site) : Prop :=
  match site.kind with
  | .book => Book.Textual site
  | .manga => Manga.Textual site

theorem work_awaits (textual : site.Textual) (task : Task) :
    AwaitsPage site (work site task) := by
  unfold Site.Textual at textual
  unfold work
  cases kind : site.kind with
  | book =>
      rw [kind] at textual
      exact Book.work_awaits textual task
  | manga =>
      rw [kind] at textual
      exact Manga.work_awaits textual task

/-- The page on which a stage depended is there. -/
def Outcome.HasPage (outcome : Outcome) : Prop :=
  ∃ page, outcome.page = some page ∧ page.success = true

/-- A source of books with a rule for the name. -/
def namingSite (rule : Text) : Site where
  kind := .book
  definition :=
    [("bookSourceUrl", .str "https://a.b"), ("ruleBookInfo", .obj [("name", .str rule)])]
  settings := {}
  network := fun _ => .failure "ConnectionError" "unreachable"
  browser := fun _ => none

theorem namingSite_textual (rule : Text) : (namingSite rule).Textual where
  url := .inr ⟨_, rfl⟩
  kind := .inl rfl
  header := .inl rfl
  groups name isGroup := by
    simp only [Book.groupNames, List.mem_cons, List.not_mem_nil, or_false] at isGroup
    rcases isGroup with rfl | rfl | rfl | rfl | rfl
    · exact .inl (.inl rfl)
    · exact .inl (.inl rfl)
    · exact .inr ⟨_, rfl, by simp⟩
    · exact .inl (.inl rfl)
    · exact .inl (.inl rfl)

/-- The task of reading a page that its address holds. -/
def heldPage : Task := .detail "data:text/html," .null

/-- The outcome of reading that page. -/
def namingOutcome (rule : Text) : Outcome := ((run (namingSite rule) heldPage).run {}).1

namespace Tandem

variable (tandem : Tandem)

/-- A stage whose work ends alike in related walks has the same outcome in both. -/
theorem perform
    (stage : Text)
    {action : Work Payload}
    (alike : tandem.Alike action action)
    {one two : Walk}
    (related : tandem.Related one.begun two.begun) :
    ((perform stage action).run two).1 = ((perform stage action).run one).1 ∧
      tandem.Related ((perform stage action).run one).2 ((perform stage action).run two).2 := by
  obtain ⟨same, after⟩ := alike one.begun two.begun related
  rw [Except.map_id, id_eq] at same
  rw [perform_eq, perform_eq, same]
  have reported : tandem.Related
      ((runFrom action one.begun).2.reported (runFrom action one.begun).1)
      ((runFrom action two.begun).2.reported (runFrom action one.begun).1) := by
    cases (runFrom action one.begun).1 with
    | ok payload => exact after
    | error fault =>
        unfold Walk.reported
        rw [tandem.session_eq after]
        exact tandem.followed after (Extraction.Step.logged _ (reportFault fault).1).reaches
  refine ⟨?_, reported⟩
  unfold Outcome.ofEnd
  simp only [same, tandem.session_eq reported, tandem.page_eq reported,
    tandem.nextUrl_eq reported]

end Tandem

/-- From related walks, every task of a source ends alike. -/
theorem work_alike (tandem : Book.HeaderTandem site) (task : Task) :
    tandem.Alike (work site task) (work site task) := by
  unfold work
  cases site.kind with
  | book => exact Book.work_alike tandem task
  | manga => exact Manga.work_alike tandem.toTandem task

/-! ## What stages keep -/

section

open Extraction (Reaches)

variable {keeps : Walk → Prop}

/-- A walk runs in tandem with itself, and keeps what depends on its session and on the headers
that it knows only. -/
def Book.HeaderTandem.ofSelf
    (site : Site)
    (followed : ∀ {walk after : Walk}, keeps walk → Reaches walk.session after.session →
      after.headers = walk.headers → keeps after)
    (learned : ∀ {walk : Walk} {given : Keyed Text}, keeps walk →
      (∀ read, Book.plainHeaders? (site.entry "header") = some read → read = .ok given) →
      keeps { walk with headers := some given }) :
    Book.HeaderTandem site where
  Related one two := two = one ∧ keeps one
  offset := 0
  session_eq := by
    rintro one _ ⟨rfl, -⟩
    rfl
  documents_eq := by
    rintro one _ ⟨rfl, -⟩
    rfl
  page_eq := by
    rintro one _ ⟨rfl, -⟩
    rfl
  nextUrl_eq := by
    rintro one _ ⟨rfl, -⟩
    rfl
  begun := by
    rintro one _ ⟨rfl, kept⟩
    exact ⟨rfl, followed kept (Extraction.Step.begun _).reaches rfl⟩
  followed := by
    rintro one _ session ⟨rfl, kept⟩ reaches
    exact ⟨rfl, followed kept reaches rfl⟩
  numbered := by
    rintro one _ ⟨rfl, kept⟩
    exact ⟨rfl, followed kept (refl_of Reaches _) rfl⟩
  noted url := by
    rintro ⟨rfl, kept⟩
    exact ⟨rfl, followed kept (refl_of Reaches _) rfl⟩
  called calls := by
    rintro ⟨rfl, kept⟩
    exact ⟨rfl, followed kept (refl_of Reaches _) rfl⟩
  depended page := by
    rintro ⟨rfl, kept⟩
    exact ⟨rfl, followed kept (refl_of Reaches _) rfl⟩
  known := by
    rintro one _ ⟨rfl, -⟩
    exact .inl rfl
  learned := by
    rintro one _ given ⟨rfl, kept⟩ own
    exact ⟨rfl, learned kept own⟩

/-- What depends on the session of a walk and on the headers that it knows only is kept by every
stage when every trail keeps it, and the headers that are read. -/
theorem run_keeps
    (followed : ∀ {walk after : Walk}, keeps walk → Reaches walk.session after.session →
      after.headers = walk.headers → keeps after)
    (learned : ∀ {walk : Walk} {given : Keyed Text}, keeps walk →
      (∀ read, Book.plainHeaders? (site.entry "header") = some read → read = .ok given) →
      keeps { walk with headers := some given })
    (task : Task)
    {walk : Walk}
    (kept : keeps walk) :
    keeps ((run site task).run walk).2 := by
  let tandem := Book.HeaderTandem.ofSelf site followed learned
  have begun : tandem.Related walk.begun walk.begun := tandem.begun ⟨rfl, kept⟩
  exact (tandem.perform task.name (work_alike tandem task) begun).2.2

end

end Stage

namespace Stage

section

open Extraction (Context Engine Reaches Trail)

/-! ## Stages leave trails -/

theorem run_reaches (site : Site) (task : Task) (walk : Walk) :
    Reaches walk.session ((run site task).run walk).2.session := by
  let keeps (after : Walk) : Prop := Reaches walk.session after.session
  have followed {before after : Walk} (kept : keeps before)
      (reaches : Reaches before.session after.session)
      (_ : after.headers = before.headers) : keeps after :=
    trans_of Reaches kept reaches
  exact run_keeps followed (fun kept _ => kept) task (refl_of Reaches walk.session)

/-! ## Sequences of deeds -/

/-- What can be done with the variables of a session, short of forgetting them all. -/
inductive Deed where
  /-- Evaluate a rule, for values or for handles. -/
  | evaluation (engine : Engine) (context : Context) (rule : Text) (asList : Bool)
  /-- Fill a template. -/
  | interpolation (engine : Engine) (context : Context) (template : Text)
  /-- Run a script on a value. -/
  | script (engine : Engine) (context : Context) (code : Text) (input : Json) (required : Bool)
  /-- Carry out a task of a source. -/
  | stage (site : Site) (task : Task)

/-- The walk after a deed, with whatever result or fault it has ended. -/
def Deed.after (walk : Walk) : Deed → Walk
  | .evaluation engine context rule false =>
      (runFrom (extract (Extraction.evaluate engine context rule)) walk).2
  | .evaluation engine context rule true =>
      (runFrom (extract (Extraction.evaluateList engine context rule)) walk).2
  | .interpolation engine context template =>
      (runFrom (extract (Extraction.interpolate engine context template)) walk).2
  | .script engine context code input required =>
      (runFrom (extract (Extraction.runScript engine context code input required)) walk).2
  | .stage site task => ((run site task).run walk).2

theorem extract_reaches
    {α : Type}
    {action : Extraction.Extract α}
    (leads : Leads Reaches action)
    (walk : Walk) :
    Reaches walk.session (runFrom (extract action) walk).2.session := by
  rw [runFrom_extract]
  exact leads walk.session

/-- A trail leads over every deed. -/
theorem Deed.reaches (walk : Walk) (deed : Deed) :
    Reaches walk.session (deed.after walk).session := by
  cases deed with
  | evaluation engine context rule asList =>
      have leads := (Extraction.leadsAt engine Extraction.depthLimit).rule context rule asList
      cases asList with
      | false => exact extract_reaches leads walk
      | true => exact extract_reaches leads walk
  | interpolation engine context template =>
      exact extract_reaches ((Extraction.leadsAt engine _).template context template) walk
  | script engine context code input required =>
      exact extract_reaches (Extraction.runScript_leads engine context code input required) walk
  | stage site task => exact run_reaches site task walk

/-- The walk after deeds, one after the other. -/
def afterDeeds (walk : Walk) (deeds : List Deed) : Walk :=
  deeds.foldl Deed.after walk

theorem afterDeeds_reaches (walk : Walk) (deeds : List Deed) :
    Reaches walk.session (afterDeeds walk deeds).session := by
  induction deeds generalizing walk with
  | nil => exact refl_of Reaches walk.session
  | cons deed rest hypothesis =>
      exact trans_of Reaches (deed.reaches walk) (hypothesis (deed.after walk))

/-- After any sequence of deeds, the store is the first one, updated with what has been written
on the way, by directives, scripts, parameters of addresses and first rules of details: no
variable is lost, and one that was not written keeps its value. -/
theorem afterDeeds_updates (walk : Walk) (deeds : List Deed) :
    ∃ writes,
      Trail walk.session writes (afterDeeds walk deeds).session ∧
      (afterDeeds walk deeds).session.store = Keyed.update walk.session.store writes ∧
      (∀ key, Keyed.has walk.session.store key = true →
        Keyed.has (afterDeeds walk deeds).session.store key = true) ∧
      ∀ key, key ∉ Keyed.keys writes →
        Keyed.get? (afterDeeds walk deeds).session.store key =
          Keyed.get? walk.session.store key := by
  obtain ⟨writes, trail⟩ := afterDeeds_reaches walk deeds
  have updated := trail.store_eq
  refine ⟨writes, trail, updated, fun key present => ?_, fun key unwritten => ?_⟩
  · rw [updated]
    exact Keyed.has_update_of_has present writes
  · rw [updated]
    exact Keyed.get?_update_of_notMem unwritten walk.session.store

end

/-! ## Histories -/

/-- The settings and the world of a stage. -/
structure World where
  /-- The settings. -/
  settings : Settings
  /-- The network. -/
  network : Http.Network
  /-- The browser. -/
  browser : Browser

/-- A source in another world. -/
def Site.within (site : Site) (world : World) : Site :=
  { site with
    settings := world.settings
    network := world.network
    browser := world.browser }

/-- What can happen to an instance of a source. -/
inductive Event where
  /-- A stage is walked in some world. -/
  | stage (world : World) (task : Task)
  /-- All variables are forgotten. -/
  | reset

/-- The walk after an event. -/
def Event.after (site : Site) (walk : Walk) : Event → Walk
  | .stage world task => ((run (site.within world) task).run walk).2
  | .reset => (runFrom Stage.reset walk).2

/-- The walk of an instance of a source after a history. -/
def afterHistory (site : Site) (history : List Event) : Walk :=
  history.foldl (Event.after site) {}

/-! ## Walks that resemble each other -/

/-- The second walk has numbered more documents and made earlier calls, and is like the first one
otherwise, but perhaps for the headers that it knows. -/
structure Resembles (offset : Nat) (earlier : List Call) (one two : Walk) : Prop where
  session : two.session = one.session
  documents : two.documents = one.documents + offset
  page : two.page = one.page
  nextUrl : two.nextUrl = one.nextUrl
  calls : two.calls = one.calls ++ earlier

variable {offset : Nat} {earlier : List Call}

/-- Walks that resemble each other run in tandem. -/
def Tandem.ofResembling (offset : Nat) (earlier : List Call) : Tandem where
  Related := Resembles offset earlier
  offset := offset
  session_eq resembles := resembles.session
  documents_eq resembles := resembles.documents
  page_eq resembles := resembles.page
  nextUrl_eq resembles := resembles.nextUrl
  begun {one two} resembles :=
    { resembles with
      session := by
        change Extraction.Session.mk two.session.store [] = ⟨one.session.store, []⟩
        rw [resembles.session]
      page := rfl
      nextUrl := rfl }
  followed resembles _ := { resembles with session := rfl }
  numbered {one two} resembles :=
    { resembles with
      documents := by
        change two.documents + 1 = one.documents + 1 + offset
        rw [resembles.documents, Nat.add_right_comm] }
  noted _ resembles := { resembles with nextUrl := rfl }
  called {one two} calls resembles :=
    { resembles with
      calls := by
        change calls ++ two.calls = calls ++ one.calls ++ earlier
        rw [resembles.calls, List.append_assoc] }
  depended _ resembles := { resembles with page := rfl }

namespace Book

variable {site : Site}

/-- Walks of book sources that resemble each other run in tandem when they know the same
headers. -/
def HeaderTandem.ofResembling
    (site : Site)
    (offset : Nat)
    (earlier : List Call) :
    HeaderTandem site where
  Related one two := Resembles offset earlier one two ∧ SameHeaders site one two
  offset := offset
  session_eq related := related.1.session
  documents_eq related := related.1.documents
  page_eq related := related.1.page
  nextUrl_eq related := related.1.nextUrl
  begun related := ⟨(Tandem.ofResembling offset earlier).begun related.1, related.2⟩
  followed related reaches :=
    ⟨(Tandem.ofResembling offset earlier).followed related.1 reaches, related.2⟩
  numbered related := ⟨(Tandem.ofResembling offset earlier).numbered related.1, related.2⟩
  noted url related := ⟨(Tandem.ofResembling offset earlier).noted url related.1, related.2⟩
  called calls related :=
    ⟨(Tandem.ofResembling offset earlier).called calls related.1, related.2⟩
  depended page related :=
    ⟨(Tandem.ofResembling offset earlier).depended page related.1, related.2⟩
  known related := related.2
  learned related _ := ⟨{ related.1 with }, .inl rfl⟩

/-- The headers that a walk knows are those of the definition, where it gives some. -/
def KnowsOwn (site : Site) (walk : Walk) : Prop :=
  ∀ given read, walk.headers = some given →
    plainHeaders? (site.entry "header") = some read → read = .ok given

/-- Walks that know no other headers than their own know the same. -/
theorem sameHeaders_of_plain
    {read : Except Fault (Keyed Text)}
    (plain : plainHeaders? (site.entry "header") = some read)
    {one two : Walk}
    (oneKnows : KnowsOwn site one)
    (twoKnows : KnowsOwn site two) :
    SameHeaders site one two := by
  have knows {walk : Walk} (own : KnowsOwn site walk) :
      walk.headers = none ∨ ∃ given, read = .ok given ∧ walk.headers = some given := by
    cases known : walk.headers with
    | none => exact .inl rfl
    | some given => exact .inr ⟨given, own given read known plain, rfl⟩
  rcases knows oneKnows, knows twoKnows with ⟨unknown | ⟨given, rfl, known⟩, other⟩
  · rcases other with alsoUnknown | ⟨given, rfl, known⟩
    · exact .inl (alsoUnknown.trans unknown.symm)
    · exact .inr ⟨given, plain, .inl unknown, .inr known⟩
  · rcases other with unknown | ⟨others, same, alsoKnown⟩
    · exact .inr ⟨given, plain, .inr known, .inl unknown⟩
    · cases same
      exact .inr ⟨given, plain, .inr known, .inr alsoKnown⟩

end Book

/-! ## What histories leave -/

variable {site : Site}

/-- A stage that learns headers learns those of the definition, where it gives some. -/
theorem Event.after_knowsOwn
    {walk : Walk}
    (knows : Book.KnowsOwn site walk)
    (event : Event) :
    Book.KnowsOwn site (event.after site walk) := by
  cases event with
  | reset => exact knows
  | stage world task =>
      refine run_keeps (fun kept _ same => ?_) (fun _ own => ?_) task knows
      · intro given read known plain
        exact kept given read (same.symm.trans known) plain
      · intro given read known plain
        cases known
        exact own read plain

theorem afterHistory_knowsOwn (history : List Event) :
    Book.KnowsOwn site (afterHistory site history) := by
  suffices onwards : ∀ walk, Book.KnowsOwn site walk →
      Book.KnowsOwn site (history.foldl (Event.after site) walk) by
    refine onwards {} fun given read known _ => ?_
    cases known
  induction history with
  | nil => exact fun walk knows => knows
  | cons event rest hypothesis =>
      exact fun walk knows => hypothesis (event.after site walk) (event.after_knowsOwn knows)

/-- No script gives the headers of a source. -/
def Site.HasFixedHeaders (site : Site) : Prop :=
  site.kind = .manga ∨ (Book.plainHeaders? (site.entry "header")).isSome = true

/-- A stage does as it would from a fresh walk with the same variables and the same headers. -/
theorem run_resembles
    (fresh walk : Walk)
    (documents : fresh.documents = 0)
    (calls : fresh.calls = [])
    (stores : walk.session.store = fresh.session.store)
    (headers : site.kind = .manga ∨ Book.SameHeaders site fresh walk)
    (task : Task) :
    ((run site task).run walk).1 = ((run site task).run fresh).1 ∧
      Resembles walk.documents walk.calls ((run site task).run fresh).2
        ((run site task).run walk).2 := by
  have resembles : Resembles walk.documents walk.calls fresh.begun walk.begun :=
    { session := by
        change Extraction.Session.mk walk.session.store [] = ⟨fresh.session.store, []⟩
        rw [stores]
      documents := by
        change walk.documents = fresh.documents + walk.documents
        rw [documents, Nat.zero_add]
      page := rfl
      nextUrl := rfl
      calls := by
        change walk.calls = fresh.calls ++ walk.calls
        rw [calls, List.nil_append] }
  rcases headers with manga | same
  · let tandem := Tandem.ofResembling walk.documents walk.calls
    have alike : tandem.Alike (work site task) (work site task) := by
      unfold work
      rw [manga]
      exact Manga.work_alike tandem task
    exact tandem.perform task.name alike resembles
  · let tandem := Book.HeaderTandem.ofResembling site walk.documents walk.calls
    have related : tandem.Related fresh.begun walk.begun := ⟨resembles, same⟩
    obtain ⟨outcome, after⟩ := tandem.perform task.name (work_alike tandem task) related
    exact ⟨outcome, after.1⟩

/-- A world without a network and without a browser. -/
def offline : World where
  settings := {}
  network := fun _ => .failure "ConnectionError" "unreachable"
  browser := fun _ => none

/-- A source of books with an entry for headers. -/
def headerSite (header : Text) : Site where
  kind := .book
  definition := [("bookSourceUrl", .str "https://a.b"), ("header", .str header)]
  settings := offline.settings
  network := offline.network
  browser := offline.browser

/-- A walk over one work, and a reset before the next. -/
def otherWork : List Event := [.stage offline heldPage, .reset]

/-- The outcome of reading a page after a history, and the walk then. -/
def readAfter (header : Text) (history : List Event) : Outcome × Walk :=
  (run (headerSite header) heldPage).run (afterHistory (headerSite header) history)

/-- A header that is the same for every request. -/
def plainHeader : Text := "Accept: text/html"

/-- A header whose evaluation stores a variable. -/
def storingHeader : Text := "@put:\x7bh::a\x7d<js>"

end Stage

end RuleProbe
