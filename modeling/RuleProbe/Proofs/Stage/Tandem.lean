import RuleProbe.Proofs.Evaluation.Renumber
import RuleProbe.Proofs.Evaluation.Trail
import RuleProbe.Proofs.Parallel
import RuleProbe.Proofs.Stage.Work

/-!
# Walks in tandem

A tandem relates the walks of two stages that run side by side: they are alike in all that is
reported of a stage, and the documents of the second one are numbered higher by an offset.  Every
step that stages take keeps the relation, so from related walks, a piece of work ends alike in
both.  A tandem of a walk with itself says what the steps of a stage keep.
-/

namespace RuleProbe

namespace Stage

open Extraction (Context Found Reaches)

/-- A relation between two walks that the steps of stages keep. -/
structure Tandem where
  /-- The walks are related. -/
  Related : Walk → Walk → Prop
  /-- By how much the documents of the second walk are numbered higher. -/
  offset : Nat
  /-- The walks have the same session. -/
  session_eq {one two : Walk} : Related one two → two.session = one.session
  /-- The documents of the second walk are numbered higher. -/
  documents_eq {one two : Walk} : Related one two → two.documents = one.documents + offset
  /-- The walks depend on the same page. -/
  page_eq {one two : Walk} : Related one two → two.page = one.page
  /-- The walks have noted the same address. -/
  nextUrl_eq {one two : Walk} : Related one two → two.nextUrl = one.nextUrl
  /-- Both walks begin a stage. -/
  begun {one two : Walk} : Related one two → Related one.begun two.begun
  /-- Both sessions are followed by the same one, to which a trail leads. -/
  followed {one two : Walk} {session : Extraction.Session} :
    Related one two → Reaches one.session session →
      Related { one with session } { two with session }
  /-- Both walks number a document. -/
  numbered {one two : Walk} :
    Related one two →
      Related { one with documents := one.documents + 1 }
        { two with documents := two.documents + 1 }
  /-- Both walks note the address of a page that continues the one at hand. -/
  noted {one two : Walk} (url : Text) :
    Related one two → Related { one with nextUrl := some url } { two with nextUrl := some url }
  /-- Both walks make the same calls. -/
  called {one two : Walk} (calls : List Call) :
    Related one two →
      Related { one with calls := calls ++ one.calls } { two with calls := calls ++ two.calls }
  /-- Both walks come to depend on the same page. -/
  depended {one two : Walk} (page : Page) :
    Related one two → Related { one with page := some page } { two with page := some page }

namespace Tandem

variable (tandem : Tandem)
variable {α β : Type}

/-- Two pieces of work run in parallel and return the same. -/
abbrev Alike (one two : Work α) : Prop :=
  Parallel tandem.Related id one two

variable {site : Site}

/-! ## Pieces that all stages share -/

theorem lift (value : Except Fault α) : tandem.Alike (lift value) (lift value) :=
  .of_except value

/-- What comes second may count on a value that a computation without effects returns. -/
theorem liftThen
    {γ : Type}
    {value : Except Fault γ}
    {change : α → β}
    {next : γ → Work α}
    {other : γ → Work β}
    (rest : ∀ found, value = .ok found →
      Parallel tandem.Related change (next found) (other found)) :
    Parallel tandem.Related change (Stage.lift value >>= next) (Stage.lift value >>= other) := by
  refine (tandem.lift value).bind_of_returned fun found state after returned => ?_
  unfold Stage.lift at returned
  rw [runFrom_ofExcept] at returned
  exact rest found (congrArg Prod.fst returned)

theorem extract_map
    {change : α → β}
    {one : Extraction.Extract α}
    {two : Extraction.Extract β}
    (leads : Leads Reaches one)
    (same : two = change <$> one) :
    Parallel tandem.Related change (extract one) (extract two) := by
  intro first second related
  rw [runFrom_extract, runFrom_extract, same, runFrom_map, tandem.session_eq related]
  exact ⟨rfl, tandem.followed related (leads first.session)⟩

theorem extract {action : Extraction.Extract α} (leads : Leads Reaches action) :
    tandem.Alike (extract action) (extract action) :=
  tandem.extract_map leads (id_map action).symm

theorem report
    (level : Log.Level)
    (topic : Log.Topic)
    (message : Text)
    (details : Json.Members) :
    tandem.Alike (report level topic message details) (report level topic message details) :=
  tandem.extract (Extraction.report_leads _)

theorem reportThen
    (level : Log.Level)
    (topic : Log.Topic)
    (message : Text)
    (details : Json.Members)
    (change : α → β)
    (value : α) :
    Parallel tandem.Related change
      (Stage.report level topic message details >>= fun _ => pure value)
      (Stage.report level topic message details >>= fun _ => pure (change value)) :=
  (tandem.report level topic message details).andThen fun _ => .of_pure value

theorem evaluate (context : Context) (rule : Text) :
    Parallel tandem.Related (Extraction.Result.renumber tandem.offset)
      (Stage.extract (Extraction.evaluate site.engine context rule))
      (Stage.extract
        (Extraction.evaluate site.engine (context.renumber tandem.offset) rule)) :=
  tandem.extract_map ((Extraction.leadsAt site.engine _).rule context rule false)
    ((Extraction.renumbersAt tandem.offset site.engine _).rule context rule false)

theorem evaluateList (context : Context) (rule : Text) :
    Parallel tandem.Related (Extraction.Result.renumber tandem.offset)
      (Stage.extract (Extraction.evaluateList site.engine context rule))
      (Stage.extract
        (Extraction.evaluateList site.engine (context.renumber tandem.offset) rule)) :=
  tandem.extract_map ((Extraction.leadsAt site.engine _).rule context rule true)
    ((Extraction.renumbersAt tandem.offset site.engine _).rule context rule true)

theorem interpolate (context : Context) (template : Text) :
    tandem.Alike (Stage.extract (Extraction.interpolate site.engine context template))
      (Stage.extract
        (Extraction.interpolate site.engine (context.renumber tandem.offset) template)) := by
  have same := (Extraction.renumbersAt tandem.offset site.engine Extraction.depthLimit).template
    context template
  unfold Extraction.interpolate
  rw [same]
  exact tandem.extract ((Extraction.leadsAt site.engine _).template context template)

theorem runScript (context : Context) (code : Text) (input : Json) (required : Bool) :
    tandem.Alike (Stage.extract (Extraction.runScript site.engine context code input required))
      (Stage.extract
        (Extraction.runScript site.engine (context.renumber tandem.offset) code input
          required)) :=
  tandem.extract (Extraction.runScript_leads site.engine context code input required)

theorem contextOf
    (body pageUrl : Text)
    (book chapter : Json)
    (extra : Json.Members) :
    Parallel tandem.Related (Context.renumber tandem.offset)
      (contextOf site body pageUrl book chapter extra)
      (contextOf site body pageUrl book chapter extra) := by
  have built (baseUrl : Text) :
      Parallel tandem.Related (Context.renumber tandem.offset)
        (do
          let before ← (get : Work Walk)
          modify fun walk => { walk with documents := before.documents + 1 }
          return ({ document := .ofBody before.documents body, baseUrl, book, chapter, extra } :
            Context))
        (do
          let before ← (get : Work Walk)
          modify fun walk => { walk with documents := before.documents + 1 }
          return ({ document := .ofBody before.documents body, baseUrl, book, chapter, extra } :
            Context)) := by
    intro first second related
    simp only [runFrom_bind, runFrom_get, runFrom_modify, runFrom_pure]
    refine ⟨?_, tandem.numbered related⟩
    rw [tandem.documents_eq related]
    rfl
  unfold Stage.contextOf
  simp only
  split
  · exact (tandem.lift _).andThen built
  · exact built pageUrl

theorem resolve (url base : Text) :
    tandem.Alike (resolve site url base) (resolve site url base) := by
  unfold Stage.resolve
  simp only
  split
  · exact (tandem.lift _).andThen fun _ => tandem.lift _
  · exact tandem.lift _

theorem reportRequest (ask : PageRequest) (headers : Json.Members) :
    tandem.Alike (reportRequest ask headers) (reportRequest ask headers) := by
  unfold Stage.reportRequest
  refine (tandem.report _ _ _ _).andThen fun _ => ?_
  split
  · exact tandem.report _ _ _ _
  · exact .of_pure _

theorem fetchPage (headers : Json.Members) (ask : PageRequest) (primary : Bool) :
    tandem.Alike (fetchPage site headers ask primary)
      (fetchPage site headers ask primary) := by
  unfold Stage.fetchPage
  refine (tandem.reportRequest ask headers).andThen fun _ => ?_
  refine (tandem.lift _).andThen fun found => ?_
  refine Parallel.andThen (.of_modify fun one two related => ?_) fun _ => ?_
  · have called := tandem.called (found.2.toList.map Call.request) related
    cases primary with
    | true => exact tandem.depended found.1 called
    | false => exact called
  · refine .ite ?_ ?_
    · exact tandem.reportThen _ _ _ _ id found.1
    · refine .ite ?_ ?_
      · exact Parallel.andThen (.of_throw _) fun _ : PUnit => .of_pure found.1
      · exact tandem.reportThen _ _ _ _ id found.1

theorem noteNext (pageUrl : Text) (found : Option Text) :
    tandem.Alike (noteNext site pageUrl found) (noteNext site pageUrl found) := by
  unfold Stage.noteNext
  cases found with
  | none => exact .of_pure _
  | some url =>
      refine (tandem.resolve url pageUrl).andThen fun resolved => ?_
      refine .ite (.of_modify fun one two related => ?_) (.of_pure _)
      exact tandem.noted resolved related

/-! ## Variables -/

theorem stored? (key : Text) :
    tandem.Alike (Stage.extract (Extraction.stored? key))
      (Stage.extract (Extraction.stored? key)) :=
  tandem.extract (Leads.of_get.bind fun _ => .of_pure _)

/-- The parameters of an address are stored under a condition on what is stored already. -/
theorem storeParameter
    {address key value : Text}
    {url : Url}
    (read : Url.read [] address = .ok url)
    (given : (key, value) ∈ Query.parameters url.query)
    (label : Text) :
    tandem.Alike (storeParameter key value label) (storeParameter key value label) := by
  unfold Stage.storeParameter
  refine (tandem.extract fun session => ?_).andThen fun _ => tandem.report _ _ _ _
  exact (Extraction.Step.parameter session read given).reaches

end Tandem

end Stage

/-!
## Fields and lists in tandem

From related walks, a field is read alike in two contexts that differ in the numbers of their
documents only, and so are lists of elements and the records of elements.
-/

namespace Stage

open Extraction (Context Found)

namespace Tandem

variable (tandem : Tandem)
variable {site : Site}

/-! ### Fields -/

theorem readField (context : Context) (name : Text) (rule : Json) (style : FieldStyle) :
    tandem.Alike (readField site context name rule style)
      (readField site (context.renumber tandem.offset) name rule style) := by
  unfold Stage.readField
  refine .ite (.of_pure _) ?_
  refine (tandem.lift _).andThen fun text => ?_
  refine (tandem.evaluate context text).bind fun result => ?_
  simp only [Extraction.Result.renumber_reason?, Extraction.Result.renumber_givenTexts]
  cases result.reason? with
  | some reason => exact tandem.reportThen _ _ _ _ id none
  | none =>
      refine .ite ?_ ?_
      · exact .optionally (tandem.report _ _ _ _) (.of_pure _)
      · exact .optionally (tandem.report _ _ _ _) (.of_pure _)

/-! ### Lists -/

theorem readElements (context : Context) (rule : Json) (what : Text) :
    Parallel tandem.Related (List.map (Found.renumber tandem.offset))
      (readElements site context rule what)
      (readElements site (context.renumber tandem.offset) rule what) := by
  unfold Stage.readElements
  refine .ite (tandem.reportThen _ _ _ _ _ []) ?_
  refine (tandem.lift _).andThen fun text => ?_
  refine (tandem.evaluateList context text).bind fun result => ?_
  cases result with
  | failed reason => exact tandem.reportThen _ _ _ _ _ []
  | found values =>
      have firstText := Extraction.Result.renumber_firstText tandem.offset (.found values)
      simp only [Extraction.Result.renumber] at firstText ⊢
      rw [firstText, List.isEmpty_map, List.length_map]
      refine .ite ?_ ?_
      · exact tandem.reportThen _ _ _ _ _ values
      · exact tandem.reportThen _ _ _ _ _ values

/-! ### Books -/

theorem readFields (context : Context) (label : Text) (rules : List (Text × Json)) :
    tandem.Alike (readFields site context label rules)
      (readFields site (context.renumber tandem.offset) label rules) := by
  unfold Stage.readFields
  refine .foldlM (fun record rule _ => ?_) []
  refine (tandem.readField context _ _ _).andThen fun found => ?_
  cases found with
  | none => exact .of_pure record
  | some value =>
      refine .ite ?_ ?_
      · exact (tandem.resolve _ _).andThen fun resolved => .of_pure _
      · exact .of_pure _

theorem readAddress (context : Context) (label : Text) (rule : Json) (record : Record) :
    tandem.Alike (readAddress site context label rule record)
      (readAddress site (context.renumber tandem.offset) label rule record) := by
  unfold Stage.readAddress
  refine .ite (.of_pure record) ?_
  refine (tandem.readField { context with book := .obj record, chapter := .null } _ _
    _).andThen fun found => ?_
  cases found with
  | none => exact .of_pure record
  | some value => exact (tandem.resolve _ _).andThen fun resolved => .of_pure _

theorem readBook
    (context : Context)
    (label : Text)
    (rules : List (Text × Json))
    (addressRule : Json) :
    tandem.Alike (readBook site context label rules addressRule)
      (readBook site (context.renumber tandem.offset) label rules addressRule) := by
  unfold Stage.readBook
  refine (tandem.readFields context label rules).andThen fun record => ?_
  refine (tandem.readAddress context label addressRule record).andThen fun record => ?_
  exact .ite (tandem.reportThen _ _ _ _ id none) (.of_pure _)

theorem readBooks
    (context : Context)
    (listRule : Json)
    (rules : List (Text × Json))
    (what : Text) :
    tandem.Alike (readBooks site context listRule rules what)
      (readBooks site (context.renumber tandem.offset) listRule rules what) := by
  have taken (elements : List Found) :
      takeUpTo site.settings.itemLimit (elements.map (Found.renumber tandem.offset)) =
        (takeUpTo site.settings.itemLimit elements).map (Found.renumber tandem.offset) := by
    unfold takeUpTo
    split
    · exact List.map_take.symm
    · rw [List.length_map, List.map_take]
  unfold Stage.readBooks
  refine (tandem.readElements context listRule what).bind fun elements => ?_
  simp only [List.length_map, taken, List.zipIdx_map]
  refine .optionally (tandem.report _ _ _ _) ?_
  refine Parallel.andThen (.filterMapM _ fun turn => ?_) fun books => ?_
  · exact tandem.readBook (context.withElement turn.1) _ _ _
  · exact tandem.reportThen _ _ _ _ id books

/-! ### Chapters -/

theorem reportChapters (chapters : List Record) :
    tandem.Alike (reportChapters chapters) (reportChapters chapters) := by
  unfold Stage.reportChapters
  refine Parallel.andThen (.forM fun turn _ => ?_) fun _ => tandem.report _ _ _ _
  refine .ite (tandem.report _ _ _ _) ?_
  exact .ite (tandem.report _ _ _ _) (.of_pure _)

theorem readChapters
    (context : Context)
    (listRule : Json)
    {read : Context → FieldStyle → Work Record}
    (reads : ∀ inner style,
      tandem.Alike (read inner style) (read (inner.renumber tandem.offset) style)) :
    tandem.Alike (readChapters site context listRule read)
      (readChapters site (context.renumber tandem.offset) listRule read) := by
  unfold Stage.readChapters
  refine (tandem.readElements context listRule _).bind fun elements => ?_
  rw [List.zipIdx_map]
  refine Parallel.andThen (.filterMapM _ fun turn => ?_) fun chapters => ?_
  · exact (reads (context.withElement turn.1) _).andThen fun record => .of_pure _
  · exact (tandem.reportChapters chapters).andThen fun _ => .of_pure chapters

theorem linkAddress (link : Option Text) (pageUrl : Text) :
    tandem.Alike (linkAddress site link pageUrl) (linkAddress site link pageUrl) := by
  cases link with
  | none => exact .of_pure _
  | some link => exact tandem.resolve link pageUrl

/-! ### Addresses -/

theorem withoutTitle (target : Text) :
    tandem.Alike (withoutTitle target) (withoutTitle target) := by
  unfold Stage.withoutTitle
  cases Text.cut? Entry.divider target with
  | none => exact .of_pure target
  | some cut => exact tandem.reportThen _ _ _ _ id _

theorem exploredAddress
    (url : Text)
    {entries : Work (List Entry)}
    (alike : tandem.Alike entries entries) :
    tandem.Alike (exploredAddress url entries) (exploredAddress url entries) := by
  unfold Stage.exploredAddress
  simp only
  split
  · refine Parallel.andThen (alike.map fun found => ?_) fun target => tandem.withoutTitle target
    rfl
  · exact tandem.withoutTitle url

/-! ### Content -/

theorem reportContentFlaw (result : Extraction.Result) (rule : Json) :
    tandem.Alike (reportContentFlaw result rule)
      (reportContentFlaw (result.renumber tandem.offset) rule) := by
  unfold Stage.reportContentFlaw
  rw [Extraction.Result.renumber_reason?]
  cases result.reason? with
  | some reason => exact tandem.report _ _ _ _
  | none => exact .of_pure _

theorem reportImages (images : List Text) :
    tandem.Alike (reportImages images) (reportImages images) := by
  cases images with
  | nil => exact tandem.report _ _ _ _
  | cons first rest => exact tandem.report _ _ _ _

theorem reportRawImages (images : List Text) :
    tandem.Alike (reportRawImages images) (reportRawImages images) := by
  unfold Stage.reportRawImages
  exact .ite (.of_pure _) (tandem.report _ _ _ _)

end Tandem

end Stage

end RuleProbe
