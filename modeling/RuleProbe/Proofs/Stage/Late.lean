import RuleProbe.Proofs.Stage.Work
import RuleProbe.Stage.Manga

/-!
# Faults that come late

Reading a field, a list of elements or the record of an element ends in late faults only: a
flaw of a rule costs the field, and an element that is a text instead of a handle is the one
fault that a list brings with it.

Before the page of a stage is fetched, nothing that the stage does touches the record of the
page.  So when a stage fails although its page is there, the fault is one of the work that
follows the fetching.
-/

namespace RuleProbe

namespace Stage

open Extraction (Context Found)

variable {site : Site}

/-! ## Fields -/

theorem readField_late
    {context : Context}
    (staged : context.Staged)
    (name : Text)
    {rule : Json}
    (isRule : IsRule site rule)
    (style : FieldStyle) :
    EndsLate site (readField site context name rule style) := by
  unfold readField
  split
  · exact .of_pure trivial
  · refine (lift_ends isRule).bind fun text _ => ?_
    refine (extract_ends (evaluateAt_late staged _ _ text false)).bind fun result _ => ?_
    simp only
    split
    · exact reportThen_ends trivial
    · split
      · exact .optionally (report_ends _ _ _ _) (.of_pure trivial)
      · exact .optionally (report_ends _ _ _ _) (.of_pure trivial)

/-! ## Lists -/

/-- The elements of a list are texts or handles. -/
def AreElements (elements : List Found) : Prop :=
  ∀ element ∈ elements, element.IsText ∨ ∃ pointer, element = .handle pointer

theorem evaluateList_late
    {context : Context}
    (staged : context.Staged)
    (engine : Extraction.Engine)
    (rule : Text) :
    Ends (fun result => AreElements result.values) (Late site)
      (Extraction.evaluateList engine context rule) := by
  have late := @evaluateAt_late site _ staged engine Extraction.depthLimit rule true
  have kinds := Extraction.evaluateAt_cameOf engine Extraction.depthLimit context rule
  refine (late.and kinds).mono (fun result both element member => ?_) fun _ holds => holds
  obtain ⟨branch, -, came⟩ := both.2 element member
  rcases came.handle_or_written with ⟨pointer, same, -⟩ | ⟨isText, -⟩
  · exact .inr ⟨pointer, same⟩
  · exact .inl isText

theorem readElements_late
    {context : Context}
    (staged : context.Staged)
    {rule : Json}
    (isRule : IsRule site rule)
    (what : Text) :
    Ends AreElements (Late site) (readElements site context rule what) := by
  have none : AreElements [] := by
    intro element member
    cases member
  unfold readElements
  split
  · exact reportThen_ends none
  · refine (lift_ends isRule).bind fun text _ => ?_
    refine (extract_ends (evaluateList_late staged _ text)).bind fun result elements => ?_
    cases result with
    | failed reason => exact reportThen_ends none
    | found values =>
        simp only
        split
        · exact reportThen_ends elements
        · exact reportThen_ends elements

/-! ## Books -/

theorem readFields_late
    (isField : IsField site.url)
    {context : Context}
    (staged : context.Staged)
    (label : Text)
    {rules : List (Text × Json)}
    (areRules : ∀ rule ∈ rules, IsRule site rule.2) :
    EndsLate site (readFields site context label rules) := by
  unfold readFields
  refine Ends.foldlM (fun _ _ => True) (fun _ rule record member _ => ?_) trivial
  simp only
  refine (readField_late staged _ (areRules rule member) _).bind fun found _ => ?_
  cases found with
  | none => exact .of_pure trivial
  | some value =>
      simp only
      split
      · exact (resolve_late isField _ _).bind fun _ _ => .of_pure trivial
      · exact .of_pure trivial

theorem readAddress_late
    (isField : IsField site.url)
    {context : Context}
    (staged : context.Staged)
    (label : Text)
    {rule : Json}
    (isRule : IsRule site rule)
    (record : Record) :
    EndsLate site (readAddress site context label rule record) := by
  have inner : Context.Staged { context with book := .obj record, chapter := .null } :=
    ⟨staged.read, staged.attached⟩
  unfold readAddress
  split
  · exact .of_pure trivial
  · refine (readField_late inner _ isRule _).bind fun found _ => ?_
    cases found with
    | none => exact .of_pure trivial
    | some value => exact (resolve_late isField _ _).bind fun _ _ => .of_pure trivial

/-- The rules of a list are rules, and so is the one under a name. -/
theorem isRule_get?
    {rules : List (Text × Json)}
    (areRules : ∀ rule ∈ rules, IsRule site rule.2)
    (name : Text) :
    IsRule site ((Keyed.get? rules name).getD .null) := by
  induction rules with
  | nil => exact isRule_of_field (.inl rfl)
  | cons rule rest hypothesis =>
      rw [Keyed.get?]
      split
      · exact areRules rule List.mem_cons_self
      · exact hypothesis fun rule member => areRules rule (List.mem_cons_of_mem _ member)

theorem mem_of_mem_zipIdx
    {α : Type}
    {items : List α}
    {pair : α × Nat}
    (member : pair ∈ items.zipIdx) :
    pair.1 ∈ items := by
  rw [← List.zipIdx_map_fst 0 items]
  exact List.mem_map_of_mem member

theorem readBook_late
    (isField : IsField site.url)
    {context : Context}
    (staged : context.Staged)
    (label : Text)
    {rules : List (Text × Json)}
    (areRules : ∀ rule ∈ rules, IsRule site rule.2)
    {addressRule : Json}
    (isRule : IsRule site addressRule) :
    EndsLate site (readBook site context label rules addressRule) := by
  unfold readBook
  refine (readFields_late isField staged label areRules).bind fun record _ => ?_
  refine (readAddress_late isField staged label isRule record).bind fun record _ => ?_
  split
  · exact reportThen_ends trivial
  · exact .of_pure trivial

theorem mem_of_mem_takeUpTo
    {α : Type}
    {limit : Int}
    {items : List α}
    {item : α}
    (member : item ∈ takeUpTo limit items) :
    item ∈ items := by
  unfold takeUpTo at member
  split at member
  · exact List.mem_of_mem_take member
  · exact List.mem_of_mem_take member

/-- The elements of a list are read one by one, and each of them can be evaluated on. -/
theorem readBooks_late
    (isField : IsField site.url)
    {context : Context}
    (staged : context.Staged)
    {listRule : Json}
    (isRule : IsRule site listRule)
    {rules : List (Text × Json)}
    (areRules : ∀ rule ∈ rules, IsRule site rule.2)
    (what : Text) :
    EndsLate site (readBooks site context listRule rules what) := by
  unfold readBooks
  refine (readElements_late staged isRule what).bind fun elements areElements => ?_
  have others : ∀ rule ∈ rules.filter (fun rule => rule.1 != addressField),
      IsRule site rule.2 :=
    fun rule member => areRules rule (List.mem_of_mem_filter member)
  have books :
      EndsLate site ((takeUpTo site.settings.itemLimit elements).zipIdx.filterMapM
        fun turn => readBook site (context.withElement turn.1) (itemLabel (turn.2 + 1))
          (rules.filter fun rule => rule.1 != addressField)
          ((Keyed.get? rules addressField).getD .null)) := by
    refine Ends.filterMapM fun turn member => ?_
    have kind := areElements turn.1 (mem_of_mem_takeUpTo (mem_of_mem_zipIdx member))
    exact readBook_late isField (staged.withElement kind) _ others
      (isRule_get? areRules addressField)
  refine .optionally (report_ends _ _ _ _) ?_
  refine books.bind fun found _ => ?_
  exact reportThen_ends trivial

/-! ## Chapters -/

theorem reportChapters_late (chapters : List Record) :
    EndsLate site (reportChapters chapters) := by
  unfold reportChapters
  refine (Ends.forM fun turn _ => ?_).bind fun _ _ => report_ends _ _ _ _
  simp only
  split
  · exact report_ends _ _ _ _
  · split
    · exact report_ends _ _ _ _
    · exact .of_pure trivial

theorem readChapters_late
    {context : Context}
    (staged : context.Staged)
    {listRule : Json}
    (isRule : IsRule site listRule)
    {read : Context → FieldStyle → Work Record}
    (reads : ∀ inner style, inner.Staged → EndsLate site (read inner style)) :
    EndsLate site (readChapters site context listRule read) := by
  unfold readChapters
  refine (readElements_late staged isRule _).bind fun elements areElements => ?_
  refine Ends.bind (?_ : EndsLate site _) fun chapters _ => ?_
  · refine Ends.filterMapM fun turn member => ?_
    have kind := areElements turn.1 (mem_of_mem_zipIdx member)
    refine (reads _ _ (staged.withElement kind)).bind fun record _ => ?_
    exact .of_pure (by simp)
  · exact (reportChapters_late chapters).bind fun _ _ => .of_pure trivial

theorem linkAddress_late
    (isField : IsField site.url)
    (link : Option Text)
    (pageUrl : Text) :
    EndsLate site (linkAddress site link pageUrl) := by
  cases link with
  | none => exact .of_pure trivial
  | some link => exact resolve_late isField link pageUrl

theorem noteNext_late
    (isField : IsField site.url)
    (pageUrl : Text)
    (found : Option Text) :
    EndsLate site (noteNext site pageUrl found) := by
  unfold noteNext
  cases found with
  | none => exact .of_pure trivial
  | some url =>
      refine (resolve_late isField url pageUrl).bind fun resolved _ => ?_
      split
      · exact .of_modify _
      · exact .of_pure trivial

/-! ## Content -/

theorem reportContentFlaw_late (result : Extraction.Result) (rule : Json) :
    EndsLate site (reportContentFlaw result rule) := by
  unfold reportContentFlaw
  split
  · exact report_ends _ _ _ _
  · exact .of_pure trivial

theorem reportImages_late (images : List Text) : EndsLate site (reportImages images) := by
  cases images with
  | nil => exact report_ends _ _ _ _
  | cons first rest => exact report_ends _ _ _ _

theorem reportRawImages_late (images : List Text) :
    EndsLate site (reportRawImages images) := by
  unfold reportRawImages
  split
  · exact .of_pure trivial
  · exact report_ends _ _ _ _

variable {α β : Type}

/-! ## Work that leaves the page alone -/

/-- The second walk has the page of the first one. -/
def SamePage (before after : Walk) : Prop :=
  after.page = before.page

instance : IsPreorder Walk SamePage where
  refl _ := rfl
  trans _ _ _ first second := second.trans first

/-- A piece of work leaves the page of the stage as it is, however it ends. -/
def KeepsPage (action : Work α) : Prop :=
  ∀ walk, (runFrom action walk).2.page = walk.page

theorem keepsPage_iff {action : Work α} : KeepsPage action ↔ Leads SamePage action :=
  .rfl

namespace KeepsPage

theorem of_pure (value : α) : KeepsPage (pure value) :=
  keepsPage_iff.mpr (.of_pure value)

theorem of_throw (fault : Fault) : KeepsPage (α := α) (throw fault) :=
  keepsPage_iff.mpr (.of_throw fault)

theorem of_get : KeepsPage (get : Work Walk) :=
  keepsPage_iff.mpr .of_get

theorem of_modify {change : Walk → Walk} (keeps : ∀ walk, (change walk).page = walk.page) :
    KeepsPage (modify change) :=
  keeps

theorem of_lift (value : Except Fault α) : KeepsPage (lift value) :=
  keepsPage_iff.mpr (.of_except value)

theorem of_extract (action : Extraction.Extract α) : KeepsPage (extract action) := by
  intro walk
  rw [runFrom_extract]

theorem of_report
    (level : Log.Level)
    (topic : Log.Topic)
    (message : Text)
    (details : Json.Members) :
    KeepsPage (report level topic message details) :=
  of_extract _

theorem bind
    {action : Work α}
    {next : α → Work β}
    (first : KeepsPage action)
    (rest : ∀ value, KeepsPage (next value)) :
    KeepsPage (action >>= next) :=
  keepsPage_iff.mpr ((keepsPage_iff.mp first).bind rest)

/-- Work that may be given up before it begins. -/
theorem guarded
    {condition : Prop}
    [Decidable condition]
    {action : Work α}
    (fault : Fault)
    (rest : KeepsPage action) :
    KeepsPage (if condition then throw fault >>= fun _ : PUnit => action else action) := by
  split
  · exact (of_throw fault).bind fun _ => rest
  · exact rest

theorem map
    {action : Work α}
    (keeps : KeepsPage action)
    (change : α → β) :
    KeepsPage (change <$> action) :=
  keepsPage_iff.mpr ((keepsPage_iff.mp keeps).map change)

theorem tryCatch
    {action : Work α}
    {handler : Fault → Work α}
    (first : KeepsPage action)
    (rest : ∀ fault, KeepsPage (handler fault)) :
    KeepsPage (tryCatch action handler) :=
  keepsPage_iff.mpr ((keepsPage_iff.mp first).tryCatch rest)

theorem foldlM
    {items : List β}
    {body : α → β → Work α}
    (each : ∀ value item, KeepsPage (body value item))
    (start : α) :
    KeepsPage (items.foldlM body start) :=
  keepsPage_iff.mpr (Leads.foldlM (fun value item _ => keepsPage_iff.mp (each value item)) start)

theorem forM
    {items : List β}
    {body : β → Work PUnit}
    (each : ∀ item, KeepsPage (body item)) :
    KeepsPage (items.forM body) :=
  keepsPage_iff.mpr (Leads.forM fun item _ => keepsPage_iff.mp (each item))

end KeepsPage

/-! ## Work that waits for its page -/

variable {site : Site}

/-- The page of a stage is there. -/
def Walk.HasPage (walk : Walk) : Prop :=
  ∃ page, walk.page = some page ∧ page.success = true

/-- A piece of work that begins without a page ends late, if it fails although its page is
there. -/
def AwaitsPage (site : Site) (action : Work α) : Prop :=
  ∀ walk fault after, walk.page = none → runFrom action walk = (.error fault, after) →
    after.HasPage → Late site fault

namespace AwaitsPage

theorem of_endsLate {action : Work α} (late : EndsLate site action) :
    AwaitsPage site action :=
  fun _ _ _ _ failed _ => late.fault failed

/-- What comes before leaves the page alone, so the rest still waits for it. -/
theorem bind
    {action : Work α}
    {next : α → Work β}
    (first : KeepsPage action)
    (rest : ∀ value, AwaitsPage site (next value)) :
    AwaitsPage site (action >>= next) := by
  intro walk fault final missing failed here
  have kept := first walk
  rw [missing] at kept
  rw [runFrom_bind] at failed
  cases ended : runFrom action walk with
  | mk result after =>
      rw [ended] at kept failed
      cases result with
      | ok value => exact rest value after fault final kept failed here
      | error found =>
          cases failed
          obtain ⟨page, stands, -⟩ := here
          rw [kept] at stands
          cases stands

/-- Once the page is fetched, only the work that follows can end although it is there. -/
theorem fetchPage
    {next : Page → Work α}
    (headers : Json.Members)
    (ask : PageRequest)
    (rest : ∀ page, EndsLate site (next page)) :
    AwaitsPage site (fetchPage site headers ask >>= next) := by
  unfold Stage.fetchPage reportRequest
  simp only [bind_assoc]
  refine bind (.of_report _ _ _ _) fun _ => ?_
  refine bind ?_ fun _ => ?_
  · split
    · exact .of_report _ _ _ _
    · exact .of_pure _
  refine bind (.of_lift _) fun found => ?_
  cases there : found.1.success with
  | true =>
      refine of_endsLate ?_
      refine (Ends.of_modify _).bind fun _ _ => ?_
      simp only [if_true, bind_assoc, pure_bind]
      exact (report_ends _ _ _ _).bind fun _ _ => rest found.1
  | false =>
      intro walk fault after _ failed here
      rw [runFrom_bind, runFrom_modify] at failed
      simp only [Bool.false_eq_true, if_false, if_true] at failed
      cases failed
      obtain ⟨page, same, success⟩ := here
      cases same
      rw [there] at success
      cases success

end AwaitsPage

/-! ## Pieces that all stages share -/

theorem contextOf_keeps
    (body pageUrl : Text)
    (book chapter : Json)
    (extra : Json.Members) :
    KeepsPage (contextOf site body pageUrl book chapter extra) := by
  have built (baseUrl : Text) :
      KeepsPage (do
        let before ← (get : Work Walk)
        modify fun walk => { walk with documents := before.documents + 1 }
        return ({ document := .ofBody before.documents body, baseUrl, book, chapter, extra } :
          Extraction.Context)) := by
    refine .bind .of_get fun before => ?_
    exact .bind (.of_modify fun _ => rfl) fun _ => .of_pure _
  unfold contextOf
  simp only
  split
  · exact .bind (.of_lift _) built
  · exact built pageUrl

theorem resolve_keeps (url base : Text) : KeepsPage (resolve site url base) := by
  unfold resolve
  split
  · exact .bind (.of_lift _) fun _ => .of_lift _
  · exact .of_lift _

theorem withoutTitle_keeps (target : Text) : KeepsPage (withoutTitle target) := by
  unfold withoutTitle
  split
  · exact .bind (.of_report _ _ _ _) fun _ => .of_pure _
  · exact .of_pure _

theorem exploredAddress_keeps
    (url : Text)
    {entries : Work (List Entry)}
    (keeps : KeepsPage entries) :
    KeepsPage (exploredAddress url entries) := by
  unfold exploredAddress
  simp only
  split
  · exact .bind (keeps.map _) withoutTitle_keeps
  · exact withoutTitle_keeps url

/-- A request without a body can always be made. -/
theorem fetch_withoutBody
    {bad : Fault → Prop}
    (network : Http.Network)
    (url : Text)
    {options : Http.Options}
    (bodiless : options.body = .null) :
    FailsBy bad ((Http.fetch network url options).mapError .defect) := by
  unfold Http.fetch
  split
  · exact .of_ok _
  · simp only [Http.requestFor, Http.bodyOf, bodiless]
    exact .of_ok _

/-- A page on which the stage does not depend may be missing. -/
theorem fetchSecondary_late (headers : Json.Members) (url : Text) :
    EndsLate site (fetchPage site headers { url } false) := by
  unfold fetchPage reportRequest
  simp only [bind_assoc]
  refine (report_ends _ _ _ _).bind fun _ _ => ?_
  refine Ends.bind (.of_pure trivial : EndsLate site _) fun _ _ => ?_
  refine (lift_ends (fetch_withoutBody _ _ rfl)).bind fun found _ => ?_
  refine (Ends.of_modify _).bind fun _ _ => ?_
  split
  · exact reportThen_ends trivial
  · exact reportThen_ends trivial

end Stage

end RuleProbe
