import Mathlib.Data.List.Basic
import RuleProbe.Proofs.Stage.Work
import RuleProbe.Stage

/-!
# The legs of a walk

A walk from a search to the content of a chapter is a course of stages: each one begins in the
walk that the stage before has left, with the task that the stages so far lead to.  The walk ends
at the first stage that brings nothing to go on with, so all stages before that one succeed.
-/

namespace RuleProbe

namespace Stage

/-! ## What stages find -/

section

variable (site : Site)

/-- The payload of a list is a list of records. -/
def IsRecords (payload : Payload) : Prop := ∃ records, payload = .records records

/-- The payload of the details of a book is a record. -/
def IsRecord (payload : Payload) : Prop := ∃ record, payload = .record record

namespace Book

theorem search_isRecords (keyword : Text) (page : Int) :
    Ends IsRecords (fun _ => True) (search site keyword page) := by
  unfold search readBookList
  refine (Ends.any _).bind fun ask _ => ?_
  refine (Ends.any _).bind fun _ _ => ?_
  refine (Ends.any _).bind fun found _ => ?_
  refine (Ends.any _).bind fun context _ => ?_
  refine (Ends.any _).bind fun rules _ => ?_
  exact (Ends.any _).bind fun books _ => .of_pure ⟨_, rfl⟩

theorem detail_isRecord (url : Text) (book : Json) :
    Ends IsRecord (fun _ => True) (detail site url book) := by
  unfold detail
  refine (Ends.any _).bind fun ask _ => ?_
  refine (Ends.any _).bind fun found _ => ?_
  refine (Ends.any _).bind fun _ _ => ?_
  refine (Ends.any _).bind fun context _ => ?_
  refine (Ends.any _).bind fun rules _ => ?_
  refine .optionally (Ends.any _) ?_
  refine (Ends.any _).bind fun context _ => ?_
  refine (Ends.any _).bind fun record _ => ?_
  refine (Ends.any _).bind fun record _ => ?_
  split
  · exact (Ends.any _).bind fun _ _ => .of_pure ⟨_, rfl⟩
  · exact (Ends.any _).bind fun record _ => .of_pure ⟨_, rfl⟩

theorem chapters_isRecords (url : Text) (book : Json) :
    Ends IsRecords (fun _ => True) (chapters site url book) := by
  unfold chapters
  refine (Ends.any _).bind fun ask _ => ?_
  refine (Ends.any _).bind fun found _ => ?_
  refine (Ends.any _).bind fun _ _ => ?_
  refine (Ends.any _).bind fun context _ => ?_
  refine (Ends.any _).bind fun rules _ => ?_
  refine (Ends.any _).bind fun chapters _ => ?_
  refine (Ends.any _).bind fun next _ => ?_
  exact (Ends.any _).bind fun _ _ => .of_pure ⟨_, rfl⟩

end Book

namespace Manga

theorem search_isRecords (keyword : Text) (page : Int) :
    Ends IsRecords (fun _ => True) (search site keyword page) := by
  unfold search readBookList
  refine (Ends.any _).bind fun url _ => ?_
  refine (Ends.any _).bind fun _ _ => ?_
  refine (Ends.any _).bind fun found _ => ?_
  refine (Ends.any _).bind fun context _ => ?_
  refine (Ends.any _).bind fun fieldRules _ => ?_
  refine (Ends.any _).bind fun listRule _ => ?_
  exact (Ends.any _).bind fun books _ => .of_pure ⟨_, rfl⟩

theorem detail_isRecord (url : Text) (book : Json) :
    Ends IsRecord (fun _ => True) (detail site url book) := by
  unfold detail
  refine (Ends.any _).bind fun url _ => ?_
  refine (Ends.any _).bind fun _ _ => ?_
  refine (Ends.any _).bind fun found _ => ?_
  refine (Ends.any _).bind fun context _ => ?_
  refine (Ends.any _).bind fun record _ => ?_
  refine (Ends.any _).bind fun rule _ => ?_
  refine (Ends.any _).bind fun chapters _ => ?_
  split
  · exact (Ends.any _).bind fun url _ => .of_pure ⟨_, rfl⟩
  · exact (Ends.any _).bind fun _ _ => .of_pure ⟨_, rfl⟩

theorem chapters_isRecords (url : Text) (book : Json) :
    Ends IsRecords (fun _ => True) (chapters site url book) := by
  unfold chapters
  refine (Ends.any _).bind fun url _ => ?_
  refine (Ends.any _).bind fun _ _ => ?_
  refine (Ends.any _).bind fun found _ => ?_
  refine (Ends.any _).bind fun context _ => ?_
  refine (Ends.any _).bind fun context _ => ?_
  refine (Ends.any _).bind fun nameRule _ => ?_
  refine (Ends.any _).bind fun urlRule _ => ?_
  refine (Ends.any _).bind fun listRule _ => ?_
  refine (Ends.any _).bind fun chapters _ => ?_
  refine (Ends.any _).bind fun nextRule _ => ?_
  refine (Ends.any _).bind fun next _ => ?_
  exact (Ends.any _).bind fun _ _ => .of_pure ⟨_, rfl⟩

end Manga

theorem work_search_isRecords (keyword : Text) (page : Int) :
    Ends IsRecords (fun _ => True) (work site (.search keyword page)) := by
  unfold work
  cases site.kind with
  | book => exact Book.search_isRecords site keyword page
  | manga => exact Manga.search_isRecords site keyword page

theorem work_detail_isRecord (url : Text) (book : Json) :
    Ends IsRecord (fun _ => True) (work site (.detail url book)) := by
  unfold work
  cases site.kind with
  | book => exact Book.detail_isRecord site url book
  | manga => exact Manga.detail_isRecord site url book

theorem work_chapters_isRecords (url : Text) (book : Json) :
    Ends IsRecords (fun _ => True) (work site (.chapters url book)) := by
  unfold work
  cases site.kind with
  | book => exact Book.chapters_isRecords site url book
  | manga => exact Manga.chapters_isRecords site url book

end

/-! ## Legs -/

/-- A leg of a walk: a task, and the walk in which its stage begins. -/
structure Leg where
  /-- The task. -/
  task : Task
  /-- The walk before the stage. -/
  before : Walk

namespace Leg

variable (site : Site)

/-- The outcome of the stage. -/
def outcome (leg : Leg) : Outcome := ((run site leg.task).run leg.before).1

/-- The walk that the stage leaves. -/
def after (leg : Leg) : Walk := ((run site leg.task).run leg.before).2

theorem run_eq (leg : Leg) :
    (run site leg.task).run leg.before = (leg.outcome site, leg.after site) := rfl

theorem outcome_eq (leg : Leg) :
    leg.outcome site = .ofEnd leg.task.name (runFrom (work site leg.task) leg.before.begun) := by
  unfold outcome run
  rw [perform_eq]

@[simp] theorem stage_outcome (leg : Leg) : (leg.outcome site).stage = leg.task.name := by
  rw [outcome_eq]
  rfl

/-- What a stage finds is what its work returns. -/
theorem found_or_failed
    {good : Payload → Prop}
    (leg : Leg)
    (ends : Ends good (fun _ => True) (work site leg.task)) :
    (∃ payload, (leg.outcome site).ending = .found payload ∧ good payload) ∨
      ∃ reason, (leg.outcome site).ending = .failed reason := by
  rw [outcome_eq]
  cases ended : runFrom (work site leg.task) leg.before.begun with
  | mk result after =>
      cases result with
      | ok payload => exact .inl ⟨payload, rfl, ends.value ended⟩
      | error fault => exact .inr ⟨_, rfl⟩

end Leg

theorem Outcome.success_of_found
    {outcome : Outcome}
    {payload : Payload}
    (found : outcome.ending = .found payload) :
    outcome.success = true := by
  rw [Outcome.success, found]

theorem Outcome.success_of_failed
    {outcome : Outcome}
    {reason : Text}
    (failed : outcome.ending = .failed reason) :
    outcome.success = false := by
  rw [Outcome.success, failed]

/-! ## Courses -/

/-- A chapter leads on to its content: it has an address, and is not the title of a volume. -/
def LeadsOn (chapter : Record) : Prop :=
  chapter.text "url" ≠ [] ∧ ((Keyed.get? chapter "isVolume").getD .null).isGiven = false

/-- The task to which the legs of a walk lead. -/
inductive LeadsTo (site : Site) (keyword : Text) (rendered : Bool) : List Leg → Task → Prop where
  /-- A walk begins with a search. -/
  | search : LeadsTo site keyword rendered [] (.search keyword 1)
  /-- A search leads to the first book that it finds. -/
  | detail {searched : Leg} {book : Record} {books : List Record}
      (found : (searched.outcome site).ending = .found (.records (book :: books))) :
      LeadsTo site keyword rendered [searched]
        (.detail (book.text addressField) (.obj book))
  /-- The details lead to the chapters of the book, with what they tell of it. -/
  | chapters {searched told : Leg} {book more : Record} {books : List Record}
      (found : (searched.outcome site).ending = .found (.records (book :: books)))
      (known : (told.outcome site).ending = .found (.record more)) :
      LeadsTo site keyword rendered [searched, told]
        (.chapters (Record.text (Keyed.update book more) "tocUrl")
          (.obj (Keyed.update book more)))
  /-- The chapters lead to the content of the first one that leads on. -/
  | content {searched told listed : Leg} {book more chapter : Record}
      {books skipped rest : List Record}
      (found : (searched.outcome site).ending = .found (.records (book :: books)))
      (known : (told.outcome site).ending = .found (.record more))
      (listing : (listed.outcome site).ending = .found (.records (skipped ++ chapter :: rest)))
      (leads : LeadsOn chapter)
      (first : ∀ other ∈ skipped, ¬LeadsOn other) :
      LeadsTo site keyword rendered [searched, told, listed]
        (.content (chapter.text "url") (.obj chapter) (.obj (Keyed.update book more)) rendered)

/-- A course of stages from a walk: each stage begins in the walk that the one before left, with
the task to which the stages so far lead. -/
inductive Course (site : Site) (keyword : Text) (rendered : Bool) (start : Walk) :
    List Leg → Walk → Prop where
  /-- Before the first stage. -/
  | nil : Course site keyword rendered start [] start
  /-- One stage after others. -/
  | snoc {legs : List Leg} {now : Walk} {task : Task}
      (course : Course site keyword rendered start legs now)
      (leads : LeadsTo site keyword rendered legs task) :
      Course site keyword rendered start (legs ++ [⟨task, now⟩]) (Leg.after site ⟨task, now⟩)

/-- A stage brings nothing to go on with. -/
def Halts (task : Task) (outcome : Outcome) : Prop :=
  match task with
  | .search _ _ => outcome.success = false ∨ outcome.ending = .found (.records [])
  | .detail _ _ => outcome.success = false
  | .chapters _ _ =>
      outcome.success = false ∨
        ∃ chapters, outcome.ending = .found (.records chapters) ∧
          ∀ chapter ∈ chapters, ¬LeadsOn chapter
  | .content _ _ _ _ | .explore _ => True

/-- The names of the stages of a walk, in their order. -/
def stageNames : List Text :=
  ["search".toList, "detail".toList, "toc".toList, "content".toList]

variable {site : Site} {keyword : Text} {rendered : Bool} {start now : Walk}
variable {legs : List Leg} {task : Task}

/-- The task to which legs lead is that of the stage that is next in order. -/
theorem LeadsTo.name_eq (leads : LeadsTo site keyword rendered legs task) :
    stageNames[legs.length]? = some task.name := by
  cases leads <;> rfl

theorem eq_of_append_singleton
    {done : List Leg}
    {leg : Leg}
    (front : List Leg)
    (last : Leg)
    (same : done ++ [leg] = front ++ [last]) :
    done = front ∧ leg = last := by
  obtain ⟨before, ending⟩ := List.append_inj' same rfl
  exact ⟨before, List.singleton_inj.mp ending⟩

/-- A leg that leads to a task has succeeded, and does not halt the walk. -/
theorem LeadsTo.goesOn
    {done : List Leg}
    {leg : Leg}
    (own : LeadsTo site keyword rendered done leg.task)
    (leads : LeadsTo site keyword rendered (done ++ [leg]) task) :
    (leg.outcome site).success = true ∧ ¬Halts leg.task (leg.outcome site) := by
  generalize reached : done ++ [leg] = legs at leads
  cases leads with
  | search => simp at reached
  | @detail searched book books found =>
      obtain ⟨rfl, rfl⟩ := eq_of_append_singleton [] searched reached
      have success := Outcome.success_of_found found
      generalize leg.task = task at own
      cases own
      simp [Halts, success, found]
  | @chapters searched told book more books found known =>
      obtain ⟨rfl, rfl⟩ := eq_of_append_singleton [searched] told reached
      have success := Outcome.success_of_found known
      generalize leg.task = task at own
      cases own
      simp [Halts, success]
  | @content searched told listed book more chapter books skipped rest found known listing leads =>
      obtain ⟨rfl, rfl⟩ := eq_of_append_singleton [searched, told] listed reached
      have success := Outcome.success_of_found listing
      generalize leg.task = task at own
      cases own
      refine ⟨success, ?_⟩
      rintro (failed | ⟨chapters, same, none⟩)
      · simp [success] at failed
      · cases listing.symm.trans same
        exact none chapter (by simp) leads

/-- Every leg of a course has the task to which the legs before it lead. -/
theorem Course.leadsTo
    (course : Course site keyword rendered start legs now)
    {done rest : List Leg}
    {leg : Leg}
    (split : legs = done ++ leg :: rest) :
    LeadsTo site keyword rendered done leg.task := by
  induction course generalizing rest with
  | nil => simp at split
  | snoc course leads hypothesis =>
      rcases List.eq_nil_or_concat rest with rfl | ⟨front, last, rfl⟩
      · obtain ⟨rfl, rfl⟩ := eq_of_append_singleton _ _ split.symm
        exact leads
      · rw [List.concat_eq_append, ← List.cons_append, ← List.append_assoc] at split
        exact hypothesis (eq_of_append_singleton _ _ split).1

/-- The stages of a course come in order. -/
theorem Course.names (course : Course site keyword rendered start legs now) :
    legs.map (fun leg => leg.task.name) = stageNames.take legs.length := by
  induction course with
  | nil => rfl
  | snoc course leads hypothesis =>
      rw [List.map_append, hypothesis, List.length_append, List.length_singleton, List.take_add_one,
        leads.name_eq]
      rfl

/-! ## Walks -/

/-- A walk goes on from some legs to its end: the outcomes are those of further legs of its
course, the last of which brings nothing to go on with. -/
def Completes (site : Site) (keyword : Text) (rendered : Bool) (start : Walk) (legs : List Leg)
    (ended : List Outcome × Walk) : Prop :=
  ∃ front last, ended.1 = (front ++ [last]).map (Leg.outcome site) ∧
    Course site keyword rendered start (legs ++ (front ++ [last])) ended.2 ∧
      Halts last.task (last.outcome site)

namespace Completes

theorem one
    (course : Course site keyword rendered start legs now)
    (leads : LeadsTo site keyword rendered legs task)
    (halts : Halts task ((run site task).run now).1) :
    Completes site keyword rendered start legs
      ([((run site task).run now).1], ((run site task).run now).2) :=
  ⟨[], ⟨task, now⟩, rfl, course.snoc leads, halts⟩

theorem cons
    {outcomes : List Outcome}
    {final : Walk}
    {leg : Leg}
    (completes : Completes site keyword rendered start (legs ++ [leg]) (outcomes, final)) :
    Completes site keyword rendered start legs (leg.outcome site :: outcomes, final) := by
  obtain ⟨front, last, same, course, halts⟩ := completes
  refine ⟨leg :: front, last, ?_, ?_, halts⟩
  · rw [List.cons_append, List.map_cons]
    exact congrArg _ same
  · rwa [List.append_assoc] at course

end Completes

theorem firstChapter?_eq_some
    {chapters : List Record}
    {chapter : Record}
    (first : firstChapter? chapters = some chapter) :
    LeadsOn chapter ∧
      ∃ skipped rest,
        chapters = skipped ++ chapter :: rest ∧ ∀ other ∈ skipped, ¬LeadsOn other := by
  obtain ⟨leads, skipped, rest, same, others⟩ := List.find?_eq_some_iff_append.mp first
  refine ⟨by simpa [LeadsOn] using leads, skipped, rest, same, fun other member => ?_⟩
  simpa [LeadsOn, or_iff_not_imp_left] using others other member

theorem firstChapter?_eq_none
    {chapters : List Record}
    (none : firstChapter? chapters = none) :
    ∀ chapter ∈ chapters, ¬LeadsOn chapter := by
  intro chapter member
  simpa [LeadsOn] using List.find?_eq_none.mp none chapter member

variable {searched told : Leg} {book more : Record} {books : List Record}

theorem run_walkChapters
    {listed : Leg}
    (task : listed.task = .chapters (book.text "tocUrl") (.obj book)) :
    (walkChapters site book rendered).run listed.before =
      match firstChapter? (listed.outcome site).records with
      | none => ([listed.outcome site], listed.after site)
      | some chapter =>
          let read : Leg :=
            ⟨.content (chapter.text "url") (.obj chapter) (.obj book) rendered, listed.after site⟩
          ([listed.outcome site, read.outcome site], read.after site) := by
  unfold walkChapters
  rw [← task, StateT.run_bind, Leg.run_eq]
  dsimp only [bind]
  cases firstChapter? (listed.outcome site).records with
  | none => rfl
  | some chapter => rfl

/-- From the details of a book, a walk goes on to the chapters, and from them to the content of the
first one that leads on. -/
theorem walkChapters_completes
    (course : Course site keyword rendered start [searched, told] now)
    (found : (searched.outcome site).ending = .found (.records (book :: books)))
    (known : (told.outcome site).ending = .found (.record more)) :
    Completes site keyword rendered start [searched, told]
      ((walkChapters site (Keyed.update book more) rendered).run now) := by
  have leads : LeadsTo site keyword rendered [searched, told] _ := .chapters found known
  let listed : Leg :=
    ⟨.chapters (Record.text (Keyed.update book more) "tocUrl") (.obj (Keyed.update book more)), now⟩
  have onward := course.snoc leads
  have ran : (walkChapters site (Keyed.update book more) rendered).run now = _ :=
    run_walkChapters (rfl : listed.task = _)
  rw [ran]
  rcases listed.found_or_failed site (work_chapters_isRecords site _ _) with
    ⟨payload, listing, chapters, rfl⟩ | ⟨reason, failed⟩
  · have same : (listed.outcome site).records = chapters := by
      rw [Outcome.records, listing]
    rw [same]
    cases first : firstChapter? chapters with
    | none => exact .one course leads (.inr ⟨chapters, listing, firstChapter?_eq_none first⟩)
    | some chapter =>
        obtain ⟨given, skipped, rest, rfl, others⟩ := firstChapter?_eq_some first
        exact .cons (.one onward (.content found known listing given others) trivial)
  · have none : (listed.outcome site).records = [] := by
      rw [Outcome.records, failed]
    rw [none]
    exact .one course leads (.inl (Outcome.success_of_failed failed))

theorem run_walkBook
    {told : Leg}
    (task : told.task = .detail (book.text addressField) (.obj book)) :
    (walkBook site book rendered).run told.before =
      match (told.outcome site).ending with
      | .found (.record more) =>
          let rest := (walkChapters site (Keyed.update book more) rendered).run (told.after site)
          (told.outcome site :: rest.1, rest.2)
      | _ => ([told.outcome site], told.after site) := by
  unfold walkBook
  rw [← task, StateT.run_bind, Leg.run_eq]
  dsimp only [bind]
  rcases (told.outcome site).ending with (_ | more | _ | _) | reason <;> rfl

/-- From a book that a search has found, a walk goes on to its details. -/
theorem walkBook_completes
    (course : Course site keyword rendered start [searched] now)
    (found : (searched.outcome site).ending = .found (.records (book :: books))) :
    Completes site keyword rendered start [searched]
      ((walkBook site book rendered).run now) := by
  have leads : LeadsTo site keyword rendered [searched] _ := .detail found
  let told : Leg := ⟨.detail (book.text addressField) (.obj book), now⟩
  have onward := course.snoc leads
  have ran : (walkBook site book rendered).run now = _ := run_walkBook (rfl : told.task = _)
  rw [ran]
  rcases told.found_or_failed site (work_detail_isRecord site _ _) with
    ⟨payload, known, more, rfl⟩ | ⟨reason, failed⟩
  · rw [known]
    exact .cons (walkChapters_completes onward found known)
  · rw [failed]
    exact .one course leads (Outcome.success_of_failed failed)

theorem run_walk
    {searched : Leg}
    (task : searched.task = .search keyword 1) :
    (walk site keyword rendered).run searched.before =
      match (searched.outcome site).records with
      | [] => ([searched.outcome site], searched.after site)
      | book :: _ =>
          let rest := (walkBook site book rendered).run (searched.after site)
          (searched.outcome site :: rest.1, rest.2) := by
  unfold walk
  rw [← task, StateT.run_bind, Leg.run_eq]
  dsimp only [bind]
  cases (searched.outcome site).records with
  | nil => rfl
  | cons book books => rfl

/-- A walk begins with a search. -/
theorem walk_completes (site : Site) (keyword : Text) (rendered : Bool) (start : Walk) :
    Completes site keyword rendered start [] ((walk site keyword rendered).run start) := by
  have leads : LeadsTo site keyword rendered [] _ := .search
  have course : Course site keyword rendered start [] start := .nil
  let searched : Leg := ⟨.search keyword 1, start⟩
  have onward := course.snoc leads
  have ran : (walk site keyword rendered).run start = _ := run_walk (rfl : searched.task = _)
  rw [ran]
  rcases searched.found_or_failed site (work_search_isRecords site _ _) with
    ⟨payload, found, books, rfl⟩ | ⟨reason, failed⟩
  · have same : (searched.outcome site).records = books := by
      rw [Outcome.records, found]
    rw [same]
    cases books with
    | nil => exact .one course leads (.inr found)
    | cons book books => exact .cons (walkBook_completes onward found)
  · have none : (searched.outcome site).records = [] := by
      rw [Outcome.records, failed]
    rw [none]
    exact .one course leads (.inl (Outcome.success_of_failed failed))

/-- A walk is a course of at least one stage from where it starts.  The stages come in order, each
but the last is a success, and a stage is the last one exactly when it brings nothing to go on
with. -/
theorem walk_isCourse (site : Site) (keyword : Text) (rendered : Bool) (start : Walk) :
    ∃ legs final,
      (walk site keyword rendered).run start = (legs.map (Leg.outcome site), final) ∧
        Course site keyword rendered start legs final ∧
          legs ≠ [] ∧
            (legs.map fun leg => (leg.outcome site).stage) <+: stageNames ∧
              ∀ done leg rest, legs = done ++ leg :: rest →
                (rest ≠ [] → (leg.outcome site).success = true) ∧
                  (rest = [] ↔ Halts leg.task (leg.outcome site)) := by
  obtain ⟨front, last, outcomes, course, halts⟩ := walk_completes site keyword rendered start
  rw [List.nil_append] at course
  refine ⟨front ++ [last], _, Prod.ext outcomes rfl, course, by simp, ?_, ?_⟩
  · simp only [Leg.stage_outcome]
    rw [course.names]
    exact List.take_prefix _ _
  · intro done leg rest split
    have own := course.leadsTo split
    cases rest with
    | nil =>
        obtain ⟨-, rfl⟩ := eq_of_append_singleton _ _ split
        simpa using halts
    | cons next rest =>
        have leads : LeadsTo site keyword rendered (done ++ [leg]) next.task :=
          course.leadsTo (by rw [split, List.append_assoc]; rfl)
        obtain ⟨success, goesOn⟩ := own.goesOn leads
        simp [success, goesOn]

end Stage

end RuleProbe
