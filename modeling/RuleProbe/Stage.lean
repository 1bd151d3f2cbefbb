import RuleProbe.Stage.Book
import RuleProbe.Stage.Manga

/-!
# Walking a source

A task is carried out by the stage of its source.  A walk goes from a search to the first
book found, to its chapters, and to the content of the first chapter, and ends at the
first stage that brings nothing to go on with.
-/

namespace RuleProbe

namespace Stage

variable (site : Site)

/-- The work of a task. -/
def work (task : Task) : Work Payload :=
  match site.kind with
  | .book => Book.work site task
  | .manga => Manga.work site task

/-- Carry out a task. -/
def run (task : Task) : StateM Walk Outcome := perform task.name (work site task)

/-- The first chapter that has an address and is not the title of a volume. -/
def firstChapter? (chapters : List Record) : Option Record :=
  chapters.find? fun chapter =>
    !(chapter.text "url").isEmpty && !((Keyed.get? chapter "isVolume").getD .null).isGiven

/-- Walk on from the chapters of a book. -/
def walkChapters (book : Record) (rendered : Bool) : StateM Walk (List Outcome) := do
  let listed ← run site (.chapters (book.text "tocUrl") (.obj book))
  match firstChapter? listed.records with
  | none => return [listed]
  | some chapter =>
      let read ← run site (.content (chapter.text "url") (.obj chapter) (.obj book) rendered)
      return [listed, read]

/-- Walk on from a book. -/
def walkBook (book : Record) (rendered : Bool) : StateM Walk (List Outcome) := do
  let told ← run site (.detail (book.text addressField) (.obj book))
  match told.ending with
  | .found (.record more) =>
      return told :: (← walkChapters site (Keyed.update book more) rendered)
  | _ => return [told]

/-- Walk from a search to the content of a chapter. -/
def walk (keyword : Text) (rendered : Bool) : StateM Walk (List Outcome) := do
  let searched ← run site (.search keyword 1)
  match searched.records with
  | [] => return [searched]
  | book :: _ => return searched :: (← walkBook site book rendered)

/-! ## Questions about a source -/

/-- The headers of the source. -/
def headers : Work Json.Members :=
  match site.kind with
  | .book => Book.mergedHeaders site []
  | .manga => lift (Manga.headers site)

/-- The pages to explore. -/
def entries : Work (List Entry) :=
  match site.kind with
  | .book => Book.entries site
  | .manga => lift (Manga.entries site)

/-- Store the parameters of an address. -/
def storeParameters (url : Text) : Work Unit :=
  match site.kind with
  | .book => Book.storeParameters url
  | .manga => Manga.storeParameters url

/-- Forget all variables. -/
def reset : Work Unit :=
  modify fun walk => { walk with session := { walk.session with store := [] } }

end Stage

end RuleProbe
