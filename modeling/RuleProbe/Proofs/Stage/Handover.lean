import RuleProbe.Proofs.Keyed
import RuleProbe.Proofs.Stage.Work
import RuleProbe.Proofs.Stage.Request
import RuleProbe.Proofs.Url
import RuleProbe.Stage

/-!
# Addresses that stages hand over

A stage goes on from an address that the stage before has found.  In a list of a source of
books, a book without an address has that of the page, whatever its rule gave.  The details name
the page of the chapters, which is the page of the book when the rule gives no text; but a text of
blanks is taken for an address, and resolved to nothing.
-/

namespace RuleProbe

namespace Stage

/-! ## Records -/

theorem Record.text_put (record : Record) (name value : Text) :
    (record.put name value).text name = value := by
  simp [Record.text, Record.put, Keyed.get?_put]

/-! ## Pages with an address -/

theorem nonempty_of_absolute {url : Text} (absolute : url.startsWithAny absoluteStarts = true) :
    url ≠ [] := by
  rintro rfl
  cases absolute

theorem pageAddress_ne_nil (page : Page) {asked : Text} (given : asked ≠ []) :
    pageAddress page asked ≠ [] := by
  unfold pageAddress
  split
  · split
    · exact given
    · rename_i nonempty
      simpa using nonempty
  · exact given

/-- The name of the field that holds the address of the page of the chapters. -/
def chaptersField : Text := "tocUrl"

/-- What a page tells of a book, before an address of the chapters is settled on. -/
structure Told where
  /-- The other fields of the book. -/
  record : Record
  /-- The address of the page. -/
  pageUrl : Text
  /-- The text that the rule for the address of the chapters gives, if it gives one. -/
  chapters : Option Text

variable (site : Site)

/-- Settle on the address of the chapters: the text that the rule gives, resolved at the page, or
else the page itself. -/
def settle (told : Told) : Work Payload := do
  match told.chapters with
  | some text =>
      return .record (told.record.put chaptersField (← resolve site text told.pageUrl))
  | none =>
      reportOwnChapters told.pageUrl
      return .record (told.record.put chaptersField told.pageUrl)

/-- What the details of a book settle on: a text that the rule gives is resolved at the page, and
where it gives none, the chapters are on the page itself. -/
structure Settled (told : Told) (address : Text) : Prop where
  /-- The page has an address. -/
  page : told.pageUrl ≠ []
  /-- Without a text of the rule, it is the address of the chapters. -/
  own : told.chapters = none → address = told.pageUrl
  /-- A text of the rule is resolved at the page. -/
  resolved : ∀ text, told.chapters = some text → Url.resolve text told.pageUrl = .ok address

theorem settle_ends {told : Told} (page : told.pageUrl ≠ []) :
    Ends
      (fun payload => ∃ record, payload = .record record ∧
        Settled told (Record.text record chaptersField))
      (fun _ => True)
      (settle site told) := by
  unfold settle
  split
  · rename_i text given
    have address : Ends (fun url => Url.resolve text told.pageUrl = .ok url) (fun _ => True)
        (resolve site text told.pageUrl) := by
      unfold resolve
      rw [if_neg (by simpa using page), pure_bind]
      exact .of_except (fun _ found => found) fun _ _ => trivial
    refine address.bind fun url found => .of_pure ⟨_, rfl, page, ?_, ?_⟩
    · intro missing
      cases given.symm.trans missing
    · intro other same
      cases given.symm.trans same
      rw [Record.text_put]
      exact found
  · rename_i missing
    refine (Ends.any _).bind fun _ _ => .of_pure ⟨_, rfl, page, ?_, ?_⟩
    · intro _
      rw [Record.text_put]
    · intro text given
      cases missing.symm.trans given

/-- At a page with an absolute address, the address of the chapters says something unless the rule
gives a text of blanks. -/
theorem Settled.ne_nil_iff
    {told : Told}
    {address : Text}
    (settled : Settled told address)
    (absolute : told.pageUrl.startsWithAny absoluteStarts = true) :
    address ≠ [] ↔ ∀ text, told.chapters = some text → text.trim ≠ [] := by
  constructor
  · intro nonempty text given blank
    have resolved := settled.resolved text given
    rw [Url.resolve_blank blank] at resolved
    exact nonempty (Except.ok.inj resolved).symm
  · intro given
    cases chapters : told.chapters with
    | none =>
        rw [settled.own chapters]
        exact settled.page
    | some text =>
        exact Url.resolve_ne_nil (given text chapters) absolute (settled.resolved text chapters)

namespace Book

/-- Every request is one for an absolute address. -/
theorem buildRequest_absolute (template : Json) (filling : Filling) (book : Json) :
    Ends PageRequest.IsAbsolute (fun _ => True) (buildRequest site template filling book) := by
  unfold buildRequest
  refine (Ends.any _).bind fun template _ => ?_
  dsimp only
  split
  · exact .of_throw trivial
  refine (Ends.any _).bind fun origin _ => ?_
  refine (Ends.any _).bind fun context _ => ?_
  refine (Ends.any _).bind fun chosen _ => ?_
  refine (Ends.any _).bind fun filled _ => ?_
  refine (Ends.any _).bind fun body _ => ?_
  refine (Ends.any _).bind fun url _ => ?_
  split
  · exact .of_throw trivial
  rename_i absolute
  refine (Ends.any _).bind fun headers _ => .of_pure ?_
  unfold PageRequest.IsAbsolute
  simpa using absolute

/-! ## Books of a list -/

/-- Every record of a list of books has an address. -/
def Addressed (payload : Payload) : Prop :=
  ∃ records, payload = .records records ∧
    ∀ record ∈ records, Record.text record addressField ≠ []

theorem readBookList_addressed
    (context : Extraction.Context)
    (rules : Record)
    {pageUrl : Text}
    (page : pageUrl ≠ [])
    (what : Text) :
    Ends Addressed (fun _ => True) (readBookList site context rules pageUrl what) := by
  unfold readBookList
  refine (Ends.any _).bind fun books _ => .of_pure ⟨_, rfl, fun record member => ?_⟩
  obtain ⟨book, -, rfl⟩ := List.mem_map.mp member
  split
  · rw [Record.text_put]
    exact page
  · rename_i nonempty
    simpa using nonempty

theorem search_addressed (keyword : Text) (page : Int) :
    Ends Addressed (fun _ => True) (search site keyword page) := by
  unfold search
  refine (buildRequest_absolute site _ _ _).bind fun ask absolute => ?_
  refine (Ends.any _).bind fun _ _ => ?_
  refine (Ends.any _).bind fun found _ => ?_
  refine (Ends.any _).bind fun context _ => ?_
  refine (Ends.any _).bind fun rules _ => ?_
  exact readBookList_addressed site context rules
    (pageAddress_ne_nil found (nonempty_of_absolute absolute)) _

theorem explore_addressed (url : Text) :
    Ends Addressed (fun _ => True) (explore site url) := by
  unfold explore
  refine (Ends.any _).bind fun target _ => ?_
  refine (buildRequest_absolute site _ _ _).bind fun ask absolute => ?_
  refine (Ends.any _).bind fun found _ => ?_
  refine (Ends.any _).bind fun context _ => ?_
  refine (Ends.any _).bind fun rules _ => ?_
  have listed (rules : Record) :=
    readBookList_addressed site context rules
      (pageAddress_ne_nil found (nonempty_of_absolute absolute)) "Explore list".toList
  dsimp only
  split
  · exact listed rules
  · refine (Ends.any _).bind fun _ _ => ?_
    exact (Ends.any _).bind fun rules _ => listed rules

/-! ## Details -/

/-- Read the fields of a book, and leave the address of the chapters as its rule gives it. -/
def readTold (context : Extraction.Context) (rules : Record) (pageUrl : Text) : Work Told := do
  let context ← applyInit site context (ruleIn rules "init")
  let record ← readDetails site context rules
  let record ← resolveField site record "coverUrl" pageUrl
  let text := record.text chaptersField
  return { record, pageUrl, chapters := if text.isEmpty then none else some text }

/-- Read what a page tells of a book, but for the address of the chapters. -/
def told (url : Text) (book : Json) : Work Told := do
  let ask ← buildRequest site (.str url) {} book
  let found ← fetchAsked site ask
  let pageUrl := pageAddress found ask.url
  storeParameters ask.url
  let context ← contextOf site found.body pageUrl book
  let rules ← lift (group site "ruleBookInfo")
  if rules.isEmpty then report .warning .parse "No ruleBookInfo configured"
  readTold site context rules pageUrl

theorem settle_read (record : Record) (pageUrl : Text) :
    (if (record.text chaptersField).isEmpty then do
        reportOwnChapters pageUrl
        return .record (record.put chaptersField pageUrl)
      else return .record (← resolveField site record chaptersField pageUrl)) =
      settle site
        { record, pageUrl
          chapters := if (record.text chaptersField).isEmpty then none
            else some (record.text chaptersField) } := by
  unfold settle resolveField
  by_cases empty : (record.text chaptersField).isEmpty = true
  · simp only [if_pos empty]
  · simp only [if_neg empty, bind_assoc, pure_bind]

/-- The details are what the page tells, with an address of the chapters settled on. -/
theorem detail_eq (url : Text) (book : Json) :
    detail site url book = told site url book >>= settle site := by
  have rest (context : Extraction.Context) (rules : Record) (pageUrl : Text) :
      (do
        let context ← applyInit site context (ruleIn rules "init")
        let record ← readDetails site context rules
        let record ← resolveField site record "coverUrl" pageUrl
        if (record.text chaptersField).isEmpty then do
          reportOwnChapters pageUrl
          return .record (record.put chaptersField pageUrl)
        else return .record (← resolveField site record chaptersField pageUrl)) =
        readTold site context rules pageUrl >>= settle site := by
    unfold readTold
    simp only [bind_assoc, pure_bind]
    exact bind_congr fun context => bind_congr fun record => bind_congr fun record =>
      settle_read site record pageUrl
  unfold detail told
  simp only [bind_assoc]
  refine bind_congr fun ask => bind_congr fun found => bind_congr fun _ => bind_congr fun context =>
    bind_congr fun rules => ?_
  split
  · rw [bind_assoc]
    exact bind_congr fun _ => rest context rules (pageAddress found ask.url)
  · exact rest context rules (pageAddress found ask.url)

theorem told_page (url : Text) (book : Json) :
    Ends (fun told => told.pageUrl ≠ []) (fun _ => True) (told site url book) := by
  unfold told
  refine (buildRequest_absolute site _ _ _).bind fun ask absolute => ?_
  refine (Ends.any _).bind fun found _ => ?_
  refine (Ends.any _).bind fun _ _ => ?_
  refine (Ends.any _).bind fun context _ => ?_
  refine (Ends.any _).bind fun rules _ => ?_
  refine .optionally (Ends.any _) ?_
  unfold readTold
  refine (Ends.any _).bind fun context _ => ?_
  refine (Ends.any _).bind fun record _ => ?_
  refine (Ends.any _).bind fun record _ => .of_pure ?_
  exact pageAddress_ne_nil found (nonempty_of_absolute absolute)

end Book

namespace Manga

/-- Read the fields of a book on its own page. -/
def readDetails (context : Extraction.Context) (pageUrl : Text) : Work Record :=
  detailFields.foldlM
    (fun record (name, key) => do
      match ← readField site context name (.str (← lift (rule site key))) (styleOf name) with
      | none => return record
      | some value =>
          let value ←
            if name == "coverUrl".toList then resolve site value pageUrl else pure value
          return Record.put record name value)
    []

/-- Read what a page tells of a book, but for the address of the chapters. -/
def told (url : Text) (book : Json) : Work Told := do
  let url ← absolute site url
  storeParameters url
  let found ← fetch site url
  let pageUrl := pageAddress found url
  let context ← contextOf site found.body pageUrl book
  let record ← readDetails site context pageUrl
  let chapters ←
    readField site context chaptersField (.str (← lift (rule site "ruleChapterUrl")))
  return { record, pageUrl, chapters }

theorem detail_eq (url : Text) (book : Json) :
    detail site url book = told site url book >>= settle site := by
  unfold detail told
  simp only [bind_assoc, pure_bind]
  refine bind_congr fun url => bind_congr fun _ => bind_congr fun found =>
    bind_congr fun context => bind_congr fun record => bind_congr fun rule =>
      bind_congr fun chapters => ?_
  cases chapters <;> rfl

/-- Every address that can be used is an absolute one. -/
theorem absolute_ends (url : Text) :
    Ends (fun url => url.startsWithAny absoluteStarts = true) (fun _ => True)
      (absolute site url) := by
  unfold absolute
  dsimp only
  split
  · exact .of_throw trivial
  refine (Ends.any _).bind fun url _ => ?_
  split
  · exact .of_pure ‹_›
  · exact .of_throw trivial

theorem told_page (url : Text) (book : Json) :
    Ends (fun told => told.pageUrl ≠ []) (fun _ => True) (told site url book) := by
  unfold told
  refine (absolute_ends site url).bind fun url absolute => ?_
  refine (Ends.any _).bind fun _ _ => ?_
  refine (Ends.any _).bind fun found _ => ?_
  refine (Ends.any _).bind fun context _ => ?_
  refine (Ends.any _).bind fun record _ => ?_
  refine (Ends.any _).bind fun rule _ => ?_
  refine (Ends.any _).bind fun chapters _ => .of_pure ?_
  exact pageAddress_ne_nil found (nonempty_of_absolute absolute)

end Manga

/-! ## What stages hand over -/

variable {site}

/-- Read what a page tells of a book, but for the address of the chapters. -/
def told (site : Site) (url : Text) (book : Json) : Work Told :=
  match site.kind with
  | .book => Book.told site url book
  | .manga => Manga.told site url book

theorem told_page (url : Text) (book : Json) :
    Ends (fun told => told.pageUrl ≠ []) (fun _ => True) (told site url book) := by
  unfold told
  split
  · exact Book.told_page site url book
  · exact Manga.told_page site url book

theorem work_detail (url : Text) (book : Json) :
    work site (.detail url book) = told site url book >>= settle site := by
  unfold work told
  cases site.kind with
  | book => exact Book.detail_eq site url book
  | manga => exact Manga.detail_eq site url book

/-- What the payload of a task hands over, from the walk in which its stage begins: the books of a
list of a source of books have an address each, and the details of a book have an address of the
chapters that is settled as the page tells, and that says something at a page with an absolute
address unless the rule gives a text of blanks. -/
def HandsOver (site : Site) (task : Task) (walk : Walk) (payload : Payload) : Prop :=
  match task with
  | .search _ _ | .explore _ => site.kind = .book → Book.Addressed payload
  | .detail url book =>
      ∃ told after record,
        runFrom (Stage.told site url book) walk = (.ok told, after) ∧
          payload = .record record ∧ Settled told (Record.text record chaptersField) ∧
            (told.pageUrl.startsWithAny absoluteStarts = true →
              (Record.text record chaptersField ≠ [] ↔
                ∀ text, told.chapters = some text → text.trim ≠ []))
  | .chapters _ _ | .content _ _ _ _ => True

theorem work_handsOver
    (task : Task)
    {walk after : Walk}
    {payload : Payload}
    (returned : runFrom (work site task) walk = (.ok payload, after)) :
    HandsOver site task walk payload := by
  cases task with
  | search keyword page =>
      intro ofBooks
      unfold work at returned
      rw [ofBooks] at returned
      exact (Book.search_addressed site keyword page).value returned
  | explore url =>
      intro ofBooks
      unfold work at returned
      rw [ofBooks] at returned
      exact (Book.explore_addressed site url).value returned
  | detail url book =>
      rw [work_detail, runFrom_bind_eq_ok_iff] at returned
      obtain ⟨told, between, read, settled⟩ := returned
      have page := (told_page url book).value read
      obtain ⟨record, same, settled⟩ := (settle_ends site page).value settled
      exact ⟨told, between, record, read, same, settled, settled.ne_nil_iff⟩
  | chapters url book => trivial
  | content url chapter book rendered => trivial

/-- Every stage that comes to its end hands over what its task promises. -/
theorem run_handsOver
    (task : Task)
    {walk : Walk}
    {payload : Payload}
    (found : ((run site task).run walk).1.ending = .found payload) :
    HandsOver site task walk.begun payload := by
  unfold run at found
  rw [perform_eq] at found
  cases ended : runFrom (work site task) walk.begun with
  | mk result after =>
      rw [ended] at found
      cases result with
      | error fault => cases found
      | ok value =>
          cases found
          exact work_handsOver task ended

/-! ## A rule that gives a blank -/

/-- A source of books with a rule for the address of the chapters. -/
def chapterSite (rule : Text) : Site where
  kind := .book
  definition :=
    [("bookSourceUrl", .str "https://a.b"), ("ruleBookInfo", .obj [(chaptersField, .str rule)])]
  settings := {}
  network := fun _ => .failure "ConnectionError" "unreachable"
  browser := fun _ => none

/-- How the details of a page end that its address holds. -/
def chapterEnding (rule : Text) : Ending :=
  ((run (chapterSite rule) (.detail "data:text/html," .null)).run {}).1.ending

/-- The address of the chapters in an ending with the details of a book. -/
def Ending.chapters? : Ending → Option Text
  | .found (.record record) => some (record.text chaptersField)
  | _ => none

theorem Ending.exists_record
    {ending : Ending}
    {address : Text}
    (named : ending.chapters? = some address) :
    ∃ record, ending = .found (.record record) ∧ Record.text record chaptersField = address := by
  unfold Ending.chapters? at named
  split at named
  · exact ⟨_, rfl, Option.some.inj named⟩
  · cases named

/-- Details whose rule gives a letter hand over the address that the letter is. -/
theorem run_handsOver_letter :
    ∃ record, chapterEnding "##^##b###" = .found (.record record) ∧
      HandsOver (chapterSite "##^##b###") (.detail "data:text/html," .null) (Walk.begun {})
        (.record record) := by
  have named : (chapterEnding "##^##b###").chapters? = some "b".toList := by decide +kernel
  obtain ⟨record, found, -⟩ := Ending.exists_record named
  exact ⟨record, found, run_handsOver _ found⟩

/-- Details whose rule gives a blank hand over an address that says nothing. -/
theorem chapterEnding_blank :
    ∃ record, chapterEnding "##^## ###" = .found (.record record) ∧
      Record.text record chaptersField = [] := by
  have named : (chapterEnding "##^## ###").chapters? = some [] := by decide +kernel
  exact Ending.exists_record named

end Stage

end RuleProbe
