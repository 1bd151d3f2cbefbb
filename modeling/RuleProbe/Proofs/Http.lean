import Mathlib.Data.Bool.AllAny
import RuleProbe.Http.Fetch
import RuleProbe.Proofs.Charset
import RuleProbe.Proofs.Effects
import RuleProbe.Proofs.Keyed

/-!
# Requests and fetches

The name of a header is a token and its value stays on its line, or else what a source writes
there would end up in the rest of the request.  Headers are filtered where a request is made,
wherever they come from, so all headers of all requests are of this kind.

Whatever a network answers, a fetch makes a page of it whose success, status and error agree.
The bytes of a body that is a text are written before the network is asked, though, and there
a fetch ends without a page: when the charset has no known label, or does not have all
characters of the text.
-/

namespace RuleProbe

namespace Text

/-! ## Trimmed and lowered texts -/

theorem mem_of_mem_trimWhere
    {drop : Char → Bool}
    {text : Text}
    {c : Char}
    (member : c ∈ trimWhere drop text) :
    c ∈ text := by
  unfold trimWhere trimRightWhere trimLeftWhere at member
  have kept := (List.dropWhile_suffix drop).subset (List.mem_reverse.mp member)
  exact (List.dropWhile_suffix drop).subset (List.mem_reverse.mp kept)

theorem lowerCodesAfter_of_ascii
    {codes : List Nat}
    (ascii : ∀ code ∈ codes, code < 128)
    (before : List Nat) :
    Case.lowerCodesAfter before codes = codes.map Case.lowerCode := by
  induction codes generalizing before with
  | nil => rfl
  | cons code rest hypothesis =>
      have small : code < 128 := ascii code List.mem_cons_self
      have noSigma : (code == 0x3a3) = false := beq_eq_false_iff_ne.mpr (by omega)
      have noDot : (code == 0x130) = false := beq_eq_false_iff_ne.mpr (by omega)
      rw [Case.lowerCodesAfter, hypothesis fun code member =>
        ascii code (List.mem_cons_of_mem _ member)]
      simp [noSigma, noDot]

/-- The lower case of an ASCII character. -/
theorem ofNat_lowerCode_of_ascii {c : Char} (ascii : c.toNat < 128) :
    Char.ofNat (Case.lowerCode c.toNat) = c.toLower := by
  have all : ∀ code < 128, Char.ofNat (Case.lowerCode code) = (Char.ofNat code).toLower := by
    decide +kernel
  simpa using all c.toNat ascii

/-- An ASCII text is lowered letter by letter. -/
theorem lower_of_ascii {text : Text} (ascii : ∀ c ∈ text, c.toNat < 128) :
    lower text = text.map Char.toLower := by
  unfold lower
  rw [lowerCodesAfter_of_ascii (by simpa using ascii), List.map_map, List.map_map]
  exact List.map_congr_left fun c member => ofNat_lowerCode_of_ascii (ascii c member)

end Text

namespace Header

/-! ## Harmless headers -/

/-- A character of a token of HTTP. -/
def IsTchar (c : Char) : Prop :=
  c.isAlphanum = true ∨ c ∈ "!#$%&'*+-.^_`|~".toList

/-- A header that cannot break the request that carries it. -/
structure Harmless (header : Text × Text) : Prop where
  /-- The header has a name. -/
  named : header.1 ≠ []
  /-- The name is a token. -/
  token : ∀ c ∈ header.1, IsTchar c
  /-- The name is not that of the host, whatever the case of its letters. -/
  notHost : header.1.map Char.toLower ≠ "host".toList
  /-- No carriage return stands in the value. -/
  noReturn : '\r' ∉ header.2
  /-- No line feed stands in the value. -/
  noFeed : '\n' ∉ header.2

/-- All headers of a list are harmless. -/
def AllHarmless (headers : Keyed Text) : Prop :=
  ∀ header ∈ headers, Harmless header

theorem isTchar_of_isTokenChar {c : Char} (isToken : isTokenChar c = true) : IsTchar c := by
  unfold isTokenChar at isToken
  rw [Bool.or_eq_true] at isToken
  rcases isToken with alphanumeric | mark
  · left
    simp only [Letter.isAsciiLetter, Letter.isAsciiDigit, Bool.or_eq_true, Bool.and_eq_true,
      decide_eq_true_eq] at alphanumeric
    delta Char.isAlphanum Char.isAlpha Char.isUpper Char.isLower Char.isDigit
    simp only [Bool.or_eq_true, Bool.and_eq_true, decide_eq_true_eq, UInt32.le_iff_toNat_le,
      ge_iff_le]
    change ((65 ≤ c.toNat ∧ c.toNat ≤ 90) ∨ (97 ≤ c.toNat ∧ c.toNat ≤ 122)) ∨
      (48 ≤ c.toNat ∧ c.toNat ≤ 57)
    exact alphanumeric
  · right
    simpa using mark

theorem ascii_of_isTokenChar {c : Char} (isToken : isTokenChar c = true) : c.toNat < 128 := by
  unfold isTokenChar at isToken
  rw [Bool.or_eq_true] at isToken
  rcases isToken with alphanumeric | mark
  · simp only [Letter.isAsciiLetter, Letter.isAsciiDigit, Bool.or_eq_true, Bool.and_eq_true,
      decide_eq_true_eq] at alphanumeric
    omega
  · have all : ∀ mark ∈ "!#$%&'*+-.^_`|~".toList, mark.toNat < 128 :=
      List.all_iff_forall_prop.mp (by decide)
    exact all c (by simpa using mark)

/-- A cleaned value stays on its line. -/
theorem mem_cleanValue
    {value : Text}
    {c : Char}
    (member : c ∈ cleanValue value) :
    c ≠ '\r' ∧ c ≠ '\n' := by
  unfold cleanValue Text.trimQuotes Text.trim at member
  simpa using (List.mem_filter.mp
    (Text.mem_of_mem_trimWhere (Text.mem_of_mem_trimWhere member))).2

theorem harmless_of_isName
    {name : Text}
    (isName : isName name = true)
    {value : Text}
    (onLine : ∀ c ∈ value, c ≠ '\r' ∧ c ≠ '\n') :
    Harmless (name, value) := by
  unfold Header.isName at isName
  simp only [Bool.and_eq_true, List.all_eq_true, bne_iff_ne] at isName
  obtain ⟨⟨named, tokens⟩, notHost⟩ := isName
  rw [Text.lower_of_ascii fun c member => ascii_of_isTokenChar (tokens c member)] at notHost
  exact
    { named := by simpa using named
      token := fun c member => isTchar_of_isTokenChar (tokens c member)
      notHost := notHost
      noReturn := fun member => (onLine _ member).1 rfl
      noFeed := fun member => (onLine _ member).2 rfl }

namespace AllHarmless

theorem nil : AllHarmless [] := by
  intro header member
  cases member

theorem put
    {headers : Keyed Text}
    (harmless : AllHarmless headers)
    {name value : Text}
    (own : Harmless (name, value)) :
    AllHarmless (Keyed.put headers name value) := by
  intro header member
  rcases Keyed.mem_put member with old | rfl
  · exact harmless header old
  · exact own

theorem update
    {headers changes : Keyed Text}
    (harmless : AllHarmless headers)
    (others : AllHarmless changes) :
    AllHarmless (Keyed.update headers changes) := by
  intro header member
  rcases Keyed.mem_update member with old | new
  · exact harmless header old
  · exact others header new

theorem add
    {headers : Keyed Text}
    (harmless : AllHarmless headers)
    (entry : Text × Json) :
    AllHarmless (add headers entry) := by
  unfold Header.add
  simp only
  split
  · exact harmless
  · split
    · rename_i isName
      exact harmless.put (harmless_of_isName isName fun c => mem_cleanValue)
    · exact harmless

/-- Filtered headers are harmless, whatever they were. -/
theorem filter (headers : Json.Members) : AllHarmless (filter headers) := by
  have fromAny : ∀ before : Keyed Text, AllHarmless before →
      AllHarmless (headers.foldl Header.add before) := by
    induction headers with
    | nil => exact fun before harmless => harmless
    | cons entry rest hypothesis =>
        exact fun before harmless => hypothesis _ (harmless.add entry)
  exact fromAny [] .nil

theorem standard : AllHarmless standard := by
  have named : (Header.standard.all fun header =>
      isName header.1 && header.2.all fun c => c != '\r' && c != '\n') = true := by
    decide +kernel
  intro header member
  obtain ⟨isName, oneLine⟩ := Bool.and_eq_true_iff.mp (List.all_eq_true.mp named header member)
  refine harmless_of_isName isName fun c inValue => ?_
  simpa using List.all_eq_true.mp oneLine c inValue

/-! ## Requests -/

/-- The headers of a request are harmless, whatever is asked for. -/
theorem headersOf (method : Text) (options : Http.Options) :
    AllHarmless (Http.headersOf method options) := by
  have updated : AllHarmless (Keyed.update Header.standard (Header.filter options.headers)) :=
    standard.update (filter options.headers)
  unfold Http.headersOf
  generalize Keyed.update Header.standard (Header.filter options.headers) = headers at updated ⊢
  extract_lets isText named
  split
  · refine updated.put (harmless_of_isName ?_ ?_)
    · decide +kernel
    · exact List.all_iff_forall_prop.mp (by decide +kernel)
  · exact updated

end AllHarmless

end Header

namespace Http

/-- A request that is made for a page has harmless headers. -/
theorem fetch_allHarmless
    {network : Network}
    {url : Text}
    {options : Options}
    {page : Page}
    {request : Request}
    (fetched : fetch network url options = .ok (page, some request)) :
    Header.AllHarmless request.headers := by
  unfold fetch at fetched
  split at fetched
  · cases fetched
  · cases made : requestFor url options with
    | error defect =>
        rw [made] at fetched
        cases fetched
    | ok own =>
        rw [made] at fetched
        cases fetched
        obtain ⟨body, -, same⟩ := exists_ok_of_bind made
        cases same
        exact .headersOf _ options

end Http

/-! ## Labels in their usual form -/

namespace PageCharset

variable {label : Text}

theorem normalize_eq
    (given : label.isEmpty = false)
    (lowered : Text.lower (Text.trimQuotes label.trim) = label)
    (plain : widened label = label) :
    normalize label = some label := by
  rw [normalize, given, if_neg Bool.false_ne_true, lowered, plain]

/-- A label in its usual form is used as it is. -/
theorem normalizeOr_eq
    (usual : normalize label = some label)
    (given : label.isEmpty = false)
    (default : Text) :
    normalizeOr default (some label) = label := by
  rw [normalizeOr, Option.bind_some, usual]
  exact if_neg (by rw [given]; exact Bool.false_ne_true)

end PageCharset

/-! ## Fetches that return -/

/-- The success, the status and the error of a page agree. -/
structure Page.Sound (page : Page) : Prop where
  /-- A page is there exactly when its status says so. -/
  status : page.success = true ↔ ∃ status, page.status = some status ∧ 200 ≤ status ∧ status ≤ 299
  /-- There is no error exactly when the page is there. -/
  error : page.error = none ↔ page.success = true

namespace Http

theorem failed_sound (url error : Text) : (failed url error).Sound where
  status := by simp [failed]
  error := by simp [failed]

theorem decodeData_sound (url : Text) : (decodeData url).Sound := by
  unfold decodeData
  dsimp only
  split
  · exact failed_sound _ _
  · split
    · exact failed_sound _ _
    · exact ⟨by simp, by simp⟩

theorem pageOf_sound (url : Text) (charset : Option Text) (response : Response) :
    (pageOf url charset response).Sound := by
  unfold pageOf
  dsimp only
  split
  · exact failed_sound _ _
  · constructor
    · simp only [Bool.and_eq_true, decide_eq_true_eq, Option.some.injEq, exists_eq_left']
      omega
    · cases (decide (200 ≤ response.status) && decide (response.status < 300)) <;> simp

/-- Whatever a network answers, the page that is made of it is sound. -/
theorem resultOf_sound (network : Network) (charset : Json) (request : Request) :
    (resultOf network charset request).Sound := by
  unfold resultOf
  split
  · exact failed_sound _ _
  · split
    · exact failed_sound _ _
    · exact pageOf_sound _ _ _

namespace Options

/-- A body can be written: it is no text, or it is a text in a known charset, which has all of
its characters. -/
def HasWritableBody (options : Options) : Prop :=
  match options.body with
  | .null | .obj _ => True
  | text =>
      ∃ label charset,
        labelOf options.charset = .ok label ∧
          Charset.ofLabel (PageCharset.normalizeOr PageCharset.standard label) = .ok charset ∧
            charset ≠ .undefined ∧ ∀ c ∈ text.display, charset.HasChar c

end Options

theorem bodyOf_returns_iff (options : Options) :
    (∃ body, bodyOf options = .ok body) ↔ options.HasWritableBody := by
  unfold bodyOf Options.HasWritableBody
  split
  · rename_i isNone
    simp [isNone]
  · rename_i isForm
    simp [isForm]
  · rename_i text notNone notForm
    simp only [← Charset.encode_returns_iff]
    cases labelOf options.charset with
    | error typeName => simp [bind, Except.bind]
    | ok label =>
        cases found : Charset.ofLabel (PageCharset.normalizeOr PageCharset.standard label) with
        | error defect => simp [found, bind, Except.bind]
        | ok charset =>
            cases written : charset.encode options.body.display <;>
              simp [found, written, bind, Except.bind]

/-- A fetch that returns found the data in the address, or wrote the body. -/
theorem writable_of_fetch
    {network : Network}
    {url : Text}
    {options : Options}
    {ended : Page × Option Request}
    (returned : fetch network url options = .ok ended) :
    url.startsWith dataStart = true ∨ options.HasWritableBody := by
  rw [← bodyOf_returns_iff]
  unfold fetch requestFor at returned
  split at returned
  · exact .inl ‹_›
  · cases written : bodyOf options with
    | error defect =>
        rw [written] at returned
        cases returned
    | ok body => exact .inr ⟨body, rfl⟩

/-- A network that answers every request with an empty page. -/
def emptyNetwork : Network := fun request =>
  .response ⟨200, "OK".toList, [], [], request.url⟩

/-- A label that nobody knows. -/
def unknownLabel : Text := ['n', 'o', 'p', 'e']

theorem normalize_unknownLabel : PageCharset.normalize unknownLabel = some unknownLabel :=
  PageCharset.normalize_eq (by decide) (by decide +kernel)
    (by simp [PageCharset.widened, unknownLabel])

theorem ofLabel_unknown :
    Charset.ofLabel (PageCharset.normalizeOr PageCharset.standard (some unknownLabel)) =
      .error .lookup := by
  have unnamed : Charset.canonicalName?
      (Text.lower (Charset.reduceLabel false false unknownLabel)) = none := by
    unfold Charset.canonicalName? Charset.labelGroups Charset.labelRows
    -- The table of labels is unfolded as a list of characters, not as a string.
    rw [String.toList_ofList]
    decide +kernel
  rw [PageCharset.normalizeOr_eq normalize_unknownLabel (by decide), Charset.ofLabel,
    if_neg (by decide), unnamed]

/-- A letter to post, in a charset that nobody knows. -/
def unknownCharset : Options where
  method := "POST".toList
  body := .str ['a']
  charset := .str unknownLabel

end Http

end RuleProbe
