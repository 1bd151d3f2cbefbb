import RuleProbe.Proofs.Http
import RuleProbe.Proofs.Utf8

/-!
# Pages under bad charsets

The charset of a page is free text, and its bytes need not be those of a text in it.  Either costs
the page only its charset, since it is read as UTF-8 then, as far as possible.  But some codecs
refuse in another way, and a label may hold a character that none has: these are not provided for,
and cost the page.

Nothing of this depends on which charsets are known, so the codec is a parameter here.
-/

namespace RuleProbe

/-! ## Codecs -/

/-- A codec: what is read of bytes under a label. -/
abbrev Codec := Text → Bytes → Except Defect Text

/-- How a codec may end: a label with a null character is no label, and a codec reads the bytes, or
does not know the label, or cannot read the bytes, or refuses them in another way, which only those
of some special labels do. -/
structure Codec.Documented (codec : Codec) (special : Text → Prop) : Prop where
  /-- A label with a null character is no label. -/
  null : ∀ label raw, '\x00' ∈ label → codec label raw = .error .value
  /-- Under other labels there are four ways to end. -/
  ends : ∀ label raw, '\x00' ∉ label →
    (∃ text, codec label raw = .ok text) ∨ codec label raw = .error .lookup ∨
      codec label raw = .error .undecodable ∨ special label ∧ codec label raw = .error .unicode

/-- Bytes are refused under a label in a way that is not provided for. -/
def Codec.Refuses (codec : Codec) (special : Text → Prop) (label : Text) (raw : Bytes) : Prop :=
  '\x00' ∈ label ∨ special label ∧ codec label raw = .error .unicode

/-- A text of bytes under a label: what the codec reads, or the one in UTF-8 with replacements where
the codec reads nothing. -/
def Codec.Gives (codec : Codec) (label : Text) (raw : Bytes) (text : Text) : Prop :=
  codec label raw = .ok text ∨ (∀ found, codec label raw ≠ .ok found) ∧ Utf8.Replaces raw text

namespace Charset

/-- The charsets that may refuse bytes in another way than by not reading them. -/
def special : List Charset := [punycode, hostName, undefined]

/-- A charset reads bytes, or cannot read them, or is special and refuses them. -/
theorem decode_cases (charset : Charset) (raw : Bytes) :
    (∃ text, charset.decode raw = .ok text) ∨ charset.decode raw = .error .undecodable ∨
      charset ∈ special ∧ charset.decode raw = .error .unicode := by
  have readable_cases (text : Option Text) :
      (∃ found, readable text = .ok found) ∨ readable text = .error .undecodable := by
    cases text with
    | none => exact .inr rfl
    | some found => exact .inl ⟨found, rfl⟩
  unfold decode
  by_cases empty : raw.isEmpty = true
  · exact .inl ⟨[], if_pos empty⟩
  · rw [if_neg empty]
    cases charset <;> dsimp only
    case utf16 => split <;> exact (readable_cases _).imp_right .inl
    case punycode =>
      cases decodeBelow 128 raw with
      | none => exact .inr (.inl rfl)
      | some text =>
          by_cases delimited : text.endsWith ['-'] = true
          · exact .inl ⟨_, if_pos delimited⟩
          · exact .inr (.inr ⟨by decide, if_neg delimited⟩)
    case hostName =>
      by_cases marked : hasHostMark raw = true
      · exact .inr (.inr ⟨by decide, if_pos marked⟩)
      · rw [if_neg marked]
        exact (readable_cases _).imp_right .inl
    case undefined => exact .inr (.inr ⟨by decide, rfl⟩)
    all_goals exact (readable_cases _).imp_right .inl

/-- The codec of the known charsets. -/
def codec : Codec := fun label raw =>
  if raw.isEmpty && !label.elem '\x00' then .ok []
  else (ofLabel label).bind fun charset => charset.decode raw

/-- A label is one of a special charset. -/
def NamesSpecial (label : Text) : Prop := ∃ charset ∈ special, ofLabel label = .ok charset

theorem documented_codec : codec.Documented NamesSpecial where
  null := by
    intro label raw null
    have marked : label.elem '\x00' = true := by simpa using null
    rw [codec, marked, Bool.not_true, Bool.and_false, if_neg Bool.false_ne_true, ofLabel,
      if_pos marked]
    rfl
  ends := by
    intro label raw null
    have unmarked : label.elem '\x00' = false := by simpa using null
    rw [codec, unmarked, Bool.not_false, Bool.and_true]
    by_cases empty : raw.isEmpty = true
    · exact .inl ⟨[], if_pos empty⟩
    · rw [if_neg empty]
      cases known : ofLabel label with
      | error defect =>
          have lookup : defect = .lookup := by
            rw [ofLabel, unmarked, if_neg Bool.false_ne_true] at known
            split at known
            · cases known
            · exact (Except.error.inj known).symm
          rw [lookup]
          exact .inr (.inl rfl)
      | ok charset =>
          rcases decode_cases charset raw with read | unread | ⟨isSpecial, refused⟩
          · exact .inl read
          · exact .inr (.inr (.inl unread))
          · exact .inr (.inr (.inr ⟨⟨charset, isSpecial, known⟩, refused⟩))

end Charset

/-! ## Texts of pages -/

namespace PageCharset

variable {codec : Codec} {special : Text → Prop}

/-- The text of a page under a label, by a codec. -/
def decodeBodyBy (codec : Codec) (raw : Bytes) (label : Option Text) : Except Defect Text :=
  match codec (normalizeOr standard label) raw with
  | .ok text => .ok text
  | .error .lookup => .ok (Utf8.decodeLossy raw)
  | .error .undecodable => .ok (Utf8.decodeLossy raw)
  | .error defect => .error defect

/-- A page is read by the codec of the known charsets. -/
theorem decodeBody_eq (raw : Bytes) (label : Option Text) :
    decodeBody raw label = decodeBodyBy Charset.codec raw label := by
  unfold decodeBody decodeBodyBy Charset.codec
  dsimp only
  split <;> rfl

/-- A page has a text exactly when it is not refused, and it is the one that the codec gives. -/
theorem decodeBodyBy_eq_ok_iff (documented : codec.Documented special) (raw : Bytes)
    (label : Option Text) (text : Text) :
    decodeBodyBy codec raw label = .ok text ↔
      ¬codec.Refuses special (normalizeOr standard label) raw ∧
        codec.Gives (normalizeOr standard label) raw text := by
  unfold decodeBodyBy Codec.Refuses Codec.Gives
  generalize normalizeOr standard label = used
  by_cases null : '\x00' ∈ used
  · rw [documented.null used raw null]
    simp [null]
  · rcases documented.ends used raw null with
      ⟨found, read⟩ | unknown | unread | ⟨isSpecial, refused⟩
    · simp [null, read]
    · simp [null, unknown, Utf8.replaces_iff]
    · simp [null, unread, Utf8.replaces_iff]
    · simp [null, isSpecial, refused]

/-- Some text is given under every label. -/
theorem exists_gives (codec : Codec) (label : Text) (raw : Bytes) :
    ∃ text, codec.Gives label raw text := by
  cases read : codec label raw with
  | ok text => exact ⟨text, .inl read⟩
  | error defect =>
      refine ⟨_, .inr ⟨fun found => ?_, Utf8.replaces_decodeLossy raw⟩⟩
      rw [read]
      nofun

end PageCharset

/-! ## Pages of responses -/

namespace Http

variable {codec : Codec} {special : Text → Prop}

/-- The label of a response: the one that is asked for, or the one that the response or its page
names. -/
def labelFor (charset : Option Text) (response : Response) : Text :=
  PageCharset.normalizeOr
    (PageCharset.detect (headerValue? response.headers "Content-Type") response.content) charset

/-- The page of a response, by a codec. -/
def pageOfBy (codec : Codec) (url : Text) (charset : Option Text) (response : Response) : Page :=
  let used := labelFor charset response
  match PageCharset.decodeBodyBy codec response.content (some used) with
  | .error defect => failed url (defect.name ++ ": ".toList ++ charsetMessage defect)
  | .ok body =>
      let ok := 200 ≤ response.status && response.status < 300
      let error := Text.trim
        ("HTTP ".toList ++ Integer.write response.status ++ ' ' :: response.reason)
      { success := ok
        url := url
        status := some response.status
        headers := response.headers
        body := body
        raw := response.content
        charset := some used
        error := if ok then none else some error
        finalUrl := some response.url }

theorem pageOf_eq (url : Text) (charset : Option Text) (response : Response) :
    pageOf url charset response = pageOfBy Charset.codec url charset response := by
  unfold pageOf pageOfBy
  dsimp only
  rw [PageCharset.decodeBody_eq]
  rfl

/-- The result of a request, by a codec. -/
def resultOfBy (codec : Codec) (network : Network) (charset : Json) (request : Request) : Page :=
  match network request with
  | .failure kind message => failed request.url (kind ++ ": ".toList ++ message)
  | .response response =>
      match labelOf charset with
      | .error typeName => failed request.url (noLabelMessage typeName)
      | .ok label => pageOfBy codec request.url label response

/-- Fetch an address, by a codec for what the network answers. -/
def fetchBy (codec : Codec) (network : Network) (url : Text) (options : Options) :
    Except Defect (Page × Option Request) :=
  if url.startsWith dataStart then .ok (decodeData url, none)
  else
    (requestFor url options).map fun request =>
      (resultOfBy codec network options.charset request, some request)

/-- Pages are read by a codec, and so are those that are fetched. -/
structure ReadsBy (codec : Codec) : Prop where
  /-- Pages are read by the codec. -/
  decodeBody : ∀ raw label,
    PageCharset.decodeBody raw label = PageCharset.decodeBodyBy codec raw label
  /-- Pages are fetched by the codec. -/
  fetch : ∀ network url options,
    Http.fetch network url options = fetchBy codec network url options

theorem readsBy_codec : ReadsBy Charset.codec where
  decodeBody := PageCharset.decodeBody_eq
  fetch := by
    intro network url options
    have result (request : Request) : resultOf network options.charset request =
        resultOfBy Charset.codec network options.charset request := by
      unfold resultOf resultOfBy
      cases network request with
      | failure kind message => rfl
      | response response =>
          dsimp only
          cases labelOf options.charset with
          | error typeName => rfl
          | ok label => exact pageOf_eq request.url label response
    simp only [Http.fetch, fetchBy, result]

/-! ## Pages that are lost -/

/-- A request is made for an address, and the network answers it. -/
structure Answered
    (network : Network)
    (url : Text)
    (options : Options)
    (request : Request)
    (response : Response)
    (label : Option Text) : Prop where
  /-- The address does not hold its data itself. -/
  notData : url.startsWith dataStart = false
  /-- This request is made. -/
  prepared : requestFor url options = .ok request
  /-- This is the answer. -/
  answered : network request = .response response
  /-- The label that is asked for is a text, or none. -/
  labelled : labelOf options.charset = .ok label

/-- The page of a response whose status is good is there exactly when it is not refused, and then
its text is the one that the codec gives. -/
theorem pageOfBy_success_iff (documented : codec.Documented special) (url : Text)
    (charset : Option Text) {response : Response}
    (good : 200 ≤ response.status ∧ response.status < 300) :
    let page := pageOfBy codec url charset response
    let used := PageCharset.normalizeOr PageCharset.standard (some (labelFor charset response))
    (page.success = true ↔ ¬codec.Refuses special used response.content) ∧
      (page.success = true →
        page.raw = response.content ∧ codec.Gives used response.content page.body) := by
  have read := PageCharset.decodeBodyBy_eq_ok_iff documented response.content
    (some (labelFor charset response))
  unfold pageOfBy
  dsimp only
  cases ended : PageCharset.decodeBodyBy codec response.content
      (some (labelFor charset response)) with
  | error defect =>
      obtain ⟨text, gives⟩ := PageCharset.exists_gives codec
        (PageCharset.normalizeOr PageCharset.standard (some (labelFor charset response)))
        response.content
      have lost : ¬¬codec.Refuses special (PageCharset.normalizeOr PageCharset.standard
          (some (labelFor charset response))) response.content := by
        intro accepted
        have fine := (read text).mpr ⟨accepted, gives⟩
        rw [ended] at fine
        nomatch fine
      simp [failed, lost]
  | ok body =>
      obtain ⟨accepted, gives⟩ := (read body).mp ended
      simp [good, accepted, gives]

/-- A charset costs a page exactly when its codec refuses the bytes in a way that is not provided
for.  This holds of every codec, and so of the one that pages are read by. -/
theorem refusal_costs_page (documented : codec.Documented special) :
    ReadsBy Charset.codec ∧
      (∀ raw label text,
        PageCharset.decodeBodyBy codec raw label = .ok text ↔
          ¬codec.Refuses special (PageCharset.normalizeOr PageCharset.standard label) raw ∧
            codec.Gives (PageCharset.normalizeOr PageCharset.standard label) raw text) ∧
      ∀ network url options request response label,
        Answered network url options request response label →
          200 ≤ response.status → response.status < 300 →
            ∃ page used,
              fetchBy codec network url options = .ok (page, some request) ∧
                used = PageCharset.normalizeOr PageCharset.standard
                  (some (labelFor label response)) ∧
                (page.success = true ↔ ¬codec.Refuses special used response.content) ∧
                (page.success = true →
                  page.raw = response.content ∧ codec.Gives used response.content page.body) := by
  refine ⟨readsBy_codec, PageCharset.decodeBodyBy_eq_ok_iff documented, ?_⟩
  intro network url options request response label asked least most
  refine ⟨pageOfBy codec request.url label response, _, ?_, rfl,
    pageOfBy_success_iff documented request.url label ⟨least, most⟩⟩
  rw [fetchBy, asked.notData, if_neg Bool.false_ne_true, asked.prepared]
  simp only [Except.map, resultOfBy, asked.answered, asked.labelled]

/-! ### Bytes under two labels -/

/-- A good response with these bytes. -/
def bytesResponse (bytes : Bytes) : Response :=
  ⟨200, "OK".toList, [], bytes, "https://example.com/".toList⟩

/-- A network that answers every request with these bytes. -/
def bytesNetwork (bytes : Bytes) : Network := fun _ => .response (bytesResponse bytes)

/-- A page is asked for under a label. -/
def labelled (label : Text) : Options where
  charset := .str label

/-- The network answers the request that is made for a page under a label. -/
theorem answered_labelled (bytes : Bytes) (label : Text) :
    ∃ request, Answered (bytesNetwork bytes) "https://example.com/".toList (labelled label) request
      (bytesResponse bytes) (some label) := by
  obtain ⟨request, prepared⟩ : ∃ request,
      requestFor "https://example.com/".toList (labelled label) = .ok request := ⟨_, rfl⟩
  exact ⟨request, by decide, prepared, rfl, rfl⟩

/-- A byte that is no text under any label is read under a label that nobody knows, with a
replacement character. -/
theorem refusal_costs_page_unknownLabel :
    ∃ page request,
      fetch (bytesNetwork [0xff]) "https://example.com/".toList (labelled unknownLabel) =
          .ok (page, some request) ∧
        page.success = true ∧ page.raw = [0xff] ∧ page.body = ['\uFFFD'] := by
  obtain ⟨readsBy, -, costs⟩ := refusal_costs_page Charset.documented_codec
  obtain ⟨request, asked⟩ := answered_labelled [0xff] unknownLabel
  obtain ⟨page, used, fetched, rfl, there, text⟩ :=
    costs _ _ _ _ _ _ asked (by decide) (by decide)
  have usual := PageCharset.normalizeOr_eq normalize_unknownLabel rfl
  have content : (bytesResponse [0xff]).content = [0xff] := rfl
  rw [labelFor, usual, usual, content] at there text
  have unread : Charset.codec unknownLabel [0xff] = .error .lookup := by
    have known := ofLabel_unknown
    rw [usual] at known
    rw [Charset.codec, known]
    rfl
  have accepted : ¬Charset.codec.Refuses Charset.NamesSpecial unknownLabel [0xff] := by
    rintro (null | ⟨-, refused⟩)
    · exact absurd null (by decide)
    · rw [unread] at refused
      nomatch refused
  obtain ⟨raw, gives⟩ := text (there.mpr accepted)
  refine ⟨page, request, (readsBy.fetch _ _ _).trans fetched, there.mpr accepted, raw, ?_⟩
  rcases gives with read | ⟨-, replaced⟩
  · rw [unread] at read
    nomatch read
  · exact (Utf8.replaces_iff.mp replaced).symm

/-- The label of the charset that refuses everything. -/
def undefinedLabel : Text := ['u', 'n', 'd', 'e', 'f', 'i', 'n', 'e', 'd']

theorem normalize_undefinedLabel : PageCharset.normalize undefinedLabel = some undefinedLabel :=
  PageCharset.normalize_eq (by decide) (by decide +kernel)
    (by simp [PageCharset.widened, undefinedLabel])

theorem ofLabel_undefinedLabel : Charset.ofLabel undefinedLabel = .ok .undefined := by
  have named : Charset.canonicalName?
      (Text.lower (Charset.reduceLabel false false undefinedLabel)) = some undefinedLabel := by
    unfold Charset.canonicalName? Charset.labelGroups Charset.labelRows
    -- The table of labels is unfolded as a list of characters, not as a string.
    rw [String.toList_ofList]
    decide +kernel
  have found : Charset.ofName undefinedLabel = .undefined := by
    simp [Charset.ofName, undefinedLabel]
  rw [Charset.ofLabel, if_neg (by decide), named]
  exact congrArg Except.ok found

theorem decodeBody_undefinedLabel :
    PageCharset.decodeBody [97] (some undefinedLabel) = .error .unicode := by
  have noNull : undefinedLabel.elem '\x00' = false := by decide
  have usual := PageCharset.normalizeOr_eq normalize_undefinedLabel rfl
  have refused : Charset.undefined.decode [97] = .error .unicode := rfl
  rw [PageCharset.decodeBody, usual, ofLabel_undefinedLabel, List.isEmpty_cons, Bool.false_and,
    if_neg Bool.false_ne_true]
  simp only [Except.bind, refused]

/-- A response whose page has no text gives no page. -/
theorem pageOf_of_error {charset : Option Text} {response : Response} {defect : Defect}
    (lost : PageCharset.decodeBody response.content (some (labelFor charset response)) =
      .error defect)
    (url : Text) :
    (pageOf url charset response).success = false := by
  unfold labelFor at lost
  simp only [pageOf, lost, failed]

/-- A letter has no text under the label of the charset that refuses everything, and a response with
this letter costs the page. -/
theorem undefinedLabel_costs_page :
    PageCharset.decodeBody [97] (some undefinedLabel) = .error .unicode ∧
      ∃ page request,
        fetch (bytesNetwork [97]) "https://example.com/".toList (labelled undefinedLabel) =
            .ok (page, some request) ∧
          page.success = false := by
  have usual := PageCharset.normalizeOr_eq normalize_undefinedLabel rfl
  have lost : PageCharset.decodeBody (bytesResponse [97]).content
      (some (labelFor (some undefinedLabel) (bytesResponse [97]))) = .error .unicode := by
    rw [labelFor, usual]
    exact decodeBody_undefinedLabel
  obtain ⟨request, asked⟩ := answered_labelled [97] undefinedLabel
  refine ⟨decodeBody_undefinedLabel, pageOf request.url (some undefinedLabel) (bytesResponse [97]),
    request, ?_, pageOf_of_error lost request.url⟩
  rw [fetch, asked.notData, if_neg Bool.false_ne_true, asked.prepared]
  simp only [Except.map, resultOf, asked.answered, asked.labelled]

end Http

end RuleProbe
