import RuleProbe.Proofs.Charset
import RuleProbe.Proofs.Stage.Request
import RuleProbe.Proofs.Template

/-!
# Keys of searches

The key of a search is text and nothing else to a template in which the only braces are those
of placeholders.  No expression of such a template is evaluated, whatever the key is: it only
stands, escaped, in the address and in the body of the request.
-/

namespace RuleProbe

namespace Integer

/-- An integer is written as some characters, none of which opens an expression. -/
theorem write_plain (n : Int) : write n ≠ [] ∧ '\x7b' ∉ write n := by
  have digits (n : Nat) : '\x7b' ∉ writeNat n := fun member =>
    absurd (Nat.isDigit_of_mem_toDigits (by decide) (by decide) member) (by decide)
  cases n with
  | ofNat m => exact ⟨Nat.toDigits_ne_nil, digits m⟩
  | negSucc m => simp [write, digits]

end Integer

namespace Stage

/-- Work that only computes does the same as the computation alone. -/
theorem runFrom_lift_bind
    {α β : Type}
    {value : Except Fault α}
    {next : α → Work β}
    {rest : α → Except Fault β}
    {walk : Walk}
    (same : ∀ found, runFrom (next found) walk = (rest found, walk)) :
    runFrom (lift value >>= next) walk = (value >>= rest, walk) := by
  cases value with
  | ok found => exact same found
  | error fault => rfl

namespace Book

open AddressTemplate (Piece textOf filledText)
open Extraction (Context)

/-! ## Templates and keys -/

/-- A template that no script writes, and in whose address and body for a page the only braces
are those of placeholders. -/
structure PlainTemplate (template : Text) (page : Int) where
  /-- The pieces of the address. -/
  address : List Piece
  /-- The pieces of the body, if there is one. -/
  body : Option (List Piece)
  /-- The options. -/
  options : Record
  /-- No script writes the template. -/
  unscripted : isScripted template.trim = false
  /-- For the page, the template is the address with the options. -/
  split : AddressTemplate.splitOptions (AddressTemplate.forPage page template.trim) =
    .ok (textOf address, options)
  /-- The body is a text of the options. -/
  holds : ruleIn options "body" = (body.map fun pieces => Json.str (textOf pieces)).getD .null

/-- A key that is not empty, and that a charset of options writes. -/
structure WritableKey (charset : Json) where
  /-- The key. -/
  text : Text
  /-- The charset of that label. -/
  known : Charset
  /-- The bytes of the key in the charset. -/
  bytes : Bytes
  /-- The key is not empty. -/
  given : text ≠ []
  /-- The options give a label or no charset at all. -/
  labelled : charset.isGiven = false ∨ ∃ label, charset = .str label
  /-- The label is known. -/
  found : Charset.ofLabel (keyLabel charset) = .ok known
  /-- The charset writes the key. -/
  written : known.encode text = .ok bytes

namespace WritableKey

variable {charset : Json}

/-- The key as it stands in a request. -/
def escaped (key : WritableKey charset) : Text := Percent.encode [] key.bytes

theorem escaped_ne_nil (key : WritableKey charset) : key.escaped ≠ [] :=
  Percent.encode_ne_nil (Charset.encode_ne_nil key.given key.written)

theorem not_mem_escaped (key : WritableKey charset) : '\x7b' ∉ key.escaped :=
  (Percent.escaped_encode key.bytes).not_mem (by decide)

theorem escapedKey_eq (key : WritableKey charset) (page : Int) :
    escapedKey { key := key.text, page, charset } = .ok key.escaped := by
  rw [escapedKey_labelled key.given key.labelled]
  unfold keyIn
  rw [key.found]
  dsimp only [Except.bind]
  rw [key.written]
  rfl

/-- Filling pieces with a key that can be written evaluates nothing. -/
theorem fill_eq
    (key : WritableKey charset)
    (site : Site)
    (context : Context)
    (page : Int)
    (pieces : List Piece) :
    fill site context { key := key.text, page, charset } (textOf pieces) =
      pure (filledText key.escaped (Integer.write page) pieces) := by
  have filled :=
    AddressTemplate.fill_textOf key.not_mem_escaped (Integer.write page) pieces
  have plain := AddressTemplate.isTemplate_filledText key.not_mem_escaped
    (Integer.write_plain page).2 pieces
  unfold fill
  rw [key.escapedKey_eq]
  change (if Template.isTemplate (AddressTemplate.fill _ _ (AddressTemplate.fill _ _ _)) = true
    then _ else _) = _
  rw [filled, plain]
  rfl

end WritableKey

/-! ## Requests without evaluations -/

namespace PlainTemplate

variable {template : Text} {page : Int}

/-- The body in whose pieces an escaped key has been put. -/
def filledBody (plain : PlainTemplate template page) (key : Text) : Option Text :=
  plain.body.map (filledText key (Integer.write page))

/-- The address in whose pieces an escaped key has been put. -/
def filledAddress (plain : PlainTemplate template page) (key : Text) : Text :=
  filledText key (Integer.write page) plain.address

/-- The request in which an escaped key has been put, given the origin of the source. -/
def requestAt (plain : PlainTemplate template page) (origin key : Text) :
    Except Fault PageRequest := do
  let url ← Url.resolve (plain.filledAddress key).trim origin
  if !url.startsWithAny absoluteStarts then
    throw (.template (.notAbsolute (textOf plain.address)))
  let body := plain.filledBody key
  let method := methodOf plain.options body
  let headers ← Header.ofValue (ruleIn plain.options "headers")
  let rendered := (ruleIn plain.options "webView").isGiven
  return { url, method, body, headers, charset := askedCharset plain.options, rendered }

/-- What a source asks for when nothing is evaluated for it. -/
def request (plain : PlainTemplate template page) (origin : Except Fault Text) (key : Text) :
    Except Fault PageRequest :=
  if template.trim = [] then .error (.template .emptyTemplate)
  else origin.bind fun origin => plain.requestAt origin key

variable {site : Site}

theorem bodyOf_eq
    (plain : PlainTemplate template page)
    (key : WritableKey (askedCharset plain.options))
    (context : Context) :
    bodyOf site context { key := key.text, page, charset := askedCharset plain.options }
        plain.options =
      pure (plain.filledBody key.escaped) := by
  unfold bodyOf filledBody
  rw [plain.holds]
  cases plain.body with
  | none => rfl
  | some pieces =>
      change some <$> fill site context _ (textOf pieces) = _
      rw [key.fill_eq site context page pieces]
      rfl

theorem runFrom_finishRequest
    (plain : PlainTemplate template page)
    (key : WritableKey (askedCharset plain.options))
    {origin : Text}
    (known : site.origin = .ok origin)
    (context : Context)
    (walk : Walk) :
    runFrom
        (finishRequest site context { key := key.text, page } (textOf plain.address, plain.options))
        walk =
      (plain.requestAt origin key.escaped, walk) := by
  have resolved (url : Text) : resolve site url [] = lift (Url.resolve url origin) := by
    unfold resolve
    rw [known]
    rfl
  unfold finishRequest requestAt
  dsimp only
  rw [key.fill_eq site context page plain.address, plain.bodyOf_eq key context]
  simp only [pure_bind, resolved]
  refine runFrom_lift_bind fun url => ?_
  by_cases absolute : (!url.startsWithAny absoluteStarts) = true
  · rw [if_pos absolute, if_pos absolute]
    rfl
  · rw [if_neg absolute, if_neg absolute]
    exact runFrom_lift_bind fun headers => rfl

/-- Building the request evaluates nothing: it computes what is asked for, and only counts one
more document. -/
theorem runFrom_eq_request
    (plain : PlainTemplate template page)
    (key : WritableKey (askedCharset plain.options))
    (site : Site)
    (book : Json)
    (walk : Walk) :
    ∃ documents, runFrom (buildRequest site (.str template) { key := key.text, page } book) walk =
      (plain.request site.origin key.escaped, { walk with documents }) := by
  unfold request
  by_cases blank : template.trim = []
  · rw [buildRequest_blank site blank, if_pos blank]
    exact ⟨walk.documents, rfl⟩
  rw [if_neg blank]
  cases known : site.origin with
  | error fault =>
      rw [buildRequest_given site blank, known]
      exact ⟨walk.documents, rfl⟩
  | ok origin =>
      obtain ⟨context, same⟩ := runFrom_buildRequest { key := key.text, page } known blank
        plain.unscripted plain.split book walk
      exact ⟨walk.documents + 1, same.trans (plain.runFrom_finishRequest key known context _)⟩

/-! ## What a key decides -/

/-- A request says of a key only what is in its address and its body. -/
structure Shows (plain : PlainTemplate template page) (origin key : Text) (ask : PageRequest) :
    Prop where
  /-- The address is that of the template, trimmed and resolved. -/
  url : Url.resolve (plain.filledAddress key).trim origin = .ok ask.url
  /-- The body is that of the template. -/
  body : ask.body = plain.filledBody key
  /-- The method suits the body. -/
  method : ask.method = methodOf plain.options (plain.filledBody key)
  /-- The headers are those of the options. -/
  headers : Header.ofValue (ruleIn plain.options "headers") = .ok ask.headers
  /-- The charset is that of the options. -/
  charset : ask.charset = askedCharset plain.options
  /-- The options tell whether a browser renders the page. -/
  rendered : ask.rendered = (ruleIn plain.options "webView").isGiven

theorem shows_of_request
    {plain : PlainTemplate template page}
    {origin : Except Fault Text}
    {key : Text}
    {ask : PageRequest}
    (asked : plain.request origin key = .ok ask) :
    ∃ base, origin = .ok base ∧ plain.Shows base key ask := by
  unfold request at asked
  split at asked
  · cases asked
  obtain ⟨base, known, asked⟩ := exists_ok_of_bind asked
  obtain ⟨url, resolved, asked⟩ := exists_ok_of_bind asked
  refine ⟨base, known, ?_⟩
  dsimp only at asked
  split at asked
  · cases asked
  obtain ⟨headers, given, asked⟩ := exists_ok_of_bind asked
  cases asked
  exact ⟨resolved, rfl, rfl, given, rfl, rfl⟩

end PlainTemplate

/-- Requests that differ at most in their addresses and in the texts of their bodies. -/
structure Alike (one two : PageRequest) : Prop where
  /-- The methods are the same. -/
  method : one.method = two.method
  /-- The headers are the same. -/
  headers : one.headers = two.headers
  /-- The charsets are the same. -/
  charset : one.charset = two.charset
  /-- A browser renders both pages or none. -/
  rendered : one.rendered = two.rendered
  /-- Both requests have a body or none has one. -/
  hasBody : one.body.isSome = two.body.isSome

namespace PlainTemplate

variable {template : Text} {page : Int}

/-- The method does not depend on the key, since no key empties a body. -/
theorem methodOf_filledBody
    (plain : PlainTemplate template page)
    {one two : Text}
    (givenOne : one ≠ [])
    (givenTwo : two ≠ []) :
    methodOf plain.options (plain.filledBody one) =
      methodOf plain.options (plain.filledBody two) := by
  have given := (Integer.write_plain page).1
  have empty : ((plain.filledBody one).getD []).isEmpty =
      ((plain.filledBody two).getD []).isEmpty := by
    unfold filledBody
    cases plain.body with
    | none => rfl
    | some pieces =>
        rw [Bool.eq_iff_iff]
        simp [AddressTemplate.filledText_eq_nil_iff givenOne given,
          AddressTemplate.filledText_eq_nil_iff givenTwo given]
  unfold methodOf
  rw [empty]

theorem Shows.alike
    {plain : PlainTemplate template page}
    {baseOne baseTwo one two : Text}
    {askOne askTwo : PageRequest}
    (showsOne : plain.Shows baseOne one askOne)
    (showsTwo : plain.Shows baseTwo two askTwo)
    (givenOne : one ≠ [])
    (givenTwo : two ≠ []) :
    Alike askOne askTwo where
  method := by
    rw [showsOne.method, showsTwo.method, plain.methodOf_filledBody givenOne givenTwo]
  headers := Except.ok.inj (showsOne.headers.symm.trans showsTwo.headers)
  charset := by rw [showsOne.charset, showsTwo.charset]
  rendered := by rw [showsOne.rendered, showsTwo.rendered]
  hasBody := by
    rw [showsOne.body, showsTwo.body]
    simp [filledBody]

end PlainTemplate

/-! ## Inert keys -/

/-- The key of a search is inert.  It is escaped so that its bytes can be read back, its
request is built without evaluating anything, and the requests for two keys differ only where
the escaped keys stand. -/
theorem buildRequest_key_inert
    (site : Site)
    {template : Text}
    {page : Int}
    (plain : PlainTemplate template page) :
    (∀ key : WritableKey (askedCharset plain.options),
      Percent.Escaped key.escaped ∧
      Percent.decode (Utf8.encode key.escaped) = key.bytes ∧
      ∀ book walk, ∃ documents,
        runFrom (buildRequest site (.str template) { key := key.text, page } book) walk =
          (plain.request site.origin key.escaped, { walk with documents })) ∧
    ∀ (one two : WritableKey (askedCharset plain.options))
      (bookOne bookTwo : Json)
      (walkOne walkTwo afterOne afterTwo : Walk)
      (askOne askTwo : PageRequest),
      runFrom (buildRequest site (.str template) { key := one.text, page } bookOne) walkOne =
        (.ok askOne, afterOne) →
      runFrom (buildRequest site (.str template) { key := two.text, page } bookTwo) walkTwo =
        (.ok askTwo, afterTwo) →
      Alike askOne askTwo ∧
        ∃ origin, site.origin = .ok origin ∧
          plain.Shows origin one.escaped askOne ∧ plain.Shows origin two.escaped askTwo := by
  constructor
  · intro key
    exact ⟨Percent.escaped_encode _, Percent.decode_encode _, plain.runFrom_eq_request key site⟩
  · intro one two bookOne bookTwo walkOne walkTwo afterOne afterTwo askOne askTwo
      returnedOne returnedTwo
    -- Both runs give what is computed without evaluations.
    obtain ⟨_, sameOne⟩ := plain.runFrom_eq_request one site bookOne walkOne
    obtain ⟨_, sameTwo⟩ := plain.runFrom_eq_request two site bookTwo walkTwo
    obtain ⟨askedOne, -⟩ := Prod.mk.inj (sameOne.symm.trans returnedOne)
    obtain ⟨askedTwo, -⟩ := Prod.mk.inj (sameTwo.symm.trans returnedTwo)
    obtain ⟨origin, known, showsOne⟩ := PlainTemplate.shows_of_request askedOne
    obtain ⟨other, again, showsTwo⟩ := PlainTemplate.shows_of_request askedTwo
    cases known.symm.trans again
    exact ⟨showsOne.alike showsTwo one.escaped_ne_nil two.escaped_ne_nil,
      origin, known, showsOne, showsTwo⟩

/-- A template with both placeholders. -/
def pagedText : Text := "http://a/\x7b\x7b key \x7d\x7d?\x7b\x7bpage\x7d\x7d"

/-- The pieces of that template for the second page. -/
def pagedTemplate : PlainTemplate pagedText 2 where
  address :=
    AddressTemplate.piecesOf "http://a/" (by decide) ++
      [.placeholder .key [' '] [' '] rfl rfl, .char '?' rfl, .placeholder .page [] [] rfl rfl]
  body := none
  options := []
  unscripted := by decide
  split := rfl
  holds := rfl

theorem ofLabel_standard : Charset.ofLabel PageCharset.standard = .ok .utf8 := by
  have name :
      Charset.canonicalName? (Text.lower (Charset.reduceLabel false false PageCharset.standard)) =
        some "utf_8".toList := by
    unfold Charset.canonicalName? Charset.labelGroups Charset.labelRows
    rw [String.toList_ofList]
    decide +kernel
  rw [Charset.ofLabel, if_neg (by decide), name]
  rfl

/-- A key in the charset for templates that ask for none. -/
def standardKey (c : Char) : WritableKey (askedCharset pagedTemplate.options) where
  text := [c]
  known := .utf8
  bytes := Utf8.encode [c]
  given := by simp
  labelled := .inl rfl
  found := ofLabel_standard
  written := rfl

/-- The requests for an accented letter and for a sign that means something in an address. -/
theorem buildRequest_key_inert_paged :
    ∃ (askOne askTwo : PageRequest) (afterOne afterTwo : Walk),
      runFrom (buildRequest bareSite (.str pagedText) { key := ['\u00e9'], page := 2 }) {} =
        (.ok askOne, afterOne) ∧
      runFrom (buildRequest bareSite (.str pagedText) { key := ['&'], page := 2 }) {} =
        (.ok askTwo, afterTwo) ∧
      askOne.url = "http://a/%C3%A9?2" ∧ askTwo.url = "http://a/%26?2" ∧
      Alike askOne askTwo := by
  have returns (key : WritableKey (askedCharset pagedTemplate.options)) (url : Text)
      (asked : (pagedTemplate.request bareSite.origin key.escaped).toOption.map PageRequest.url =
        some url) :
      ∃ ask after,
        runFrom (buildRequest bareSite (.str pagedText) { key := key.text, page := 2 }) {} =
          (.ok ask, after) ∧ ask.url = url := by
    obtain ⟨-, -, computed⟩ := (buildRequest_key_inert bareSite pagedTemplate).1 key
    obtain ⟨documents, same⟩ := computed .null {}
    cases given : pagedTemplate.request bareSite.origin key.escaped with
    | error fault =>
        rw [given] at asked
        cases asked
    | ok ask =>
        rw [given] at asked same
        exact ⟨ask, _, same, Option.some.inj asked⟩
  obtain ⟨askOne, afterOne, returnedOne, urlOne⟩ :=
    returns (standardKey '\u00e9') "http://a/%C3%A9?2" (by decide +kernel)
  obtain ⟨askTwo, afterTwo, returnedTwo, urlTwo⟩ :=
    returns (standardKey '&') "http://a/%26?2" (by decide +kernel)
  have alike := ((buildRequest_key_inert bareSite pagedTemplate).2 (standardKey '\u00e9')
    (standardKey '&') .null .null {} {} _ _ _ _ returnedOne returnedTwo).1
  exact ⟨askOne, askTwo, afterOne, afterTwo, returnedOne, returnedTwo, urlOne, urlTwo, alike⟩

end Book

end Stage

end RuleProbe
