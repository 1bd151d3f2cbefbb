import RuleProbe.Proofs.Charset
import RuleProbe.Proofs.Stage.Work

/-!
# Requests for templates

A template becomes a request for an absolute address, or it is flawed.  There are three ways
in which it may end otherwise: something that it reads is refused, the address of the source
is no text, or the key of a search cannot be written in the charset that the options of the
template ask for.
-/

namespace RuleProbe

namespace Stage

namespace Book

open Extraction (Context)

variable {site : Site}

/-! ## Keys that cannot be escaped -/

/-- The label of the charset in which a key is escaped. -/
def keyLabel : Json → Text
  | .str label => if label.isEmpty then PageCharset.standard else label
  | _ => PageCharset.standard

/-- A key cannot be escaped in a charset, for a reason other than that nobody knows it. -/
inductive KeyRefused (key : Text) (charset : Json) : Defect → Prop where
  /-- The charset is no text. -/
  | foreignCharset
      (given : charset.isGiven = true)
      (foreign : ∀ label, charset ≠ .str label) :
      KeyRefused key charset .type
  /-- The label of the charset has a null character. -/
  | brokenLabel (broken : '\x00' ∈ keyLabel charset) : KeyRefused key charset .value
  /-- The charset does not write the key. -/
  | unwritable
      {known : Charset}
      {defect : Defect}
      (found : Charset.ofLabel (keyLabel charset) = .ok known)
      (refused : known.encode key = .error defect) :
      KeyRefused key charset defect

/-- The charset that options ask for. -/
def askedCharset (options : Record) : Json :=
  if (ruleIn options "charset").isGiven then ruleIn options "charset" else .null

/-! ## Faults of requests -/

/-- A fault, other than the flaw of a template, in which a request may end before it is
there. -/
inductive RequestFault (site : Site) (template : Text) (filling : Filling) : Fault → Prop where
  /-- A defect with a cause outside the engine. -/
  | caused {defect : Defect} (caused : defect.Caused) :
      RequestFault site template filling (.defect defect)
  /-- The address of the source is no text. -/
  | foreignSource
      (given : site.url.isGiven = true)
      (foreign : ∀ text, site.url ≠ .str text) :
      RequestFault site template filling (.defect (.noRule site.url.typeName))
  /-- The key cannot be escaped in the charset of the options that go with the template. -/
  | refusedKey
      {context : Context}
      {walk after : Walk}
      {written : Text}
      {options : Record}
      {defect : Defect}
      (chosen : runFrom (chooseTemplate site context filling.page template.trim) walk =
        (.ok (written, options), after))
      (keyed : filling.key ≠ [])
      (refused : KeyRefused filling.key (askedCharset options) defect) :
      RequestFault site template filling (.defect defect)

/-- A fault is the flaw of a template. -/
def IsTemplateFlaw (fault : Fault) : Prop :=
  ∃ flaw, fault = .template flaw

/-- A fault is the flaw of a template or one of the others in which a request may end. -/
def EndsRequest (site : Site) (template : Text) (filling : Filling) (fault : Fault) : Prop :=
  IsTemplateFlaw fault ∨ RequestFault site template filling fault

variable {template : Text} {filling : Filling}

instance : Fault.Covers (EndsRequest site template filling) where
  refused caused _ := .inr (.caused caused)

theorem EndsRequest.of_isCaused (fault : Fault) (caused : fault.IsCaused) :
    EndsRequest site template filling fault := by
  obtain ⟨defect, rfl, caused⟩ := caused
  exact .inr (.caused caused)

theorem EndsRequest.of_flaw (flaw : TemplateFlaw) :
    EndsRequest site template filling (.template flaw) :=
  .inl ⟨flaw, rfl⟩

/-! ## Parts of a request -/

theorem origin_failsBy : FailsBy (EndsRequest site template filling) site.origin := by
  refine FailsBy.bind ?_ fun url _ => Url.originOf_failsBy url
  intro fault failed
  unfold Extraction.ruleOf at failed
  split at failed
  · cases failed
  · rename_i foreign
    split at failed
    · rename_i given
      cases failed
      exact .inr (.foreignSource given foreign)
    · cases failed

/-- A fault is the failure of a script or a defect with a cause. -/
def ScriptEnds (fault : Fault) : Prop :=
  (∃ message, fault = .script message) ∨ fault.IsCaused

instance : Fault.Covers ScriptEnds where
  refused caused _ := .inr (Fault.isCaused_defect caused)

theorem script_endsBy
    (engine : Extraction.Engine)
    (context : Context)
    (code : Text)
    (value : Json) :
    Ends (fun _ => True) ScriptEnds (Extraction.runScript engine context code value true) :=
  Extraction.runScript_endsBy engine context code value fun _ message => .inl ⟨message, rfl⟩

/-- A template that scripts write is flawed when one of them fails, or when they write
nothing. -/
theorem scriptedTemplate_ends (context : Context) (text : Text) :
    Ends (fun _ => True) (EndsRequest site template filling)
      (scriptedTemplate site context text) := by
  unfold scriptedTemplate
  refine Ends.bind (?_ : Ends (fun _ => True) (EndsRequest site template filling) _)
    fun value _ => ?_
  · refine Ends.foldlM (fun _ _ => True) (fun _ step value _ _ => ?_) trivial
    cases step with
    | rule rule => exact .of_pure trivial
    | code code =>
        refine Ends.tryCatch (extract_ends (script_endsBy _ context code value))
          fun fault ended => ?_
        split
        · exact .of_throw (.of_flaw _)
        · rename_i other
          rcases ended with ⟨message, rfl⟩ | caused
          · exact absurd rfl (other message)
          · exact .of_throw (.of_isCaused fault caused)
  · dsimp only
    split
    · exact .of_throw (.of_flaw _)
    · exact .of_pure trivial

theorem splitOptions_failsBy
    {bad : Fault → Prop}
    [Fault.Covers bad]
    (text : Text) :
    FailsBy bad (AddressTemplate.splitOptions text) := by
  have object (text : Text) : FailsBy bad (AddressTemplate.object? text) := by
    unfold AddressTemplate.object?
    split
    · exact .of_ok _
    · exact .of_ok _
    · exact .of_ok _
    · exact .of_error (Fault.covers_broken (.longInteger ‹_›))
    · exact .of_error (Fault.covers_deepNesting ‹_›)
  have find (before text : Text) : FailsBy bad (AddressTemplate.findOptions before text) := by
    induction text generalizing before with
    | nil => exact .of_ok _
    | cons c rest hypothesis =>
        rw [AddressTemplate.findOptions]
        split
        · split
          · refine (object _).bind fun found _ => ?_
            cases found with
            | some options => exact .of_ok _
            | none => exact hypothesis _
          · exact hypothesis _
        · exact hypothesis _
  exact (find [] text).map _

theorem chooseTemplate_ends (context : Context) (page : Int) (text : Text) :
    Ends (fun _ => True) (EndsRequest site template filling)
      (chooseTemplate site context page text) := by
  unfold chooseTemplate
  dsimp only
  split
  · exact (scriptedTemplate_ends context text).bind fun written _ =>
      lift_ends (splitOptions_failsBy _)
  · exact lift_ends (splitOptions_failsBy _)

theorem ofLabel_refused
    {label : Text}
    {defect : Defect}
    (refused : Charset.ofLabel label = .error defect) :
    (defect = .value ∧ '\x00' ∈ label) ∨ defect = .lookup := by
  unfold Charset.ofLabel at refused
  split at refused
  · cases refused
    exact .inl ⟨rfl, List.elem_iff.mp ‹_›⟩
  · split at refused
    · cases refused
    · cases refused
      exact .inr rfl

/-- A key that is written in the charset of a label. -/
def keyIn (key label : Text) : Except Fault Text :=
  match (Charset.ofLabel label).bind fun charset => charset.encode key with
  | .ok bytes => .ok (Percent.encode [] bytes)
  | .error .lookup => .error (.template (.unknownCharset label))
  | .error defect => .error (.defect defect)

theorem escapedKey_foreign
    {filling : Filling}
    (keyed : filling.key ≠ [])
    (given : filling.charset.isGiven = true)
    (foreign : ∀ label, filling.charset ≠ .str label) :
    escapedKey filling = .error (.defect .type) := by
  unfold escapedKey
  rw [if_neg (by simpa using keyed)]
  dsimp only
  split
  · exact absurd ‹_› (foreign _)
  · rw [if_pos given]
    rfl

theorem escapedKey_labelled
    {filling : Filling}
    (keyed : filling.key ≠ [])
    (labelled : filling.charset.isGiven = false ∨ ∃ label, filling.charset = .str label) :
    escapedKey filling = keyIn filling.key (keyLabel filling.charset) := by
  unfold escapedKey
  rw [if_neg (by simpa using keyed)]
  have bind_ok (label : Text) : (Except.ok label).bind (keyIn filling.key) =
    keyIn filling.key label := rfl
  rcases labelled with absent | ⟨label, text⟩
  · cases charset : filling.charset with
    | str label => exact bind_ok _
    | _ =>
        rw [charset] at absent
        dsimp only
        rw [absent]
        exact bind_ok _
  · rw [text]
    exact bind_ok _

theorem keyIn_failsBy {key : Text} (keyed : key ≠ []) (charset : Json) :
    FailsBy
      (fun fault => IsTemplateFlaw fault ∨
        ∃ defect, fault = .defect defect ∧ key ≠ [] ∧ KeyRefused key charset defect)
      (keyIn key (keyLabel charset)) := by
  unfold keyIn
  split
  · exact .of_ok _
  · exact .of_error (.inl ⟨_, rfl⟩)
  · rename_i defect notLookup refused
    refine .of_error (.inr ⟨defect, rfl, keyed, ?_⟩)
    cases found : Charset.ofLabel (keyLabel charset) with
    | error reason =>
        rw [found] at refused
        cases refused
        rcases ofLabel_refused found with ⟨rfl, broken⟩ | rfl
        · exact .brokenLabel broken
        · exact absurd rfl notLookup
    | ok known =>
        rw [found] at refused
        exact .unwritable found refused

/-- A key fails to be escaped by the flaw of a template or for a reason of its own. -/
theorem escapedKey_failsBy (filling : Filling) :
    FailsBy
      (fun fault => IsTemplateFlaw fault ∨ ∃ defect, fault = .defect defect ∧
        filling.key ≠ [] ∧ KeyRefused filling.key filling.charset defect)
      (escapedKey filling) := by
  by_cases keyed : filling.key = []
  · unfold escapedKey
    rw [keyed]
    exact .of_ok _
  by_cases text : ∃ label, filling.charset = .str label
  · rw [escapedKey_labelled keyed (.inr text)]
    exact keyIn_failsBy keyed _
  cases given : filling.charset.isGiven with
  | false =>
      rw [escapedKey_labelled keyed (.inl given)]
      exact keyIn_failsBy keyed _
  | true =>
      have foreign (label : Text) : filling.charset ≠ .str label := fun isText =>
        text ⟨label, isText⟩
      rw [escapedKey_foreign keyed given foreign]
      exact .of_error (.inr ⟨.type, rfl, keyed, .foreignCharset given foreign⟩)

/-- A text is filled unless the key is refused or an expression in it comes upon a defect. -/
theorem fill_ends
    {bad : Fault → Prop}
    (filling : Filling)
    {context : Context}
    (valid : context.Valid)
    (text : Text)
    (key : FailsBy bad (escapedKey filling))
    (caused : ∀ fault, Fault.IsCaused fault → bad fault) :
    Ends (fun _ => True) bad (fill site context filling text) := by
  unfold fill
  refine (lift_ends key).bind fun key _ => ?_
  dsimp only
  split
  · exact (extract_ends ((Extraction.endsAt _ _).template valid _)).mono (fun _ _ => trivial) caused
  · exact .of_pure trivial

/-! ## Whole requests -/

/-- The request for a template that has been chosen, with its options. -/
def finishRequest
    (site : Site)
    (context : Context)
    (filling : Filling)
    (chosen : Text × Record) :
    Work PageRequest := do
  let (template, options) := chosen
  let filling := { filling with charset := askedCharset options }
  let url := Text.trim (← fill site context filling template)
  let body ← bodyOf site context filling options
  let url ← resolve site url []
  if !url.startsWithAny absoluteStarts then throw (.template (.notAbsolute template))
  let method := methodOf options body
  let headers ← lift (Header.ofValue (ruleIn options "headers"))
  let rendered := (ruleIn options "webView").isGiven
  return { url, method, body, headers, charset := filling.charset, rendered }

/-- What the placeholders stand for, under their names. -/
def namedValues (filling : Filling) : Json.Members :=
  [("key".toList, .str filling.key), ("page".toList, .int filling.page)]

theorem buildRequest_blank
    (site : Site)
    {template : Text}
    (blank : template.trim = [])
    (filling : Filling)
    (book : Json) :
    buildRequest site (.str template) filling book = throw (.template .emptyTemplate) := by
  unfold buildRequest
  change (if template.trim.isEmpty then _ else _) = _
  rw [blank]
  rfl

theorem buildRequest_given
    (site : Site)
    {template : Text}
    (given : template.trim ≠ [])
    (filling : Filling)
    (book : Json) :
    buildRequest site (.str template) filling book = (do
      let context ← contextOf site [] (← lift site.origin) book .null (namedValues filling)
      let chosen ← chooseTemplate site context filling.page template.trim
      finishRequest site context filling chosen) := by
  unfold buildRequest
  change (if template.trim.isEmpty then _ else _) = _
  rw [if_neg (by simpa using given)]
  rfl

/-- An address is absolute. -/
def PageRequest.IsAbsolute (ask : PageRequest) : Prop :=
  ask.url.startsWithAny absoluteStarts = true

theorem finishRequest_ends
    {context : Context}
    (valid : context.Valid)
    {chosen : Text × Record}
    (choice : ∃ walk after,
      runFrom (chooseTemplate site context filling.page template.trim) walk =
        (.ok chosen, after)) :
    Ends PageRequest.IsAbsolute (EndsRequest site template filling)
      (finishRequest site context filling chosen) := by
  obtain ⟨written, options⟩ := chosen
  obtain ⟨walk, after, choice⟩ := choice
  have key : FailsBy (EndsRequest site template filling)
      (escapedKey { filling with charset := askedCharset options }) := by
    refine (escapedKey_failsBy _).mono fun fault ended => ?_
    rcases ended with flaw | ⟨defect, rfl, keyed, refused⟩
    · exact .inl flaw
    · exact .inr (.refusedKey choice keyed refused)
  have filled (text : Text) : Ends (fun _ => True) (EndsRequest site template filling)
      (fill site context { filling with charset := askedCharset options } text) :=
    fill_ends _ valid text key EndsRequest.of_isCaused
  unfold finishRequest
  refine (filled written).bind fun address _ => ?_
  refine Ends.bind (?_ : Ends (fun _ => True) (EndsRequest site template filling) _)
    fun body _ => ?_
  · unfold bodyOf
    split
    · exact .of_pure trivial
    · exact (filled _).map fun _ _ => trivial
  refine (resolve_ends origin_failsBy address.trim []).bind fun url _ => ?_
  split
  · exact .of_throw (.of_flaw _)
  rename_i absolute
  refine (lift_ends (Header.ofValue_failsBy _)).bind fun headers _ => ?_
  refine .of_pure ?_
  unfold PageRequest.IsAbsolute
  simpa using absolute

/-- A request is one for an absolute address, or ends in the flaw of its template or in a
fault of its own. -/
theorem buildRequest_ends (book : Json) :
    Ends PageRequest.IsAbsolute (EndsRequest site template filling)
      (buildRequest site (.str template) filling book) := by
  by_cases blank : template.trim = []
  · rw [buildRequest_blank site blank]
    exact .of_throw (.of_flaw _)
  rw [buildRequest_given site blank]
  refine (lift_ends origin_failsBy).bind fun origin _ => ?_
  refine (contextOf_ends origin_failsBy _ _ _ _ _).bind fun context valid => ?_
  refine ((chooseTemplate_ends context _ _).and (Ends.returned _)).bind fun chosen choice => ?_
  exact finishRequest_ends valid choice.2

/-- A context can be built when the origin of the source is known. -/
theorem runFrom_contextOf
    {origin : Text}
    (known : site.origin = .ok origin)
    (body pageUrl : Text)
    (book chapter : Json)
    (extra : Json.Members)
    (walk : Walk) :
    ∃ context, runFrom (contextOf site body pageUrl book chapter extra) walk =
      (.ok context, { walk with documents := walk.documents + 1 }) := by
  unfold contextOf
  rw [known]
  split
  · exact ⟨_, rfl⟩
  · exact ⟨_, rfl⟩

/-- The request for a template that no script writes is the one for what the template says
for the page. -/
theorem runFrom_buildRequest
    (filling : Filling)
    {origin : Text}
    (known : site.origin = .ok origin)
    (given : template.trim ≠ [])
    (unscripted : isScripted template.trim = false)
    {chosen : Text × Record}
    (split : AddressTemplate.splitOptions
      (AddressTemplate.forPage filling.page template.trim) = .ok chosen)
    (book : Json)
    (walk : Walk) :
    ∃ context, runFrom (buildRequest site (.str template) filling book) walk =
      runFrom (finishRequest site context filling chosen)
        { walk with documents := walk.documents + 1 } := by
  obtain ⟨context, built⟩ :=
    runFrom_contextOf known [] origin book .null (namedValues filling) walk
  refine ⟨context, ?_⟩
  have choice (walk : Walk) :
      runFrom (chooseTemplate site context filling.page template.trim) walk =
        (.ok chosen, walk) := by
    unfold chooseTemplate
    rw [unscripted, if_neg Bool.false_ne_true, pure_bind]
    dsimp only
    rw [split]
    rfl
  rw [buildRequest_given site given, known]
  exact (runFrom_bind_of_ok built).trans (runFrom_bind_of_ok (choice _))

/-- A key that cannot be escaped ends a request. -/
theorem runFrom_finishRequest_refused
    {context : Context}
    {written : Text}
    {options : Record}
    {fault : Fault}
    (refused : escapedKey { filling with charset := askedCharset options } = .error fault)
    (walk : Walk) :
    runFrom (finishRequest site context filling (written, options)) walk =
      (.error fault, walk) := by
  have unfilled : runFrom
      (fill site context { filling with charset := askedCharset options } written) walk =
        (.error fault, walk) := by
    unfold fill
    rw [refused]
    rfl
  unfold finishRequest
  dsimp only
  rw [runFrom_bind, unfilled]

/-- A source of books that says nothing but its address. -/
def bareSite : Site where
  kind := .book
  definition := [("bookSourceUrl", .str "https://a.b")]
  settings := {}
  network := fun _ => .failure "ConnectionError" "unreachable"
  browser := fun _ => none

theorem ofLabel_ascii : Charset.ofLabel "ascii" = .ok .ascii := by
  have name :
      Charset.canonicalName? (Text.lower (Charset.reduceLabel false false "ascii")) =
        some "ascii".toList := by
    unfold Charset.canonicalName? Charset.labelGroups Charset.labelRows
    rw [String.toList_ofList]
    decide +kernel
  rw [Charset.ofLabel, if_neg (by decide), name]
  rfl

/-- A template that asks for the basic alphabet. -/
def plainTemplate : Text :=
  "https://a.b/\x7b\x7bkey\x7d\x7d,\x7b\"charset\":\"ascii\"\x7d"

/-- A value is the label of the basic alphabet. -/
def isAscii : Json → Bool
  | .str label => label == "ascii".toList
  | _ => false

/-- A letter with an accent. -/
def accented : Text := ['\u00e9']

/-- The basic alphabet does not write a letter with an accent. -/
theorem escapedKey_accented {charset : Json} (ascii : isAscii charset = true) :
    escapedKey { key := accented, charset } = .error (.defect .unencodable) := by
  unfold isAscii at ascii
  split at ascii
  · cases eq_of_beq ascii
    have label : keyLabel (.str "ascii") = "ascii" := rfl
    rw [escapedKey_labelled (by decide) (.inr ⟨_, rfl⟩)]
    dsimp only
    rw [label, keyIn, ofLabel_ascii]
    rfl
  · cases ascii

end Book

end Stage

end RuleProbe
