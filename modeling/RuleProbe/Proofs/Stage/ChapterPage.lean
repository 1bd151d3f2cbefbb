import RuleProbe.Proofs.Keyed
import RuleProbe.Proofs.Stage.Work
import RuleProbe.Proofs.Stage.Reading
import RuleProbe.Proofs.Stage.Secluded
import RuleProbe.Stage

/-!
# A page of chapters on the side

The stage that lists the chapters of a manga asks for the page at its address.  A rule of the
source may lead from there to another page of chapters, which is asked for on the side, with
headers that the rule ends in.  The stage depends on the first page only: when the second one is
not there, the chapters are listed as if there were no such rule.
-/

namespace RuleProbe

namespace Stage

open Extraction (Context)

variable {site : Site}

/-! ## Pages that are asked for -/

/-- The page that comes of an address that is asked for with some headers, and the request to the
network, if there has to be one. -/
structure Fetched
    (site : Site)
    (headers : Json.Members)
    (url : Text)
    (page : Page)
    (request? : Option Http.Request) : Prop where
  /-- The page and the request are those of the address. -/
  fetch_eq :
    Http.fetch site.network url (optionsOf site.settings { url } headers) = .ok (page, request?)

theorem exists_requestFor (settings : Settings) (headers : Json.Members) (url : Text) :
    ∃ request, Http.requestFor url (optionsOf settings { url } headers) = .ok request :=
  ⟨_, rfl⟩

theorem exists_fetched (site : Site) (headers : Json.Members) (url : Text) :
    ∃ page request?, Fetched site headers url page request? := by
  obtain ⟨request, made⟩ := exists_requestFor site.settings headers url
  by_cases data : url.startsWith Http.dataStart = true
  · exact ⟨_, _, ⟨if_pos data⟩⟩
  · refine ⟨Http.resultOf site.network .null request, some request, ⟨(if_neg data).trans ?_⟩⟩
    rw [made]
    rfl

/-- An address of the network takes a request. -/
theorem Fetched.exists_request
    {headers : Json.Members}
    {url : Text}
    {page : Page}
    {request? : Option Http.Request}
    (fetched : Fetched site headers url page request?)
    (ofNetwork : url.startsWithAny Manga.networkStarts = true) :
    ∃ request, request? = some request := by
  have noData : url.startsWith Http.dataStart = false := by
    cases url with
    | nil => rfl
    | cons c rest =>
        have first : c = 'h' := by
          simp only [Text.startsWithAny, Manga.networkStarts, Text.startsWith, List.any_cons,
            List.any_nil, Bool.or_false, Bool.or_eq_true] at ofNetwork
          rcases ofNetwork with start | start
          · obtain ⟨_, same⟩ := List.isPrefixOf_iff_prefix.mp start
            exact (List.cons.inj same).1.symm
          · obtain ⟨_, same⟩ := List.isPrefixOf_iff_prefix.mp start
            exact (List.cons.inj same).1.symm
        subst first
        rfl
  obtain ⟨request, made⟩ := exists_requestFor site.settings headers url
  have same := fetched.fetch_eq
  unfold Http.fetch at same
  rw [noData, made] at same
  cases same
  exact ⟨request, rfl⟩

/-- A request is one for its address, and its page is what the network answers to it. -/
theorem Fetched.of_request
    {headers : Json.Members}
    {url : Text}
    {page : Page}
    {request : Http.Request}
    (fetched : Fetched site headers url page (some request)) :
    page = Http.resultOf site.network .null request := by
  have same := fetched.fetch_eq
  unfold Http.fetch at same
  split at same
  · cases same
  · obtain ⟨own, made⟩ := exists_requestFor site.settings headers url
    rw [made] at same
    cases same
    rfl

/-- What comes of an address depends on the settings and on the answer to its request only. -/
theorem Fetched.of_answer
    {other : Site}
    {headers : Json.Members}
    {url : Text}
    {page : Page}
    {request? : Option Http.Request}
    (fetched : Fetched site headers url page request?)
    (settings : other.settings = site.settings)
    (answer : ∀ request ∈ request?, other.network request = site.network request) :
    Fetched other headers url page request? := by
  obtain ⟨request, made⟩ := exists_requestFor site.settings headers url
  have same := fetched.fetch_eq
  refine ⟨?_⟩
  unfold Http.fetch at same ⊢
  rw [settings]
  rw [made] at same ⊢
  split
  · rename_i data
    rw [if_pos data] at same
    exact same
  · rename_i network
    rw [if_neg network] at same
    cases same
    have answered := answer request rfl
    simp only [Except.map, Http.resultOf, answered]

/-- A stage that asks for a page makes the request that the page takes, and comes to depend on
the page if it is a primary one, which has to be there. -/
theorem runFrom_fetchPage
    {headers : Json.Members}
    {url : Text}
    {page : Page}
    {request? : Option Http.Request}
    (fetched : Fetched site headers url page request?)
    (primary : Bool)
    (walk : Walk) :
    ∃ result logs,
      runFrom (fetchPage site headers { url } primary) walk =
        (result,
          { walk with
            session := { walk.session with logs }
            calls := request?.toList.map Call.request ++ walk.calls
            page := if primary then some page else walk.page }) ∧
      ((page.success = true ∨ primary = false) → result = .ok page) ∧
      (page.success = false → primary = true → ∃ message, result = .error (.network message)) := by
  have reported (level : Log.Level) (topic : Log.Topic) (message : Text) (details : Json.Members)
      (walk : Walk) :
      runFrom (report level topic message details) walk =
        (.ok (), { walk with session := { walk.session with
          logs := { level, topic, message, details } :: walk.session.logs } }) := rfl
  have answered : runFrom (lift ((Http.fetch site.network url
      (optionsOf site.settings { url } headers)).mapError Fault.defect) :
        Work (Page × Option Http.Request)) = fun walk => (.ok (page, request?), walk) := by
    funext walk
    rw [fetched.fetch_eq]
    rfl
  unfold fetchPage reportRequest
  simp only [runFrom_bind, reported, runFrom_pure, answered, runFrom_modify]
  cases there : page.success with
  | true =>
      simp only [if_true, runFrom_bind, reported, runFrom_pure]
      exact ⟨_, _, rfl, fun _ => rfl, by simp⟩
  | false =>
      cases primary with
      | true => exact ⟨_, _, rfl, by simp, fun _ _ => ⟨_, rfl⟩⟩
      | false => exact ⟨_, _, rfl, fun _ => rfl, by simp⟩

namespace Manga

/-! ## The way to the chapters -/

/-- Ask for the page at an address, and set up the context in which it is read. -/
def opening (site : Site) (url : Text) (book : Json) : Work (Context × Text) := do
  let url ← absolute site url
  storeParameters url
  let found ← fetch site url
  let pageUrl := pageAddress found url
  return (← contextOf site found.body pageUrl book, pageUrl)

theorem chapters_eq (url : Text) (book : Json) :
    chapters site url book =
      opening site url book >>= fun opened =>
        chapterContext site opened.1 opened.2 book >>= listChapters site opened.2 := by
  unfold chapters opening
  simp only [bind_assoc, pure_bind]
  rfl

/-- The address of another page of chapters, if a rule leads to one, and the headers to ask for it
with. -/
def chapterLink (site : Site) (context : Context) (pageUrl : Text) :
    Work (Option (Text × Keyed Text)) := do
  let (text, given) ← lift (ruleOf (site.entry "ruleChapterUrl"))
  match ← readField site context "chapterApiUrl" (.str text) with
  | none => return none
  | some url =>
      let url ← resolve site url pageUrl
      if url == pageUrl || !url.startsWithAny networkStarts then return none
      return some (url, ← chapterHeaders site given)

/-- Ask for another page of chapters. -/
def askOnTheSide (site : Site) (url : Text) (others : Keyed Text) : Work (Option Text) := do
  report .info .request ("Requesting chapter API: " ++ url)
  let all := Keyed.update (← lift (headers site))
    (others.map fun header => (header.1, Json.str header.2))
  let found ← fetchPage site all { url } false
  if found.success then return some found.body
  report .warning .request
    "Chapter API failed, parsing the table-of-contents page instead"
  return none

theorem chapterPage_eq (context : Context) (pageUrl : Text) :
    chapterPage site context pageUrl =
      chapterLink site context pageUrl >>= fun link? =>
        match link? with
        | none => pure none
        | some link => askOnTheSide site link.1 link.2 := by
  unfold chapterPage chapterLink
  simp only [bind_assoc]
  refine congrArg (_ >>= ·) (funext fun given => ?_)
  refine congrArg (_ >>= ·) (funext fun found => ?_)
  cases found with
  | none => rfl
  | some url =>
      simp only [bind_assoc]
      refine congrArg (_ >>= ·) (funext fun url => ?_)
      split
      · rfl
      · simp only [bind_assoc, pure_bind]
        rfl

/-! ## Headers on the side -/

theorem nodup_keys_pairs
    {items : List Text}
    {read : Keyed Text}
    (distinct : (Keyed.keys read).Nodup) :
    (Keyed.keys (Directive.pairs items read)).Nodup := by
  induction items generalizing read with
  | nil => exact distinct
  | cons item rest hypothesis =>
      rw [Directive.pairs]
      split
      · simp only
        split
        · exact hypothesis distinct
        · exact hypothesis (Keyed.nodup_keys_put distinct _ _)
      · exact hypothesis distinct

/-- A rule ends in one header of each name at most. -/
theorem nodup_keys_of_ruleOf
    {value : Json}
    {text : Text}
    {given : Keyed Text}
    (read : ruleOf value = .ok (text, given)) :
    (Keyed.keys given).Nodup := by
  unfold ruleOf at read
  split at read
  · cases read
    split
    · exact List.nodup_nil
    · exact nodup_keys_pairs List.nodup_nil
  · split at read
    · cases read
    · cases read
      exact List.nodup_nil

/-- What stands for the value of a header: the mark of the host stands for the origin. -/
def hostValue (origin value : Text) : Text :=
  if value = hostMark then origin else value

/-- The headers of a request on the side: those of the source, over them the address that the
request comes from, and over this the headers that the rule ends in. -/
structure SideHeaders
    (own : Json.Members)
    (origin : Text)
    (given : Keyed Text)
    (all : Json.Members) : Prop where
  /-- A header that the rule ends in stands, whatever else would. -/
  ofRule {name value : Text} :
    Keyed.get? given name = some value →
      Keyed.get? all name = some (.str (hostValue origin value))
  /-- Without such a header, the request names the origin as its referrer. -/
  referrer :
    Keyed.get? given "Referer" = none →
      Keyed.get? all "Referer" = some (.str (origin ++ ['/']))
  /-- All other headers are those of the source. -/
  ofSource {name : Text} :
    Keyed.get? given name = none → name ≠ "Referer" →
      Keyed.get? all name = Keyed.get? own name

theorem runFrom_chapterHeaders
    {origin : Text}
    (isOrigin : site.origin = .ok origin)
    (given : Keyed Text)
    (walk : Walk) :
    runFrom (chapterHeaders site given) walk =
      (.ok (Keyed.update [("Referer", origin ++ ['/'])]
        (given.map fun header => (header.1, hostValue origin header.2))), walk) := by
  unfold chapterHeaders
  rw [isOrigin]
  unfold Keyed.update
  rw [List.foldl_map]
  simp only [hostValue, beq_iff_eq]
  rfl

theorem sideHeaders_update
    {given : Keyed Text}
    (distinct : (Keyed.keys given).Nodup)
    (own : Json.Members)
    (origin : Text) :
    SideHeaders own origin given
      (Keyed.update own
        ((Keyed.update [("Referer", origin ++ ['/'])]
          (given.map fun header => (header.1, hostValue origin header.2))).map
            fun header => (header.1, Json.str header.2))) := by
  have changed : (Keyed.keys (given.map fun header =>
      (header.1, hostValue origin header.2))).Nodup := by
    simpa [Keyed.keys, Function.comp_def] using distinct
  have joined : (Keyed.keys (Keyed.update [("Referer".toList, origin ++ ['/'])]
      (given.map fun header => (header.1, hostValue origin header.2)))).Nodup :=
    Keyed.nodup_keys_update (by simp [Keyed.keys]) _
  have joinedText : (Keyed.keys ((Keyed.update [("Referer".toList, origin ++ ['/'])]
      (given.map fun header => (header.1, hostValue origin header.2))).map
        fun header => (header.1, Json.str header.2))).Nodup := by
    simpa [Keyed.keys, Function.comp_def] using joined
  have found (name : Text) :
      Keyed.get? (Keyed.update own ((Keyed.update [("Referer".toList, origin ++ ['/'])]
        (given.map fun header => (header.1, hostValue origin header.2))).map
          fun header => (header.1, Json.str header.2))) name =
        ((((Keyed.get? given name).map (hostValue origin)).or
          (Keyed.get? [("Referer".toList, origin ++ ['/'])] name)).map Json.str).or
            (Keyed.get? own name) := by
    rw [Keyed.get?_update, Keyed.get?_reverse_of_nodup joinedText, Keyed.get?_map,
      Keyed.get?_update, Keyed.get?_reverse_of_nodup changed, Keyed.get?_map]
  exact
    { ofRule := fun {name value} bound => by rw [found, bound]; rfl
      referrer := fun missing => by rw [found, missing]; rfl
      ofSource := fun {name} missing other => by
        have absent : Keyed.get? [("Referer".toList, origin ++ ['/'])] name = none :=
          Keyed.get?_eq_none_of_notMem fun listed => other (List.mem_singleton.mp listed)
        rw [found, missing, absent]
        rfl }

/-! ## The link to another page -/

theorem chapterHeaders_changesSession (given : Keyed Text) :
    Leads SameButSession (chapterHeaders site given) := by
  unfold chapterHeaders
  exact (lift_changesSession _).bind fun origin => .of_pure _

theorem chapterLink_changesSession (context : Context) (pageUrl : Text) :
    Leads SameButSession (chapterLink site context pageUrl) := by
  unfold chapterLink
  refine (lift_changesSession _).bind fun found => ?_
  refine (readField_changesSession context _ _ _).bind fun url? => ?_
  cases url? with
  | none => exact .of_pure none
  | some url =>
      refine (resolve_changesSession _ _).bind fun url => ?_
      split
      · exact .of_pure none
      · exact (chapterHeaders_changesSession _).bind fun others => .of_pure _

/-- A link to another page of chapters: what its rule is, and what has come of it. -/
structure IsLink
    (site : Site)
    (text : Text)
    (given : Keyed Text)
    (origin url : Text)
    (others : Keyed Text) : Prop where
  /-- The rule, and the headers that it ends in. -/
  rule_eq : ruleOf (site.entry "ruleChapterUrl") = .ok (text, given)
  /-- The origin of the source. -/
  origin_eq : site.origin = .ok origin
  /-- The link leads into the network. -/
  ofNetwork : url.startsWithAny networkStarts = true
  /-- The headers to ask with, over those of the source. -/
  others_eq :
    others = Keyed.update [("Referer", origin ++ ['/'])]
      (given.map fun header => (header.1, hostValue origin header.2))

/-- A link has been found by evaluating the rule for it, which alone has changed variables. -/
theorem isLink_of_chapterLink
    {context : Context}
    {pageUrl url : Text}
    {others : Keyed Text}
    {walk after : Walk}
    (found : runFrom (chapterLink site context pageUrl) walk = (.ok (some (url, others)), after)) :
    ∃ text given origin,
      IsLink site text given origin url others ∧
        after.session.store =
          (runFrom (Extraction.evaluate site.engine context text) walk.session).2.store := by
  unfold chapterLink at found
  obtain ⟨⟨text, given⟩, _, ruled, found⟩ := runFrom_bind_eq_ok_iff.mp found
  rw [runFrom_lift] at ruled
  obtain ⟨rule_eq, rfl⟩ := Prod.mk.inj ruled
  obtain ⟨value?, read, fieldRead, found⟩ := runFrom_bind_eq_ok_iff.mp found
  cases value? with
  | none => cases found
  | some value =>
      have stores : read.session.store =
          (runFrom (Extraction.evaluate site.engine context text) walk.session).2.store := by
        cases isGiven : (Json.str text).isGiven with
        | false =>
            rw [readField_of_not_given isGiven] at fieldRead
            cases fieldRead
        | true =>
            obtain ⟨logs, ran⟩ := runFrom_readField site isGiven rfl context
              "chapterApiUrl" {} walk
            rw [ran] at fieldRead
            rw [← (Prod.mk.inj fieldRead).2]
      obtain ⟨resolved, between, isResolved, found⟩ := runFrom_bind_eq_ok_iff.mp found
      rw [resolve_eq_lift, runFrom_lift] at isResolved
      obtain ⟨-, rfl⟩ := Prod.mk.inj isResolved
      split at found
      · cases found
      · rename_i goesOn
        obtain ⟨headers, last, headed, found⟩ := runFrom_bind_eq_ok_iff.mp found
        obtain ⟨same, rfl⟩ := Prod.mk.inj found
        obtain ⟨rfl, rfl⟩ := Prod.mk.inj (Option.some.inj (Except.ok.inj same))
        cases isOrigin : site.origin with
        | error fault =>
            unfold chapterHeaders at headed
            rw [isOrigin] at headed
            cases headed
        | ok origin =>
            rw [runFrom_chapterHeaders isOrigin] at headed
            obtain ⟨others_eq, rfl⟩ := Prod.mk.inj headed
            rw [Bool.or_eq_true, not_or, Bool.not_eq_true, Bool.not_eq_true',
              Bool.not_eq_false] at goesOn
            exact ⟨text, given, origin, ⟨rule_eq, isOrigin, goesOn.2,
              (Except.ok.inj others_eq).symm⟩, stores⟩

/-! ## The request on the side -/

/-- A page that is asked for on the side makes the request that it takes, and nothing else of the
walk depends on it than the calls and the log. -/
theorem runFrom_askOnTheSide
    {own : Json.Members}
    (known : headers site = .ok own)
    {url : Text}
    {others : Keyed Text}
    {page : Page}
    {request? : Option Http.Request}
    (fetched : Fetched site
      (Keyed.update own (others.map fun header => (header.1, Json.str header.2)))
      url page request?)
    (walk : Walk) :
    ∃ body? after,
      runFrom (askOnTheSide site url others) walk = (.ok body?, after) ∧
        after.calls = request?.toList.map Call.request ++ walk.calls ∧
        after.page = walk.page ∧
        Alike walk after ∧
        (page.success = false → body? = none) := by
  obtain ⟨result, logs, ran, there, -⟩ := runFrom_fetchPage fetched false
    (walk.logged
      { level := .info, topic := .request, message := "Requesting chapter API: " ++ url })
  rw [there (.inr rfl)] at ran
  unfold askOnTheSide
  simp only [runFrom_bind, runFrom_report, known, runFrom_lift]
  rw [ran]
  cases success : page.success with
  | true =>
      simp only [success, if_true, runFrom_pure]
      exact ⟨_, _, rfl, rfl, rfl, ⟨rfl, rfl, rfl, rfl, rfl, rfl, rfl, rfl⟩, by simp⟩
  | false =>
      simp only [success, Bool.false_eq_true, if_false, runFrom_bind, runFrom_report]
      exact ⟨_, _, rfl, rfl, rfl, ⟨rfl, rfl, rfl, rfl, rfl, rfl, rfl, rfl⟩, fun _ => rfl⟩

/-- A request that a source makes on the side, over the headers of its own. -/
structure SideRequest (site : Site) (own : Json.Members) where
  /-- The rule that leads there. -/
  text : Text
  /-- The headers that the rule ends in. -/
  given : Keyed Text
  /-- The rule is that of the source. -/
  rule_eq : ruleOf (site.entry "ruleChapterUrl") = .ok (text, given)
  /-- The origin of the source. -/
  origin : Text
  /-- The origin is that of the source. -/
  origin_eq : site.origin = .ok origin
  /-- The headers that are asked for. -/
  headers : Json.Members
  /-- The headers come from the source and its rule. -/
  headed : SideHeaders own origin given headers
  /-- The address that is asked for. -/
  url : Text
  /-- What comes of it. -/
  page : Page
  /-- The request that is made. -/
  request : Http.Request
  /-- The request is the one for the address. -/
  fetched : Fetched site headers url page (some request)

/-- Asking for another page of chapters makes one request at most.  When its page is not there, it
changes no more of the walk than the evaluation of the rule that leads to it. -/
theorem runFrom_chapterContext
    {own : Json.Members}
    (known : headers site = .ok own)
    (context : Context)
    (pageUrl : Text)
    (book : Json)
    (walk : Walk) :
    (runFrom (chapterContext site context pageUrl book) walk).2.page = walk.page ∧
    ((runFrom (chapterContext site context pageUrl book) walk).2.calls = walk.calls ∨
      ∃ side : SideRequest site own,
        (runFrom (chapterContext site context pageUrl book) walk).2.calls =
          .request side.request :: walk.calls ∧
        (side.page.success = false →
          (runFrom (chapterContext site context pageUrl book) walk).1 = .ok context ∧
          ((runFrom (Extraction.evaluate site.engine context side.text) walk.session).2.store =
              walk.session.store →
            Alike walk (runFrom (chapterContext site context pageUrl book) walk).2))) := by
  obtain ⟨session, changed⟩ : SameButSession walk
      (runFrom (chapterLink site context pageUrl) walk).2 :=
    chapterLink_changesSession context pageUrl walk
  unfold chapterContext
  rw [chapterPage_eq, bind_assoc, runFrom_bind]
  cases linked : runFrom (chapterLink site context pageUrl) walk with
  | mk result after =>
      rw [linked] at changed
      cases changed
      rcases result with fault | _ | ⟨url, others⟩
      · exact ⟨rfl, .inl rfl⟩
      · exact ⟨rfl, .inl rfl⟩
      · obtain ⟨text, given, origin, link, stores⟩ := isLink_of_chapterLink linked
        obtain ⟨page, request?, fetched⟩ := exists_fetched site
          (Keyed.update own (others.map fun header => (header.1, Json.str header.2))) url
        obtain ⟨request, rfl⟩ := fetched.exists_request link.ofNetwork
        obtain ⟨body?, after, asked, calls, page_eq, alike, missing⟩ :=
          runFrom_askOnTheSide known fetched { walk with session }
        let side : SideRequest site own :=
          { text, given, origin, url, page, request
            rule_eq := link.rule_eq
            origin_eq := link.origin_eq
            headers := Keyed.update own (others.map fun header => (header.1, Json.str header.2))
            headed := by
              rw [link.others_eq]
              exact sideHeaders_update (nodup_keys_of_ruleOf link.rule_eq) own origin
            fetched }
        dsimp only
        rw [runFrom_bind_of_ok asked]
        cases body? with
        | none =>
            rw [runFrom_pure]
            refine ⟨page_eq, .inr ⟨side, calls, fun _ => ⟨rfl, fun unchanged => ?_⟩⟩⟩
            exact { alike with store := alike.store.trans (stores.trans unchanged) }
        | some body =>
            have builds : Secluded after after (contextOf site body pageUrl book) :=
              Secluded.contextOf _ _ _ _ _
            refine ⟨builds.page_eq.trans page_eq, .inr ⟨side, builds.calls_eq.trans calls, ?_⟩⟩
            intro failed
            cases missing failed

/-! ## The request for the first page -/

/-- The absolute address of an address, without any effect. -/
def absoluteAddress (site : Site) (url : Text) : Except Fault Text :=
  if url.trim.isEmpty then .error (.template .emptyAddress)
  else
    resolved site url.trim [] >>= fun found =>
      if found.startsWithAny absoluteStarts then .ok found
      else .error (.template (.notAbsolute found))

theorem absolute_eq_lift (url : Text) : absolute site url = lift (absoluteAddress site url) := by
  unfold absolute absoluteAddress
  simp only
  split
  · rfl
  · rw [resolve_eq_lift, ← lift_bind]
    refine congrArg (_ >>= ·) (funext fun found => ?_)
    split <;> rfl

/-- The parameters of an address that can be read are stored without fail. -/
theorem storeParameters_ends
    {address : Text}
    {parts : Url}
    (parsed : Url.read [] address = .ok parts) :
    Ends (fun _ => True) (fun _ => False) (storeParameters address) := by
  unfold storeParameters
  rw [parsed]
  refine (lift_ends (.of_ok parts)).bind fun read _ => .forM fun parameter _ => ?_
  have asked : Ends (fun _ => True) (fun _ => False) (extract (Extraction.stored? parameter.1)) :=
    extract_ends (.of_get fun session => .of_pure trivial)
  refine asked.bind fun known _ => ?_
  simp only
  split
  · exact (extract_ends (.of_modify _)).bind fun _ _ => report_ends _ _ _ _
  · exact .of_pure trivial

theorem runFrom_fetch
    {own : Json.Members}
    (known : headers site = .ok own)
    {url : Text}
    {page : Page}
    {request? : Option Http.Request}
    (fetched : Fetched site own url page request?)
    (walk : Walk) :
    (runFrom (fetch site url) walk).2.calls = request?.toList.map Call.request ++ walk.calls ∧
      (runFrom (fetch site url) walk).2.page = some page := by
  obtain ⟨ended, logs, asked, -⟩ := runFrom_fetchPage fetched true walk
  unfold fetch
  rw [known, runFrom_bind, runFrom_lift]
  dsimp only
  rw [asked]
  exact ⟨rfl, rfl⟩

/-- The first page is asked for once its address has been read and the headers are known. -/
theorem runFrom_opening
    {own : Json.Members}
    (known : headers site = .ok own)
    {url address : Text}
    (built : absoluteAddress site url = .ok address)
    {parts : Url}
    (parsed : Url.read [] address = .ok parts)
    {page : Page}
    {request? : Option Http.Request}
    (fetched : Fetched site own address page request?)
    (book : Json)
    (walk : Walk) :
    (runFrom (opening site url book) walk).2.calls =
        request?.toList.map Call.request ++ walk.calls ∧
      (runFrom (opening site url book) walk).2.page = some page := by
  unfold opening
  rw [absolute_eq_lift, built, runFrom_bind, runFrom_lift]
  dsimp only
  have parameters : Secluded walk walk (storeParameters address) :=
    storeParameters_secluded address
  have calls := parameters.calls_eq
  rw [runFrom_bind]
  cases stored : runFrom (storeParameters address) walk with
  | mk result between =>
      rw [stored] at calls
      cases result with
      | error fault => exact ((storeParameters_ends parsed).fault stored).elim
      | ok _ =>
          obtain ⟨asked, depends⟩ := runFrom_fetch known fetched between
          have builds (found : Page) (walk : Walk) : Secluded walk walk (do
              return (← contextOf site found.body (pageAddress found address) book,
                pageAddress found address)) :=
            (Secluded.contextOf _ _ _ _ _).andThen fun context => .of_pure _
          obtain ⟨sameCalls, samePage⟩ :=
            Secluded.behind (fetch site address) builds between
          exact ⟨sameCalls.trans (asked.trans (congrArg _ calls)), samePage.trans depends⟩

/-- Nothing is asked for before the address has been read and the headers are known. -/
theorem runFrom_opening_of_refused
    {url address : Text}
    (built : absoluteAddress site url = .ok address)
    (refused : ∀ own parts, headers site = .ok own → Url.read [] address ≠ .ok parts)
    (book : Json)
    (walk : Walk) :
    ∃ fault,
      (runFrom (opening site url book) walk).1 = .error fault ∧
        (runFrom (opening site url book) walk).2.calls = walk.calls ∧
        (runFrom (opening site url book) walk).2.page = walk.page := by
  unfold opening
  rw [absolute_eq_lift, built, runFrom_bind, runFrom_lift]
  dsimp only
  have parameters : Secluded walk walk (storeParameters address) :=
    storeParameters_secluded address
  have calls := parameters.calls_eq
  have page := parameters.page_eq
  rw [runFrom_bind]
  cases stored : runFrom (storeParameters address) walk with
  | mk result between =>
      rw [stored] at calls page
      cases result with
      | error fault => exact ⟨fault, rfl, calls, page⟩
      | ok _ =>
          dsimp only
          unfold fetch
          cases known : headers site with
          | error fault => exact ⟨fault, rfl, calls, page⟩
          | ok own =>
              unfold storeParameters at stored
              cases parsed : Url.read [] address with
              | error fault =>
                  rw [parsed] at stored
                  cases stored
              | ok parts => exact absurd parsed (refused own parts known)

end Manga

/-! ## Sources without the rule -/

/-- A source without an entry of its definition. -/
def Site.without (site : Site) (name : Text) : Site :=
  { site with definition := Keyed.remove site.definition name }

theorem Site.without_entry (site : Site) (name other : Text) :
    (site.without name).entry other = if other = name then .null else site.entry other := by
  unfold entry without
  rw [Keyed.get?_remove]
  split
  · rfl
  · rfl

namespace Manga

theorem without_rule
    {name : Text}
    (other : name ≠ "ruleChapterUrl".toList) :
    rule (site.without "ruleChapterUrl") name = rule site name := by
  unfold rule
  rw [Site.without_entry, if_neg other]

theorem without_origin : (site.without "ruleChapterUrl").origin = site.origin := by
  unfold Site.origin Site.url
  rw [Site.without_entry, if_neg (by decide)]

theorem without_engine : (site.without "ruleChapterUrl").engine = site.engine := by
  unfold Site.engine
  rw [Site.without_entry, if_neg (by decide)]
  rfl

theorem without_headers : headers (site.without "ruleChapterUrl") = headers site := by
  unfold headers
  rw [Site.without_entry, Site.without_entry, if_neg (by decide), if_neg (by decide)]

theorem without_resolve (url base : Text) :
    resolve (site.without "ruleChapterUrl") url base = resolve site url base := by
  unfold resolve
  rw [without_origin]

theorem without_readField (context : Context) (name : Text) (rule : Json) (style : FieldStyle) :
    readField (site.without "ruleChapterUrl") context name rule style =
      readField site context name rule style := by
  unfold readField
  rw [without_engine]

theorem without_contextOf (body pageUrl : Text) (book chapter : Json) (extra : Json.Members) :
    contextOf (site.without "ruleChapterUrl") body pageUrl book chapter extra =
      contextOf site body pageUrl book chapter extra := by
  unfold contextOf
  rw [without_origin]

/-- A source without a rule for another page of chapters opens the first page alike. -/
theorem without_opening (url : Text) (book : Json) :
    opening (site.without "ruleChapterUrl") url book = opening site url book := by
  have absolute : absolute (site.without "ruleChapterUrl") url = absolute site url := by
    unfold Manga.absolute
    simp only [without_resolve]
  have fetch (address : Text) :
      fetch (site.without "ruleChapterUrl") address = fetch site address := by
    unfold Manga.fetch
    rw [without_headers]
    rfl
  unfold opening
  simp only [absolute, fetch, without_contextOf]

/-- A source without a rule for another page of chapters lists the chapters of a page alike. -/
theorem without_listChapters (pageUrl : Text) (context : Context) :
    listChapters (site.without "ruleChapterUrl") pageUrl context =
      listChapters site pageUrl context := by
  have readChapter (nameRule urlRule : Text) :
      readChapter (site.without "ruleChapterUrl") nameRule urlRule pageUrl =
        readChapter site nameRule urlRule pageUrl := by
    unfold Manga.readChapter linkAddress
    simp only [without_readField, without_resolve]
  have readChapters (rule : Json) (read : Context → FieldStyle → Work Record) :
      readChapters (site.without "ruleChapterUrl") context rule read =
        readChapters site context rule read := by
    unfold Stage.readChapters readElements
    rw [without_engine]
  unfold listChapters noteNext
  rw [without_rule (by decide), without_rule (by decide), without_rule (by decide),
    without_rule (by decide)]
  simp only [readChapter, readChapters, without_readField, without_resolve]

/-- A source without a rule for another page of chapters stays on the first page. -/
theorem without_chapterContext (context : Context) (pageUrl : Text) (book : Json) :
    chapterContext (site.without "ruleChapterUrl") context pageUrl book = pure context := by
  unfold chapterContext chapterPage
  rw [Site.without_entry, if_pos rfl]
  rfl

/-! ## The stage -/

/-- Evaluating a rule on the first page leaves the variables as they are. -/
def LeavesVariables (site : Site) (url : Text) (book : Json) (walk : Walk) (text : Text) : Prop :=
  ∀ context pageUrl opened,
    runFrom (opening site url book) walk = (.ok (context, pageUrl), opened) →
      (runFrom (Extraction.evaluate site.engine context text) opened.session).2.store =
        opened.session.store

/-- A failed request on the side, which has changed no variable, ends the listing of chapters as
if the source had no rule that leads to the request. -/
def EndsAsWithout (site : Site) (url : Text) (book : Json) (walk : Walk) : Prop :=
  (runFrom (chapters (site.without "ruleChapterUrl") url book) walk).1 =
      (runFrom (chapters site url book) walk).1 ∧
    (runFrom (chapters (site.without "ruleChapterUrl") url book) walk).2.nextUrl =
      (runFrom (chapters site url book) walk).2.nextUrl

/-- Listing the chapters asks for the first page, and for one more page at most. -/
theorem runFrom_chapters
    {own : Json.Members}
    (known : headers site = .ok own)
    {url address : Text}
    (built : absoluteAddress site url = .ok address)
    {parts : Url}
    (parsed : Url.read [] address = .ok parts)
    {page : Page}
    {request? : Option Http.Request}
    (fetched : Fetched site own address page request?)
    (book : Json)
    (walk : Walk) :
    (runFrom (chapters site url book) walk).2.page = some page ∧
    ((runFrom (chapters site url book) walk).2.calls =
        request?.toList.map Call.request ++ walk.calls ∨
      ∃ side : SideRequest site own,
        (runFrom (chapters site url book) walk).2.calls =
          .request side.request :: (request?.toList.map Call.request ++ walk.calls) ∧
        (side.page.success = false → LeavesVariables site url book walk side.text →
          EndsAsWithout site url book walk)) := by
  obtain ⟨calls, page_eq⟩ := runFrom_opening known built parsed fetched book walk
  unfold EndsAsWithout
  rw [chapters_eq, chapters_eq, without_opening]
  cases opened? : runFrom (opening site url book) walk with
  | mk result opened =>
      rw [opened?] at calls page_eq
      cases result with
      | error fault =>
          rw [runFrom_bind, opened?]
          exact ⟨page_eq, .inl calls⟩
      | ok start =>
          obtain ⟨context, pageUrl⟩ := start
          rw [runFrom_bind_of_ok opened?, runFrom_bind_of_ok opened?]
          obtain ⟨samePage, asked⟩ := runFrom_chapterContext known context pageUrl book opened
          have lists (context : Context) {one two : Walk} :
              Secluded one two (listChapters site pageUrl context) :=
            listChapters_secluded pageUrl context
          obtain ⟨listCalls, listPage⟩ := Secluded.behind (chapterContext site context pageUrl book)
            (fun context _ => lists context) opened
          refine ⟨(listPage.trans samePage).trans page_eq, asked.imp (fun noCall => ?_) ?_⟩
          · exact (listCalls.trans noCall).trans calls
          · rintro ⟨side, call, failing⟩
            refine ⟨side, (listCalls.trans call).trans (congrArg _ calls), fun failed leaves => ?_⟩
            obtain ⟨stays, unseen⟩ := failing failed
            have alike := unseen (leaves context pageUrl opened opened?)
            cases asked? : runFrom (chapterContext site context pageUrl book) opened with
            | mk ended later =>
                rw [asked?] at stays alike
                cases stays
                dsimp only
                rw [without_chapterContext, pure_bind, without_listChapters,
                  runFrom_bind_of_ok asked?]
                obtain ⟨same, after⟩ := (lists context).endsAlike alike
                exact ⟨same.symm, after.nextUrl.symm⟩

end Manga

/-! ## Two sources that begin alike -/

/-- Two sources of manga ask for the first page of chapters alike: they have the same address,
headers and settings, and the same answer to the first request, whatever their rules are and
whatever else the network answers. -/
structure BeginsAlike (site other : Site) (request? : Option Http.Request) : Prop where
  /-- Both are sources of manga. -/
  manga : other.kind = .manga
  /-- They have the same address. -/
  url : other.entry "bookSourceUrl" = site.entry "bookSourceUrl"
  /-- They have the same headers. -/
  header : other.entry "header" = site.entry "header"
  /-- They name the same agent. -/
  agent : other.entry "httpUserAgent" = site.entry "httpUserAgent"
  /-- They have the same settings. -/
  settings : other.settings = site.settings
  /-- The network gives both the same answer to the first request. -/
  answer : ∀ request ∈ request?, other.network request = site.network request

namespace BeginsAlike

variable {other : Site}
variable {request? : Option Http.Request}

theorem headers_eq (alike : BeginsAlike site other request?) :
    Manga.headers other = Manga.headers site := by
  unfold Manga.headers
  rw [alike.header, alike.agent]

theorem absoluteAddress_eq (alike : BeginsAlike site other request?) (url : Text) :
    Manga.absoluteAddress other url = Manga.absoluteAddress site url := by
  unfold Manga.absoluteAddress resolved Site.origin Site.url
  rw [alike.url]

end BeginsAlike

/-- What a walk, a stage and its outcome come to when chapters are listed. -/
theorem run_chapters
    (manga : site.kind = .manga)
    (url : Text)
    (book : Json)
    (walk : Walk) :
    ((run site (.chapters url book)).run walk).1.ending =
        .ofResult (runFrom (Manga.chapters site url book) walk.begun).1 ∧
      ((run site (.chapters url book)).run walk).1.page =
        (runFrom (Manga.chapters site url book) walk.begun).2.page ∧
      ((run site (.chapters url book)).run walk).1.nextUrl =
        (runFrom (Manga.chapters site url book) walk.begun).2.nextUrl ∧
      ((run site (.chapters url book)).run walk).2.calls =
        (runFrom (Manga.chapters site url book) walk.begun).2.calls := by
  have same : work site (.chapters url book) = Manga.chapters site url book := by
    unfold work
    rw [manga]
    rfl
  unfold run
  rw [perform_eq, same]
  simp [Outcome.ofEnd]

/-- A page of chapters on the side can only help.  Once the address of the chapters is built, the
stage asks for nothing if the address cannot be read or the headers of the source cannot be known.
Else it asks for the page at the address first, with the headers of the source alone, and this is
the page of its outcome: no header that a rule ends in and no other answer of the network makes a
difference to it.  After that it makes one request at most, which alone carries the headers that
the rule for the page on the side ends in; and when there is no page on the side, and its rule has
changed no variable, the stage ends as it does without the rule. -/
theorem run_chapters_asks
    (manga : site.kind = .manga)
    {url address : Text}
    {walk : Walk}
    (built : (runFrom (Manga.absolute site url) walk.begun).1 = .ok address)
    (book : Json) :
    ((∀ own parts, Manga.headers site = .ok own → Url.read [] address ≠ .ok parts) →
      ((run site (.chapters url book)).run walk).1.page = none ∧
        ((run site (.chapters url book)).run walk).2.calls = walk.calls) ∧
    ∀ own parts, Manga.headers site = .ok own → Url.read [] address = .ok parts →
      ∃ page request?,
        Fetched site own address page request? ∧
        ((run site (.chapters url book)).run walk).1.page = some page ∧
        (∀ other start, BeginsAlike site other request? →
          ((run other (.chapters url book)).run start).1.page = some page ∧
            ∃ later, ((run other (.chapters url book)).run start).2.calls =
              later ++ request?.toList.map Call.request ++ start.calls) ∧
        (((run site (.chapters url book)).run walk).2.calls =
            request?.toList.map Call.request ++ walk.calls ∨
          ∃ side : Manga.SideRequest site own,
            ((run site (.chapters url book)).run walk).2.calls =
              .request side.request :: (request?.toList.map Call.request ++ walk.calls) ∧
            (side.page.success = false →
              Manga.LeavesVariables site url book walk.begun side.text →
                ((run site (.chapters url book)).run walk).1.ending =
                    ((run (site.without "ruleChapterUrl") (.chapters url book)).run walk).1.ending ∧
                  ((run site (.chapters url book)).run walk).1.nextUrl =
                    ((run (site.without "ruleChapterUrl") (.chapters url book)).run
                      walk).1.nextUrl)) := by
  rw [Manga.absolute_eq_lift, runFrom_lift] at built
  obtain ⟨ending, page_eq, nextUrl, calls⟩ := run_chapters manga url book walk
  rw [ending, page_eq, nextUrl, calls]
  constructor
  · intro refused
    obtain ⟨fault, failed, noCall, noPage⟩ :=
      Manga.runFrom_opening_of_refused built refused book walk.begun
    rw [Manga.chapters_eq, runFrom_bind]
    cases opened : runFrom (Manga.opening site url book) walk.begun with
    | mk result after =>
        rw [opened] at failed noCall noPage
        cases failed
        exact ⟨noPage, noCall⟩
  · intro own parts known parsed
    obtain ⟨page, request?, fetched⟩ := exists_fetched site own address
    obtain ⟨samePage, asked⟩ :=
      Manga.runFrom_chapters known built parsed fetched book walk.begun
    refine ⟨page, request?, fetched, samePage, fun other start alike => ?_, asked.imp_right ?_⟩
    · obtain ⟨-, otherPage, -, otherCalls⟩ := run_chapters alike.manga url book start
      obtain ⟨depends, made⟩ := Manga.runFrom_chapters (alike.headers_eq.trans known)
        ((alike.absoluteAddress_eq url).trans built) parsed
        (fetched.of_answer alike.settings alike.answer) book start.begun
      refine ⟨otherPage.trans depends, ?_⟩
      rcases made with made | ⟨side, made, -⟩
      · exact ⟨[], otherCalls.trans made⟩
      · exact ⟨[.request side.request], otherCalls.trans made⟩
    · rintro ⟨side, call, failing⟩
      refine ⟨side, call, fun failed leaves => ?_⟩
      have without : (site.without "ruleChapterUrl").kind = .manga := manga
      obtain ⟨bareEnding, -, bareUrl, -⟩ := run_chapters without url book walk
      obtain ⟨same, sameUrl⟩ := failing failed leaves
      rw [bareEnding, bareUrl, same, sameUrl]
      exact ⟨rfl, rfl⟩

/-! ## A page on the side that is not there -/

/-- The address of the chapters of a manga. -/
def chaptersUrl : Text := "https://a.b/toc"

/-- A source of manga whose rule for chapters leads to another page, with the origin in a header;
the network has the page at the address of the chapters only. -/
def sideSite : Site where
  kind := .manga
  definition :=
    [("bookSourceUrl", .str "https://a.b"),
      ("ruleChapterUrl", .str "##^##https://a.b/c###@Header:\x7bX-From:host\x7d")]
  settings := {}
  network := fun request =>
    if request.url = chaptersUrl then .response ⟨200, "OK", [], [], request.url⟩
    else .failure "ConnectionError" "unreachable"
  browser := fun _ => none

/-- The outcome of listing the chapters of a source, and the walk after it. -/
def listed (site : Site) : Outcome × Walk := (run site (.chapters chaptersUrl .null)).run {}

/-- The address of a request. -/
def Call.address : Call → Text
  | .request asked => asked.url
  | .rendering url _ _ => url

/-- The rule that leads to the other page leaves the session without variables, wherever the page
of a source was opened. -/
def opensUnset : Except Fault (Extraction.Context × Text) × Walk → Bool
  | (.ok (context, _), opened) =>
      (runFrom (Extraction.evaluate sideSite.engine context "##^##https://a.b/c###")
        opened.session).2.store.isEmpty && opened.session.store.isEmpty
  | _ => true

/-- No variable is set on the way of that source to the other page. -/
theorem sideSite_leavesVariables :
    Manga.LeavesVariables sideSite chaptersUrl .null (Walk.begun {}) "##^##https://a.b/c###" := by
  intro context pageUrl opened ran
  have all : opensUnset (runFrom (Manga.opening sideSite chaptersUrl .null) (Walk.begun {})) =
      true := by
    decide +kernel
  rw [ran] at all
  simp only [opensUnset, Bool.and_eq_true, List.isEmpty_iff] at all
  rw [all.1, all.2]

/-- A source whose page on the side is not there asks for it, and lists the chapters as it does
without the rule that leads to it. -/
theorem run_chapters_asks_aside :
    (runFrom (Manga.absolute sideSite chaptersUrl) (Walk.begun {})).1 = .ok chaptersUrl ∧
      ∃ side : Manga.SideRequest sideSite [],
        ((listed sideSite).2.calls.head? = some (.request side.request)) ∧
          side.page.success = false ∧
          (listed sideSite).1.ending = (listed (sideSite.without "ruleChapterUrl")).1.ending ∧
          (listed sideSite).1.nextUrl = (listed (sideSite.without "ruleChapterUrl")).1.nextUrl := by
  have built : (runFrom (Manga.absolute sideSite chaptersUrl) (Walk.begun {})).1 =
      .ok chaptersUrl := rfl
  have addresses : (listed sideSite).2.calls.map Call.address =
      ["https://a.b/c".toList, chaptersUrl] := by
    decide +kernel
  unfold listed at addresses ⊢
  obtain ⟨parts, parsed⟩ : ∃ parts, Url.read [] chaptersUrl = .ok parts := ⟨_, rfl⟩
  obtain ⟨-, asks⟩ := run_chapters_asks (rfl : sideSite.kind = .manga) built .null
  obtain ⟨page, request?, -, -, -, once | ⟨side, twice, helps⟩⟩ := asks [] parts rfl parsed
  · rw [once] at addresses
    have short := congrArg List.length addresses
    cases request? <;> simp at short
  · rw [twice] at addresses
    have address : side.request.url = "https://a.b/c".toList := (List.cons.inj addresses).1
    have missing : side.page.success = false := by
      have elsewhere : side.request.url ≠ chaptersUrl := by
        rw [address]
        decide
      have same := side.fetched.of_request
      rw [same]
      simp only [sideSite, Http.resultOf, if_neg elsewhere]
      rfl
    have text : side.text = "##^##https://a.b/c###".toList := by
      have ruled : Manga.ruleOf (sideSite.entry "ruleChapterUrl") =
          .ok ("##^##https://a.b/c###".toList, [("X-From".toList, "host".toList)]) := by
        decide +kernel
      have same := side.rule_eq.symm.trans ruled
      exact (Prod.mk.inj (Except.ok.inj same)).1
    have leaves : Manga.LeavesVariables sideSite chaptersUrl .null (Walk.begun {}) side.text := by
      rw [text]
      exact sideSite_leavesVariables
    exact ⟨built, side, congrArg List.head? twice, missing, helps missing leaves⟩

/-- A source of manga without any rule. -/
def bareSite : Site where
  kind := .manga
  definition := [("bookSourceUrl", .str "https://a.b")]
  settings := {}
  network := fun _ => .failure "ConnectionError" "unreachable"
  browser := fun _ => none

/-- An address that can be built and not read is never asked for. -/
theorem run_chapters_silent :
    (runFrom (Manga.absolute bareSite "http://[") (Walk.begun {})).1 = .ok "http://[".toList ∧
      ((run bareSite (.chapters "http://[" .null)).run {}).1.page = none ∧
      ((run bareSite (.chapters "http://[" .null)).run {}).2.calls = [] := by
  have built : (runFrom (Manga.absolute bareSite "http://[") (Walk.begun {})).1 =
      .ok "http://[".toList := rfl
  have silent :
      (((run bareSite (.chapters "http://[" .null)).run {}).1.page.isNone &&
        ((run bareSite (.chapters "http://[" .null)).run {}).2.calls.isEmpty) = true := by
    decide +kernel
  rw [Bool.and_eq_true, Option.isNone_iff_eq_none, List.isEmpty_iff] at silent
  exact ⟨built, silent⟩

end Stage

end RuleProbe
