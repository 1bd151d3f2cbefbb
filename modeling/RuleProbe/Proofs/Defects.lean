import RuleProbe.Content.Image
import RuleProbe.Content.Paragraph
import RuleProbe.Content.Replacement
import RuleProbe.Extraction.Dialects
import RuleProbe.Http.Header
import RuleProbe.Proofs.Effects
import RuleProbe.Rule.Directive

/-!
# Defects and their causes

Everything that an evaluation reads, it reads by a few functions: the readers of JSON, of
pages, of addresses and of regular expressions.  Each of them fails on some texts by a
defect that names the text, and no other function of an evaluation fails by a defect but
through one of them.
-/

namespace RuleProbe

open Extraction

/-! ## Causes -/

/-- The text that a defect names is one that no reader provides for. -/
inductive Defect.Broken : Defect → Prop where
  /-- A JSON text holds an integer of too many digits. -/
  | longInteger {text : Text} (refused : Json.read text = .error .integerTooLong) :
      Broken (.longInteger text)
  /-- A text holds a numeric character reference of too many digits. -/
  | longReference {text : Text} (overlong : Entity.hasOverlong text = true) :
      Broken (.longReference text)
  /-- An address has an authority that cannot be used. -/
  | brokenAddress {address : Text}
      (refused : ∀ scheme, Url.read scheme address = .error (.defect (.brokenAddress address))) :
      Broken (.brokenAddress address)
  /-- A page cannot be read. -/
  | refusedPage {page : Text} {refusal : Markup.Token.Refusal}
      (refused : Markup.Token.scan page = .error (.defect (refusal.defect page))) :
      Broken (refusal.defect page)
  /-- A regular expression has a count that is too large. -/
  | hugeCount {pattern : Text}
      (refused : Pattern.read {} (RuleRegex.markNames pattern) = .error .countTooLarge) :
      Broken (.hugeCount pattern)
  /-- A regular expression has flags that exclude each other. -/
  | clashingFlags {pattern : Text}
      (refused : Pattern.read {} (RuleRegex.markNames pattern) = .error .flagsClash) :
      Broken (.clashingFlags pattern)
  /-- A path into a document tree has a character that no document holds. -/
  | strayCharacter {expression : Text} {c : Char}
      (member : c ∈ expression)
      (stray : isDocumentChar c = false) :
      Broken (.strayCharacter expression)

/-- A run of a script has no outcome. -/
inductive Defect.Unanswered : Defect → Prop where
  /-- What the script has put cannot be read back. -/
  | replacedPuts {timeout : Float} {source : Text} {bindings : Sandbox.Bindings}
      {store : Json.Members}
      (refused : Sandbox.run timeout source bindings store =
        .error (.replacedPuts (Sandbox.codeOf source bindings))) :
      Unanswered (.replacedPuts (Sandbox.codeOf source bindings))

/-- Something is nested too deeply. -/
inductive Defect.Exhausted : Defect → Prop where
  /-- Evaluations are. -/
  | recursion : Exhausted .recursion
  /-- The containers of a JSON text are. -/
  | deepNesting {text : Text} (refused : Json.read text = .error .tooDeep) :
      Exhausted (.deepNesting text)

/-- A defect has a cause outside the engine. -/
def Defect.Caused (defect : Defect) : Prop :=
  defect.Broken ∨ defect.Unanswered ∨ defect.Exhausted

theorem Defect.Broken.caused {defect : Defect} (broken : defect.Broken) : defect.Caused :=
  .inl broken

theorem Defect.Unanswered.caused {defect : Defect} (unanswered : defect.Unanswered) :
    defect.Caused :=
  .inr (.inl unanswered)

theorem Defect.Exhausted.caused {defect : Defect} (exhausted : defect.Exhausted) :
    defect.Caused :=
  .inr (.inr exhausted)

namespace Fault

/-- A fault is a defect with a cause. -/
def IsCaused (fault : Fault) : Prop :=
  ∃ defect, fault = .defect defect ∧ defect.Caused

/-- A fault is the flaw of a rule. -/
def IsFlaw (fault : Fault) : Prop :=
  ∃ flaw, fault = .rule flaw

/-- A fault is the flaw of a rule or a defect with a cause. -/
def IsFlawOrCaused (fault : Fault) : Prop :=
  fault.IsFlaw ∨ fault.IsCaused

theorem isFlaw_rule (flaw : RuleFlaw) : IsFlaw (.rule flaw) := ⟨flaw, rfl⟩

theorem isCaused_defect {defect : Defect} (caused : defect.Caused) :
    IsCaused (.defect defect) :=
  ⟨defect, rfl, caused⟩

/-- A predicate on faults holds of all defects with causes that readers and scripts end in;
evaluations alone end in too many of themselves. -/
class Covers (bad : Fault → Prop) : Prop where
  /-- A defect of a reader or of a script satisfies the predicate. -/
  refused {defect : Defect} : defect.Caused → defect ≠ .recursion → bad (.defect defect)

/-- A predicate on faults holds of these defects, and of the flaws of rules. -/
class CoversFlaws (bad : Fault → Prop) : Prop extends Covers bad where
  /-- The flaw of a rule satisfies the predicate. -/
  flaw (flaw : RuleFlaw) : bad (.rule flaw)

instance : Covers IsCaused where
  refused caused _ := isCaused_defect caused

/-- A fault is the flaw of a rule or satisfies a predicate. -/
def IsFlawOr (bad : Fault → Prop) (fault : Fault) : Prop :=
  fault.IsFlaw ∨ bad fault

instance {bad : Fault → Prop} [Covers bad] : CoversFlaws (IsFlawOr bad) where
  refused caused other := .inr (Covers.refused caused other)
  flaw flaw := .inl (isFlaw_rule flaw)

instance : CoversFlaws IsFlawOrCaused :=
  inferInstanceAs (CoversFlaws (IsFlawOr IsCaused))

section

variable {bad : Fault → Prop} [Covers bad]

theorem covers_broken {defect : Defect} (broken : defect.Broken) : bad (.defect defect) := by
  refine Covers.refused broken.caused ?_
  cases broken
  case refusedPage page refusal _ => cases refusal <;> exact Defect.noConfusion
  all_goals exact Defect.noConfusion

theorem covers_unanswered {defect : Defect} (unanswered : defect.Unanswered) :
    bad (.defect defect) :=
  Covers.refused unanswered.caused (by cases unanswered; simp)

theorem covers_deepNesting {text : Text} (refused : Json.read text = .error .tooDeep) :
    bad (.defect (.deepNesting text)) :=
  Covers.refused (Defect.Exhausted.deepNesting refused).caused (by simp)

end

theorem IsFlaw.covered
    {bad : Fault → Prop}
    [CoversFlaws bad]
    (fault : Fault)
    (isFlaw : fault.IsFlaw) :
    bad fault := by
  obtain ⟨flaw, rfl⟩ := isFlaw
  exact CoversFlaws.flaw flaw

end Fault

/-! ## Readers -/

variable {bad : Fault → Prop}

/-- A text that begins like JSON fails to be read only where it holds an integer that is
too long or containers that are nested too deeply. -/
theorem readJson_refused
    [Fault.Covers bad]
    {text : Text}
    {defect : Defect}
    (failed : readJson text = .error defect) :
    bad (.defect defect) := by
  unfold readJson at failed
  simp only at failed
  split at failed
  · split at failed
    · cases failed
    · cases failed
    · rename_i refused
      cases failed
      exact Fault.covers_broken (.longInteger refused)
    · rename_i refused
      cases failed
      exact Fault.covers_deepNesting refused
  · cases failed

theorem readJson_failsBy [Fault.Covers bad] (text : Text) :
    FailsBy bad ((readJson text).mapError .defect) := by
  cases read : readJson text with
  | ok found => exact .of_ok found
  | error defect => exact .of_error (readJson_refused read)

theorem Markup.read_failsBy [Fault.Covers bad] (page : Text) : FailsBy bad (Markup.read page) := by
  refine FailsBy.map ?_ _
  intro fault failed
  have refused : ∃ refusal : Token.Refusal, fault = .defect (refusal.defect page) := by
    unfold Token.scan at failed
    split at failed
    · cases failed
      exact ⟨_, rfl⟩
    · split at failed
      · cases failed
        exact ⟨_, rfl⟩
      · cases failed
  obtain ⟨refusal, rfl⟩ := refused
  exact Fault.covers_broken (.refusedPage failed)

namespace Url

/-- Whether an address can be read does not depend on the scheme that it is given. -/
theorem read_failsBy [Fault.Covers bad] (scheme address : Text) :
    FailsBy bad (read scheme address) := by
  intro fault failed
  have refused : ∀ scheme, read scheme address = .error (.defect (.brokenAddress address)) := by
    intro other
    unfold read at failed ⊢
    simp only at failed ⊢
    generalize splitScheme (clean address) = parts at failed ⊢
    generalize (if parts.2.startsWith ['/', '/'] = true then _ else _ : Text × Text) = rest
      at failed ⊢
    cases usable : isAuthority rest.1 with
    | false => simp
    | true =>
        rw [usable] at failed
        cases failed
  have same := (refused scheme).symm.trans failed
  cases same
  exact Fault.covers_broken (.brokenAddress refused)

theorem join_failsBy [Fault.Covers bad] (base text : Text) : FailsBy bad (join base text) := by
  unfold join
  split
  · exact .of_ok _
  · split
    · exact .of_ok _
    · refine (read_failsBy [] base).bind fun page _ => ?_
      refine (read_failsBy page.scheme text).bind fun found _ => ?_
      repeat' split
      all_goals exact .of_ok _

theorem resolve_failsBy
    [Fault.Covers bad]
    (text base : Text) :
    FailsBy bad (resolve text base) := by
  unfold resolve
  simp only
  split
  · exact .of_ok _
  · split
    · exact (read_failsBy [] base).map _
    · split
      · exact .of_ok _
      · split
        · exact .of_ok _
        · exact join_failsBy base _

theorem originOf_failsBy [Fault.Covers bad] (text : Text) : FailsBy bad (originOf text) :=
  (read_failsBy [] text).map _

end Url

theorem RuleRegex.compile_failsBy [Fault.CoversFlaws bad] (pattern : Text) :
    FailsBy bad (compile {} pattern) := by
  intro fault failed
  unfold compile at failed
  split at failed
  · cases failed
  · cases failed
    exact Fault.CoversFlaws.flaw _
  · rename_i refused
    cases failed
    exact Fault.covers_broken (.hugeCount refused)
  · rename_i refused
    cases failed
    exact Fault.covers_broken (.clashingFlags refused)

namespace Header

theorem ofText_failsBy [Fault.Covers bad] (text : Text) : FailsBy bad (ofText text) := by
  unfold ofText
  simp only
  split
  · split
    · exact .of_ok _
    · exact .of_ok _
    · exact .of_ok _
    · rename_i refused
      exact .of_error (Fault.covers_broken (.longInteger refused))
    · rename_i refused
      exact .of_error (Fault.covers_deepNesting refused)
  · exact .of_ok _

theorem ofValue_failsBy [Fault.Covers bad] (value : Json) : FailsBy bad (ofValue value) := by
  unfold ofValue
  split
  · exact .of_ok _
  · split
    · exact .of_ok _
    · exact ofText_failsBy _

end Header

/-! ## Filters and directives -/

namespace ReplaceFilter

theorem applyOptional_failsBy
    [Fault.CoversFlaws bad]
    (filter : Option ReplaceFilter)
    (text : Text) :
    FailsBy bad (applyOptional filter text) := by
  cases filter with
  | none => exact .of_ok text
  | some filter => exact (RuleRegex.compile_failsBy filter.pattern).map _

end ReplaceFilter

namespace Directive

theorem bindings_failsBy [Fault.Covers bad] (body : Text) : FailsBy bad (bindings body) := by
  unfold bindings
  split
  · exact .of_ok _
  · exact .of_ok _
  · exact .of_ok _
  · rename_i refused
    exact .of_error (Fault.covers_broken (.longInteger refused))
  · rename_i refused
    exact .of_error (Fault.covers_deepNesting refused)

theorem gatherBindings_failsBy [Fault.Covers bad] (parts : List Part) (read : Keyed Text) :
    FailsBy bad (gatherBindings parts read) := by
  induction parts generalizing read with
  | nil => exact .of_ok read
  | cons part rest hypothesis =>
      cases part with
      | char c => exact hypothesis read
      | body inner =>
          exact (bindings_failsBy _).bind fun more _ => hypothesis (Keyed.update read more)

theorem takePuts_failsBy [Fault.Covers bad] (rule : Text) : FailsBy bad (takePuts rule) :=
  (gatherBindings_failsBy _ []).bind fun _ _ => .of_ok _

end Directive

namespace IndexExpression

theorem readNumber_failsBy (text : Text) : FailsBy Fault.IsFlaw (readNumber text) := by
  unfold readNumber
  simp only
  split
  · exact .of_ok _
  · split
    · exact .of_ok _
    · exact .of_error (Fault.isFlaw_rule _)

theorem readPart_failsBy (part : Text) : FailsBy Fault.IsFlaw (readPart part) := by
  unfold readPart
  split
  · split
    · refine (readNumber_failsBy _).bind fun _ _ => ?_
      exact (readNumber_failsBy _).bind fun _ _ => .of_ok _
    · refine (readNumber_failsBy _).bind fun _ _ => ?_
      refine (readNumber_failsBy _).bind fun _ _ => ?_
      exact (readNumber_failsBy _).bind fun _ _ => .of_ok _
    · exact .of_error (Fault.isFlaw_rule _)
  · refine (readNumber_failsBy _).bind fun index _ => ?_
    cases index with
    | none => exact .of_error (Fault.isFlaw_rule _)
    | some index => exact .of_ok _

theorem readParts_failsBy (parts : List Text) : FailsBy Fault.IsFlaw (readParts parts) := by
  induction parts with
  | nil => exact .of_ok _
  | cons part rest hypothesis =>
      simp only [readParts]
      split
      · exact hypothesis
      · refine (readPart_failsBy _).bind fun _ _ => ?_
        exact hypothesis.bind fun _ _ => .of_ok _

theorem select_failsBy {α : Type} (items : List α) (text : Text) :
    FailsBy Fault.IsFlaw (select items text) :=
  (((readParts_failsBy _).map _).map _).map _

end IndexExpression

/-! ## Content -/

theorem FailsBy.of_mapM
    {α β : Type}
    {bad : Fault → Prop}
    {body : α → Except Fault β}
    (each : ∀ item, FailsBy bad (body item))
    (items : List α) :
    FailsBy bad (items.mapM body) := by
  induction items with
  | nil => exact .of_ok _
  | cons item rest hypothesis =>
      rw [List.mapM_cons]
      exact (each item).bind fun _ _ => hypothesis.bind fun _ _ => .of_ok _

theorem Entity.check_failsBy [Fault.Covers bad] (text : Text) : FailsBy bad (check text) := by
  unfold check
  split
  case isTrue overlong => exact .of_error (Fault.covers_broken (.longReference overlong))
  case isFalse => exact .of_ok _

theorem Paragraph.readContent_failsBy [Fault.Covers bad] (content : Text) :
    FailsBy bad (readContent content) :=
  (Entity.check_failsBy _).bind fun _ _ => .of_ok _

namespace Image

theorem extract_failsBy [Fault.Covers bad] (content baseUrl : Text) :
    FailsBy bad (extract content baseUrl) := by
  refine (FailsBy.of_mapM (fun source => ?_) _).bind fun _ _ => .of_ok _
  exact (Entity.check_failsBy source).bind fun _ _ => Url.resolve_failsBy _ baseUrl

theorem collectAll_failsBy [Fault.Covers bad] (baseUrl : Text) (values : List Text) :
    FailsBy bad (collectAll baseUrl values) := by
  refine FailsBy.map (FailsBy.of_mapM (fun value => ?_) values) _
  unfold ofValue
  split
  · exact (Url.resolve_failsBy value baseUrl).map _
  · exact extract_failsBy value baseUrl

end Image

namespace Replacement

/-- A replacement whose pattern is flawed is passed over. -/
theorem apply_failsBy [Fault.Covers bad] (content : Text) (rule : Text × Text) :
    FailsBy bad (apply content rule) := by
  unfold apply
  split
  · exact .of_ok _
  · exact .of_ok _
  · rename_i fault unflawed failed
    have fails : FailsBy (Fault.IsFlawOr bad) _ := RuleRegex.compile_failsBy rule.1
    rcases fails fault failed with ⟨flaw, rfl⟩ | covered
    · exact absurd rfl (unflawed flaw)
    · exact .of_error covered

theorem applyLines_failsBy [Fault.Covers bad] (content lines : Text) :
    FailsBy bad (applyLines content lines) := by
  have all (rules : List (Text × Text)) (content : Text) :
      FailsBy bad (applyAll content rules) := by
    induction rules generalizing content with
    | nil => exact .of_ok content
    | cons rule rest hypothesis =>
        exact (apply_failsBy content rule).bind fun changed _ => hypothesis changed
  unfold applyLines
  split
  · exact .of_ok content
  · exact all _ content

end Replacement

/-! ## Chains -/

namespace Chain

open Markup

theorem readSelector_failsBy (base : Text) : FailsBy Fault.IsFlaw (readSelector base) := by
  unfold readSelector
  split
  · exact .of_ok _
  · exact .of_error (Fault.isFlaw_rule _)

theorem Base.select_failsBy (base : Base) (tree : Tree) (nodes : List Nat) :
    FailsBy Fault.IsFlaw (base.select tree nodes) := by
  cases base with
  | classes names => exact .of_ok _
  | identifier value => exact .of_ok _
  | name value => exact .of_ok _
  | selector text =>
      simp only [Base.select]
      split
      · exact .of_ok _
      · exact (readSelector_failsBy text).map _

theorem pickChildren_failsBy (tree : Tree) (index : Text) (nodes : List Nat) :
    FailsBy Fault.IsFlaw (pickChildren tree index nodes) := by
  induction nodes with
  | nil => exact .of_ok _
  | cons i rest hypothesis =>
      refine (IndexExpression.select_failsBy _ index).bind fun _ _ => ?_
      exact hypothesis.bind fun _ _ => .of_ok _

theorem selectSegment_failsBy
    (tree : Tree)
    (nodes : List Nat)
    (segment : Text)
    (includeSelf : Bool) :
    FailsBy Fault.IsFlaw (selectSegment tree nodes segment includeSelf) := by
  unfold selectSegment
  split
  · exact .of_ok _
  · split
    · exact pickChildren_failsBy tree _ nodes
    · split
      · exact .of_ok _
      · refine (Base.select_failsBy _ tree nodes).bind fun below _ => ?_
        simp only
        split
        · exact .of_ok _
        · exact IndexExpression.select_failsBy _ _

theorem walk_failsBy
    (tree : Tree)
    (includeSelf : Bool)
    (nodes : List Nat)
    (segments : List Text) :
    FailsBy Fault.IsFlaw (walk tree includeSelf nodes segments) := by
  induction segments generalizing includeSelf nodes with
  | nil => exact .of_ok _
  | cons segment rest hypothesis =>
      refine (selectSegment_failsBy tree nodes segment includeSelf).bind fun found _ => ?_
      split
      · exact .of_ok _
      · exact hypothesis false found

theorem readAccessor_failsBy [Fault.Covers bad] (tree : Tree) (i : Nat) (accessor baseUrl : Text) :
    FailsBy bad (readAccessor tree i accessor baseUrl) := by
  unfold readAccessor
  simp only
  repeat' split
  all_goals first
    | exact .of_ok _
    | exact Url.resolve_failsBy _ baseUrl

theorem readAll_failsBy
    [Fault.Covers bad]
    (tree : Tree)
    (accessor baseUrl : Text)
    (nodes : List Nat) :
    FailsBy bad (readAll tree accessor baseUrl nodes) := by
  induction nodes with
  | nil => exact .of_ok _
  | cons i rest hypothesis =>
      refine (readAccessor_failsBy tree i accessor baseUrl).bind fun value _ => ?_
      exact hypothesis.bind fun _ _ => .of_ok _

/-- A chain fails by a flaw of its own or by an address that cannot be resolved. -/
theorem evaluate_failsBy
    [Fault.CoversFlaws bad]
    (tree : Tree)
    (start : List Nat)
    (chain : Text)
    (mode : Mode) :
    FailsBy bad (evaluate tree start chain mode) := by
  unfold evaluate
  refine ((walk_failsBy tree _ _ _).mono Fault.IsFlaw.covered).bind fun nodes _ => ?_
  split
  · split
    · exact (readAll_failsBy tree _ _ nodes).map _
    · exact .of_ok _
  · exact (readAll_failsBy tree _ _ nodes).map _

end Chain

/-! ## Dialects -/

namespace Extraction

theorem chainStart_failsBy
    [Fault.Covers bad]
    {context : Context}
    (read : context.document.tree = Markup.read context.document.body) :
    FailsBy bad (chainStart context) := by
  unfold chainStart
  split
  · rw [read]
    exact (Markup.read_failsBy _).map _
  · split
    · exact .of_ok _
    · refine (Markup.read_failsBy _).bind fun tree _ => ?_
      split
      · exact .of_ok _
      · exact .of_ok _
    · exact (Markup.read_failsBy _).map _

theorem evaluateChain_failsBy
    [Fault.CoversFlaws bad]
    {context : Context}
    (read : context.document.tree = Markup.read context.document.body)
    (chain : Text)
    (asList : Bool) :
    FailsBy bad (evaluateChain context chain asList) := by
  refine (chainStart_failsBy read).bind fun start _ => ?_
  refine (Chain.evaluate_failsBy _ _ _ _).bind fun outcome _ => ?_
  cases outcome with
  | nodes nodes => exact .of_ok _
  | texts found => exact .of_ok _

theorem placeFound_failsBy
    [Fault.Covers bad]
    (context : Context)
    (document : Mended.Document)
    (asList : Bool)
    (place : XPath.Place) :
    FailsBy bad (placeFound context document asList place) := by
  have text : FailsBy bad (placeText context document place) := by
    unfold placeText
    split
    · split
      · exact Url.resolve_failsBy _ _
      · exact .of_ok _
    · exact .of_ok _
  unfold placeFound
  split
  · exact .of_ok _
  · split
    · split
      · exact .of_ok _
      · exact .of_ok _
    · exact text.bind fun _ _ => .of_ok _

theorem placesFound_failsBy
    [Fault.Covers bad]
    (context : Context)
    (document : Mended.Document)
    (asList : Bool)
    (places : List XPath.Place) :
    FailsBy bad (placesFound context document asList places) := by
  induction places with
  | nil => exact .of_ok _
  | cons place rest hypothesis =>
      refine (placeFound_failsBy context document asList place).bind fun _ _ => ?_
      exact hypothesis.bind fun _ _ => .of_ok _

/-- A path into a document tree fails by a flaw of its own, by a character that no document
holds or by an address that cannot be resolved. -/
theorem evaluateXPath_failsBy
    [Fault.CoversFlaws bad]
    (context : Context)
    (expression : Text)
    (asList : Bool) :
    FailsBy bad (evaluateXPath context expression asList) := by
  unfold evaluateXPath
  simp only
  split
  · exact .of_ok _
  · split
    · rename_i stray
      obtain ⟨c, member, refused⟩ : ∃ c ∈ expression, isDocumentChar c = false := by
        simpa using stray
      have broken := Defect.Broken.strayCharacter member refused
      exact .of_error (Fault.covers_broken broken)
    · split
      · exact .of_error (Fault.CoversFlaws.flaw _)
      · refine (placesFound_failsBy context _ asList _).bind ?_
        exact fun _ _ => .of_ok _
      · exact .of_ok _

theorem valueOrText_failsBy [Fault.Covers bad] (text : Text) :
    FailsBy bad (valueOrText text (readJson text)) := by
  unfold valueOrText
  split
  · exact .of_ok _
  · exact .of_ok _
  · rename_i defect failed
    exact .of_error (readJson_refused failed)

theorem jsonContent_failsBy
    [Fault.Covers bad]
    {context : Context}
    (read : context.document.json = readJson context.document.body) :
    FailsBy bad (jsonContent context) := by
  unfold jsonContent
  rw [read]
  split
  · exact valueOrText_failsBy _
  · split
    · exact valueOrText_failsBy _
    · exact .of_ok _
    · exact valueOrText_failsBy _

theorem evaluateJsonPath_failsBy
    [Fault.CoversFlaws bad]
    {context : Context}
    (read : context.document.json = readJson context.document.body)
    (path : Text)
    (asList : Bool) :
    FailsBy bad (evaluateJsonPath context path asList) := by
  refine (jsonContent_failsBy read).bind fun content _ => ?_
  split
  · exact .of_error (Fault.CoversFlaws.flaw _)
  · split
    · exact .of_error (Fault.CoversFlaws.flaw _)
    · exact .of_ok _

theorem evaluateRegex_failsBy
    [Fault.CoversFlaws bad]
    (context : Context)
    (pattern : Text)
    (asList : Bool) :
    FailsBy bad (evaluateRegex context pattern asList) := by
  refine (RuleRegex.compile_failsBy pattern).bind fun _ _ => ?_
  simp only
  split
  · exact .of_ok _
  · exact .of_ok _

/-! ## Filters of results -/

theorem filterFound_failsBy
    [Fault.CoversFlaws bad]
    (serial : Nat)
    (filter : Option ReplaceFilter)
    (values : List Found) :
    FailsBy bad (filterFound serial filter values) := by
  induction values with
  | nil => exact .of_ok _
  | cons found rest hypothesis =>
      have others (kept : List Found) :
          FailsBy bad (filterFound serial filter rest >>= fun others => .ok (kept ++ others)) :=
        hypothesis.bind fun _ _ => .of_ok _
      cases found with
      | handle handle =>
          simp only [filterFound]
          split
          · exact others _
          · refine (ReplaceFilter.applyOptional_failsBy filter _).bind fun _ _ => ?_
            exact others _
      | plain value =>
          simp only [filterFound]
          refine (ReplaceFilter.applyOptional_failsBy filter _).bind fun _ _ => ?_
          exact others _

theorem filterTexts_failsBy
    [Fault.CoversFlaws bad]
    (filter : Option ReplaceFilter)
    (values : List Found) :
    FailsBy bad (filterTexts filter values) := by
  induction values with
  | nil => exact .of_ok _
  | cons found rest hypothesis =>
      refine (ReplaceFilter.applyOptional_failsBy filter _).bind fun _ _ => ?_
      exact hypothesis.bind fun _ _ => .of_ok _

end Extraction

/-! ## Scripts -/

/-- What a script has put is taken over, unless its puts have been replaced. -/
theorem Sandbox.takeOver_replaced
    {timeout : Float}
    {code : Text}
    {value : Json}
    {store : Json.Members}
    {reading : EStateM.Result Script.Abrupt Script.Machine Result}
    {defect : Defect}
    (failed : takeOver timeout code value store reading = .error defect) :
    defect = .replacedPuts code := by
  unfold takeOver at failed
  split at failed
  · cases failed
  · cases failed
  · cases failed
  · cases failed
    rfl

/-- A run of a script has an outcome unless what the script has put cannot be read
back. -/
theorem Sandbox.run_unanswered
    {timeout : Float}
    {source : Text}
    {bindings : Bindings}
    {store : Json.Members}
    {defect : Defect}
    (failed : run timeout source bindings store = .error defect) :
    defect.Unanswered := by
  have replaced : defect = .replacedPuts (codeOf source bindings) := by
    have written := failed
    unfold run at written
    simp only at written
    split at written
    · cases written
    · split at written
      · cases written
      · cases written
      · exact takeOver_replaced written
  subst replaced
  exact .replacedPuts failed

end RuleProbe
