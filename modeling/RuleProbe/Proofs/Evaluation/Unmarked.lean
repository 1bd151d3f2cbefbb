import Mathlib.Data.List.Infix
import RuleProbe.Proofs.Evaluation.Defects
import RuleProbe.Proofs.Evaluation.Termination

/-!
# Rules into which nothing is inserted

Where no directive and no mark of a result stands in a rule, nothing is inserted into it or
into its parts.  Its evaluation ends then, whatever the variables hold, and it is nested no
deeper than the length of the rule allows.
-/

namespace RuleProbe

/-! ## Faults -/

/-- A fault does not come from too deep nesting. -/
def Fault.Unexhausted (fault : Fault) : Prop := fault ≠ .defect .recursion

instance : Fault.Covers Fault.Unexhausted where
  refused _ other same := other (by cases same; rfl)

namespace Ends

variable {σ α : Type} {good : α → Prop} {action : ExceptT Fault (StateM σ) α}

theorem orFlaw {bad : Fault → Prop} (ends : Ends good bad action) :
    Ends (fun _ => True) (Fault.IsFlawOr bad) action :=
  ends.mono (fun _ _ => trivial) fun _ => .inr

/-- The flaw of a rule does not come from too deep nesting. -/
theorem unflawed (ends : Ends good (Fault.IsFlawOr Fault.Unexhausted) action) :
    Ends good Fault.Unexhausted action := by
  refine ends.mono (fun _ holds => holds) fun fault failed => ?_
  rcases failed with ⟨flaw, rfl⟩ | other
  · exact nofun
  · exact other

end Ends

/-! ## Texts without marks -/

namespace Directive

theorem braced?_append
    {text : Text}
    (found : (braced? text).isSome = true)
    (more : Text) :
    (braced? (text ++ more)).isSome = true := by
  unfold braced? at found
  split at found
  · rename_i rest
    rw [List.span_eq_takeWhile_dropWhile] at found
    split at found
    · rename_i inner after closed
      have behind := (Prod.mk.inj closed).2
      simp [braced?, List.span_eq_takeWhile_dropWhile, List.dropWhile_append, behind]
    · cases found
  · cases found

/-- A directive at the beginning of a text is at the beginning of every longer text. -/
theorem directive?_append
    {mark text : Text}
    (found : (directive? mark text).isSome = true)
    (more : Text) :
    (directive? mark (text ++ more)).isSome = true := by
  unfold directive? at found
  split at found
  · rename_i begins
    obtain ⟨long, same⟩ := Bool.and_eq_true_iff.mp begins
    have short : mark.length ≤ text.length := of_decide_eq_true long
    have longer : beginsWith mark (text ++ more) = true := by
      rw [beginsWith, Text.zip_append_of_length_le short, same, Bool.and_true]
      exact decide_eq_true (short.trans (by simp))
    rw [directive?, if_pos longer, List.drop_append_of_le_length short]
    exact braced?_append found more
  · cases found

variable {mark : Text}

/-- A rule without directives is its characters. -/
theorem parts_of_none
    {text : Text}
    {fuel : Nat}
    (enough : text.length < fuel)
    (none : ∀ rest, rest <:+ text → directive? mark rest = none) :
    parts mark fuel text = text.map Part.char := by
  induction text generalizing fuel with
  | nil => cases fuel <;> rfl
  | cons c others hypothesis =>
      obtain ⟨fuel, rfl⟩ : ∃ fewer, fuel = fewer + 1 := ⟨fuel - 1, by omega⟩
      rw [List.length_cons] at enough
      rw [parts, none _ (List.suffix_refl _)]
      simp only [List.map_cons]
      rw [hypothesis (by omega) fun rest within => none rest (within.trans (List.suffix_cons c _))]

theorem gatherBindings_char (text : Text) (read : Keyed Text) :
    gatherBindings (text.map Part.char) read = .ok read := by
  induction text with
  | nil => rfl
  | cons c rest hypothesis => exact hypothesis

theorem outside_char (text : Text) : outside (text.map Part.char) = text := by
  induction text with
  | nil => rfl
  | cons c rest hypothesis => simp_all [outside]

theorem fill_char (lookup : Text → Text) (text : Text) :
    fill lookup (text.map Part.char) = text := by
  induction text with
  | nil => rfl
  | cons c rest hypothesis => simp [fill, hypothesis]

/-- A rule without directives that store results is trimmed only. -/
theorem takePuts_of_none
    {rule : Text}
    (none : ∀ rest, rest <:+ rule → directive? putMark rest = none) :
    takePuts rule = .ok (Text.trim rule, []) := by
  rw [takePuts, parts_of_none (Nat.lt_succ_self _) none, gatherBindings_char, outside_char]
  rfl

/-- A rule without directives that insert variables stays. -/
theorem substituteGet_of_none
    {rule : Text}
    (none : ∀ rest, rest <:+ rule → directive? getMark rest = none)
    (lookup : Text → Text) :
    substituteGet lookup rule = rule := by
  rw [substituteGet, parts_of_none (Nat.lt_succ_self _) none, fill_char]

end Directive

namespace Text

theorem splitAux_of_none
    {mark text : Text}
    (none : ∀ rest, rest <:+ text → mark.isPrefixOf rest = false)
    (before : Text) :
    splitAux mark 0 before text = [before.reverse ++ text] := by
  induction text generalizing before with
  | nil => simp [splitAux]
  | cons c others hypothesis =>
      rw [splitAux, none _ (List.suffix_refl _)]
      simp only [Bool.false_eq_true, if_false]
      rw [hypothesis fun rest within => none rest (within.trans (List.suffix_cons c _))]
      simp

/-- Nothing is replaced in a text in which the mark does not stand. -/
theorem replaceAll_of_none
    {mark text : Text}
    (none : ∀ rest, rest <:+ text → mark.isPrefixOf rest = false)
    (new : Text) :
    replaceAll mark new text = text := by
  rw [replaceAll, splitOn, splitAux_of_none none, join]
  simp

end Text

namespace Extraction

/-- A text begins with a directive that stores or inserts a variable, or with the mark of the
result before. -/
def isMark (text : Text) : Bool :=
  (Directive.directive? Directive.putMark text).isSome ||
    (Directive.directive? Directive.getMark text).isSome ||
    "@result".toList.isPrefixOf text

theorem isMark_eq_false_iff {text : Text} :
    isMark text = false ↔
      (Directive.directive? Directive.putMark text = none ∧
        Directive.directive? Directive.getMark text = none) ∧
      "@result".toList.isPrefixOf text = false := by
  simp [isMark]

theorem isMark_append {text : Text} (marked : isMark text = true) (more : Text) :
    isMark (text ++ more) = true := by
  unfold isMark at marked ⊢
  rw [Bool.or_eq_true, Bool.or_eq_true] at marked ⊢
  rcases marked with (put | get) | result
  · exact .inl (.inl (Directive.directive?_append put more))
  · exact .inl (.inr (Directive.directive?_append get more))
  · have begins := List.isPrefixOf_iff_prefix.mp result
    exact .inr (List.isPrefixOf_iff_prefix.mpr (begins.trans (List.prefix_append text more)))

/-- No mark stands anywhere in a text. -/
def Unmarked (text : Text) : Prop :=
  ∀ rest, rest <:+ text → isMark rest = false

instance (text : Text) : Decidable (Unmarked text) :=
  decidable_of_iff (∀ rest ∈ text.tails, isMark rest = false) (by simp [Unmarked, List.mem_tails])

namespace Unmarked

variable {text : Text}

theorem of_isInfix (unmarked : Unmarked text) {part : Text} (inside : part <:+: text) :
    Unmarked part := by
  obtain ⟨before, after, whole⟩ := inside
  intro rest ending
  obtain ⟨start, split⟩ := ending
  have within : rest ++ after <:+ text := ⟨before ++ start, by simp [← whole, ← split]⟩
  cases marked : isMark rest with
  | false => rfl
  | true =>
      have longer := isMark_append marked after
      rw [unmarked _ within] at longer
      cases longer

theorem takePuts_eq (unmarked : Unmarked text) :
    Directive.takePuts text = .ok (Text.trim text, []) :=
  Directive.takePuts_of_none fun rest within =>
    (isMark_eq_false_iff.mp (unmarked rest within)).1.1

theorem substituteGet_eq (unmarked : Unmarked text) (lookup : Text → Text) :
    Directive.substituteGet lookup text = text :=
  Directive.substituteGet_of_none
    (fun rest within => (isMark_eq_false_iff.mp (unmarked rest within)).1.2) lookup

theorem insertResult_eq (unmarked : Unmarked text) (result : Option Json) :
    insertResult result text = text := by
  cases result with
  | none => rfl
  | some value =>
      exact Text.replaceAll_of_none
        (fun rest within => (isMark_eq_false_iff.mp (unmarked rest within)).2) _

theorem isOwnBody_iff (unmarked : Unmarked text) (body : Text) :
    Call.isOwnBody text body = true ↔
      Text.trim (ReplaceFilter.split (Text.trim text)).1 = body := by
  rw [Call.isOwnBody, unmarked.takePuts_eq]
  exact beq_iff_eq

/-- The own body of a rule without marks stands in the rule. -/
theorem ownBody (unmarked : Unmarked text) {body : Text} (isOwn : Call.isOwnBody text body = true) :
    Unmarked body := by
  rw [← (unmarked.isOwnBody_iff body).mp isOwn]
  refine unmarked.of_isInfix ((Text.trim_isInfix _).trans ?_)
  exact (ReplaceFilter.split_isInfix _).trans (Text.trim_isInfix text)

end Unmarked

/-! ## Calls without marks -/

namespace Call

/-- The context of a call. -/
def context : Call → Context
  | .rule context _ _ => context
  | .branch context _ _ => context
  | .lines context _ _ _ => context
  | .single context _ _ => context
  | .dialect context _ _ _ => context
  | .directives context _ => context
  | .template context _ => context
  | .steps _ context _ _ => context

/-- The texts of a call. -/
def texts : Call → List Text
  | .rule _ text _ => [text]
  | .branch _ text _ => [text]
  | .lines _ first rest _ => first :: rest
  | .single _ text _ => [text]
  | .dialect _ _ body _ => [body]
  | .directives _ text => [text]
  | .template _ text => [text]
  | .steps chain _ _ _ => chain.map ScriptStep.content

/-- A call in which no mark stands, in a context that can be built for a body. -/
structure Plain (call : Call) : Prop where
  /-- The context can be built for a body. -/
  valid : call.context.Valid
  /-- No mark stands in any of the texts. -/
  unmarked : ∀ text ∈ call.texts, Unmarked text

/-- Parts of texts without marks are handed on without marks. -/
theorem HandsOn.plain {call callee : Call} (hands : call.HandsOn callee) (plain : call.Plain) :
    callee.Plain := by
  obtain ⟨valid, unmarked⟩ := plain
  cases hands <;> simp only [context, texts, List.mem_singleton, forall_eq] at valid unmarked
  case branch text part _ member =>
    have inside := (Operator.mem_split member).trans (stripReverse_isInfix text)
    exact ⟨valid, by simpa [texts] using unmarked.of_isInfix inside⟩
  case script =>
    refine ⟨valid, fun content member => ?_⟩
    obtain ⟨step, among, rfl⟩ := List.mem_map.mp member
    exact unmarked.of_isInfix (ScriptStep.mem_ofRule among)
  case lines cut =>
    refine ⟨valid, fun line member => ?_⟩
    exact unmarked.of_isInfix (isRuleLine (cut ▸ member)).2
  case alone text _ =>
    exact ⟨valid, by simpa [texts] using unmarked.of_isInfix (Text.trim_isInfix text)⟩
  case start => exact ⟨valid, by simpa [texts] using unmarked _ List.mem_cons_self⟩
  case line member value _ =>
    exact ⟨valid.withFound value,
      by simpa [texts] using unmarked _ (List.mem_cons_of_mem _ member)⟩
  case directives => exact ⟨valid, by simpa [texts] using unmarked⟩
  case template isOwn => exact ⟨valid, by simpa [texts] using unmarked.ownBody isOwn⟩
  case dialect isOwn => exact ⟨valid, by simpa [texts] using unmarked.ownBody isOwn⟩
  case steps body _ _ _ scripted =>
    obtain ⟨-, rfl⟩ := Dialect.steps_of_script scripted
    refine ⟨valid, fun content member => ?_⟩
    obtain ⟨step, among, rfl⟩ := List.mem_map.mp member
    exact unmarked.of_isInfix ((ScriptStep.mem_ofRule among).trans (Text.trim_isInfix body))
  case stored taken member _ =>
    rw [unmarked.takePuts_eq] at taken
    cases taken
    cases member
  case expression member =>
    obtain ⟨inside, rfl, within⟩ := Template.mem_parts member
    refine ⟨valid, ?_⟩
    have among : inside <:+: Template.opening ++ inside ++ Template.closing := ⟨_, _, rfl⟩
    simpa [texts] using unmarked.of_isInfix ((Text.trim_isInfix inside).trans (among.trans within))
  case step text _ _ _ _ =>
    have first : Unmarked text := unmarked _ List.mem_cons_self
    exact ⟨valid, by simpa [texts] using first⟩
  case later value =>
    exact ⟨valid.withValue value, fun text member => unmarked text (List.mem_cons_of_mem _ member)⟩

/-! ## Evaluations without marks -/

/-- Directives of a rule without marks leave its trimmed text; other calls answer anything. -/
def Keeps : (call : Call) → call.Answer → Prop
  | .directives _ text => fun directed => directed = Text.trim text
  | _ => fun _ => True

variable (engine : Engine)

/-- A call without marks is nested no deeper than its weight allows: it makes lighter calls
only. -/
theorem run_ends
    {depth : Nat}
    {call : Call}
    (plain : call.Plain)
    (deep : call.weight < depth) :
    Ends call.Keeps Fault.Unexhausted (call.run engine depth) := by
  induction depth generalizing call with
  | zero => cases deep
  | succ depth below =>
      have handed : ∀ callee, call.HandsOn callee →
          Ends callee.Keeps Fault.Unexhausted (callee.run engine depth) := by
        intro callee hands
        have lighter := hands.weight_lt
        exact below (hands.plain plain) (by omega)
      obtain ⟨valid, unmarked⟩ := plain
      cases call with
      | rule context text asList =>
          exact ends_succ _ (rule_ends valid fun part member => (handed _ (.branch member)).orFlaw)
      | branch context text asList =>
          exact ends_succ _ (branch_ends (fun scripted => handed _ (.script scripted))
            (fun first rest cut => handed _ (.lines cut)) (handed _ .alone))
      | lines context first rest asList =>
          exact ends_succ _ (lines_ends (handed _ .start).orFlaw
            fun line member value inList => (handed _ (.line member value inList)).orFlaw).unflawed
      | single context text asList =>
          have bare : Unmarked text := unmarked text List.mem_cons_self
          have own (directed : Text) (same : directed = Text.trim text) :
              isOwnBody text (Text.trim (ReplaceFilter.split directed).1) = true := by
            rw [bare.isOwnBody_iff, same]
          exact ends_succ _ (single_ends valid (handed _ .directives)
            (fun directed same => handed _ (.template (own directed same)))
            fun directed isJson same => (handed _ (.dialect (own directed same))).orFlaw).unflawed
      | dialect context isJson body asList =>
          exact ends_succ _ (dialect_ends valid fun chain scripted =>
            (handed _ (.steps scripted)).orFlaw).unflawed
      | directives context text =>
          have bare : Unmarked text := unmarked text List.mem_cons_self
          refine ends_succ _ ((directives_ends ?_).mono ?_ fun _ holds => holds)
          · intro rest puts taken put member
            rw [bare.takePuts_eq] at taken
            cases taken
            cases member
          · rintro directed ⟨rest, puts, lookup, taken, rfl⟩
            rw [bare.takePuts_eq] at taken
            cases taken
            exact (bare.of_isInfix (Text.trim_isInfix text)).substituteGet_eq lookup
      | template context text =>
          exact ends_succ _ (template_ends fun inner member => handed _ (.expression member))
      | steps chain context result asList =>
          refine ends_succ _ (steps_ends ?_ ?_).unflawed
          · rintro text rest inList rfl
            have bare : Unmarked text := unmarked text List.mem_cons_self
            rw [bare.insertResult_eq]
            exact (handed _ (.step inList)).orFlaw
          · rintro step rest value rfl
            exact (handed _ (.later value)).orFlaw

/-- A call without marks settles at every depth above its weight. -/
theorem run_settles
    {depth : Nat}
    {call : Call}
    (plain : call.Plain)
    (deep : call.weight < depth)
    (session : Session) :
    Settled (runFrom (call.run engine depth) session) := by
  have ends := run_ends engine plain deep
  intro failed
  exact ends.fault (Prod.ext failed rfl) rfl

/-- A call without marks ends, whatever the variables hold. -/
theorem terminates_of_plain {call : Call} (plain : call.Plain) (session : Session) :
    call.Terminates engine session :=
  terminates_of_settled engine (run_settles engine plain (Nat.lt_succ_self _) session)

end Call

/-- A rule without marks is evaluated within the limit of depth when it is short enough. -/
theorem evaluate_settles
    (engine : Engine)
    {context : Context}
    (valid : context.Valid)
    {rule : Text}
    (unmarked : Unmarked rule)
    (short : 8 * rule.length + 7 < depthLimit)
    (session : Session) :
    Settled (runFrom (evaluate engine context rule) session) := by
  have plain : (Call.rule context rule false).Plain :=
    ⟨valid, by simpa [Call.texts] using unmarked⟩
  exact Call.run_settles engine plain short session

example (engine : Engine) (session : Session) :
    Settled (runFrom (evaluate engine (.ofBody ['a']) "class.item@tag.a@href") session) :=
  evaluate_settles engine (Context.valid_ofBody _) (by decide +kernel) (by decide) session

end Extraction

end RuleProbe
