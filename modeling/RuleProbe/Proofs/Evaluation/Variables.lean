import Mathlib.Data.Bool.AllAny
import RuleProbe.Proofs.Evaluation.Simple
import RuleProbe.Proofs.Evaluation.Single
import RuleProbe.Proofs.Evaluation.Trail
import RuleProbe.Proofs.Template.Expression

/-!
# Values handed from rule to rule

A template is filled in one pass.  The texts of its expressions are found from left to right, and
take the places of the expressions as they are: no text is read again, though it may look like an
expression, a script or a directive.

A rule that ends in a directive stores the text of another rule, whatever becomes of itself.  From
then on the text stands for the variable, in rules and in templates, until the variable is written
again.
-/

namespace RuleProbe

namespace Extraction

open Template (Separable refilled woven)

variable (engine : Engine)
variable {context : Context}
variable {session : Session}

/-! ## Names in templates -/

/-- The value that a name stands for: the context's own, or else the one that is stored. -/
def known? (context : Context) (session : Session) (name : Text) : Option Json :=
  (Keyed.get? context.extra name).or (Keyed.get? session.store name)

theorem known?_of_own
    {name : Text}
    {value : Json}
    (bound : Keyed.get? context.extra name = some value) :
    known? context session name = some value := by
  rw [known?, bound, Option.some_or]

theorem known?_of_stored
    {name : Text}
    {value : Json}
    (free : Keyed.get? context.extra name = none)
    (stored : Keyed.get? session.store name = some value) :
    known? context session name = some value := by
  rw [known?, free, stored, Option.none_or]

/-- A name is looked up in the context, and then in the store. -/
theorem runFrom_named? {name : Text} (isName : Template.isName name = true) :
    runFrom (named? context name) session = (.ok (known? context session name), session) := by
  unfold named? known?
  rw [if_pos isName]
  cases Keyed.get? context.extra name <;> rfl

/-- The value that a name stands for is written as it is. -/
theorem runFrom_expressionText_of_known
    {name : Text}
    {value : Json}
    (isName : Template.isName name = true)
    (known : known? context session name = some value)
    (depth : Nat) :
    runFrom (expressionText engine depth context name) session =
      (.ok value.fieldText, session) := by
  have found : runFrom (named? context name) session = (.ok (some value), session) := by
    rw [runFrom_named? isName, known]
  unfold expressionText
  rw [Template.isRule_of_isName isName, if_neg Bool.false_ne_true, runFrom_bind_of_ok found]
  rfl

/-! ## The text of an expression -/

/-- How the text that stands for an expression is found. -/
structure Expresses
    (depth : Nat)
    (context : Context)
    (inner : Text)
    (action : Extract Text) : Prop where
  /-- A rule is evaluated, and its first result is written. -/
  rule (isRule : Template.isRule inner = true) :
    action = Result.firstText <$> evaluateAt engine depth context inner false
  /-- A name of the context's own is its value as text, whatever is stored. -/
  own {value : Json} (isName : Template.isName inner = true)
    (bound : Keyed.get? context.extra inner = some value) :
    action = pure value.fieldText
  /-- A name that is not the context's own is the stored value as text. -/
  stored {session : Session} {value : Json} (isName : Template.isName inner = true)
    (free : Keyed.get? context.extra inner = none)
    (stored : Keyed.get? session.store inner = some value) :
    runFrom action session = (.ok value.fieldText, session)
  /-- All else is run as a script. -/
  script {session : Session} (noRule : Template.isRule inner = false)
    (unknown : Template.isName inner = true → known? context session inner = none) :
    runFrom action session =
      runFrom (Json.fieldText <$> runScript engine context inner context.scriptValue false) session

/-- Each kind of expression has the text of its kind. -/
theorem expresses_expressionText
    (depth : Nat)
    (context : Context)
    (inner : Text) :
    Expresses engine depth context inner (expressionText engine depth context inner) where
  rule isRule := by
    unfold expressionText
    rw [if_pos isRule]
  own isName bound := runFrom_ext fun _ =>
    runFrom_expressionText_of_known engine isName (known?_of_own bound) depth
  stored isName free stored :=
    runFrom_expressionText_of_known engine isName (known?_of_stored free stored) depth
  script {session} noRule unknown := by
    have none : runFrom (named? context inner) session = (.ok none, session) := by
      cases isName : Template.isName inner with
      | true => rw [runFrom_named? isName, unknown isName]
      | false => unfold named?; rw [isName]; rfl
    unfold expressionText
    rw [noRule, if_neg Bool.false_ne_true, runFrom_bind_of_ok none]

/-! ## One pass -/

/-- A part of a template as text. -/
def partText (textOf : Text → Extract Text) : Template.Part → Extract Text
  | .text value => pure value
  | .expression inner => textOf inner

/-- Text stays, and each expression is replaced by its text. -/
theorem flatten_mapM_partText
    (textOf : Text → Extract Text)
    (before : Text)
    (rest : List (Text × Text)) :
    List.flatten <$> (Template.Part.text before ::
        rest.flatMap fun part => [.expression (Text.trim part.1), .text part.2]).mapM
          (partText textOf) =
      refilled before rest <$> rest.mapM fun part => textOf (Text.trim part.1) := by
  induction rest generalizing before with
  | nil => simp [refilled, partText]
  | cons part others hypothesis =>
      have first (more : List Template.Part) :
          List.flatten <$> (.text before :: .expression (Text.trim part.1) :: more).mapM
              (partText textOf) =
            textOf (Text.trim part.1) >>= fun text =>
              (fun after => before ++ (text ++ after)) <$> List.flatten <$>
                more.mapM (partText textOf) := by
        simp [partText]
      rw [List.flatMap_cons, List.cons_append, List.cons_append, List.nil_append, first,
        hypothesis part.2]
      simp [refilled]

/-- Names with values are replaced by the values' texts, and nothing is evaluated. -/
theorem runFrom_mapM_known
    {depth : Nat}
    {rest : List (Text × Text)}
    {values : List Json}
    (known : List.Forall₂
      (fun part value => Template.isName (Text.trim part.1) = true ∧
        known? context session (Text.trim part.1) = some value) rest values) :
    runFrom (rest.mapM fun part => expressionText engine depth context (Text.trim part.1)) session =
      (.ok (values.map Json.fieldText), session) := by
  induction known with
  | nil => rfl
  | cons head tail hypothesis =>
      have first := runFrom_expressionText_of_known engine head.1 head.2 depth
      rw [List.mapM_cons, runFrom_bind_of_ok first, runFrom_bind_of_ok hypothesis]
      rfl

/-- A template is filled in one pass.  Its expressions have their texts found one by one, from left
to right, each by the kind that it is of, and the texts take the places of the expressions.  So when
all expressions are names with values, the texts of the values stand in their places whatever they
look like, for every engine, and the session is as it was. -/
theorem interpolate_woven
    (context : Context)
    {before : Text}
    {rest : List (Text × Text)}
    (separable : Separable before rest) :
    (∀ depth, interpolateAt engine (depth + 1) context (woven before rest) =
      refilled before rest <$>
        rest.mapM fun part => expressionText engine depth context (Text.trim part.1)) ∧
    (∀ depth inner,
      Expresses engine depth context inner (expressionText engine depth context inner)) ∧
    ∀ session values,
      List.Forall₂ (fun part value => Template.isName (Text.trim part.1) = true ∧
        known? context session (Text.trim part.1) = some value) rest values →
      runFrom (interpolate engine context (woven before rest)) session =
        (.ok (refilled before rest (values.map Json.fieldText)), session) := by
  have onePass (depth : Nat) : interpolateAt engine (depth + 1) context (woven before rest) =
      refilled before rest <$>
        rest.mapM fun part => expressionText engine depth context (Text.trim part.1) := by
    rw [interpolateAt_succ, Template.parts_woven separable, ← flatten_mapM_partText]
    refine congrArg (fun body => _ <$> List.mapM body _) (funext fun part => ?_)
    cases part <;> rfl
  refine ⟨onePass, fun depth => expresses_expressionText engine depth context, ?_⟩
  intro session values known
  have limit : depthLimit = 599 + 1 := rfl
  rw [interpolate, limit, onePass, runFrom_map, runFrom_mapM_known engine known]
  rfl

/-- A page with a variable of its own that looks like a script. -/
def scriptedPage : Context := { Context.ofBody "b" with extra := [("e", .str "@js:x")] }

/-- A stored text that looks like an expression is written as it is, and so is one of the context
that looks like a script. -/
theorem interpolate_woven_literal :
    Separable "a" [("k", "-"), (" e ", "")] ∧
      runFrom (interpolate {} scriptedPage "a\x7b\x7bk\x7d\x7d-\x7b\x7b e \x7d\x7d")
          ⟨[("k", .str "\x7b\x7be\x7d\x7d")], []⟩ =
        (.ok "a\x7b\x7be\x7d\x7d-@js:x", ⟨[("k", .str "\x7b\x7be\x7d\x7d")], []⟩) := by
  have separable : Separable "a" [("k", "-"), (" e ", "")] :=
    .more (.of_not_mem (by decide)) (.of_not_mem (by decide))
      (.more (.of_not_mem (by decide)) (.of_not_mem (by decide)) (.last (.of_not_mem (by decide))))
  refine ⟨separable, ?_⟩
  have filled := (interpolate_woven {} scriptedPage separable).2.2
    ⟨[("k", .str "\x7b\x7be\x7d\x7d")], []⟩ [.str "\x7b\x7be\x7d\x7d", .str "@js:x"]
    (.cons ⟨by decide, rfl⟩ (.cons ⟨by decide, rfl⟩ .nil))
  exact filled

end Extraction

namespace Extraction

/-! ## A rule that ends in a directive -/

/-- A rule that also stores the text of another rule under a name. -/
def storing (rule name subRule : Text) : Text :=
  rule ++ Directive.written Directive.putMark (Directive.pair name subRule)

/-- A sub-rule is simple, and none of its characters has a meaning in a directive. -/
structure Storable (subRule : Text) : Prop where
  /-- The sub-rule is simple. -/
  simple : Simple subRule
  /-- It has no braces, commas and quotation marks. -/
  plain : ∀ c ∈ subRule, c ∉ Directive.punctuation

variable {rule name subRule : Text}

/-- What stands before the sub-rule in a directive. -/
def heading (name : Text) : Text := ['u', 't', ':', '\x7b'] ++ name ++ [':']

theorem storing_eq (rule name subRule : Text) :
    storing rule name subRule =
      rule ++ '@' :: 'p' :: (heading name ++ (subRule ++ ['\x7d'])) := by
  simp [storing, heading, Directive.written, Directive.putMark, Directive.pair]

/-- The characters of a heading are those of the name, or of the mark. -/
theorem mem_heading
    {c : Char}
    (member : c ∈ heading name) :
    c ∈ name ∨ c ∈ ['u', 't', ':', '\x7b'] := by
  simp only [heading, List.mem_append] at member
  rcases member with (mark | inName) | colon
  · exact .inr mark
  · exact .inl inName
  · exact .inr (by simp [List.mem_singleton.mp colon])

/-- A sign that stands neither in names nor in the mark does not stand in a heading. -/
theorem ne_of_mem_heading
    (isName : Template.isName name = true)
    {c sign : Char}
    (member : c ∈ heading name)
    (noWord : Letter.isWord sign.toNat = false)
    (noMark : sign ∉ ['u', 't', ':', '\x7b']) :
    c ≠ sign := by
  rcases mem_heading member with inName | inMark
  · exact Letter.ne_of_isWord (Template.isWord_of_isName isName c inName) noWord
  · rintro rfl
    exact noMark inMark

/-- No script begins where a rule and a directive meet. -/
theorem hasScript_storing
    (scriptless : hasScript rule = false)
    (isName : Template.isName name = true)
    (subScriptless : hasScript subRule = false) :
    hasScript (storing rule name subRule) = false := by
  have inner : hasScript (subRule ++ ['\x7d']) = false :=
    hasScript_append subScriptless (by decide) (by decide)
  have behind : hasScript ('p' :: (heading name ++ (subRule ++ ['\x7d']))) = false := by
    refine hasScript_append_of_unsigned (List.forall_mem_cons.mpr ⟨by decide, fun c member => ?_⟩)
      inner
    exact ⟨ne_of_mem_heading isName member (by decide) (by decide),
      ne_of_mem_heading isName member (by decide) (by decide)⟩
  rw [storing_eq]
  refine hasScript_append scriptless ?_ (by decide)
  exact hasScript_append (by decide : hasScript ['@'] = false) behind (by decide)

/-- No operator comes about where a rule and a directive meet. -/
theorem undoubled_storing
    (operator : Operator)
    (uncut : Undoubled operator.mark rule)
    (isName : Template.isName name = true)
    (subUncut : Undoubled operator.mark subRule) :
    Undoubled operator.mark (storing rule name subRule) := by
  have apart : ∀ c ∈ ['@', 'p', '\x7d'], c ≠ operator.mark := by
    cases operator <;> exact List.all_iff_forall_prop.mp (by decide)
  have noWord : Letter.isWord operator.mark.toNat = false := by
    cases operator <;> decide
  have noMark : operator.mark ∉ ['u', 't', ':', '\x7b'] := by
    cases operator <;> decide
  have inner : Undoubled operator.mark (subRule ++ ['\x7d']) :=
    subUncut.append (.singleton _) (by simpa using apart '\x7d' (by decide))
  have absent : operator.mark ∉ '@' :: 'p' :: heading name := by
    simp only [List.mem_cons, not_or]
    exact ⟨(apart '@' (by decide)).symm, (apart 'p' (by decide)).symm,
      fun member => ne_of_mem_heading isName member noWord noMark rfl⟩
  rw [storing_eq]
  refine uncut.append (.append_of_not_mem absent inner) ?_
  simpa using apart '@' (by decide)

/-- No template opens where a rule and a directive meet. -/
theorem unopened_storing
    (braceless : '\x7b' ∉ rule)
    (isName : Template.isName name = true)
    (subBraceless : '\x7b' ∉ subRule) :
    Undoubled '\x7b' (storing rule name subRule) := by
  have behind : '\x7b' ∉ name ++ ':' :: (subRule ++ ['\x7d']) := by
    have word := Template.isWord_of_isName isName
    simp only [List.mem_append, List.mem_cons, not_or]
    exact ⟨fun member => Letter.ne_of_isWord (word _ member) (by decide) rfl, by decide,
      subBraceless, by decide, by simp⟩
  have inner : Undoubled '\x7b' (['\x7b'] ++ (name ++ ':' :: (subRule ++ ['\x7d']))) := by
    refine .append (.singleton _) (.of_not_mem behind) fun c head => ?_
    rintro rfl
    exact behind (List.mem_of_mem_head? head)
  have whole : storing rule name subRule =
      (rule ++ Directive.putMark) ++
        (['\x7b'] ++ (name ++ ':' :: (subRule ++ ['\x7d']))) := by
    simp [storing, Directive.written, Directive.pair]
  rw [whole]
  refine .append_of_not_mem ?_ inner
  simp only [List.mem_append, not_or]
  exact ⟨braceless, by decide⟩

/-- A simple rule with a directive behind it is evaluated as a whole. -/
theorem Simple.whole_storing
    (simple : Simple rule)
    (isName : Template.isName name = true)
    (subSimple : Simple subRule) :
    Whole (storing rule name subRule) where
  line c member := by
    rw [storing_eq] at member
    simp only [List.mem_append, List.mem_cons, List.not_mem_nil, or_false] at member
    rcases member with inRule | rfl | rfl | inHeading | inSubRule | rfl
    · exact simple.line c inRule
    · decide
    · decide
    · rcases mem_heading inHeading with inName | inMark
      · exact Letter.isBreak_of_isWord (Template.isWord_of_isName isName c inName)
      · have unbroken : ∀ c ∈ ['u', 't', ':', '\x7b'], Text.isBreak c = false :=
          List.all_iff_forall_prop.mp (by decide)
        exact unbroken c inMark
    · exact subSimple.line c inSubRule
    · decide
  scriptless := hasScript_storing simple.scriptless isName subSimple.scriptless
  uncut operator := undoubled_storing operator (simple.uncut operator) isName
    (subSimple.uncut operator)
  unopened := unopened_storing simple.braceless isName subSimple.braceless

/-- Blanks stand neither before a directive nor after it. -/
theorem trimmed_written (name subRule : Text) :
    Text.Trimmed (Directive.written Directive.putMark (Directive.pair name subRule)) := by
  have ending : Directive.written Directive.putMark (Directive.pair name subRule) =
      (Directive.putMark ++ '\x7b' :: Directive.pair name subRule) ++ ['\x7d'] := by
    simp [Directive.written]
  refine ⟨fun c head => ?_, fun c last => ?_⟩
  · cases head
    decide
  · rw [ending, List.getLast?_concat] at last
    cases last
    decide

theorem trim_storing (rule name subRule : Text) :
    Text.trim (storing rule name subRule) = storing (Text.trimLeft rule) name subRule :=
  Text.trim_append_of_visible (List.cons_ne_nil '@' _) (trimmed_written name subRule) rule

/-- Without blanks and its sign, a rule with a directive behind it is a part of the rule with the
directive behind it. -/
theorem exists_bare_storing (rule name subRule : Text) :
    ∃ before, before <:+ rule ∧
      Text.trim (stripReverse (storing rule name subRule)).1 = storing before name subRule := by
  have suffix (text : Text) : Text.trimLeft text <:+ text := List.dropWhile_suffix _
  have within := suffix rule
  unfold stripReverse
  rw [trim_storing]
  cases start : Text.trimLeft rule with
  | nil => exact ⟨[], List.nil_suffix, trim_storing [] name subRule⟩
  | cons c rest =>
      rw [start] at within
      have later := (List.suffix_cons c rest).trans within
      have twice := (suffix (Text.trimLeft rest)).trans ((suffix rest).trans later)
      have cons : storing (c :: rest) name subRule = c :: storing rest name subRule := rfl
      rw [cons]
      split
      case h_1 same =>
        cases same
        exact ⟨_, twice, by rw [trim_storing, trim_storing]⟩
      case h_2 same =>
        cases same
        exact ⟨_, twice, by rw [trim_storing, trim_storing]⟩
      case h_3 => exact ⟨_, (suffix _).trans within, trim_storing (c :: rest) name subRule⟩

/-! ## What is stored -/

variable (engine : Engine)

/-- Store the texts of rules under names. -/
def storePuts (depth : Nat) (context : Context) (puts : Keyed Text) : Extract Unit :=
  puts.forM fun (key, subRule) => do
    let value := (← evaluateAt engine depth context subRule false).firstText
    setVariable key (.str value)
    report
      { level := .info
        topic := .parse
        message := "@put " ++ key ++ " = " ++ Quoted.write (value.take 80)
        details := [("rule", .str subRule)] }

/-- A rule with what a session has stored in place of the directives that insert it. -/
def insertStored (session : Session) (rule : Text) : Text :=
  Directive.substituteGet
    (fun key => ((Keyed.get? session.store key).map Json.fieldText).getD []) rule

/-- What a rule asks for is stored before anything is inserted. -/
theorem applyDirectives_of_puts
    {rule rest : Text}
    {puts : Keyed Text}
    (taken : Directive.takePuts rule = .ok (rest, puts))
    (depth : Nat)
    (context : Context) :
    applyDirectives engine (depth + 1) context rule =
      storePuts engine depth context puts >>= fun _ =>
        (insertStored · rest) <$> get := by
  refine runFrom_ext fun session => ?_
  rw [applyDirectives, taken]
  rfl

/-- Blanks around a rule do not count. -/
theorem evaluateAt_trim
    (depth : Nat)
    (context : Context)
    (rule : Text)
    (asList : Bool) :
    evaluateAt engine depth context (Text.trim rule) asList =
      evaluateAt engine depth context rule asList := by
  have twice : Text.trim (Text.trim rule) = Text.trim rule :=
    (Text.trimmed_trim rule).trim_eq_self
  have sign : stripReverse (Text.trim rule) = stripReverse rule := by
    unfold stripReverse
    rw [twice]
  have blank : (Text.trim rule).isBlankText = rule.isBlankText := by
    rw [Bool.eq_iff_iff, ← Text.trim_eq_nil_iff, ← Text.trim_eq_nil_iff, twice]
  cases depth with
  | zero => rw [evaluateAt, evaluateAt]
  | succ depth => rw [evaluateAt, evaluateAt, sign, blank]

/-- The session in which the text of a rule has just been stored. -/
def Session.stored (session : Session) (name text subRule : Text) : Session :=
  { store := Keyed.put session.store name (.str text)
    logs := directiveEntry name text subRule :: session.logs }

/-- A rule without braces that ends in a directive stores what the directive asks for. -/
theorem runFrom_applyDirectives_storing
    (braceless : '\x7b' ∉ rule)
    (isName : Template.isName name = true)
    (storable : Storable subRule)
    {depth : Nat}
    {context : Context}
    {session after : Session}
    {result : Result}
    (evaluated : runFrom (evaluateAt engine depth context subRule false) session =
      (.ok result, after)) :
    runFrom (applyDirectives engine (depth + 1) context (storing rule name subRule)) session =
      (.ok (Text.trim rule),
        after.stored name result.firstText (Text.trim subRule)) := by
  have taken := Directive.takePuts_put braceless isName storable.plain
  have bare : '\x7b' ∉ Text.trim rule := fun member =>
    braceless ((Text.trim_isInfix rule).subset member)
  have inserted (session : Session) : insertStored session (Text.trim rule) = Text.trim rule :=
    Directive.substituteGet_of_none (fun _ within =>
      Directive.directive?_of_not_mem fun member => bare (within.subset member)) _
  have sub : runFrom (evaluateAt engine depth context (Text.trim subRule) false) session =
      (.ok result, after) := by
    rw [evaluateAt_trim, evaluated]
  rw [storing, applyDirectives_of_puts engine taken]
  unfold storePuts
  rw [List.forM_eq_forM, List.forM_cons, List.forM_nil, bind_assoc, bind_assoc,
    runFrom_bind_of_ok sub]
  change (Except.ok (insertStored _ (Text.trim rule)), _) = _
  rw [inserted]
  rfl

/-- A simple rule with a directive behind it stores the text of the directive's rule, however its
own evaluation ends. -/
theorem store_of_storing
    {context : Context}
    (usable : context.Usable)
    (simple : Simple rule)
    (isName : Template.isName name = true)
    (storable : Storable subRule)
    {session : Session}
    {result : Result}
    (evaluated : (runFrom (evaluateAt engine 4 context subRule false) session).1 = .ok result)
    (depth : Nat)
    (asList : Bool) :
    (runFrom (evaluateAt engine (depth + 8) context (storing rule name subRule) asList)
      session).2.store = Keyed.put session.store name (.str result.firstText) := by
  have given : (storing rule name subRule).isBlankText = false := by
    have visible : '@' ∈ storing rule name subRule := by simp [storing_eq]
    rw [Text.isBlankText, List.all_eq_false]
    exact ⟨'@', visible, by decide⟩
  obtain ⟨before, within, bare⟩ := exists_bare_storing rule name subRule
  have part : Simple before := simple.of_isInfix within.isInfix
  have same : runFrom (evaluateAt engine (depth + 4) context subRule false) session =
      (.ok result, session) := by
    rw [evaluateAt_simple engine usable storable.simple]
    refine Prod.ext evaluated ?_
    exact (evaluateAt_still engine usable storable.simple 0 false session).symm
  have directed := runFrom_applyDirectives_storing engine part.braceless isName storable same
  have still : Leads Eq (concludeSingle engine (depth + 5) context asList (Text.trim before)) := by
    have trimmed := part.of_isInfix (Text.trim_isInfix before)
    rw [concludeSingle_simple engine trimmed]
    exact concludeSingle_still engine trimmed context asList
  rw [evaluateAt_whole engine usable (simple.whole_storing isName storable.simple) given, bare,
    evaluateSingle_eq, catchFlaw_session, runFrom_map, runFrom_bind_of_ok directed]
  exact congrArg Session.store (still _).symm

variable {text : Text}
variable {session : Session}

/-! ## What a stored text stands for -/

/-- What is stored under a name stands in place of its directive, in the single rule that is left
when the rule's own directives have been followed. -/
theorem runFrom_evaluateSingle_of_stored
    (isName : Template.isName name = true)
    (stored : Keyed.get? session.store name = some (.str text))
    {depth : Nat}
    {context : Context}
    {rule before after : Text}
    {puts : Keyed Text}
    {earlier : Session}
    (taken : Directive.takePuts rule =
      .ok (before ++ (Directive.written Directive.getMark name ++ after), puts))
    (closed : Directive.Closed Directive.getMark before)
    (followed : runFrom (storePuts engine depth context puts) earlier = (.ok (), session))
    (asList : Bool) :
    runFrom (evaluateSingle engine (depth + 2) context rule asList) earlier =
      runFrom (concludeSingle engine (depth + 1) context asList
        (insertStored session before ++ (text ++ insertStored session after))) session := by
  have inserted : insertStored session
      (before ++ (Directive.written Directive.getMark name ++ after)) =
        insertStored session before ++ (text ++ insertStored session after) := by
    unfold insertStored
    rw [Directive.substituteGet_written _ closed isName, stored]
    rfl
  rw [evaluateSingle_eq, applyDirectives_of_puts engine taken, bind_assoc,
    runFrom_bind_of_ok followed, runFrom_bind, runFrom_map, runFrom_get]
  change runFrom (concludeSingle engine (depth + 1) context asList (insertStored session _))
    session = _
  rw [inserted]

/-- A template with an expression after braceless text has the text for the expression, and what
follows is filled by itself. -/
theorem runFrom_interpolateAt_written
    {depth : Nat}
    {context : Context}
    {expression : Text}
    (trimmed : Text.trim expression = expression)
    (closed : '\x7d' ∉ expression)
    (filled : runFrom (expressionText engine depth context expression) session =
      (.ok text, session))
    {before : Text}
    (plain : '\x7b' ∉ before)
    (after : Text) :
    runFrom (interpolateAt engine (depth + 1) context
        (before ++ (Template.written expression ++ after))) session =
      runFrom ((fun rest => before ++ (text ++ rest)) <$>
        interpolateAt engine (depth + 1) context after) session := by
  rw [interpolateAt_succ, interpolateAt_succ,
    Template.parts_written (.of_not_mem plain) (.of_not_mem closed), trimmed]
  simp only [List.mapM_cons, map_eq_pure_bind, bind_assoc, pure_bind]
  rw [runFrom_bind_of_ok filled]
  rfl

/-- A text stands for a name wherever rules and templates read the name. -/
structure StandsFor (session : Session) (name text : Text) : Prop where
  /-- It stands in place of the directive in a single rule, whose own directives have been followed
  before. -/
  inserted {depth : Nat} {context : Context} {rule before after : Text} {puts : Keyed Text}
    {earlier : Session}
    (taken : Directive.takePuts rule =
      .ok (before ++ (Directive.written Directive.getMark name ++ after), puts))
    (closed : Directive.Closed Directive.getMark before)
    (followed : runFrom (storePuts engine depth context puts) earlier = (.ok (), session))
    (asList : Bool) :
    runFrom (evaluateSingle engine (depth + 2) context rule asList) earlier =
      runFrom (concludeSingle engine (depth + 1) context asList
        (insertStored session before ++ (text ++ insertStored session after))) session
  /-- It stands in place of the directive in a rule that is evaluated as a whole. -/
  evaluated {depth : Nat} {context : Context} {rule before after : Text} {puts : Keyed Text}
    {earlier : Session}
    (usable : context.Usable)
    (whole : Whole rule)
    (given : rule.isBlankText = false)
    (taken : Directive.takePuts (Text.trim (stripReverse rule).1) =
      .ok (before ++ (Directive.written Directive.getMark name ++ after), puts))
    (closed : Directive.Closed Directive.getMark before)
    (followed : runFrom (storePuts engine depth context puts) earlier = (.ok (), session))
    (asList : Bool) :
    runFrom (evaluateAt engine (depth + 4) context rule asList) earlier =
      runFrom (catchFlaw (turned (stripReverse rule).2 <$>
        concludeSingle engine (depth + 1) context asList
          (insertStored session before ++ (text ++ insertStored session after)))) session
  /-- It stands in place of an expression of a template, unless the context has a value of its own
  for the name. -/
  filled {context : Context} (free : Keyed.get? context.extra name = none) (depth : Nat) :
    runFrom (expressionText engine depth context name) session = (.ok text, session)
  /-- It stands in a template that is filled, after what stands before the expression. -/
  template {context : Context} (free : Keyed.get? context.extra name = none)
    {before : Text} (plain : '\x7b' ∉ before) (after : Text) (depth : Nat) :
    runFrom (interpolateAt engine (depth + 1) context
        (before ++ (Template.written name ++ after))) session =
      runFrom ((fun rest => before ++ (text ++ rest)) <$>
        interpolateAt engine (depth + 1) context after) session

/-- Catching the flaw of a rule depends on the run of the rule only. -/
theorem runFrom_catchFlaw_congr
    {one two : Extract (List Found)}
    {earlier session : Session}
    (same : runFrom one earlier = runFrom two session) :
    runFrom (catchFlaw one) earlier = runFrom (catchFlaw two) session := by
  rw [runFrom_catchFlaw, runFrom_catchFlaw, same]

/-- What is stored under a name stands for it. -/
theorem standsFor_of_stored
    (isName : Template.isName name = true)
    (stored : Keyed.get? session.store name = some (.str text)) :
    StandsFor engine session name text where
  inserted taken closed followed asList :=
    runFrom_evaluateSingle_of_stored engine isName stored taken closed followed asList
  evaluated usable whole given taken closed followed asList := by
    rw [evaluateAt_whole engine usable whole given]
    refine runFrom_catchFlaw_congr ?_
    rw [runFrom_map, runFrom_map,
      runFrom_evaluateSingle_of_stored engine isName stored taken closed followed]
  filled free depth :=
    runFrom_expressionText_of_known engine isName (known?_of_stored free stored) depth
  template free before plain after depth := by
    have word := Template.isWord_of_isName isName
    have visible : Text.trim name = name :=
      Text.trimWhere_of_none fun c member => Letter.isBlank_of_isWord (word c member)
    have unclosed : '\x7d' ∉ name := fun member =>
      Letter.ne_of_isWord (word _ member) (by decide) rfl
    exact runFrom_interpolateAt_written engine visible unclosed
      (runFrom_expressionText_of_known engine isName (known?_of_stored free stored) depth)
      plain after

/-! ## Handing a value on -/

/-- A rule with a directive behind it stores the text of the directive's rule, however its own
evaluation ends.  From then on the text stands for the name, in all contexts and for all engines,
until the name is among what is written. -/
theorem evaluateAt_storing
    {context : Context}
    (usable : context.Usable)
    {rule name subRule : Text}
    (simple : Simple rule)
    (isName : Template.isName name = true)
    (storable : Storable subRule)
    {session ended : Session}
    {result : Result}
    (evaluated : (runFrom (evaluate engine context subRule) session).1 = .ok result)
    {asList : Bool}
    {outcome : Except Fault Result}
    (carried : runFrom (evaluateAt engine depthLimit context (storing rule name subRule) asList)
      session = (outcome, ended)) :
    ended.store = Keyed.put session.store name (.str result.firstText) ∧
      ∀ reader writes later, Trail ended writes later → name ∉ Keyed.keys writes →
        StandsFor reader later name result.firstText := by
  have atFour : (runFrom (evaluateAt engine 4 context subRule false) session).1 = .ok result := by
    rw [← evaluateAt_simple engine usable storable.simple 596]
    exact evaluated
  have store : ended.store = Keyed.put session.store name (.str result.firstText) := by
    have deep : depthLimit = 592 + 8 := rfl
    rw [deep] at carried
    rw [← store_of_storing engine usable simple isName storable atFour 592 asList, carried]
  refine ⟨store, fun reader writes later trail unwritten => standsFor_of_stored reader isName ?_⟩
  rw [trail.store_eq, Keyed.get?_update_of_notMem unwritten, store, Keyed.get?_put,
    beq_self_eq_true, if_pos rfl]

/-- The page on which values are handed on. -/
def letterPage : Context := .ofBody "b"

/-- The evaluation of a rule that cannot be read, with a directive behind it. -/
def flawedRun : Except Fault Result × Session :=
  runFrom (evaluateAt {} depthLimit letterPage (storing ":(" "k" ":b") false) ⟨[], []⟩

/-- The reason for which an evaluation failed. -/
def reasonIn? (ended : Except Fault Result × Session) : Option Text :=
  match ended.1 with
  | .ok (.failed reason) => some reason
  | _ => none

/-- A rule that cannot be read hands a letter on, also when a new log has begun. -/
theorem evaluateAt_storing_flawed :
    storing ":(" "k" ":b" = ":(@put:\x7bk::b\x7d".toList ∧
      (reasonIn? flawedRun).isSome = true ∧
      flawedRun.2.store = [("k".toList, .str "b")] ∧
      StandsFor {} { flawedRun.2 with logs := [] } "k" "b" := by
  have simple : Simple ":(" :=
    { line := List.all_iff_forall_prop.mp (by decide)
      scriptless := by decide
      uncut := fun operator => by cases operator <;> decide
      braceless := by decide }
  have simpleLetter : Simple ":b" :=
    { line := List.all_iff_forall_prop.mp (by decide)
      scriptless := by decide
      uncut := fun operator => by cases operator <;> decide
      braceless := by decide }
  have storable : Storable ":b" := ⟨simpleLetter, List.all_iff_forall_prop.mp (by decide)⟩
  have letter : ((runFrom (evaluate {} letterPage ":b") ⟨[], []⟩).1.toOption.map
      Result.firstText) = some "b".toList := by
    decide +kernel
  have flawed : (reasonIn? flawedRun).isSome = true := by
    decide +kernel
  obtain ⟨result, returned, text⟩ := Option.map_eq_some_iff.mp letter
  have evaluated : (runFrom (evaluate {} letterPage ":b") ⟨[], []⟩).1 = .ok result := by
    cases ended : (runFrom (evaluate {} letterPage ":b") ⟨[], []⟩).1 with
    | ok value =>
        rw [ended] at returned
        exact congrArg Except.ok (Option.some.inj returned)
    | error fault =>
        rw [ended] at returned
        cases returned
  have usable : letterPage.Usable := ⟨nofun, rfl⟩
  have isName : Template.isName "k" = true := by decide
  have carried : flawedRun = (flawedRun.1, flawedRun.2) := rfl
  obtain ⟨store, later⟩ := evaluateAt_storing {} usable simple isName storable evaluated carried
  rw [text] at store later
  exact ⟨rfl, flawed, store, later {} [] _ (.single (.begun _)) (by simp [Keyed.keys])⟩

/-- A page with a handle of another document at hand. -/
def foreignPage : Context := letterPage.withElement (.handle ⟨1, .value (.str "b")⟩)

/-- The texts of a rule on a page of one letter, where the letter is stored. -/
def storedTexts (rule : Text) : Option (List Text) :=
  (foundIn? (runFrom (evaluate {} letterPage rule) ⟨[("k".toList, .str "b")], []⟩)).map
    (List.map Found.text)

/-- With a handle of another document at hand, a rule fails, and nothing is stored for it.  A
directive stays as it is in the code of a script, and in a line that filters those before it. -/
theorem evaluateAt_storing_foreign :
    (reasonIn? (runFrom (evaluate {} foreignPage ":b") ⟨[], []⟩)).isSome = true ∧
      (runFrom (evaluate {} foreignPage (storing ":b" "k" ":b")) ⟨[], []⟩).2.store = [] ∧
      storedTexts "@js:'@get:\x7bk\x7d'" = some ["@get:\x7bk\x7d".toList] ∧
      storedTexts ":b\n##@get:\x7bk\x7d##c" = some ["b".toList] := by
  have foreign : ((reasonIn? (runFrom (evaluate {} foreignPage ":b") ⟨[], []⟩)).isSome &&
      (runFrom (evaluate {} foreignPage (storing ":b" "k" ":b")) ⟨[], []⟩).2.store.isEmpty) =
        true := by
    decide +kernel
  obtain ⟨failed, empty⟩ := Bool.and_eq_true _ _ |>.mp foreign
  exact ⟨failed, List.isEmpty_iff.mp empty, by decide +kernel, by decide +kernel⟩

end Extraction

end RuleProbe
