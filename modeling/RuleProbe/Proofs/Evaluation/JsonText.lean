import RuleProbe.Proofs.Evaluation.Modes
import RuleProbe.Proofs.JsonText
import RuleProbe.Proofs.Template.Expression

/-!
# Paths into values and into their texts

A rule that leads into JSON values finds the same in a value as in the text of the value: the text
is read back, and nothing else is asked of what is at hand.  Only a text whose containers are nested
too deeply for the reader makes a difference: there such a rule ends in a defect.
-/

namespace RuleProbe

/-! ## Beginnings of rules -/

namespace Text

/-- What is collected before a text is cut at a mark belongs to its first part. -/
theorem exists_splitAux_eq (mark text : Text) :
    ∃ first rest, ∀ before,
      splitAux mark 0 before text = (before.reverse ++ first) :: rest := by
  induction text with
  | nil => exact ⟨[], [], by simp [splitAux]⟩
  | cons c others hypothesis =>
      simp only [splitAux]
      split
      · exact ⟨[], splitAux mark (mark.length - 1) [] others, by simp⟩
      · obtain ⟨first, rest, parts⟩ := hypothesis
        exact ⟨c :: first, rest, by simp [parts]⟩

/-- No mark begins in a text that does not hold the first character of the mark. -/
theorem splitAux_append
    {c : Char}
    {start : Text}
    (absent : c ∉ start)
    (more before rest : Text) :
    splitAux (c :: more) 0 before (start ++ rest) =
      splitAux (c :: more) 0 (start.reverse ++ before) rest := by
  induction start generalizing before with
  | nil => rfl
  | cons d others hypothesis =>
      obtain ⟨differ, later⟩ := not_or.mp (mt List.mem_cons.mpr absent)
      rw [List.cons_append, splitAux, if_neg (by simp [List.isPrefixOf, differ]), hypothesis later]
      simp

end Text

/-- The beginning of a rule is left when its filter is taken away. -/
theorem ReplaceFilter.prefix_split
    {start rule : Text}
    (plain : '#' ∉ start)
    (begins : start <+: rule) :
    start <+: (split rule).1 := by
  obtain ⟨rest, rfl⟩ := begins
  obtain ⟨first, parts, cut⟩ := Text.exists_splitAux_eq mark rest
  have cut : Text.splitOn mark (start ++ rest) = (start ++ first) :: parts := by
    rw [Text.splitOn, mark, Text.splitAux_append plain, ← mark, cut]
    simp
  unfold split
  rw [cut]
  split
  case h_1 same =>
    rw [← (List.cons.inj same).1]
    split <;> exact List.prefix_append _ _
  case h_2 => exact List.prefix_append _ _

namespace Dialect

/-- How rules begin that lead into JSON values from the root. -/
def roots : List Text := ["$.", "$[", "@json:"]

theorem root_cases {start text : Text} (root : start ∈ roots) (begins : start <+: text) :
    ∃ rest, text = '$' :: '.' :: rest ∨ text = '$' :: '[' :: rest ∨
      text = '@' :: 'j' :: 's' :: 'o' :: 'n' :: ':' :: rest := by
  obtain ⟨rest, rfl⟩ := begins
  simp only [roots, List.mem_cons, List.not_mem_nil, or_false] at root
  rcases root with rfl | rfl | rfl
  · exact ⟨rest, .inl rfl⟩
  · exact ⟨rest, .inr (.inl rfl)⟩
  · exact ⟨rest, .inr (.inr rfl)⟩

/-- A beginning that leads into JSON values has no blank at either end, and no filter in it. -/
theorem root_plain {start : Text} (root : start ∈ roots) :
    start ≠ [] ∧ start.Trimmed ∧ '#' ∉ start := by
  simp only [roots, List.mem_cons, List.not_mem_nil, or_false] at root
  rcases root with rfl | rfl | rfl
  · exact ⟨List.cons_ne_nil _ _, Text.trimmed_between rfl [] rfl, by decide⟩
  · exact ⟨List.cons_ne_nil _ _, Text.trimmed_between rfl [] rfl, by decide⟩
  · exact ⟨List.cons_ne_nil _ _, Text.trimmed_between rfl ['j', 's', 'o', 'n'] rfl, by decide⟩

/-- A rule that begins like one that leads into JSON values does so, whatever is at hand. -/
theorem ofRule_of_root
    {text start : Text}
    (trimmed : text.Trimmed)
    (scriptless : hasScript text = false)
    (root : start ∈ roots)
    (begins : start <+: text) :
    ∃ path, ∀ isJson, ofRule text isJson = .jsonPath path := by
  obtain ⟨rest, shape⟩ := root_cases root begins
  unfold ofRule
  simp only [trimmed.trim_eq_self, scriptless, Bool.false_eq_true, if_false]
  rcases shape with rfl | rfl | rfl
  · split
    · exact ⟨_, fun _ => rfl⟩
    · exact ⟨_, fun _ => rfl⟩
  · split
    · exact ⟨_, fun _ => rfl⟩
    · exact ⟨_, fun _ => rfl⟩
  · exact ⟨_, fun _ => rfl⟩

end Dialect

/-! ## Texts of containers -/

namespace Json

/-- The text of a container stands between brackets or braces. -/
theorem toJsonText_of_isContainer {value : Json} (container : value.isContainer = true) :
    ∃ inner, value.toJsonText = '[' :: (inner ++ [']']) ∨
      value.toJsonText = '\x7b' :: (inner ++ ['\x7d']) := by
  cases value with
  | arr items =>
      cases items with
      | nil => exact ⟨[], .inl rfl⟩
      | cons item more =>
          exact ⟨writeItems .compact true (item :: more), .inl (by
            simp [toJsonText, write, Layout.lineBreak, Layout.inner])⟩
  | obj members =>
      cases members with
      | nil => exact ⟨[], .inr rfl⟩
      | cons member more =>
          exact ⟨writeMembers .compact true (member :: more), .inr (by
            simp [toJsonText, write, Layout.lineBreak, Layout.inner])⟩
  | _ => cases container

theorem fieldText_of_isContainer {value : Json} (container : value.isContainer = true) :
    value.fieldText = value.toJsonText := by
  cases value with
  | arr items => rfl
  | obj members => rfl
  | _ => cases container

end Json

namespace Extraction

/-- The text of an exact container is read as the container, unless its containers are nested too
deeply. -/
theorem readJson_fieldText
    {value : Json}
    (exact' : value.IsExact)
    (container : value.isContainer = true) :
    readJson value.fieldText =
      if value.nesting ≤ Json.Reader.depthLimit + 1 then .ok (some value)
      else .error (.deepNesting value.fieldText) := by
  rw [Json.fieldText_of_isContainer container]
  have read := exact'.read_toJsonText
  obtain ⟨inner, shape⟩ := Json.toJsonText_of_isContainer container
  have trimmed : value.toJsonText.trim = value.toJsonText := by
    refine Text.Trimmed.trim_eq_self ?_
    rcases shape with same | same <;> rw [same]
    · exact Text.trimmed_between rfl inner rfl
    · exact Text.trimmed_between rfl inner rfl
  have opened : (Text.startsWith value.toJsonText ['\x7b'] ||
      Text.startsWith value.toJsonText ['[']) = true := by
    rcases shape with same | same <;> rw [same] <;> rfl
  unfold readJson
  simp only [trimmed, opened, if_true, read]
  by_cases shallow : value.nesting ≤ Json.Reader.depthLimit + 1
  · rw [if_pos shallow, if_pos shallow]
  · rw [if_neg shallow, if_neg shallow]

/-! ## Rules on values -/

/-- A rule of one line that leads into JSON values: it begins like such a rule, and holds no
template, script, operator or directive.  It may end in a filter. -/
structure LeadsIntoJson (rule : Text) : Prop extends Whole rule where
  /-- It begins like a rule that leads into JSON values. -/
  rooted : ∃ start ∈ Dialect.roots, start <+: rule
  /-- Nothing is stored. -/
  putless : Directive.Absent Directive.putMark rule
  /-- Nothing is inserted. -/
  getless : Directive.Absent Directive.getMark rule

instance (rule : Text) : Decidable (LeadsIntoJson rule) :=
  decidable_of_iff
    ((rule.all fun c => !Text.isBreak c) = true ∧ hasScript rule = false ∧
      (∀ operator ∈ Operator.every, Undoubled operator.mark rule) ∧ Undoubled '\x7b' rule ∧
      (∃ start ∈ Dialect.roots, start <+: rule) ∧
      Directive.Absent Directive.putMark rule ∧ Directive.Absent Directive.getMark rule)
    ⟨fun ⟨line, scriptless, uncut, unopened, rooted, putless, getless⟩ =>
      { scriptless, unopened, rooted, putless, getless
        line := by simpa using line
        uncut := fun operator => uncut operator (by cases operator <;> decide) },
      fun leads => ⟨by simpa using leads.line, leads.scriptless,
        fun operator _ => leads.uncut operator, leads.unopened, leads.rooted, leads.putless,
        leads.getless⟩⟩

namespace LeadsIntoJson

variable {rule : Text}

/-- A rule that leads into JSON values is read in one piece, as is what trimming leaves of it. -/
theorem direct_trim (leads : LeadsIntoJson rule) : Direct (Text.trim rule) :=
  have inside : Text.trim rule <:+: rule := Text.trim_isInfix rule
  have whole := leads.toWhole.of_isInfix inside
  { alone := whole.alone
    scriptless := whole.scriptless
    uncut := by rw [Operator.split_of_undoubled whole.uncut whole.unopened]
    putless := leads.putless.of_isInfix inside
    getless := leads.getless.of_isInfix inside }

theorem rooted_trim (leads : LeadsIntoJson rule) :
    ∃ start ∈ Dialect.roots, start <+: Text.trim rule := by
  obtain ⟨start, root, begins⟩ := leads.rooted
  obtain ⟨given, trimmed, -⟩ := Dialect.root_plain root
  exact ⟨start, root, Text.prefix_trim given trimmed begins⟩

theorem rooted_bodyOf (leads : LeadsIntoJson rule) :
    ∃ start ∈ Dialect.roots, start <+: bodyOf (Text.trim rule) := by
  obtain ⟨start, root, begins⟩ := leads.rooted_trim
  obtain ⟨given, trimmed, unfiltered⟩ := Dialect.root_plain root
  refine ⟨start, root, Text.prefix_trim given trimmed ?_⟩
  rw [(Text.trimmed_trim rule).trim_eq_self]
  exact ReplaceFilter.prefix_split unfiltered begins

/-- A rule that leads into JSON values has no sign. -/
theorem stripReverse_eq (leads : LeadsIntoJson rule) :
    stripReverse rule = (Text.trim rule, false) := by
  obtain ⟨start, root, begins⟩ := leads.rooted_trim
  obtain ⟨rest, shape⟩ := Dialect.root_cases root begins
  refine stripReverse_of_unsigned_trim ?_
  rcases shape with same | same | same <;> simp [IsUnsigned, same]

theorem given (leads : LeadsIntoJson rule) : rule.isBlankText = false := by
  obtain ⟨start, root, begins⟩ := leads.rooted_trim
  by_contra blank
  have empty := (Text.trim_eq_nil_iff rule).mpr (Bool.of_not_eq_false blank)
  rw [empty] at begins
  exact (Dialect.root_plain root).1 (List.prefix_nil.mp begins)

end LeadsIntoJson

variable (engine : Engine)

/-- What is found in the body of a rule that leads into JSON values, when a value is at hand. -/
theorem bodyFound_of_root
    {body start path : Text}
    (root : start ∈ Dialect.roots)
    (begins : start <+: body)
    (unfilled : Template.isTemplate body = false)
    (dialect : ∀ isJson, Dialect.ofRule body isJson = .jsonPath path)
    (depth : Nat)
    (context : Context)
    (value : Json)
    (isFiltered asList : Bool) :
    bodyFound engine (depth + 1) (context.withValue value) isFiltered body asList =
      lift (evaluateJsonPath (context.withValue value) path asList) := by
  have given : body.isEmpty = false := by
    obtain ⟨rest, shape⟩ := Dialect.root_cases root begins
    rcases shape with rfl | rfl | rfl <;> rfl
  have groupless : referredGroups? (context.withValue value) body = none := rfl
  have known : (context.withValue value).isJson = .ok value.isContainer := rfl
  unfold bodyFound
  simp only [given, groupless, unfilled, known, Bool.false_eq_true, if_false, evaluateDialect,
    dialect]
  rfl

/-- A rule that leads into JSON values follows one path into every value, and filters what it
finds. -/
theorem evaluateAt_leadsIntoJson {rule : Text} (leads : LeadsIntoJson rule) :
    ∃ path filter, ∀ (context : Context) value depth asList,
      evaluateAt engine (depth + 4) (context.withValue value) rule asList =
        catchFlaw (turned false <$> lift
          (evaluateJsonPath (context.withValue value) path asList >>=
            filtered context.document.serial filter)) := by
  obtain ⟨start, root, begins⟩ := leads.rooted_bodyOf
  have whole : Whole (bodyOf (Text.trim rule)) := leads.toWhole.of_isInfix
    ((Text.trim_isInfix _).trans ((ReplaceFilter.split_isInfix _).trans
      ((Text.trim_isInfix _).trans (Text.trim_isInfix _))))
  have unfilled := Template.isTemplate_of_undoubled whole.unopened
  have trimmed : Text.Trimmed (bodyOf (Text.trim rule)) := Text.trimmed_trim _
  obtain ⟨path, dialect⟩ := Dialect.ofRule_of_root trimmed whole.scriptless root begins
  refine ⟨path, filterOf (Text.trim rule), fun context value depth asList => ?_⟩
  have direct : Direct (stripReverse rule).1 := by
    rw [leads.stripReverse_eq]
    exact leads.direct_trim
  have usable : (context.withValue value).Usable := Context.usable_withHandle rfl
  rw [evaluateAt_concluded engine usable leads.given direct, leads.stripReverse_eq, concludeSingle,
    filteredFound_eq, ← lift_bind]
  have found := bodyFound_of_root engine root begins unfilled dialect depth context value
    (filterOf (Text.trim rule)).isSome asList
  rw [← found]
  rfl

/-- A rule that leads into JSON values asks nothing of a value but what is read of it. -/
theorem evaluateAt_of_content
    {rule : Text}
    (leads : LeadsIntoJson rule)
    {context : Context}
    {value other : Json}
    (same : jsonContent (context.withValue value) = jsonContent (context.withValue other))
    (depth : Nat)
    (asList : Bool) :
    evaluateAt engine (depth + 4) (context.withValue value) rule asList =
      evaluateAt engine (depth + 4) (context.withValue other) rule asList := by
  obtain ⟨path, filter, evaluated⟩ := evaluateAt_leadsIntoJson engine leads
  rw [evaluated, evaluated, evaluateJsonPath, evaluateJsonPath, same]
  rfl

/-- A value of which nothing can be read ends every rule that leads into JSON values. -/
theorem evaluateAt_of_noContent
    {rule : Text}
    (leads : LeadsIntoJson rule)
    {context : Context}
    {value : Json}
    {defect : Defect}
    (fails : jsonContent (context.withValue value) = .error (.defect defect))
    (depth : Nat)
    (asList : Bool) :
    evaluateAt engine (depth + 4) (context.withValue value) rule asList =
      throw (.defect defect) := by
  obtain ⟨path, filter, evaluated⟩ := evaluateAt_leadsIntoJson engine leads
  rw [evaluated, evaluateJsonPath, fails]
  rfl

/-! ## Values and their texts -/

/-- The context with a value at hand, as a handle of some document. -/
def Context.holding (context : Context) (serial : Nat) (value : Json) : Context :=
  context.withElement (.handle ⟨serial, .value value⟩)

/-- No rule is evaluated on a value of another document. -/
theorem evaluateAt_foreign
    {context : Context}
    {serial : Nat}
    (foreign : serial ≠ context.document.serial)
    (value : Json)
    (rule : Text)
    (depth : Nat)
    (asList : Bool) :
    evaluateAt engine (depth + 1) (context.holding serial value) rule asList =
      pure (.failed foreignReason) := by
  have other : ((context.holding serial value).handle?.any fun handle =>
      handle.document != (context.holding serial value).document.serial) = true :=
    bne_iff_ne.mpr foreign
  rw [evaluateAt]
  split
  case h_1 plain => cases plain
  case h_2 =>
    simp only [other]
    rfl

theorem jsonContent_fieldText
    {value : Json}
    (exact' : value.IsExact)
    (container : value.isContainer = true)
    (context : Context) :
    jsonContent (context.withValue (.str value.fieldText)) =
      if value.nesting ≤ Json.Reader.depthLimit + 1 then jsonContent (context.withValue value)
      else .error (.defect (.deepNesting value.fieldText)) := by
  have ofText : jsonContent (context.withValue (.str value.fieldText)) =
      valueOrText value.fieldText (readJson value.fieldText) := rfl
  have ofValue : jsonContent (context.withValue value) = .ok value := by
    cases value with
    | arr items => rfl
    | obj members => rfl
    | _ => cases container
  rw [ofText, ofValue, readJson_fieldText exact' container]
  split <;> rfl

/-- The text of an exact array or object is read back as the array or object, and a rule that leads
into JSON values is evaluated on the text as on the value, for values and for lists alike.  Only
where the containers are nested too deeply for the reader is the text not read, which ends the
evaluation in a defect. -/
theorem evaluateAt_fieldText
    {value : Json}
    (exact' : value.IsExact)
    (container : value.isContainer = true) :
    (readJson value.fieldText =
      if value.nesting ≤ Json.Reader.depthLimit + 1 then .ok (some value)
      else .error (.deepNesting value.fieldText)) ∧
    ∀ {rule : Text}, LeadsIntoJson rule →
    ∀ (context : Context) (serial depth : Nat) (asList : Bool),
      evaluateAt engine (depth + 4) (context.holding serial (.str value.fieldText)) rule asList =
        if value.nesting ≤ Json.Reader.depthLimit + 1 ∨ serial ≠ context.document.serial then
          evaluateAt engine (depth + 4) (context.holding serial value) rule asList
        else throw (.defect (.deepNesting value.fieldText)) := by
  refine ⟨readJson_fieldText exact' container, fun leads context serial depth asList => ?_⟩
  have content := jsonContent_fieldText exact' container context
  by_cases foreign : serial ≠ context.document.serial
  · rw [if_pos (.inr foreign), evaluateAt_foreign engine foreign,
      evaluateAt_foreign engine foreign]
  · obtain rfl : serial = context.document.serial := not_not.mp foreign
    have own (value : Json) :
        context.holding context.document.serial value = context.withValue value := rfl
    rw [own, own]
    by_cases shallow : value.nesting ≤ Json.Reader.depthLimit + 1
    · rw [if_pos shallow] at content
      rw [if_pos (.inl shallow)]
      exact evaluateAt_of_content engine leads content depth asList
    · rw [if_neg shallow] at content
      rw [if_neg (not_or.mpr ⟨shallow, foreign⟩)]
      exact evaluateAt_of_noContent engine leads content depth asList

/-- A record with some letters. -/
def letterRecord : Json := .obj [("a", .arr [.str "b", .null, .str "c"])]

/-- A path to the letters, one of them replaced. -/
def lettersPath : Text := "$.a##c##d"

/-- The letters are found in the record and in its text alike. -/
theorem evaluateAt_fieldText_letters :
    readJson letterRecord.fieldText = .ok (some letterRecord) ∧
      LeadsIntoJson lettersPath ∧
      evaluate {} (paragraphs.withValue (.str letterRecord.fieldText)) lettersPath =
        evaluate {} (paragraphs.withValue letterRecord) lettersPath ∧
      (foundIn? (runFrom (evaluate {} (paragraphs.withValue letterRecord) lettersPath)
        ⟨[], []⟩)).map (List.map Found.text) = some ["b".toList, "d".toList] := by
  have exact' : letterRecord.IsExact := by
    refine .obj (by decide) fun member within => ?_
    rw [List.mem_singleton.mp within]
    refine .arr fun item inside => ?_
    simp only [List.mem_cons, List.not_mem_nil, or_false] at inside
    rcases inside with rfl | rfl | rfl
    · exact .str _
    · exact .null
    · exact .str _
  have leads : LeadsIntoJson lettersPath := by decide +kernel
  have both := evaluateAt_fieldText {} exact' rfl
  have shallow : letterRecord.nesting ≤ Json.Reader.depthLimit + 1 := by decide
  have same := both.2 leads paragraphs paragraphs.document.serial (depthLimit - 4) false
  rw [if_pos shallow] at both
  rw [if_pos (.inl shallow)] at same
  exact ⟨both.1, leads, same, by decide +kernel⟩

/-- Arrays inside each other, so many around an empty one. -/
def nestedArrays : Nat → Json
  | 0 => .arr []
  | n + 1 => .arr [nestedArrays n]

theorem nestedArrays_isExact (n : Nat) : (nestedArrays n).IsExact := by
  induction n with
  | zero => exact .arr fun _ member => absurd member List.not_mem_nil
  | succ n hypothesis =>
      refine .arr fun item member => ?_
      rw [List.mem_singleton.mp member]
      exact hypothesis

theorem nesting_nestedArrays (n : Nat) : (nestedArrays n).nesting = n + 1 := by
  induction n with
  | zero => rfl
  | succ n hypothesis =>
      rw [nestedArrays, Json.nesting, Json.nestingItems, Json.nestingItems, hypothesis]
      rfl

/-- A path that leads nowhere in an array. -/
def namePath : Text := "$.a"

/-- A path finds nothing in arrays that are nested deeply, and the evaluation on their text ends in
a defect. -/
theorem evaluate_nestedArrays_differs :
    (nestedArrays 981).IsExact ∧
      LeadsIntoJson namePath ∧
      foundIn? (runFrom (evaluate {} (paragraphs.withValue (nestedArrays 981)) namePath) ⟨[], []⟩) =
        some [] ∧
      runFrom (evaluate {} (paragraphs.withValue (.str (nestedArrays 981).fieldText)) namePath)
          ⟨[], []⟩ =
        (.error (.defect (.deepNesting (nestedArrays 981).fieldText)), ⟨[], []⟩) := by
  have exact' := nestedArrays_isExact 981
  have leads : LeadsIntoJson namePath := by decide +kernel
  have deep : ¬(nestedArrays 981).nesting ≤ Json.Reader.depthLimit + 1 := by
    rw [nesting_nestedArrays]
    decide
  have unread := jsonContent_fieldText exact' rfl paragraphs
  rw [if_neg deep] at unread
  have ends := evaluateAt_of_noContent {} leads unread (depthLimit - 4) false
  refine ⟨exact', leads, rfl, ?_⟩
  generalize (nestedArrays 981).fieldText = text at ends ⊢
  rw [evaluate, show depthLimit = depthLimit - 4 + 4 from rfl, ends]
  rfl

end Extraction

end RuleProbe
