import RuleProbe.Proofs.Size.Json
import RuleProbe.Proofs.Size.Part
import RuleProbe.Rule.Dialect
import RuleProbe.Rule.Directive

/-!
# Sizes of the parts of a rule

A rule is cut into branches, lines, steps, filters, directives and expressions.  No part is
longer than the rule, and a part that stood between marks is shorter.  Several parts that
stood one after the other are no longer together than the rule.
-/

namespace RuleProbe

namespace Text

theorem trim_length_le (text : Text) : (trim text).length ≤ text.length :=
  (trim_isInfix text).length_le

theorem trimWhere_length_le (drop : Char → Bool) (text : Text) :
    (trimWhere drop text).length ≤ text.length := by
  have left : (trimLeftWhere drop text).length ≤ text.length :=
    (List.dropWhile_suffix drop).length_le
  have right : (trimWhere drop text).length ≤ (trimLeftWhere drop text).length :=
    (List.rdropWhile_prefix drop (trimLeftWhere drop text)).length_le
  exact Nat.le_trans right left

theorem le_of_indexFrom?
    {mark text : Text}
    {start stop : Nat}
    (found : indexFrom? mark text start = some stop) :
    start ≤ stop := by
  unfold indexFrom? at found
  split at found
  · cases found
  · obtain ⟨parts, -, rfl⟩ := Option.map_eq_some_iff.mp found
    exact Nat.le_add_right _ _

theorem splitWhere_length_le
    {isMark : Char → Bool}
    {before text part : Text}
    (member : part ∈ splitWhere isMark before text) :
    part.length ≤ before.length + text.length := by
  induction text generalizing before with
  | nil =>
      have same : part = before.reverse := by
        simpa [splitWhere] using member
      simp [same]
  | cons c rest hypothesis =>
      rw [splitWhere] at member
      split at member
      · rcases List.mem_cons.mp member with rfl | later
        · simp
        · have step := hypothesis later
          simp only [List.length_nil, List.length_cons] at step ⊢
          omega
      · have step := hypothesis member
        simp only [List.length_cons] at step ⊢
        omega

/-! ## Several parts -/

/-- The size of some texts, one character after each of them included. -/
def joinedSize : List Text → Nat
  | [] => 0
  | part :: rest => part.length + 1 + joinedSize rest

@[simp] theorem joinedSize_nil : joinedSize [] = 0 := rfl

@[simp] theorem joinedSize_cons (part : Text) (rest : List Text) :
    joinedSize (part :: rest) = part.length + 1 + joinedSize rest := rfl

@[simp] theorem joinedSize_append (first second : List Text) :
    joinedSize (first ++ second) = joinedSize first + joinedSize second := by
  induction first with
  | nil => simp
  | cons part rest hypothesis =>
      rw [List.cons_append, joinedSize_cons, joinedSize_cons, hypothesis]
      omega

theorem length_lt_joinedSize
    {parts : List Text}
    {part : Text}
    (member : part ∈ parts) :
    part.length < joinedSize parts := by
  induction parts with
  | nil => cases member
  | cons first rest hypothesis =>
      rw [joinedSize_cons]
      rcases List.mem_cons.mp member with rfl | later
      · omega
      · have step := hypothesis later
        omega

theorem joinedSize_filter_le (keep : Text → Bool) (parts : List Text) :
    joinedSize (parts.filter keep) ≤ joinedSize parts := by
  induction parts with
  | nil => exact Nat.le_refl _
  | cons part rest hypothesis =>
      rw [List.filter_cons]
      split
      · simpa using hypothesis
      · rw [joinedSize_cons]
        omega

theorem joinedSize_trim_le (parts : List Text) :
    joinedSize (parts.map trim) ≤ joinedSize parts := by
  induction parts with
  | nil => exact Nat.le_refl _
  | cons part rest hypothesis =>
      have shorter := trim_length_le part
      simp only [List.map_cons, joinedSize_cons]
      omega

theorem joinedSize_linesAux_le (line text : Text) :
    joinedSize (linesAux line text) ≤ line.length + text.length + 1 := by
  induction line, text using linesAux.induct with
  | case1 => simp [linesAux]
  | case2 line nonempty => simp [linesAux]
  | case3 line rest hypothesis =>
      rw [linesAux, joinedSize_cons]
      simp only [List.length_reverse, List.length_cons, List.length_nil] at hypothesis ⊢
      omega
  | case4 line c rest notPair broken hypothesis =>
      have step : linesAux line (c :: rest) = line.reverse :: linesAux [] rest := by
        rw [linesAux, if_pos broken]
        exact notPair
      rw [step, joinedSize_cons]
      simp only [List.length_reverse, List.length_cons, List.length_nil] at hypothesis ⊢
      omega
  | case5 line c rest notPair whole hypothesis =>
      have step : linesAux line (c :: rest) = linesAux (c :: line) rest := by
        rw [linesAux, if_neg whole]
        exact notPair
      rw [step]
      simp only [List.length_cons] at hypothesis ⊢
      omega

end Text

/-! ## Lines -/

namespace Extraction

/-- The lines of a rule are no longer together than the rule. -/
theorem joinedSize_ruleLines_le (rule : Text) :
    Text.joinedSize (ruleLines rule) ≤ rule.length + 1 := by
  have lines := Text.joinedSize_linesAux_le [] rule
  have trimmed := Text.joinedSize_trim_le (Text.lines rule)
  have kept := Text.joinedSize_filter_le (fun line => !line.isEmpty)
    ((Text.lines rule).map Text.trim)
  rw [List.length_nil, Nat.zero_add] at lines
  exact kept.trans (trimmed.trans lines)

end Extraction

/-! ## Steps -/

namespace ScriptStep

theorem findOpener_length
    {before text first mark rest : Text}
    (found : findOpener before text = some (first, mark, rest)) :
    first.length + 4 + rest.length = before.length + text.length ∧ mark.length = 4 := by
  obtain ⟨whole, four⟩ := findOpener_eq found
  have sized := congrArg List.length whole
  rw [List.length_append, List.length_append, List.length_append, List.length_reverse,
    four] at sized
  exact ⟨sized, four⟩

theorem joinedSize_ruleStep_le (text : Text) :
    Text.joinedSize ((ruleStep text).map content) ≤ text.length + 1 := by
  unfold ruleStep
  split
  · simp
  · have shorter := Text.trim_length_le text
    simp only [List.map_cons, List.map_nil, content, Text.joinedSize_cons, Text.joinedSize_nil]
    omega

/-- The steps of a text are no longer together than the text, and shorter when the text holds
a script: every script comes with a mark. -/
theorem joinedSize_splitSteps_le (fuel : Nat) (text : Text) :
    Text.joinedSize ((splitSteps fuel text).map content) ≤ text.length + 1 ∧
      ((findOpener [] text).isSome →
        Text.joinedSize ((splitSteps fuel text).map content) < text.length) := by
  induction fuel generalizing text with
  | zero =>
      refine ⟨by simp [splitSteps], fun given => ?_⟩
      obtain ⟨⟨first, mark, rest⟩, found⟩ := Option.isSome_iff_exists.mp given
      have sized := (findOpener_length found).1
      simp only [splitSteps, List.map_nil, Text.joinedSize_nil]
      simp only [List.length_nil] at sized
      omega
  | succ fuel hypothesis =>
      rw [splitSteps]
      split
      · rename_i missing
        exact ⟨joinedSize_ruleStep_le text, by simp [missing]⟩
      · rename_i first mark rest found
        obtain ⟨sized, four⟩ := findOpener_length found
        rw [List.length_nil, Nat.zero_add] at sized
        have before := joinedSize_ruleStep_le first
        -- Behind the mark there is code, and perhaps more steps behind a closing mark.
        have scripted : ∀ steps : List ScriptStep,
            Text.joinedSize (steps.map content) ≤ rest.length + 2 →
            Text.joinedSize ((ruleStep first ++ steps).map content) < text.length := by
          intro steps within
          rw [List.map_append, Text.joinedSize_append]
          omega
        have bounded : ∀ size, size < text.length → size ≤ text.length + 1 ∧
            ((findOpener [] text).isSome → size < text.length) :=
          fun size shorter => ⟨by omega, fun _ => shorter⟩
        refine bounded _ (scripted _ ?_)
        split
        · simp only [List.map_cons, List.map_nil, content, Text.joinedSize_cons,
            Text.joinedSize_nil]
          omega
        · dsimp only
          split
          · simp only [List.map_cons, List.map_nil, content, Text.joinedSize_cons,
              Text.joinedSize_nil]
            omega
          · rename_i stop closed
            have later := (hypothesis (text.drop (stop + closer.length))).1
            have behind := Text.le_of_indexFrom? closed
            have five : closer.length = 5 := rfl
            simp only [List.map_cons, content, Text.joinedSize_cons, List.length_drop,
              List.length_take] at later ⊢
            omega

/-- The steps of a rule with a script are shorter together than the rule. -/
theorem joinedSize_ofRule_lt
    {rule : Text}
    (scripted : hasScript rule = true) :
    Text.joinedSize ((ofRule rule).map content) < rule.length :=
  (joinedSize_splitSteps_le _ rule).2 scripted

end ScriptStep

/-- A body that is written as steps holds a script, and its steps are those of its trimmed
text. -/
theorem Dialect.steps_of_script
    {body : Text}
    {isJson : Bool}
    {steps : List ScriptStep}
    (isScript : ofRule body isJson = .script steps) :
    hasScript (Text.trim body) = true ∧ steps = ScriptStep.ofRule (Text.trim body) := by
  unfold ofRule at isScript
  dsimp only at isScript
  split at isScript
  · cases isScript
    exact ⟨‹_›, rfl⟩
  · repeat' split at isScript
    all_goals cases isScript

/-- An expression of a template is shorter than the template. -/
theorem Template.expression_length_lt
    {template inner : Text}
    (member : .expression inner ∈ parts template) :
    inner.length < template.length := by
  obtain ⟨inside, rfl, within⟩ := mem_parts member
  have sized := within.length_le
  have trimmed := Text.trim_length_le inside
  have two : opening.length = 2 := rfl
  rw [List.length_append, List.length_append] at sized
  omega

/-! ## Directives -/

namespace Directive

theorem directive?_length
    {mark text inner rest : Text}
    (found : directive? mark text = some (inner, rest)) :
    mark.length + inner.length + 2 + rest.length = text.length := by
  unfold directive? at found
  split at found
  · rename_i begins
    have within : mark.length ≤ text.length :=
      of_decide_eq_true (Bool.and_eq_true_iff.mp begins).1
    have dropped := List.length_drop (i := mark.length) (l := text)
    unfold braced? at found
    split at found
    · rename_i others same
      rw [same, List.length_cons] at dropped
      have whole := congrArg List.length
        (List.takeWhile_append_dropWhile (p := (· != '\x7d')) (l := others))
      rw [List.span_eq_takeWhile_dropWhile] at found
      split at found
      · rename_i first second spanned
        cases found
        obtain ⟨before, behind⟩ := Prod.mk.inj spanned
        rw [before, behind, List.length_append, List.length_cons] at whole
        omega
      · cases found
    · cases found
  · cases found

/-- What the braces of a directive hold is shorter than the rule, by the braces and the mark
at least. -/
theorem inner_length_of_mem_parts
    {mark text inner : Text}
    {fuel : Nat}
    (member : .body inner ∈ parts mark fuel text) :
    mark.length + inner.length + 2 ≤ text.length := by
  induction fuel generalizing text with
  | zero => cases member
  | succ fuel hypothesis =>
      cases text with
      | nil => cases member
      | cons c rest =>
          rw [parts] at member
          split at member
          · rename_i found after isDirective
            have sized := directive?_length isDirective
            rcases List.mem_cons.mp member with same | later
            · cases same
              omega
            · have step := hypothesis later
              omega
          · rcases List.mem_cons.mp member with same | later
            · cases same
            · have step := hypothesis later
              rw [List.length_cons]
              omega

theorem outside_length_le (mark : Text) (fuel : Nat) (text : Text) :
    (outside (parts mark fuel text)).length ≤ text.length := by
  induction fuel generalizing text with
  | zero => simp [parts, outside]
  | succ fuel hypothesis =>
      cases text with
      | nil => simp [parts, outside]
      | cons c rest =>
          rw [parts]
          split
          · rename_i inner after isDirective
            have sized := directive?_length isDirective
            exact (hypothesis after).trans (by omega)
          · simpa [outside] using hypothesis rest

/-- A rule that stands in a pair is no longer than the item of the pair. -/
theorem length_le_of_mem_pairs
    {items : List Text}
    {size : Nat}
    (sized : ∀ item ∈ items, item.length ≤ size)
    {read : Keyed Text}
    {entry : Text × Text}
    (member : entry ∈ pairs items read) :
    entry ∈ read ∨ entry.2.length ≤ size := by
  induction items generalizing read with
  | nil => exact .inl member
  | cons item rest hypothesis =>
      have others : ∀ item ∈ rest, item.length ≤ size :=
        fun item among => sized item (List.mem_cons_of_mem _ among)
      rw [pairs] at member
      split at member
      · rename_i key value spanned
        have within : value.length ≤ size := by
          rw [List.span_eq_takeWhile_dropWhile] at spanned
          have behind := (Prod.mk.inj spanned).2
          have suffix := (List.dropWhile_suffix (l := item) (· != ':')).length_le
          rw [behind, List.length_cons] at suffix
          exact (Nat.le_of_succ_le suffix).trans (sized item List.mem_cons_self)
        dsimp only at member
        split at member
        · exact hypothesis others member
        · rcases hypothesis others member with bound | short
          · rcases Keyed.mem_put bound with old | rfl
            · exact .inl old
            · have first := Text.trim_length_le value
              have second := Text.trimWhere_length_le (fun c => c == '"' || c == '\'')
                (Text.trim value)
              exact .inr (second.trans (first.trans within))
          · exact .inr short
      · exact hypothesis others member

theorem length_le_of_mem_looseBindings
    {body : Text}
    {entry : Text × Text}
    (member : entry ∈ looseBindings body) :
    entry.2.length ≤ body.length := by
  refine (length_le_of_mem_pairs (fun item among => ?_) member).resolve_left (by simp)
  have cut := Text.splitWhere_length_le among
  have inner := Text.trimWhere_length_le (fun c => c == '\x7b' || c == '\x7d') (Text.trim body)
  have trimmed := Text.trim_length_le body
  rw [List.length_nil, Nat.zero_add] at cut
  exact cut.trans (inner.trans trimmed)

/-- A rule to store is what a member of a JSON object writes out that is no string. -/
def isWrittenOut (body subRule : Text) : Bool :=
  match Json.read body with
  | .ok (.obj members) =>
      members.any fun member =>
        match member.2 with
        | .str _ => false
        | value => value.display == subRule
  | _ => false

/-- A rule to store is no longer than the directive that names it, unless it is written out
there. -/
theorem length_le_of_mem_bindings
    {body : Text}
    {entries : Keyed Text}
    (read : bindings body = .ok entries)
    {entry : Text × Text}
    (member : entry ∈ entries) :
    entry.2.length ≤ body.length ∨ isWrittenOut body entry.2 = true := by
  unfold bindings at read
  split at read
  · rename_i members isObject
    cases read
    have kept : ∀ (others : Json.Members) (before : Keyed Text),
        entry ∈ others.foldl
          (fun read member => Keyed.put read member.1 member.2.display) before →
        entry ∈ before ∨ ∃ value, (entry.1, value) ∈ others ∧ entry.2 = value.display := by
      intro others
      induction others with
      | nil => exact fun before old => .inl old
      | cons first rest hypothesis =>
          intro before bound
          rcases hypothesis _ bound with early | ⟨value, later, same⟩
          · rcases Keyed.mem_put early with old | rfl
            · exact .inl old
            · exact .inr ⟨first.2, List.mem_cons_self, rfl⟩
          · exact .inr ⟨value, List.mem_cons_of_mem _ later, same⟩
    obtain ⟨value, among, same⟩ := (kept members [] member).resolve_left (by simp)
    by_cases isText : ∃ content, value = .str content
    · obtain ⟨content, rfl⟩ := isText
      exact .inl (same ▸ Json.length_le_of_read isObject among)
    · refine .inr ?_
      unfold isWrittenOut
      rw [isObject]
      refine List.any_eq_true.mpr ⟨_, among, ?_⟩
      cases value with
      | str content => exact absurd ⟨content, rfl⟩ isText
      | _ => simp [same]
  all_goals cases read
  · exact .inl (length_le_of_mem_looseBindings member)
  · exact .inl (length_le_of_mem_looseBindings member)

/-- A rule to store is what a directive of a rule writes out. -/
def writesOut (rule subRule : Text) : Bool :=
  (parts putMark (rule.length + 1) rule).any fun part =>
    match part with
    | .char _ => false
    | .body inner => isWrittenOut ('\x7b' :: inner ++ ['\x7d']) subRule

theorem mem_gatherBindings
    {found : List Part}
    {before entries : Keyed Text}
    (read : gatherBindings found before = .ok entries)
    {entry : Text × Text}
    (member : entry ∈ entries) :
    entry ∈ before ∨ ∃ inner, .body inner ∈ found ∧
      (entry.2.length ≤ inner.length + 2 ∨
        isWrittenOut ('\x7b' :: inner ++ ['\x7d']) entry.2 = true) := by
  induction found generalizing before with
  | nil =>
      cases read
      exact .inl member
  | cons part rest hypothesis =>
      cases part with
      | char c =>
          rcases hypothesis read with old | ⟨inner, among, sized⟩
          · exact .inl old
          · exact .inr ⟨inner, List.mem_cons_of_mem _ among, sized⟩
      | body inner =>
          obtain ⟨more, bound, others⟩ := exists_ok_of_bind read
          rcases hypothesis others with early | ⟨inner, among, sized⟩
          · rcases Keyed.mem_update early with old | new
            · exact .inl old
            · refine .inr ⟨inner, List.mem_cons_self, ?_⟩
              simpa using length_le_of_mem_bindings bound new
          · exact .inr ⟨inner, List.mem_cons_of_mem _ among, sized⟩

/-- A rule without its directives is no longer than it was, and a rule to store is shorter
unless it is written out. -/
theorem takePuts_sized
    {rule rest : Text}
    {puts : Keyed Text}
    (taken : takePuts rule = .ok (rest, puts)) :
    rest.length ≤ rule.length ∧
      ∀ put ∈ puts, put.2.length + 4 < rule.length ∨ writesOut rule put.2 = true := by
  obtain ⟨found, gathered, returned⟩ := exists_ok_of_bind taken
  cases returned
  refine ⟨(Text.trim_length_le _).trans (outside_length_le _ _ rule), fun put member => ?_⟩
  obtain ⟨inner, among, sized⟩ := (mem_gatherBindings gathered member).resolve_left (by simp)
  rcases sized with short | written
  · have within := inner_length_of_mem_parts among
    have five : putMark.length = 5 := rfl
    exact .inl (by omega)
  · exact .inr (List.any_eq_true.mpr ⟨_, among, written⟩)

end Directive

end RuleProbe
