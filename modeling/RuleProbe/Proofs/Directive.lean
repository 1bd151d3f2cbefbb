import Mathlib.Data.Bool.AllAny
import RuleProbe.Proofs.Evaluation.Unmarked
import RuleProbe.Proofs.Joint

/-!
# Directives as they are written

A directive is read as what its braces hold wherever it stands, unless another directive that is
left open before it reaches it.  So a rule that ends in a directive stores what this one asks for,
and one in which a directive stands has the text of the variable in its place.
-/

namespace RuleProbe

namespace Text

variable {drop : Char → Bool}

theorem trimWhere_of_none {text : Text} (none : ∀ c ∈ text, drop c = false) :
    trimWhere drop text = text :=
  trimWhere_of_ends (fun c first => none c (List.mem_of_head? first))
    fun c last => none c (List.mem_of_getLast? last)

/-- The characters around a text are dropped, and no more. -/
theorem trimWhere_between
    {first last : Char}
    (dropFirst : drop first = true)
    (dropLast : drop last = true)
    {inner : Text}
    (given : inner ≠ [])
    (none : ∀ c ∈ inner, drop c = false) :
    trimWhere drop (first :: (inner ++ [last])) = inner := by
  have same := trimWhere_of_none none
  unfold trimWhere trimLeftWhere trimRightWhere at same ⊢
  obtain ⟨c, rest, rfl⟩ := List.exists_cons_of_ne_nil given
  have visible := none c List.mem_cons_self
  rw [List.dropWhile_cons, dropFirst, if_pos rfl, List.cons_append, List.dropWhile_cons, visible]
  rw [List.dropWhile_cons, visible] at same
  simp only [Bool.false_eq_true, if_false] at same ⊢
  rw [← List.cons_append, List.reverse_append, List.reverse_singleton, List.singleton_append,
    List.dropWhile_cons, dropLast, if_pos rfl]
  exact same

theorem splitWhere_of_none
    {isMark : Char → Bool}
    {text : Text}
    (none : ∀ c ∈ text, isMark c = false)
    (before : Text) :
    splitWhere isMark before text = [before.reverse ++ text] := by
  induction text generalizing before with
  | nil => simp [splitWhere]
  | cons c rest hypothesis =>
      obtain ⟨first, others⟩ := List.forall_mem_cons.mp none
      rw [splitWhere, if_neg (by simp [first]), hypothesis others]
      simp

end Text

namespace Json

/-- Braces with a name in them that has no quotation mark are malformed. -/
theorem read_of_unquoted
    {c : Char}
    (visible : Reader.isSpace c = false)
    (given : c ≠ '\x7d')
    (unquoted : c ≠ '"')
    (rest : Text) :
    read ('\x7b' :: c :: rest) = .error .malformed := by
  have skipped : Reader.skipSpace ('\x7b' :: c :: rest) = '\x7b' :: c :: rest := rfl
  have inside : Reader.skipSpace (c :: rest) = c :: rest := by
    unfold Reader.skipSpace
    rw [List.dropWhile_cons, visible]
    rfl
  have refused (fuel : Nat) :
      Reader.readMembers (fuel + 1) 1 [] (c :: rest) = .error .malformed := by
    rw [Reader.readMembers]
    exact fun others same => unquoted (List.cons.inj same).1
  have length : 2 * ('\x7b' :: c :: rest).length + 2 = (2 * rest.length + 4) + 1 + 1 := by
    simp only [List.length_cons]
    omega
  unfold read
  rw [skipped, length, Reader.readValue, if_neg (by decide), inside]
  split
  case h_1 others same => exact absurd (List.cons.inj same).1 given
  case h_2 => rw [refused]; rfl

end Json

namespace Directive

variable {mark : Text}

/-- A directive with a mark, as it is written. -/
def written (mark inner : Text) : Text :=
  mark ++ '\x7b' :: (inner ++ ['\x7d'])

/-! ## A directive at the beginning -/

theorem beginsWith_self (mark rest : Text) : beginsWith mark (mark ++ rest) = true := by
  unfold beginsWith
  rw [Text.zip_append_of_length_le (Nat.le_refl _), Bool.and_eq_true]
  refine ⟨by simp, List.all_eq_true.mpr fun pair member => ?_⟩
  obtain ⟨index, within, rfl⟩ := List.mem_iff_getElem.mp member
  simp

/-- Braces hold what stands between them. -/
theorem braced?_of_braces {inner : Text} (plain : '\x7d' ∉ inner) (rest : Text) :
    braced? ('\x7b' :: (inner ++ '\x7d' :: rest)) = some (inner, rest) := by
  have through : ∀ c ∈ inner, (c != '\x7d') = true := by
    intro c member
    have differ : c ≠ '\x7d' := fun same => plain (same ▸ member)
    simpa using differ
  simp [braced?, List.span_eq_takeWhile_dropWhile, List.takeWhile_append_of_pos through,
    List.dropWhile_append_of_pos through]

/-- A directive that is written is read. -/
theorem directive?_written {inner : Text} (plain : '\x7d' ∉ inner) (rest : Text) :
    directive? mark (written mark inner ++ rest) = some (inner, rest) := by
  have whole : written mark inner ++ rest = mark ++ '\x7b' :: (inner ++ '\x7d' :: rest) := by
    simp [written]
  rw [whole, directive?, if_pos (beginsWith_self _ _), List.drop_left, braced?_of_braces plain]

/-- What is read from braces stands between them. -/
theorem eq_of_braced?
    {text inner rest : Text}
    (found : braced? text = some (inner, rest)) :
    text = '\x7b' :: (inner ++ '\x7d' :: rest) ∧ '\x7d' ∉ inner := by
  unfold braced? at found
  split at found
  case h_1 others =>
    rw [List.span_eq_takeWhile_dropWhile] at found
    split at found
    case h_1 first behind spanned =>
      cases found
      obtain ⟨before, after⟩ := Prod.mk.inj spanned
      refine ⟨?_, fun member => ?_⟩
      · rw [← before, ← after, List.takeWhile_append_dropWhile]
      · rw [← before] at member
        simpa using List.mem_takeWhile_imp member
    case h_2 => cases found
  case h_2 => cases found

theorem beginsWith_append
    {text : Text}
    (begins : beginsWith mark text = true)
    (more : Text) :
    beginsWith mark (text ++ more) = true := by
  unfold beginsWith at begins ⊢
  rw [Bool.and_eq_true, decide_eq_true_eq] at begins ⊢
  obtain ⟨short, same⟩ := begins
  exact ⟨short.trans (by simp), by rwa [Text.zip_append_of_length_le short]⟩

/-- A text that begins with a directive has its opening brace after the mark. -/
theorem opened_of_directive?
    {text : Text}
    {read : Text × Text}
    (found : directive? mark text = some read) :
    beginsWith mark text = true ∧ text[mark.length]? = some '\x7b' := by
  unfold directive? at found
  split at found
  case isTrue begins =>
    refine ⟨begins, ?_⟩
    unfold braced? at found
    split at found
    case h_1 rest same =>
      have head := congrArg List.head? same
      rwa [List.head?_drop] at head
    case h_2 => cases found
  case isFalse => cases found

/-- No directive stands in a text without an opening brace. -/
theorem directive?_of_not_mem {text : Text} (plain : '\x7b' ∉ text) :
    directive? mark text = none := by
  cases found : directive? mark text with
  | none => rfl
  | some read =>
      exact absurd (List.mem_of_getElem? (opened_of_directive? found).2) plain

/-! ## Directives anywhere -/

/-- No directive with a mark begins anywhere in a text. -/
def Absent (mark text : Text) : Prop := ∀ rest, rest <:+ text → directive? mark rest = none

instance (mark text : Text) : Decidable (Absent mark text) :=
  decidable_of_iff (∀ rest ∈ text.tails, directive? mark rest = none)
    (by simp [Absent, List.mem_tails])

theorem Absent.of_isInfix {text part : Text} (absent : Absent mark text) (inside : part <:+: text) :
    Absent mark part := by
  rintro rest ⟨start, split⟩
  obtain ⟨before, after, whole⟩ := inside
  have within : rest ++ after <:+ text := ⟨before ++ start, by simp [← whole, ← split]⟩
  by_contra found
  have longer := directive?_append (Option.isSome_iff_ne_none.mpr found) after
  rw [absent _ within] at longer
  cases longer

/-- What follows a text opens no directive in it: every directive that begins in the text ends
there. -/
def Closed (mark text : Text) : Prop :=
  ∀ rest inside, rest <:+ text → beginsWith mark rest = true →
    rest.drop mark.length = '\x7b' :: inside → '\x7d' ∈ inside

theorem Closed.of_not_mem {text : Text} (plain : '\x7b' ∉ text) : Closed mark text := by
  intro rest inside within _ opened
  have member : '\x7b' ∈ rest.drop mark.length := opened ▸ List.mem_cons_self
  exact absurd (within.subset (List.mem_of_mem_drop member)) plain

theorem Closed.of_suffix {text rest : Text} (closed : Closed mark text) (within : rest <:+ text) :
    Closed mark rest :=
  fun other inside ending => closed other inside (ending.trans within)

/-- A directive at the beginning of a text is read as it is when more follows. -/
theorem directive?_append_of_some
    {text inner rest : Text}
    (found : directive? mark text = some (inner, rest))
    (more : Text) :
    directive? mark (text ++ more) = some (inner, rest ++ more) := by
  have long : mark.length ≤ text.length := by
    have sized := directive?_length found
    omega
  unfold directive? at found ⊢
  split at found
  case isTrue begins =>
    obtain ⟨behind, plain⟩ := eq_of_braced? found
    rw [if_pos (beginsWith_append begins more), List.drop_append_of_le_length long, behind]
    simpa using braced?_of_braces plain (rest ++ more)
  case isFalse => cases found

/-- What follows a directive stands at the end of the text. -/
theorem suffix_of_directive?
    {text inner rest : Text}
    (found : directive? mark text = some (inner, rest)) :
    rest <:+ text := by
  unfold directive? at found
  split at found
  case isTrue =>
    have behind := (eq_of_braced? found).1
    have ending : rest <:+ text.drop mark.length := by
      rw [behind]
      exact ⟨'\x7b' :: (inner ++ ['\x7d']), by simp⟩
    exact ending.trans (List.drop_suffix _ _)
  case isFalse => cases found

/-- Where no directive begins, none begins when another directive follows. -/
theorem directive?_append_of_none
    (plain : '\x7b' ∉ mark)
    {text : Text}
    (given : text ≠ [])
    (closed : Closed mark text)
    (missing : directive? mark text = none)
    (inner more : Text) :
    directive? mark (text ++ (written mark inner ++ more)) = none := by
  cases found : directive? mark (text ++ (written mark inner ++ more)) with
  | none => rfl
  | some read =>
      obtain ⟨begins, brace⟩ := opened_of_directive? found
      have positive := List.length_pos_iff.mpr given
      by_cases within : mark.length < text.length
      · -- the directive begins in the text, so it ends there
        have here : beginsWith mark text = true := by
          unfold beginsWith at begins ⊢
          rw [Text.zip_append_of_length_le within.le] at begins
          exact Bool.and_eq_true_iff.mpr
            ⟨decide_eq_true within.le, (Bool.and_eq_true_iff.mp begins).2⟩
        rw [List.getElem?_append_left within] at brace
        have opened := List.drop_eq_getElem_cons within
        rw [(List.getElem?_eq_some_iff.mp brace).2] at opened
        obtain ⟨inside, rest, split, first⟩ :=
          List.eq_append_cons_of_mem (closed text _ (List.suffix_refl _) here opened)
        rw [directive?, if_pos here, opened, split, braced?_of_braces first] at missing
        cases missing
      · -- the brace would stand in the mark of the directive that follows
        rw [List.getElem?_append_right (by omega), written, List.append_assoc,
          List.getElem?_append_left (by omega)] at brace
        exact absurd (List.mem_of_getElem? brace) plain

theorem parts_of_directive
    {text inner rest : Text}
    (found : directive? mark text = some (inner, rest))
    (fuel : Nat) :
    parts mark (fuel + 1) text = .body inner :: parts mark fuel rest := by
  cases text with
  | nil =>
      have sized := directive?_length found
      simp at sized
  | cons c others => rw [parts, found]

/-- The parts of a text do not depend on the fuel when there is enough of it. -/
theorem parts_of_enough
    {text : Text}
    {fuel other : Nat}
    (enough : text.length < fuel)
    (alsoEnough : text.length < other) :
    parts mark fuel text = parts mark other text := by
  induction fuel generalizing text other with
  | zero => omega
  | succ fuel hypothesis =>
      obtain ⟨other, rfl⟩ : ∃ fewer, other = fewer + 1 := ⟨other - 1, by omega⟩
      cases text with
      | nil => rfl
      | cons c rest =>
          rw [List.length_cons] at enough alsoEnough
          rw [parts, parts]
          split
          case h_1 inner after found =>
            have sized := directive?_length found
            rw [List.length_cons] at sized
            have short : after.length < fuel ∧ after.length < other := by omega
            rw [hypothesis short.1 short.2]
          case h_2 =>
            have short : rest.length < fuel ∧ rest.length < other := by omega
            rw [hypothesis short.1 short.2]

/-- The parts of a rule with a directive in it are those before the directive, what its braces
hold, and those after it. -/
theorem parts_written
    (plainMark : '\x7b' ∉ mark)
    {before inner : Text}
    (closed : Closed mark before)
    (plain : '\x7d' ∉ inner)
    (after : Text)
    {fuel : Nat}
    (enough : (before ++ (written mark inner ++ after)).length < fuel) :
    parts mark fuel (before ++ (written mark inner ++ after)) =
      parts mark (before.length + 1) before ++
        .body inner :: parts mark (after.length + 1) after := by
  induction fuel generalizing before with
  | zero => omega
  | succ fuel hypothesis =>
      cases before with
      | nil =>
          rw [List.nil_append, parts_of_directive (directive?_written plain after)]
          have short : after.length < fuel := by
            simp [written] at enough
            omega
          rw [parts_of_enough short (Nat.lt_succ_self _)]
          rfl
      | cons c rest =>
          rw [List.length_append] at enough
          cases found : directive? mark (c :: rest) with
          | some read =>
              obtain ⟨first, behind⟩ := read
              have sized := directive?_length found
              have short : (behind ++ (written mark inner ++ after)).length < fuel := by
                rw [List.length_append]
                omega
              have own : parts mark (behind.length + 1) behind =
                  parts mark (c :: rest).length behind :=
                parts_of_enough (Nat.lt_succ_self _) (by omega)
              rw [parts_of_directive (directive?_append_of_some found _),
                parts_of_directive found,
                hypothesis (closed.of_suffix (suffix_of_directive? found)) short, own]
              rfl
          | none =>
              have apart := directive?_append_of_none plainMark (List.cons_ne_nil c rest) closed
                found inner after
              have short : (rest ++ (written mark inner ++ after)).length < fuel := by
                rw [List.length_append]
                rw [List.length_cons] at enough
                omega
              rw [List.cons_append] at apart ⊢
              rw [parts, apart, parts, found, List.length_cons]
              exact congrArg (Part.char c :: ·)
                (hypothesis (closed.of_suffix (List.suffix_cons c rest)) short)

/-! ## Storing under a name -/

/-- The characters with a meaning in the pairs of a directive. -/
def punctuation : List Char := ['\x7b', '\x7d', ',', '"', '\'']

theorem not_mem_punctuation_of_isWord
    {c : Char}
    (word : Letter.isWord c.toNat = true) :
    c ∉ punctuation := by
  intro member
  have apart : ∀ sign ∈ punctuation, Letter.isWord sign.toNat = false :=
    List.all_iff_forall_prop.mp (by decide)
  exact Letter.ne_of_isWord word (apart c member) rfl

/-- A rule under a name, as a directive has them. -/
def pair (name rule : Text) : Text := name ++ ':' :: rule

theorem pair_plain
    {name rule : Text}
    (isName : Template.isName name = true)
    (plain : ∀ c ∈ rule, c ∉ punctuation) :
    ∀ c ∈ pair name rule, c ∉ punctuation := by
  intro c member
  rcases List.mem_append.mp member with inName | rest
  · exact not_mem_punctuation_of_isWord (Template.isWord_of_isName isName c inName)
  · rcases List.mem_cons.mp rest with rfl | inRule
    · decide
    · exact plain c inRule

/-- A name is neither blank nor quoted. -/
theorem trim_name {name : Text} (isName : Template.isName name = true) :
    Text.trimQuotes (Text.trim name) = name := by
  have word := Template.isWord_of_isName isName
  have visible : Text.trim name = name :=
    Text.trimWhere_of_none fun c member => Letter.isBlank_of_isWord (word c member)
  rw [visible]
  refine Text.trimWhere_of_none fun c member => ?_
  have apart := not_mem_punctuation_of_isWord (word c member)
  simp only [punctuation, List.mem_cons, not_or] at apart
  simp [apart]

/-- A pair is cut at its first colon, and binds what stands behind it to what stands before it. -/
theorem pairs_pair
    {name : Text}
    (uncut : ':' ∉ name)
    (given : Text.trimQuotes (Text.trim name) ≠ [])
    (value : Text)
    (rest : List Text)
    (read : Keyed Text) :
    pairs (pair name value :: rest) read =
      pairs rest (Keyed.put read (Text.trimQuotes (Text.trim name))
        (Text.trimQuotes (Text.trim value))) := by
  have through : ∀ c ∈ name, (c != ':') = true := by
    intro c member
    have differ : c ≠ ':' := fun same => uncut (same ▸ member)
    simpa using differ
  unfold pair
  rw [pairs, List.span_eq_takeWhile_dropWhile, List.takeWhile_append_of_pos through,
    List.dropWhile_append_of_pos through]
  simp [given]

/-- A single pair is read as a rule under its name. -/
theorem pairs_of_pair
    {name rule : Text}
    (isName : Template.isName name = true)
    (plain : ∀ c ∈ rule, c ∉ punctuation) :
    pairs [pair name rule] [] = [(name, Text.trim rule)] := by
  have word := Template.isWord_of_isName isName
  have uncut : ':' ∉ name := fun member =>
    Letter.ne_of_isWord (word ':' member) (by decide : Letter.isWord ':'.toNat = false) rfl
  have unquoted : Text.trimQuotes (Text.trim rule) = Text.trim rule := by
    refine Text.trimWhere_of_none fun c member => ?_
    have apart := plain c ((Text.trim_isInfix rule).subset member)
    simp only [punctuation, List.mem_cons, not_or] at apart
    simp [apart]
  have given : Text.trimQuotes (Text.trim name) ≠ [] := by
    rw [trim_name isName]
    rintro rfl
    cases isName
  rw [pairs_pair uncut given, trim_name isName, unquoted]
  rfl

/-- A pair in braces is no JSON text. -/
theorem read_pair
    {name : Text}
    (isName : Template.isName name = true)
    (rule : Text) :
    Json.read ('\x7b' :: pair name rule ++ ['\x7d']) = .error .malformed := by
  have word := Template.isWord_of_isName isName
  cases name with
  | nil => cases isName
  | cons c rest =>
      have first := word c List.mem_cons_self
      have apart (sign : Char) (none : Letter.isWord sign.toNat = false) : c ≠ sign :=
        Letter.ne_of_isWord first none
      refine Json.read_of_unquoted ?_ (apart '\x7d' (by decide)) (apart '"' (by decide)) _
      simp [Json.Reader.isSpace, apart ' ' (by decide), apart '\t' (by decide),
        apart '\n' (by decide), apart '\r' (by decide)]

/-- A pair in braces binds the rule to the name. -/
theorem bindings_of_pair
    {name rule : Text}
    (isName : Template.isName name = true)
    (plain : ∀ c ∈ rule, c ∉ punctuation) :
    bindings ('\x7b' :: pair name rule ++ ['\x7d']) = .ok [(name, Text.trim rule)] := by
  have all := pair_plain isName plain
  have trimmed : Text.Trimmed ('\x7b' :: pair name rule ++ ['\x7d']) := by
    refine ⟨fun c head => ?_, fun c last => ?_⟩
    · cases head
      decide
    · rw [List.getLast?_concat] at last
      cases last
      decide
  have given : pair name rule ≠ [] := by simp [pair]
  have inside : Text.trimWhere (fun c => c == '\x7b' || c == '\x7d')
      ('\x7b' :: pair name rule ++ ['\x7d']) = pair name rule := by
    refine Text.trimWhere_between (by decide) (by decide) given fun c member => ?_
    have apart := all c member
    simp only [punctuation, List.mem_cons, not_or] at apart
    simp [apart]
  have single : Text.splitWhere (· == ',') [] (pair name rule) = [pair name rule] := by
    rw [Text.splitWhere_of_none]
    · rfl
    · intro c member
      have apart := all c member
      simp only [punctuation, List.mem_cons, not_or] at apart
      simp [apart]
  unfold bindings
  rw [read_pair isName]
  simp only
  rw [looseBindings, trimmed.trim_eq_self, inside, single, pairs_of_pair isName plain]

theorem gatherBindings_append (first second : List Part) (read : Keyed Text) :
    gatherBindings (first ++ second) read =
      gatherBindings first read >>= gatherBindings second := by
  induction first generalizing read with
  | nil => rfl
  | cons part rest hypothesis =>
      cases part with
      | char c => exact hypothesis read
      | body inner =>
          rw [List.cons_append, gatherBindings, gatherBindings, bind_assoc]
          exact congrArg (bindings _ >>= ·) (funext fun more => hypothesis _)

theorem outside_append (first second : List Part) :
    outside (first ++ second) = outside first ++ outside second :=
  List.filterMap_append

theorem fill_append (lookup : Text → Text) (first second : List Part) :
    fill lookup (first ++ second) = fill lookup first ++ fill lookup second := by
  induction first with
  | nil => rfl
  | cons part rest hypothesis =>
      cases part with
      | char c => exact congrArg (c :: ·) hypothesis
      | body inner => rw [List.cons_append, fill, fill, hypothesis, List.append_assoc]

/-- A rule that ends in a directive, and has no braces before it, stores what the directive asks
for and goes on without it. -/
theorem takePuts_put
    {before name rule : Text}
    (plainBefore : '\x7b' ∉ before)
    (isName : Template.isName name = true)
    (plain : ∀ c ∈ rule, c ∉ punctuation) :
    takePuts (before ++ written putMark (pair name rule)) =
      .ok (Text.trim before, [(name, Text.trim rule)]) := by
  have closing : '\x7d' ∉ pair name rule := fun member =>
    pair_plain isName plain _ member (by decide)
  have found := parts_written (by decide) (Closed.of_not_mem plainBefore) closing []
    (Nat.lt_succ_self (before ++ (written putMark (pair name rule) ++ [])).length)
  have chars : parts putMark (before.length + 1) before = before.map Part.char :=
    parts_of_none (Nat.lt_succ_self _) fun rest within =>
      directive?_of_not_mem fun member => plainBefore (within.subset member)
  have gathered :
      gatherBindings (before.map Part.char ++ [.body (pair name rule)]) [] =
        .ok [(name, Text.trim rule)] := by
    have bound := bindings_of_pair isName plain
    rw [gatherBindings_append, gatherBindings_char]
    change (bindings ('\x7b' :: pair name rule ++ ['\x7d']) >>= fun more =>
      gatherBindings [] (Keyed.update [] more)) = _
    rw [bound]
    rfl
  have outer : outside (before.map Part.char ++ [.body (pair name rule)]) = before := by
    rw [outside_append, outside_char]
    exact List.append_nil _
  rw [List.append_nil, chars] at found
  unfold takePuts
  rw [found]
  change (gatherBindings (before.map Part.char ++ [.body (pair name rule)]) [] >>= fun puts =>
    Except.ok (Text.trim (outside (before.map Part.char ++ [.body (pair name rule)])), puts)) = _
  rw [gathered, outer]
  rfl

/-! ## Inserting what is stored -/

/-- What is stored stands in place of a directive, and what stands around it is filled by
itself. -/
theorem substituteGet_written
    (lookup : Text → Text)
    {before name : Text}
    (closed : Closed getMark before)
    (isName : Template.isName name = true)
    (after : Text) :
    substituteGet lookup (before ++ (written getMark name ++ after)) =
      substituteGet lookup before ++ (lookup name ++ substituteGet lookup after) := by
  have word := Template.isWord_of_isName isName
  have closing : '\x7d' ∉ name := fun member =>
    not_mem_punctuation_of_isWord (word _ member) (by decide)
  have visible : Text.trim name = name :=
    Text.trimWhere_of_none fun c member => Letter.isBlank_of_isWord (word c member)
  unfold substituteGet
  rw [parts_written (by decide) closed closing after (Nat.lt_succ_self _), fill_append, fill,
    visible]

end Directive

end RuleProbe
