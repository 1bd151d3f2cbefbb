import RuleProbe.Chain.Evaluate
import RuleProbe.Proofs.Character
import RuleProbe.Proofs.Parts

/-!
# Where the index of a segment begins

An index stands at the end of a segment: in brackets, behind a point, or behind an exclamation
mark.  What characters it can hold settles where it begins, whatever stands before it.
-/

namespace RuleProbe

/-! ## Ends of texts -/

namespace Text

theorem endsWith_concat (text : Text) (c d : Char) :
    endsWith (text ++ [c]) [d] = (c == d) := by
  unfold endsWith
  rw [Bool.eq_iff_iff, List.isSuffixOf_iff_suffix, beq_iff_eq]
  constructor
  · rintro ⟨before, same⟩
    exact (List.cons.inj (List.append_inj_right' same rfl)).1.symm
  · rintro rfl
    exact List.suffix_append text [c]

theorem endsWith_iff {text : Text} {c : Char} :
    endsWith text [c] = true ↔ text.getLast? = some c := by
  cases text using List.reverseRecOn with
  | nil => simp [endsWith]
  | append_singleton before d => simp [endsWith_concat]

theorem endsWith_eq_false {text : Text} {c : Char} (absent : c ∉ text) :
    endsWith text [c] = false := by
  rw [← Bool.not_eq_true]
  intro ends
  exact absent ((List.isSuffixOf_iff_suffix.mp ends).subset (List.mem_singleton_self c))

/-- What a text ends with is settled by its last part. -/
theorem endsWith_append_of_ne_nil {tail : Text} (given : tail ≠ []) (before : Text) (c : Char) :
    endsWith (before ++ tail) [c] = endsWith tail [c] := by
  rw [Bool.eq_iff_iff, endsWith_iff, endsWith_iff, List.getLast?_append_of_ne_nil before given]

/-- The last occurrence of a character in a text. -/
theorem exists_last {text : Text} {c : Char} (member : c ∈ text) :
    ∃ before tail, text = before ++ c :: tail ∧ c ∉ tail := by
  obtain ⟨tail, before, same, absent⟩ := List.eq_append_cons_of_mem (List.mem_reverse.mpr member)
  refine ⟨before.reverse, tail.reverse, ?_, by simpa using absent⟩
  rw [← List.reverse_reverse text, same]
  simp

/-- Blanks behind a visible character are dropped. -/
theorem trimRight_append_cons
    {tail : Text}
    {c : Char}
    (visible : isBlank c = false)
    (blank : tail.isBlankText = true)
    (before : Text) :
    trimRight (before ++ c :: tail) = before ++ [c] := by
  have blanks : ∀ d ∈ tail.reverse, isBlank d = true :=
    fun d member => List.all_eq_true.mp blank d (List.mem_reverse.mp member)
  have turned : (before ++ c :: tail).reverse = tail.reverse ++ c :: before.reverse := by simp
  unfold trimRight trimRightWhere
  rw [turned, List.dropWhile_append_of_pos blanks, List.dropWhile_cons_of_neg (by simp [visible])]
  simp

/-- What a text ends with, back to a character that does not belong to it. -/
theorem takeWhile_reverse_append
    {keep : Char → Bool}
    {tail : Text}
    {c : Char}
    (kept : ∀ d ∈ tail, keep d = true)
    (stops : keep c = false)
    (before : Text) :
    (((before ++ c :: tail).reverse.takeWhile keep).reverse) = tail := by
  have turned : (before ++ c :: tail).reverse = tail.reverse ++ c :: before.reverse := by
    simp
  rw [turned, List.takeWhile_append_of_pos (by simpa using kept), List.takeWhile_cons, stops]
  simp

theorem trimmed_of_unblank
    {text : Text}
    (visible : ∀ c ∈ text, isBlank c = false) :
    text.Trimmed where
  first c head := visible c (List.mem_of_mem_head? head)
  last c last := visible c (List.mem_of_mem_getLast? last)

theorem Trimmed.cons
    {text : Text}
    {c : Char}
    (trimmed : text.Trimmed)
    (given : text ≠ [])
    (visible : isBlank c = false) :
    Trimmed (c :: text) where
  first d head := by
    cases head
    exact visible
  last d last := trimmed.last d (by rwa [List.getLast?_cons_of_ne_nil given] at last)

theorem dropStart?_of_not_prefix {text start : Text} (other : ¬start <+: text) :
    dropStart? text start = none := by
  unfold dropStart? startsWith
  rw [if_neg]
  exact fun starts => other (List.isPrefixOf_iff_prefix.mp starts)

/-- A text goes on behind a first part, so that it begins with a mark only where this part does,
or where the mark begins with this part and what is next to it. -/
theorem not_prefix_append_cons
    {start first : Text}
    {c : Char}
    (other : ¬start <+: first)
    (apart : ¬first ++ [c] <+: start)
    (rest : Text) :
    ¬start <+: first ++ c :: rest := by
  intro starts
  have longer : first ++ [c] <+: first ++ c :: rest := ⟨rest, by simp⟩
  rcases Nat.lt_or_ge first.length start.length with short | long
  · exact apart (List.prefix_of_prefix_length_le longer starts (by simp; omega))
  · exact other (List.prefix_of_prefix_length_le starts (List.prefix_append _ _) long)

/-- A character of a text stands in one of the parts between marks, or is a mark. -/
theorem eq_or_mem_part (mark : Char) {c : Char} {text : Text} (member : c ∈ text) :
    c = mark ∨ ∃ part ∈ splitWhere (· == mark) [] text, c ∈ part := by
  suffices among : ∀ before, c ∈ before ∨ c ∈ text →
      c = mark ∨ ∃ part ∈ splitWhere (· == mark) before text, c ∈ part from
    among [] (.inr member)
  clear member
  induction text with
  | nil =>
      intro before member
      simpa [splitWhere] using .inr (member.resolve_right List.not_mem_nil)
  | cons d rest hypothesis =>
      intro before member
      rw [splitWhere]
      split
      · rename_i isMark
        rw [List.mem_cons] at member
        rcases member with early | here | later
        · exact .inr ⟨before.reverse, List.mem_cons_self, List.mem_reverse.mpr early⟩
        · exact .inl (here.trans (beq_iff_eq.mp isMark))
        · refine (hypothesis [] (.inr later)).imp_right ?_
          rintro ⟨part, isPart, inside⟩
          exact ⟨part, List.mem_cons_of_mem _ isPart, inside⟩
      · apply hypothesis
        simp only [List.mem_cons] at member ⊢
        rcases member with early | here | later
        · exact .inl (.inr early)
        · exact .inl (.inl here)
        · exact .inr later

end Text

/-! ## Characters of index expressions -/

/-- The characters of an index behind an exclamation mark are no blanks. -/
theorem Chain.isBlank_of_isMarkIndexChar
    {c : Char}
    (plain : isMarkIndexChar c = true) :
    Text.isBlank c = false := by
  unfold isMarkIndexChar at plain
  simp only [Bool.or_eq_true, beq_iff_eq] at plain
  rcases plain with ((rfl | rfl) | rfl) | decimal
  · rfl
  · rfl
  · rfl
  · exact Letter.isBlank_of_isDecimal decimal

namespace IndexExpression

/-- A character that can stand in an index expression, behind its exclamation mark. -/
def isIndexChar (c : Char) : Bool := Text.isBlank c || Chain.isMarkIndexChar c

theorem isIndexChar_of_isNumber
    {number : Text}
    (recognised : isNumber number = true)
    {c : Char}
    (member : c ∈ number) :
    isIndexChar c = true := by
  have digits : ∀ d ∈ number.trim, Chain.isMarkIndexChar d = true := by
    unfold isNumber at recognised
    split at recognised
    · rename_i digits same
      rw [same]
      rintro d member
      rcases List.mem_cons.mp member with rfl | member
      · rfl
      · have decimal := List.all_eq_true.mp recognised d member
        simp [Chain.isMarkIndexChar, decimal]
    · intro d member
      have decimal := List.all_eq_true.mp recognised d member
      simp [Chain.isMarkIndexChar, decimal]
  unfold isIndexChar
  rw [Bool.or_eq_true]
  rcases Text.blank_or_mem_trim member with blank | visible
  · exact .inl blank
  · exact .inr (digits c visible)

theorem isIndexChar_of_isPart
    {part : Text}
    (recognised : isPart part = true)
    {c : Char}
    (member : c ∈ part) :
    isIndexChar c = true := by
  rcases Text.eq_or_mem_part ':' member with rfl | ⟨number, isNumber, inside⟩
  · rfl
  · have numbers := (Bool.and_eq_true_iff.mp recognised).2
    exact isIndexChar_of_isNumber (List.all_eq_true.mp numbers number isNumber) inside

/-- Behind its exclamation mark a recognised expression holds digits, signs, separators and blanks
only. -/
theorem isIndexChar_of_recognises
    {text : Text}
    (recognised : recognises text = true)
    {c : Char}
    (member : c ∈ dropMark text.trim) :
    isIndexChar c = true := by
  rcases Text.eq_or_mem_part ',' member with rfl | ⟨part, isPart, inside⟩
  · rfl
  · have parts := (Bool.and_eq_true_iff.mp recognised).2
    exact isIndexChar_of_isPart (List.all_eq_true.mp parts part isPart) inside

theorem eq_or_mem_dropMark {text : Text} {c : Char} (member : c ∈ text) :
    c = '!' ∨ c ∈ dropMark text := by
  unfold dropMark
  split
  · exact List.mem_cons.mp member
  · exact .inr member

/-- No bracket stands in a recognised expression. -/
theorem not_mem_of_recognises
    {text : Text}
    (recognised : recognises text = true)
    {c : Char}
    (stray : isIndexChar c = false)
    (unmarked : c ≠ '!') :
    c ∉ text := by
  intro member
  rcases Text.blank_or_mem_trim member with blank | visible
  · simp [isIndexChar, blank] at stray
  · have inside := (eq_or_mem_dropMark visible).resolve_left unmarked
    rw [isIndexChar_of_recognises recognised inside] at stray
    cases stray

theorem ne_nil_of_recognises {text : Text} (recognised : recognises text = true) : text ≠ [] := by
  rintro rfl
  cases recognised

/-- Digits, signs and separators make an index expression behind an exclamation mark exactly when
they make one on their own. -/
theorem recognises_mark
    {numbers : Text}
    (plain : ∀ c ∈ numbers, Chain.isMarkIndexChar c = true) :
    recognises ('!' :: numbers) = recognises numbers := by
  have marked : ∀ c ∈ '!' :: numbers, Text.isBlank c = false := by
    refine List.forall_mem_cons.mpr ⟨rfl, fun c member => ?_⟩
    exact Chain.isBlank_of_isMarkIndexChar (plain c member)
  have bare : dropMark numbers = numbers := by
    unfold dropMark
    split
    · have mark := plain '!' List.mem_cons_self
      cases mark
    · rfl
  unfold recognises
  rw [(Text.trimmed_of_unblank marked).trim_eq_self,
    (Text.trimmed_of_unblank (List.forall_mem_cons.mp marked).2).trim_eq_self, bare]
  rfl

/-- Before the exclamation mark of a recognised expression stand blanks only. -/
theorem isBlankText_of_recognises
    {before numbers : Text}
    (given : numbers ≠ [])
    (trimmed : numbers.Trimmed)
    (recognised : recognises (before ++ '!' :: numbers) = true) :
    before.isBlankText = true := by
  by_contra visible
  have marked : Text.Trimmed ('!' :: numbers) := trimmed.cons given rfl
  have kept : Text.trim (before ++ '!' :: numbers) = Text.trimLeft before ++ '!' :: numbers :=
    Text.trim_append_of_visible (List.cons_ne_nil '!' numbers) marked before
  have first : Text.trimLeft before ≠ [] := by
    intro none
    apply visible
    rw [← Text.trim_eq_nil_iff, Text.trim_eq]
    have dropped : before.dropWhile Text.isBlank = [] := none
    rw [dropped]
    rfl
  obtain ⟨c, rest, start⟩ := List.exists_cons_of_ne_nil first
  have inside : '!' ∈ dropMark (Text.trim (before ++ '!' :: numbers)) := by
    rw [kept, start, List.cons_append]
    unfold dropMark
    split
    · rename_i same
      rw [← (List.cons.inj same).2]
      simp
    · simp
  have plain := isIndexChar_of_recognises recognised inside
  cases plain

end IndexExpression

/-! ## The ways to write an index -/

namespace Chain

theorem dropFeed_concat {c : Char} (visible : c ≠ '\n') (text : Text) :
    dropFeed (text ++ [c]) = text ++ [c] := by
  unfold dropFeed
  rw [Text.endsWith_concat, if_neg (by simpa using visible)]

theorem isOneLine_of_not_mem {text : Text} (line : '\n' ∉ text) : isOneLine text = true := by
  simpa [isOneLine] using line

/-- What can stand before an index: some text on one line. -/
structure IsBase (base : Text) : Prop where
  /-- The base is not empty. -/
  given : base ≠ []
  /-- No line feed stands in it. -/
  line : '\n' ∉ base

instance (base : Text) : Decidable (IsBase base) :=
  decidable_of_iff (base ≠ [] ∧ '\n' ∉ base)
    ⟨fun both => ⟨both.1, both.2⟩, fun isBase => ⟨isBase.given, isBase.line⟩⟩

theorem IsBase.usable {base : Text} (isBase : IsBase base) :
    (base.isEmpty || !isOneLine base) = false := by
  simp [isOneLine_of_not_mem isBase.line, isBase.given]

variable {base index : Text}

/-- An index in brackets is found, whatever brackets stand before it. -/
theorem bracketIndex?_written
    (isBase : IsBase base)
    (closed : base.getLast? ≠ some '.')
    (opening : '[' ∉ index)
    (closing : ']' ∉ index) :
    bracketIndex? (base ++ '[' :: (index ++ [']'])) = some (base, index) := by
  have whole : base ++ '[' :: (index ++ [']']) = (base ++ '[' :: index) ++ [']'] := by simp
  have inside : (((base ++ '[' :: index).reverse.takeWhile fun c => c != '[' && c != ']').reverse) =
      index := by
    refine Text.takeWhile_reverse_append (fun c member => ?_) rfl base
    have notOpening : c ≠ '[' := fun same => opening (same ▸ member)
    have notClosing : c ≠ ']' := fun same => closing (same ▸ member)
    simp [notOpening, notClosing]
  have before : ((base ++ '[' :: index) ++ [']']).take
      (((base ++ '[' :: index) ++ [']']).length - index.length - 1) = base ++ ['['] := by
    have count : ((base ++ '[' :: index) ++ [']']).length - index.length - 1 =
        (base ++ ['[']).length := by
      simp only [List.length_append, List.length_cons, List.length_nil]
      omega
    have parts : (base ++ '[' :: index) ++ [']'] = (base ++ ['[']) ++ (index ++ [']']) := by simp
    rw [count, parts, List.take_left]
  have point : Text.endsWith base ['.'] = false := by
    rw [← Bool.not_eq_true, Text.endsWith_iff]
    exact closed
  unfold bracketIndex?
  simp only [whole, dropFeed_concat (show ']' ≠ '\n' by decide), Text.endsWith_concat,
    List.dropLast_concat, inside, before, point, beq_self_eq_true, Bool.not_true,
    Bool.false_and, Bool.false_eq_true, if_false, isBase.usable]

/-- A text that ends visibly, and not in a bracket, ends in no index in brackets. -/
theorem bracketIndex?_none
    {before tail : Text}
    {mark : Char}
    (given : tail ≠ [])
    (visible : Text.isBlank (tail.getLast given) = false)
    (closing : ']' ∉ tail) :
    bracketIndex? (before ++ mark :: tail) = none := by
  have whole : before ++ mark :: tail =
      (before ++ mark :: tail.dropLast) ++ [tail.getLast given] := by
    rw [List.append_assoc, List.cons_append, List.dropLast_append_getLast given]
  have stays : tail.getLast given ≠ '\n' := by
    intro same
    rw [same] at visible
    cases visible
  have unclosed : (tail.getLast given == ']') = false :=
    beq_eq_false_iff_ne.mpr fun same => closing (same ▸ List.getLast_mem given)
  rw [whole]
  unfold bracketIndex?
  simp only [dropFeed_concat stays, Text.endsWith_concat, unclosed, Bool.not_false, if_true]

/-- An index behind a point is found, whatever points stand before it. -/
theorem dotIndex?_written
    (isBase : IsBase base)
    (given : index ≠ [])
    (whole : '.' ∉ index) :
    dotIndex? (base ++ '.' :: index) = some (base, index) := by
  have tail : (((base ++ '.' :: index).reverse.takeWhile (· != '.')).reverse) = index := by
    refine Text.takeWhile_reverse_append (fun c member => ?_) rfl base
    exact bne_iff_ne.mpr fun same => whole (same ▸ member)
  have count : (base ++ '.' :: index).length - index.length - 1 = base.length := by
    simp only [List.length_append, List.length_cons]
    omega
  have shorter : (index.length == (base ++ '.' :: index).length) = false := by
    simp only [List.length_append, List.length_cons, beq_eq_false_iff_ne]
    omega
  have some : index.isEmpty = false := by simpa using given
  unfold dotIndex?
  simp only [tail, count, List.take_left, shorter, some, Bool.false_or, isBase.usable,
    Bool.false_eq_true, if_false]

theorem dotIndex?_none {segment : Text} (whole : '.' ∉ segment) : dotIndex? segment = none := by
  have tail : (segment.reverse.takeWhile (· != '.')).reverse = segment := by
    rw [List.takeWhile_eq_self_iff.mpr, List.reverse_reverse]
    intro c member
    exact bne_iff_ne.mpr fun same => whole (same ▸ List.mem_reverse.mp member)
  unfold dotIndex?
  simp [tail]

/-- A point at the beginning has nothing before it. -/
theorem dotIndex?_first {tail : Text} (whole : '.' ∉ tail) : dotIndex? ('.' :: tail) = none := by
  have kept : ((('.' :: tail).reverse.takeWhile (· != '.')).reverse) = tail := by
    refine Text.takeWhile_reverse_append (fun c member => ?_) rfl []
    exact bne_iff_ne.mpr fun same => whole (same ▸ member)
  have count : ('.' :: tail).length - tail.length - 1 = 0 := by
    rw [List.length_cons]
    omega
  unfold dotIndex?
  simp only [kept, count, List.take_zero, List.isEmpty_nil, Bool.or_true, Bool.true_or, if_true]

/-- What is read behind the last point of a base with an index behind an exclamation mark. -/
theorem dotIndex?_marked
    {found : Text × Text}
    (isBase : IsBase base)
    (unpointed : '.' ∉ '!' :: index)
    (read : dotIndex? (base ++ '!' :: index) = some found) :
    ∃ tail : Text,
      base = found.1 ++ '.' :: tail ∧ found.2 = tail ++ '!' :: index ∧ found.1 ≠ [] := by
  have pointed : '.' ∈ base := by
    by_contra absent
    rw [dotIndex?_none (fun member => (List.mem_append.mp member).elim absent unpointed)] at read
    cases read
  obtain ⟨first, tail, rfl, last⟩ := Text.exists_last pointed
  have whole : '.' ∉ tail ++ '!' :: index :=
    fun member => (List.mem_append.mp member).elim last unpointed
  have parts : (first ++ '.' :: tail) ++ '!' :: index = first ++ '.' :: (tail ++ '!' :: index) := by
    simp
  rw [parts] at read
  by_cases none : first = []
  · rw [none, List.nil_append, dotIndex?_first whole] at read
    cases read
  · have isFirst : IsBase first := ⟨none, fun member => isBase.line (by simp [member])⟩
    rw [dotIndex?_written isFirst (by simp) whole] at read
    obtain rfl := Option.some.inj read
    exact ⟨tail, rfl, rfl, none⟩

/-- An index behind an exclamation mark is found, whatever marks stand before it. -/
theorem markIndex?_written
    (isBase : IsBase base)
    (given : index ≠ [])
    (plain : ∀ c ∈ index, isMarkIndexChar c = true) :
    markIndex? (base ++ '!' :: index) = some (base, index) := by
  have tail : (((base ++ '!' :: index).reverse.takeWhile isMarkIndexChar).reverse) = index :=
    Text.takeWhile_reverse_append plain rfl base
  have feed : dropFeed (base ++ '!' :: index) = base ++ '!' :: index := by
    obtain ⟨before, c, rfl⟩ := (List.eq_nil_or_concat index).resolve_left given
    have visible := isBlank_of_isMarkIndexChar (plain c (by simp))
    have stays : c ≠ '\n' := by
      rintro rfl
      cases visible
    have parts : base ++ '!' :: (before ++ [c]) = (base ++ '!' :: before) ++ [c] := by simp
    rw [List.concat_eq_append, parts, dropFeed_concat stays]
  have before : (base ++ '!' :: index).take ((base ++ '!' :: index).length - index.length) =
      base ++ ['!'] := by
    have parts : base ++ '!' :: index = (base ++ ['!']) ++ index := by simp
    rw [parts, List.length_append, Nat.add_sub_cancel, List.take_left]
  have some : index.isEmpty = false := by simpa using given
  unfold markIndex?
  simp only [feed, tail, before, Text.endsWith_concat, List.dropLast_concat, some,
    beq_self_eq_true, Bool.not_true, Bool.false_or, isBase.usable, Bool.false_eq_true, if_false]

theorem markIndex?_none {segment : Text} (unmarked : '!' ∉ segment) :
    markIndex? segment = none := by
  have within : dropFeed segment <+: segment := by
    unfold dropFeed
    split
    · exact List.dropLast_prefix segment
    · exact List.prefix_rfl
  have marks : ∀ count, Text.endsWith ((dropFeed segment).take count) ['!'] = false :=
    fun count => Text.endsWith_eq_false fun member =>
      unmarked (within.subset (List.mem_of_mem_take member))
  unfold markIndex?
  simp only [marks, Bool.not_false, Bool.or_true, Bool.true_or, if_true]

theorem dropBrackets_of_open {text : Text} (open' : Text.endsWith text [']'] = false) :
    dropBrackets text = text := by
  unfold dropBrackets
  rw [open', Bool.and_false]
  rfl

/-! ## Segments with an index -/

theorem splitIndex_bracket
    (isBase : IsBase base)
    (closed : base.getLast? ≠ some '.')
    (recognised : IndexExpression.recognises index = true) :
    splitIndex (base ++ '[' :: (index ++ [']'])) = (base, some index) := by
  have written := bracketIndex?_written isBase closed
    (IndexExpression.not_mem_of_recognises recognised (c := '[') (by decide) (by decide))
    (IndexExpression.not_mem_of_recognises recognised (c := ']') (by decide) (by decide))
  unfold splitIndex
  simp only [written, Option.filter_some, recognised, if_true]

/-- An index behind a point is found where it does not end in a blank. -/
theorem splitIndex_dot
    (isBase : IsBase base)
    (trimmed : index.Trimmed)
    (recognised : IndexExpression.recognises index = true) :
    splitIndex (base ++ '.' :: index) = (base, some index) := by
  have given := IndexExpression.ne_nil_of_recognises recognised
  have absent : ∀ {c}, IndexExpression.isIndexChar c = false → c ≠ '!' → c ∉ index :=
    IndexExpression.not_mem_of_recognises recognised
  have closing : ']' ∉ index := absent (by decide) (by decide)
  have open' : bracketIndex? (base ++ '.' :: index) = none :=
    bracketIndex?_none given (trimmed.last _ (List.getLast?_eq_some_getLast given)) closing
  have written := dotIndex?_written isBase given (absent (c := '.') (by decide) (by decide))
  unfold splitIndex
  simp only [open', written, Option.filter_none, Option.map_some,
    dropBrackets_of_open (Text.endsWith_eq_false closing), Option.filter_some, recognised, if_true]

/-- What stands behind the last point of a segment belongs to its base when it is no index. -/
theorem splitIndex_none
    (isBase : IsBase base)
    (unmarkedBase : '!' ∉ base)
    {name : Text}
    (given : name ≠ [])
    (visible : Text.isBlank (name.getLast given) = false)
    (closing : ']' ∉ name)
    (whole : '.' ∉ name)
    (unmarked : '!' ∉ name)
    (other : IndexExpression.recognises name = false) :
    splitIndex (base ++ '.' :: name) = (base ++ '.' :: name, none) := by
  have open' : bracketIndex? (base ++ '.' :: name) = none :=
    bracketIndex?_none given visible closing
  have pointed := dotIndex?_written isBase given whole
  have absent : '!' ∉ base ++ '.' :: name := by simp [unmarkedBase, unmarked]
  unfold splitIndex
  simp only [open', pointed, markIndex?_none absent, Option.filter_none, Option.map_some,
    dropBrackets_of_open (Text.endsWith_eq_false closing), Option.filter_some, other,
    Bool.false_eq_true, if_false]

/-- An index behind an exclamation mark is found, unless only blanks stand between the mark and
a point with a base of its own. -/
theorem splitIndex_mark
    (isBase : IsBase base)
    (apart : (Text.trimRight base).getLast? = some '.' → (Text.trimRight base).length ≤ 1)
    (plain : ∀ c ∈ index, isMarkIndexChar c = true)
    (recognised : IndexExpression.recognises index = true) :
    splitIndex (base ++ '!' :: index) = (base, some ('!' :: index)) := by
  have given := IndexExpression.ne_nil_of_recognises recognised
  have visible : ∀ c ∈ index, Text.isBlank c = false :=
    fun c member => isBlank_of_isMarkIndexChar (plain c member)
  have closing : ']' ∉ index := by
    intro member
    have mark := plain ']' member
    cases mark
  have open' : bracketIndex? (base ++ '!' :: index) = none :=
    bracketIndex?_none given (visible _ (List.getLast_mem given)) closing
  have unpointed : '.' ∉ '!' :: index := by
    refine List.not_mem_cons_of_ne_of_not_mem (by decide) fun member => ?_
    have mark := plain '.' member
    cases mark
  have pointless : ((dotIndex? (base ++ '!' :: index)).map fun found =>
      (found.1, dropBrackets found.2)).filter (fun found => IndexExpression.recognises found.2) =
        none := by
    rw [Option.filter_eq_none_iff]
    rintro _ found
    obtain ⟨⟨first, last⟩, pointed, rfl⟩ := Option.map_eq_some_iff.mp found
    obtain ⟨tail, rfl, rfl, some⟩ := dotIndex?_marked isBase unpointed pointed
    have unclosed : Text.endsWith (tail ++ '!' :: index) [']'] = false := by
      rw [Text.endsWith_append_of_ne_nil (List.cons_ne_nil '!' index)]
      exact Text.endsWith_eq_false (List.not_mem_cons_of_ne_of_not_mem (by decide) closing)
    simp only [dropBrackets_of_open unclosed]
    intro recognised
    have blank : tail.isBlankText = true :=
      IndexExpression.isBlankText_of_recognises given (Text.trimmed_of_unblank visible) recognised
    rw [Text.trimRight_append_cons (by decide) blank] at apart
    have short := apart (by simp)
    rw [List.length_append, List.length_singleton] at short
    exact some (List.eq_nil_of_length_eq_zero (by omega))
  have written := markIndex?_written isBase given plain
  unfold splitIndex
  simp only [open', pointless, written, Option.filter_none, Option.filter_some, recognised, if_true]

/-! ## What a segment selects -/

/-- What a base selects below some nodes, or those of them that satisfy it. -/
def take (tree : Markup.Tree) (nodes : List Nat) (base : Text) (includeSelf : Bool) :
    Except Fault (List Nat) :=
  ((Base.ofText base).select tree nodes).map fun below =>
    if below.isEmpty && includeSelf then nodes.filter ((Base.ofText base).holds tree) else below

theorem take_below (tree : Markup.Tree) (nodes : List Nat) (base : Text) :
    take tree nodes base false = (Base.ofText base).select tree nodes := by
  unfold take
  cases (Base.ofText base).select tree nodes with
  | error flaw => rfl
  | ok below =>
      simp only [Bool.and_false, Bool.false_eq_true, if_false]
      rfl

/-- A segment takes what its base selects, and narrows it by its index. -/
theorem selectSegment_of_splitIndex
    {segment : Text}
    {index? : Option Text}
    (other : segment ≠ "children".toList)
    (selector : bareIndex? segment = none)
    (textless : segment.dropStart? "text." = none)
    (parts : splitIndex segment = (base, index?))
    (tree : Markup.Tree)
    (nodes : List Nat)
    (includeSelf : Bool) :
    selectSegment tree nodes segment includeSelf =
      (take tree nodes base includeSelf >>= fun found =>
        match index? with
        | none => .ok found
        | some index => IndexExpression.select found index) := by
  unfold selectSegment take
  rw [if_neg (by simpa using other), selector, textless]
  simp only [parts]
  cases (Base.ofText base).select tree nodes with
  | error flaw => rfl
  | ok below => rfl

end Chain

end RuleProbe
