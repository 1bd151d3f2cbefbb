import RuleProbe.Proofs.Keyed
import RuleProbe.Proofs.Parts
import RuleProbe.Source

/-!
# Flat rules and their headers

A flat rule loses the headers that it ends in, and then all its lines but the first one that is
not blank; only a rule with a script keeps its lines.  The headers are read as they were written,
as long as they can be told from the signs between them: no earlier place of the rule is taken for
that of the suffix, since what stands there either is no directive or is followed by more than
blanks.  What is left of the rule is read as it stands when it is read again, as long as it does
not end in headers of its own.
-/

namespace RuleProbe

namespace Directive

/-! ## Suffixes with headers -/

/-- A rule ends in headers: in the mark for headers, in letters of any case, and in braces that
hold something, with nothing but blanks behind them. -/
def EndsInHeaders (rule : Text) : Prop :=
  ∃ before name inner blanks : Text,
    rule = before ++ (name ++ '\x7b' :: (inner ++ '\x7d' :: blanks)) ∧
      name.map Char.toLower = headerMark.map Char.toLower ∧
      inner ≠ [] ∧ '\x7d' ∉ inner ∧ Text.isBlankText blanks = true

variable {mark text inner rest : Text}

theorem beginsWith_iff :
    beginsWith mark text = true ↔
      (text.take mark.length).map Char.toLower = mark.map Char.toLower := by
  unfold beginsWith
  rw [Bool.and_eq_true, decide_eq_true_eq]
  induction mark generalizing text with
  | nil => simp
  | cons c others hypothesis =>
      cases text with
      | nil => simp
      | cons d more =>
          rw [List.length_cons, List.length_cons, Nat.add_le_add_iff_right, List.zip_cons_cons,
            List.all_cons, Bool.and_eq_true, beq_iff_eq, and_left_comm, hypothesis,
            List.take_succ_cons, List.map_cons, List.map_cons, List.cons_eq_cons, eq_comm]

/-- A directive is read where its mark and its braces stand. -/
theorem directive?_eq_some_iff :
    directive? mark text = some (inner, rest) ↔
      ∃ name, text = name ++ '\x7b' :: (inner ++ '\x7d' :: rest) ∧
        name.map Char.toLower = mark.map Char.toLower ∧ '\x7d' ∉ inner := by
  unfold directive?
  constructor
  · intro found
    split at found
    case isTrue begins =>
      obtain ⟨behind, plain⟩ := eq_of_braced? found
      refine ⟨text.take mark.length, ?_, beginsWith_iff.mp begins, plain⟩
      rw [← behind, List.take_append_drop]
    case isFalse => cases found
  · rintro ⟨name, rfl, same, plain⟩
    have length : name.length = mark.length := by simpa using congrArg List.length same
    have begins : beginsWith mark (name ++ '\x7b' :: (inner ++ '\x7d' :: rest)) = true :=
      beginsWith_iff.mpr (by rw [← length, List.take_left, same])
    rw [if_pos begins, ← length, List.drop_left, braced?_of_braces plain]

/-- A text is a suffix with headers. -/
def IsSuffix (text : Text) : Prop :=
  ∃ inner blanks, directive? headerMark text = some (inner, blanks) ∧
    inner ≠ [] ∧ Text.isBlankText blanks = true

/-- What the braces of a suffix hold is found with what stands before it. -/
theorem findSuffix_of_directive?
    {c : Char}
    {blanks : Text}
    (found : directive? headerMark (c :: rest) = some (inner, blanks))
    (given : inner ≠ [])
    (blank : Text.isBlankText blanks = true)
    (before : Text) :
    findSuffix before (c :: rest) = some (before.reverse, inner) := by
  rw [findSuffix, found]
  simp [given, blank]

theorem findSuffix_of_isSuffix
    {c : Char}
    (isSuffix : IsSuffix (c :: rest))
    (before : Text) :
    ∃ inner, findSuffix before (c :: rest) = some (before.reverse, inner) := by
  obtain ⟨inner, blanks, found, given, blank⟩ := isSuffix
  exact ⟨inner, findSuffix_of_directive? found given blank before⟩

theorem findSuffix_of_not_isSuffix
    {c : Char}
    (other : ¬IsSuffix (c :: rest))
    (before : Text) :
    findSuffix before (c :: rest) = findSuffix (c :: before) rest := by
  rw [findSuffix]
  split
  case h_1 inner blanks found =>
    refine if_neg fun ends => other ⟨inner, blanks, found, ?_⟩
    simpa using ends
  case h_2 => rfl

/-- The suffix is sought at every place of a rule. -/
theorem findSuffix_isSome_iff (before text : Text) :
    (findSuffix before text).isSome ↔ ∃ ending, ending <:+ text ∧ IsSuffix ending := by
  induction text generalizing before with
  | nil =>
      refine iff_of_false (by simp [findSuffix]) ?_
      rintro ⟨ending, inside, inner, blanks, found, -⟩
      rw [List.suffix_nil.mp inside] at found
      cases found
  | cons c others hypothesis =>
      by_cases here : IsSuffix (c :: others)
      · obtain ⟨inner, found⟩ := findSuffix_of_isSuffix here before
        exact iff_of_true (by rw [found]; rfl) ⟨_, List.suffix_rfl, here⟩
      · rw [findSuffix_of_not_isSuffix here, hypothesis]
        constructor
        · rintro ⟨ending, inside, isSuffix⟩
          exact ⟨ending, inside.trans (List.suffix_cons c others), isSuffix⟩
        · rintro ⟨ending, inside, isSuffix⟩
          rcases List.suffix_cons_iff.mp inside with rfl | inside
          · exact absurd isSuffix here
          · exact ⟨ending, inside, isSuffix⟩

theorem endsInHeaders_iff {rule : Text} :
    EndsInHeaders rule ↔ ∃ ending, ending <:+ rule ∧ IsSuffix ending := by
  constructor
  · rintro ⟨before, name, inner, blanks, rfl, same, given, plain, blank⟩
    exact ⟨_, List.suffix_append _ _, inner, blanks,
      directive?_eq_some_iff.mpr ⟨name, rfl, same, plain⟩, given, blank⟩
  · rintro ⟨ending, ⟨before, rfl⟩, inner, blanks, found, given, blank⟩
    obtain ⟨name, rfl, same, plain⟩ := directive?_eq_some_iff.mp found
    exact ⟨before, name, inner, blanks, rfl, same, given, plain, blank⟩

/-- A suffix is found exactly where a rule ends in headers. -/
theorem findSuffix_eq_none_iff (rule : Text) :
    findSuffix [] rule = none ↔ ¬EndsInHeaders rule := by
  rw [endsInHeaders_iff, ← findSuffix_isSome_iff, Option.not_isSome_iff_eq_none]

theorem not_endsInHeaders_of_absent
    {rule : Text}
    (absent : Absent headerMark rule) :
    ¬EndsInHeaders rule := by
  rw [endsInHeaders_iff]
  rintro ⟨ending, inside, inner, blanks, found, -⟩
  rw [absent ending inside] at found
  cases found

/-- What stands before a suffix is shorter than the rule. -/
theorem length_findSuffix
    {before body : Text}
    (found : findSuffix before text = some (body, inner)) :
    body.length < before.length + text.length := by
  induction text generalizing before with
  | nil => cases found
  | cons c others hypothesis =>
      rw [List.length_cons]
      by_cases here : IsSuffix (c :: others)
      · obtain ⟨_, first⟩ := findSuffix_of_isSuffix here before
        cases first.symm.trans found
        rw [List.length_reverse]
        omega
      · rw [findSuffix_of_not_isSuffix here] at found
        have shorter := hypothesis found
        rw [List.length_cons] at shorter
        omega

theorem splitHeaders_of_not_endsInHeaders
    {rule : Text}
    (plain : ¬EndsInHeaders rule) :
    splitHeaders rule = (rule, []) := by
  unfold splitHeaders
  rw [(findSuffix_eq_none_iff rule).mpr plain]

/-! ## Suffixes as they are written -/

/-- No directive with a mark is opened anywhere in a text. -/
def Unopened (mark text : Text) : Prop :=
  ∀ rest, rest <:+ text → beginsWith (mark ++ ['\x7b']) rest = false

instance (mark text : Text) : Decidable (Unopened mark text) :=
  decidable_of_iff (∀ rest ∈ text.tails, beginsWith (mark ++ ['\x7b']) rest = false)
    (by simp [Unopened, List.mem_tails])

theorem Unopened.closed (unopened : Unopened mark text) : Closed mark text := by
  intro rest inside within begins opened
  have here : beginsWith (mark ++ ['\x7b']) rest = true := by
    rw [beginsWith_iff] at begins ⊢
    rw [List.length_append, List.take_add, opened, List.map_append, begins, List.map_append]
    rfl
  rw [unopened rest within] at here
  cases here

/-- The suffix of a rule is found behind it, whatever directives the rule holds, as long as none of
them is left open. -/
theorem findSuffix_written
    {rule inner : Text}
    (closed : Closed headerMark rule)
    (given : inner ≠ [])
    (plain : '\x7d' ∉ inner)
    (before : Text) :
    findSuffix before (rule ++ written headerMark inner) =
      some (before.reverse ++ rule, inner) := by
  induction rule generalizing before with
  | nil =>
      have found : directive? headerMark (written headerMark inner ++ []) = some (inner, []) :=
        directive?_written plain []
      rw [List.append_nil] at found ⊢
      exact findSuffix_of_directive? found given rfl before
  | cons c others hypothesis =>
      have other : ¬IsSuffix (c :: (others ++ written headerMark inner)) := by
        rintro ⟨found, blanks, read, -, blank⟩
        rw [← List.cons_append] at read
        cases own : directive? headerMark (c :: others) with
        | none =>
            have none := directive?_append_of_none (by decide) (List.cons_ne_nil c others) closed own
              inner []
            rw [List.append_nil, read] at none
            cases none
        | some ending =>
            -- the written suffix stands behind the directive, and it is not blank
            obtain ⟨ownInner, behind⟩ := ending
            have longer := directive?_append_of_some own (written headerMark inner)
            cases read.symm.trans longer
            have sign : '@' ∈ written headerMark inner := List.mem_append_left _ (by decide)
            have visible : Text.isBlank '@' = true :=
              List.all_eq_true.mp blank '@' (List.mem_append_right behind sign)
            exact absurd visible (by decide)
      rw [List.cons_append, findSuffix_of_not_isSuffix other,
        hypothesis (closed.of_suffix (List.suffix_cons c others))]
      simp

/-! ## Headers as they are written -/

/-- The sign between two headers of a suffix. -/
def isSeparator (c : Char) : Bool := c == ';' || c == ','

/-- A name or a value that can be told from what stands around it in a suffix. -/
structure IsWritable (text : Text) : Prop where
  /-- No blank stands at either end. -/
  trimmed : text.Trimmed
  /-- No sign between headers stands in it, and no closing brace. -/
  plain : ∀ c ∈ text, c ≠ ';' ∧ c ≠ ',' ∧ c ≠ '\x7d'
  /-- It does not begin with a quotation mark. -/
  first : ∀ c ∈ text.head?, c ≠ '"' ∧ c ≠ '\''
  /-- It does not end in a quotation mark. -/
  last : ∀ c ∈ text.getLast?, c ≠ '"' ∧ c ≠ '\''

instance (text : Text) : Decidable (IsWritable text) :=
  haveI : Decidable (∀ c ∈ text, c ≠ ';' ∧ c ≠ ',' ∧ c ≠ '\x7d') := List.decidableBAll _ text
  haveI (found : Option Char) : Decidable (∀ c ∈ found, c ≠ '"' ∧ c ≠ '\'') :=
    Option.decidableForallMem found
  decidable_of_iff
    (text.Trimmed ∧ (∀ c ∈ text, c ≠ ';' ∧ c ≠ ',' ∧ c ≠ '\x7d') ∧
      (∀ c ∈ text.head?, c ≠ '"' ∧ c ≠ '\'') ∧ ∀ c ∈ text.getLast?, c ≠ '"' ∧ c ≠ '\'')
    ⟨fun ⟨trimmed, plain, first, last⟩ => ⟨trimmed, plain, first, last⟩,
      fun writable => ⟨writable.trimmed, writable.plain, writable.first, writable.last⟩⟩

/-- A header that a suffix can hold. -/
structure IsHeader (header : Text × Text) : Prop where
  /-- The header has a name. -/
  named : header.1 ≠ []
  /-- No colon stands in the name. -/
  uncut : ':' ∉ header.1
  /-- The name can be told from what stands around it. -/
  name : IsWritable header.1
  /-- So can the value. -/
  value : IsWritable header.2

instance (header : Text × Text) : Decidable (IsHeader header) :=
  decidable_of_iff
    (header.1 ≠ [] ∧ ':' ∉ header.1 ∧ IsWritable header.1 ∧ IsWritable header.2)
    ⟨fun ⟨named, uncut, name, value⟩ => ⟨named, uncut, name, value⟩,
      fun isHeader => ⟨isHeader.named, isHeader.uncut, isHeader.name, isHeader.value⟩⟩

/-- Headers as a suffix holds them: the first one, and each other one behind a sign. -/
def headerList (first : Text × Text) (rest : List (Char × (Text × Text))) : Text :=
  pair first.1 first.2 ++ rest.flatMap fun item => item.1 :: pair item.2.1 item.2.2

theorem IsWritable.unquoted {text : Text} (writable : IsWritable text) :
    Text.trimQuotes (Text.trim text) = text := by
  rw [writable.trimmed.trim_eq_self]
  exact Text.trimWhere_of_ends (fun c head => by simpa using writable.first c head)
    fun c last => by simpa using writable.last c last

namespace IsHeader

variable {header : Text × Text}

theorem plain (isHeader : IsHeader header) :
    ∀ c ∈ pair header.1 header.2, isSeparator c = false ∧ c ≠ '\x7d' := by
  have kept {text : Text} (writable : IsWritable text) :
      ∀ c ∈ text, isSeparator c = false ∧ c ≠ '\x7d' := by
    intro c member
    obtain ⟨semicolon, comma, brace⟩ := writable.plain c member
    exact ⟨by simp [isSeparator, semicolon, comma], brace⟩
  intro c member
  rcases List.mem_append.mp member with inName | rest
  · exact kept isHeader.name c inName
  · rcases List.mem_cons.mp rest with rfl | inValue
    · decide
    · exact kept isHeader.value c inValue

theorem pairs_cons
    (isHeader : IsHeader header)
    (rest : List Text)
    (read : Keyed Text) :
    pairs (pair header.1 header.2 :: rest) read =
      pairs rest (Keyed.put read header.1 header.2) := by
  have name := isHeader.name.unquoted
  rw [pairs_pair isHeader.uncut (by rw [name]; exact isHeader.named), name,
    isHeader.value.unquoted]

end IsHeader

theorem pairs_headers
    {headers : List (Text × Text)}
    (areHeaders : ∀ header ∈ headers, IsHeader header)
    (read : Keyed Text) :
    pairs (headers.map fun header => pair header.1 header.2) read = Keyed.update read headers := by
  induction headers generalizing read with
  | nil => rfl
  | cons header rest hypothesis =>
      obtain ⟨here, others⟩ := List.forall_mem_cons.mp areHeaders
      rw [List.map_cons, here.pairs_cons, hypothesis others]
      rfl

/-- Headers are cut at the signs between them. -/
theorem splitWhere_headerList
    {first : Text × Text}
    {rest : List (Char × (Text × Text))}
    (separated : ∀ item ∈ rest, isSeparator item.1 = true)
    (areHeaders : ∀ header ∈ first :: rest.map Prod.snd, IsHeader header) :
    Text.splitWhere isSeparator [] (headerList first rest) =
      (first :: rest.map Prod.snd).map fun header => pair header.1 header.2 := by
  induction rest generalizing first with
  | nil =>
      have whole := fun c member => ((areHeaders first List.mem_cons_self).plain c member).1
      rw [headerList, List.flatMap_nil, List.append_nil, Text.splitWhere_of_none whole]
      rfl
  | cons item others hypothesis =>
      obtain ⟨here, later⟩ := List.forall_mem_cons.mp separated
      obtain ⟨isHeader, behind⟩ := List.forall_mem_cons.mp areHeaders
      have whole := fun c member => (isHeader.plain c member).1
      have shape : headerList first (item :: others) =
          pair first.1 first.2 ++ item.1 :: headerList item.2 others := rfl
      rw [shape, Text.splitWhere_append_mark whole here, hypothesis later behind]
      rfl

/-- No closing brace stands among headers. -/
theorem not_mem_headerList
    {first : Text × Text}
    {rest : List (Char × (Text × Text))}
    (separated : ∀ item ∈ rest, isSeparator item.1 = true)
    (areHeaders : ∀ header ∈ first :: rest.map Prod.snd, IsHeader header) :
    '\x7d' ∉ headerList first rest := by
  intro member
  rcases List.mem_append.mp member with here | later
  · exact ((areHeaders first List.mem_cons_self).plain _ here).2 rfl
  · obtain ⟨item, among, inside⟩ := List.mem_flatMap.mp later
    rcases List.mem_cons.mp inside with same | inPair
    · have sign := separated item among
      rw [← same] at sign
      cases sign
    · have isHeader := areHeaders item.2 (List.mem_cons_of_mem _ (List.mem_map_of_mem among))
      exact (isHeader.plain _ inPair).2 rfl

/-- A suffix is read as it was written: behind a rule in which no suffix is opened, the headers come
back in their order, with their names and values, and the rule without blanks around it. -/
theorem splitHeaders_written
    {rule : Text}
    (unopened : Unopened headerMark rule)
    {first : Text × Text}
    {rest : List (Char × (Text × Text))}
    (separated : ∀ item ∈ rest, item.1 = ';' ∨ item.1 = ',')
    (areHeaders : ∀ header ∈ first :: rest.map Prod.snd, IsHeader header)
    (distinct : (Keyed.keys (first :: rest.map Prod.snd)).Nodup) :
    splitHeaders (rule ++ written headerMark (headerList first rest)) =
      (Text.trim rule, first :: rest.map Prod.snd) := by
  have apart : ∀ item ∈ rest, isSeparator item.1 = true := by
    intro item member
    rcases separated item member with same | same <;> rw [same] <;> rfl
  have given : headerList first rest ≠ [] := by
    simp [headerList, pair]
  have plain := not_mem_headerList apart areHeaders
  have cut := splitWhere_headerList apart areHeaders
  unfold splitHeaders
  rw [findSuffix_written unopened.closed given plain]
  simp only [List.reverse_nil, List.nil_append]
  have read : Text.splitWhere (fun c => c == ';' || c == ',') [] (headerList first rest) =
      (first :: rest.map Prod.snd).map fun header => pair header.1 header.2 := cut
  rw [read, pairs_headers areHeaders, Keyed.update_nil_of_nodup distinct]

/-- A rule that stops short of a suffix. -/
def unsuffixedRule : Text := "a\n@js:\x7b\x7d @Header: ".toList

/-- Headers behind the first one of a suffix, with the signs before them. -/
def furtherHeaders : List (Char × (Text × Text)) :=
  [(',', ("X-Token".toList, [])), (';', ("b".toList, "c:d".toList))]

/-- A suffix behind that rule, whose first header holds the opening of another one. -/
theorem splitHeaders_written_nested :
    (Unopened headerMark unsuffixedRule ∧
        (∀ item ∈ furtherHeaders, item.1 = ';' ∨ item.1 = ',') ∧
        (∀ header ∈ ("Referer".toList, "host@Header:\x7b".toList) :: furtherHeaders.map Prod.snd,
          IsHeader header) ∧
        (Keyed.keys (("Referer".toList, "host@Header:\x7b".toList) ::
          furtherHeaders.map Prod.snd)).Nodup) ∧
      splitHeaders (unsuffixedRule ++
          "@Header:\x7bReferer:host@Header:\x7b,X-Token:;b:c:d\x7d".toList) =
        ("a\n@js:\x7b\x7d @Header:".toList,
          [("Referer".toList, "host@Header:\x7b".toList), ("X-Token".toList, []),
            ("b".toList, "c:d".toList)]) := by
  have unopened : Unopened headerMark unsuffixedRule := by decide
  have separated : ∀ item ∈ furtherHeaders, item.1 = ';' ∨ item.1 = ',' := by decide
  have areHeaders : ∀ header ∈
      ("Referer".toList, "host@Header:\x7b".toList) :: furtherHeaders.map Prod.snd,
      IsHeader header := by
    decide
  have distinct : (Keyed.keys (("Referer".toList, "host@Header:\x7b".toList) ::
      furtherHeaders.map Prod.snd)).Nodup := by
    decide
  exact ⟨⟨unopened, separated, areHeaders, distinct⟩,
    splitHeaders_written unopened separated areHeaders distinct⟩

/-! ## First lines -/

theorem firstLine_of_hasScript {rule : Text} (scripted : hasScript rule = true) :
    firstLine rule = rule := if_pos scripted

/-- The first line of a rule without scripts is trimmed, no line ends in it, and it stands in the
rule. -/
theorem firstLine_isLine {rule : Text} (scriptless : hasScript rule = false) :
    (firstLine rule).Trimmed ∧ (∀ c ∈ firstLine rule, Text.isBreak c = false) ∧
      firstLine rule <:+: rule := by
  unfold firstLine
  rw [if_neg (by simp [scriptless])]
  split
  case h_1 line found =>
    obtain ⟨inside, unbroken⟩ := Text.mem_lines (List.mem_of_find?_eq_some found)
    have kept := Text.trim_isInfix line
    exact ⟨Text.trimmed_trim line, fun c member => unbroken c (kept.subset member),
      kept.trans inside⟩
  case h_2 => exact ⟨⟨by simp, by simp⟩, by simp, List.nil_infix⟩

theorem firstLine_isInfix (rule : Text) : firstLine rule <:+: rule := by
  cases scripted : hasScript rule with
  | true => rw [firstLine_of_hasScript scripted]
  | false => exact (firstLine_isLine scripted).2.2

/-- A trimmed line is its own first line. -/
theorem firstLine_of_line
    {line : Text}
    (scriptless : hasScript line = false)
    (trimmed : line.Trimmed)
    (unbroken : ∀ c ∈ line, Text.isBreak c = false) :
    firstLine line = line := by
  unfold firstLine
  rw [if_neg (by simp [scriptless])]
  by_cases empty : line = []
  · rw [empty]
    rfl
  · have visible : line.isBlankText = false := by
      rw [← Bool.not_eq_true, ← Text.trim_eq_nil_iff, trimmed.trim_eq_self]
      exact empty
    have alone : (Text.lines line).find? (fun line => !line.isBlankText) = some line := by
      rw [Text.lines_of_unbroken empty unbroken, List.find?_singleton, visible]
      rfl
    rw [alone]
    exact trimmed.trim_eq_self

theorem firstLine_firstLine (rule : Text) : firstLine (firstLine rule) = firstLine rule := by
  cases scripted : hasScript rule with
  | true => rw [firstLine_of_hasScript scripted, firstLine_of_hasScript scripted]
  | false =>
      obtain ⟨trimmed, unbroken, inside⟩ := firstLine_isLine scripted
      exact firstLine_of_line (hasScript_eq_false_of_isInfix inside scripted) trimmed unbroken

end Directive

namespace SourceRule

open Directive (EndsInHeaders headerMark firstLine splitHeaders)

/-! ## Rules that are read again -/

/-- A rule that ends in headers becomes shorter. -/
theorem length_withoutHeaders {rule : Text} (ends : EndsInHeaders rule) :
    (withoutHeaders rule).1.length < rule.length := by
  have found := mt (Directive.findSuffix_eq_none_iff rule).mp (not_not.mpr ends)
  obtain ⟨⟨body, inner⟩, found⟩ := Option.ne_none_iff_exists'.mp found
  have shorter := Directive.length_findSuffix found
  unfold withoutHeaders splitHeaders
  rw [found]
  have inside := (Directive.firstLine_isInfix body.trim).trans (Text.trim_isInfix body)
  exact Nat.lt_of_le_of_lt inside.length_le (by simpa using shorter)

/-- What is left of a rule is read again as it stands, exactly when it does not end in headers. -/
theorem withoutHeaders_eq_self_iff (rule : Text) :
    withoutHeaders (withoutHeaders rule).1 = ((withoutHeaders rule).1, []) ↔
      ¬EndsInHeaders (withoutHeaders rule).1 := by
  constructor
  · intro same ends
    have shorter := length_withoutHeaders ends
    rw [same] at shorter
    exact Nat.lt_irrefl _ shorter
  · intro plain
    unfold withoutHeaders at plain ⊢
    rw [Directive.splitHeaders_of_not_endsInHeaders plain]
    exact congrArg (·, []) (Directive.firstLine_firstLine _)

/-- What is left of a rule is a single trimmed line, unless it holds a script; it is read again as
it stands exactly when it does not end in headers, as it cannot when no further headers stand
before those that the rule ends in. -/
theorem withoutHeaders_again (rule : Text) :
    (hasScript (withoutHeaders rule).1 = false →
      (withoutHeaders rule).1.Trimmed ∧
        ∀ c ∈ (withoutHeaders rule).1, Text.isBreak c = false) ∧
    (withoutHeaders (withoutHeaders rule).1 = ((withoutHeaders rule).1, []) ↔
      ¬EndsInHeaders (withoutHeaders rule).1) ∧
    (Directive.Absent headerMark (splitHeaders rule).1 →
      ¬EndsInHeaders (withoutHeaders rule).1) := by
  have inside : (withoutHeaders rule).1 <:+: (splitHeaders rule).1 :=
    Directive.firstLine_isInfix (splitHeaders rule).1
  refine ⟨fun scriptless => ?_, withoutHeaders_eq_self_iff rule, ?_⟩
  · have scriptlessBefore : hasScript (splitHeaders rule).1 = false := by
      by_contra scripted
      have kept := Directive.firstLine_of_hasScript (Bool.of_not_eq_false scripted)
      exact scripted (kept ▸ scriptless)
    obtain ⟨trimmed, unbroken, -⟩ := Directive.firstLine_isLine scriptlessBefore
    exact ⟨trimmed, unbroken⟩
  · intro absent
    exact Directive.not_endsInHeaders_of_absent (absent.of_isInfix inside)

/-- A rule of two lines that ends in headers. -/
def taggedRule : Text := " a\nb@header:\x7bc:d\x7d "

/-- The first line of that rule is left, and nothing of it is lost when it is read again. -/
theorem withoutHeaders_again_tagged :
    withoutHeaders taggedRule = ("a".toList, [("c".toList, "d".toList)]) ∧
      (withoutHeaders taggedRule).1.Trimmed ∧
      withoutHeaders (withoutHeaders taggedRule).1 = ((withoutHeaders taggedRule).1, []) := by
  obtain ⟨single, again, sole⟩ := withoutHeaders_again taggedRule
  exact ⟨by decide, (single (by decide)).1, again.mpr (sole (by decide))⟩

/-- A rule that ends in headers twice. -/
def twiceTaggedRule : Text := "a@Header:\x7bb:c\x7d@Header:\x7bd:e\x7d"

/-- Only the last headers of that rule are taken off, so more is taken off when it is read again. -/
theorem withoutHeaders_twiceTagged :
    withoutHeaders twiceTaggedRule =
        ("a@Header:\x7bb:c\x7d".toList, [("d".toList, "e".toList)]) ∧
      withoutHeaders (withoutHeaders twiceTaggedRule).1 = ("a".toList, [("b".toList, "c".toList)]) ∧
      withoutHeaders (withoutHeaders twiceTaggedRule).1 ≠
        ((withoutHeaders twiceTaggedRule).1, []) := by
  decide

end SourceRule

end RuleProbe
