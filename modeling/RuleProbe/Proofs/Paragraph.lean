import RuleProbe.Content.Paragraph
import RuleProbe.Proofs.Parts
import RuleProbe.Proofs.Template

/-!
# Paragraphs of a chapter

The body of a chapter is given out as clean paragraphs.  Laying a page out moves blanks only, so
that the lines of the layout that are not blank are those of the page without its markup.
-/

namespace RuleProbe

namespace Text

/-! ## Signs at the beginning of a text -/

/-- A sign is no letter in either case. -/
theorem foldLetter_eq_iff {sign : Char} (low : sign.toNat < 65) {c : Char} :
    foldLetter c = sign ↔ c = sign := by
  have apart {d : Char} (high : 65 ≤ d.toNat) : d ≠ sign := by
    rintro rfl
    omega
  have small : ∀ code ≤ 90, 65 ≤ code → 65 ≤ (Char.ofNat (code + 32)).toNat := by decide
  unfold foldLetter
  split_ifs with capital dotted long kelvin
  · simp only [Bool.and_eq_true, decide_eq_true_eq] at capital
    exact iff_of_false (apart (small _ capital.2 capital.1)) (apart capital.1)
  · simp only [Bool.or_eq_true, beq_iff_eq] at dotted
    exact iff_of_false (apart (by decide)) (apart (by omega))
  · rw [beq_iff_eq] at long
    exact iff_of_false (apart (by decide)) (apart (by omega))
  · rw [beq_iff_eq] at kelvin
    exact iff_of_false (apart (by decide)) (apart (by omega))
  · rfl

theorem beginsFolded_cons (c d : Char) (rest others : Text) :
    beginsFolded (c :: rest) (d :: others) = (d == foldLetter c && beginsFolded rest others) := by
  unfold beginsFolded
  rw [List.length_cons, List.take_succ_cons, List.map_cons]
  rfl

/-- A text that begins with another character does not begin with a sign. -/
theorem beginsFolded_of_ne
    {sign : Char}
    (low : sign.toNat < 65)
    {c : Char}
    (other : c ≠ sign)
    (rest mark : Text) :
    beginsFolded (c :: rest) (sign :: mark) = false := by
  have apart : sign ≠ foldLetter c := fun same => other ((foldLetter_eq_iff low).mp same.symm)
  rw [beginsFolded_cons, beq_eq_false_iff_ne.mpr apart, Bool.false_and]

end Text

namespace Entity

variable {text : Text}

/-! ## References that are read -/

/-- A reference by a decimal number of more digits than a number may have stands in a text. -/
def HoldsLongReference (text : Text) : Prop :=
  ∃ digits : Text, (∀ d ∈ digits, isDigit d = true) ∧ Integer.digitLimit < digits.length ∧
    '&' :: '#' :: digits <:+: text

theorem isOverlong_iff :
    isOverlong text = true ↔
      ∃ digits : Text, (∀ d ∈ digits, isDigit d = true) ∧ Integer.digitLimit < digits.length ∧
        '&' :: '#' :: digits <+: text := by
  unfold isOverlong
  split
  case h_1 rest =>
    simp only [List.cons_prefix_cons, true_and, decide_eq_true_eq]
    constructor
    · intro long
      exact ⟨rest.takeWhile isDigit, fun d member => List.mem_takeWhile_imp member, long,
        List.takeWhile_prefix isDigit⟩
    · rintro ⟨digits, each, long, more, rfl⟩
      rw [List.takeWhile_append_of_pos each, List.length_append]
      omega
  case h_2 other =>
    refine iff_of_false Bool.false_ne_true ?_
    rintro ⟨digits, -, -, more, rfl⟩
    exact other (digits ++ more) rfl

theorem hasOverlong_iff : hasOverlong text = true ↔ HoldsLongReference text := by
  unfold HoldsLongReference
  induction text with
  | nil => simp [hasOverlong]
  | cons c rest hypothesis =>
      rw [hasOverlong, Bool.or_eq_true, isOverlong_iff, hypothesis]
      simp only [List.infix_cons_iff, and_or_left, exists_or]

theorem check_of_long (long : HoldsLongReference text) :
    check text = .error (.defect (.longReference text)) := if_pos (hasOverlong_iff.mpr long)

theorem check_of_short (short : ¬HoldsLongReference text) : check text = .ok () :=
  if_neg fun long => short (hasOverlong_iff.mp long)

theorem not_holdsLongReference (absent : '&' ∉ text) : ¬HoldsLongReference text := by
  rintro ⟨digits, -, -, inside⟩
  exact absent (inside.subset List.mem_cons_self)

/-- Without an ampersand no reference is read. -/
theorem decode_of_absent (absent : '&' ∉ text) : decode text = text := by
  unfold decode
  induction text with
  | nil => rfl
  | cons c rest hypothesis =>
      rw [List.mem_cons, not_or] at absent
      rw [decodeAux, if_neg (by simpa using Ne.symm absent.1), hypothesis absent.2]

end Entity

namespace Paragraph

variable {text : Text}

/-! ## Pages without markup -/

/-- Neither tags nor characters without width stand in a text, and no reference by name. -/
structure IsUnmarked (text : Text) : Prop where
  /-- No angle bracket opens a tag. -/
  untagged : '<' ∉ text
  /-- Each character has a width. -/
  thick : ∀ c ∈ text, isThin c = false
  /-- An ampersand begins a reference by number. -/
  numbered : ∀ rest, '&' :: rest <:+ text → rest.head? = some '#'

/-- A reference by name: no number follows the ampersand. -/
def isNamed : Text → Bool
  | '&' :: d :: _ => d != '#'
  | _ => false

theorem referenceLength_eq_zero
    {names : List Text}
    (named : ∀ name ∈ names, isNamed name = true)
    {c : Char}
    {rest : Text}
    (numbered : c = '&' → rest.head? = some '#') :
    referenceLength names (c :: rest) = 0 := by
  have missed : (names.find? fun name => Text.beginsFolded (c :: rest) name) = none := by
    refine List.find?_eq_none.mpr fun name member begins => ?_
    have isName := named name member
    unfold isNamed at isName
    split at isName
    case h_1 d others =>
      by_cases here : c = '&'
      · obtain ⟨more, rfl⟩ := List.head?_eq_some_iff.mp (numbered here)
        rw [Text.beginsFolded_cons, Text.beginsFolded_cons] at begins
        simp only [Bool.and_eq_true, beq_iff_eq] at begins
        have sign : Text.foldLetter '#' = '#' := by decide
        rw [begins.2.1, sign] at isName
        exact absurd isName (by decide)
      · rw [Text.beginsFolded_of_ne (by decide) here] at begins
        cases begins
    case h_2 => cases isName
  unfold referenceLength
  rw [missed]

theorem elementLength_eq_zero {c : Char} (untagged : c ≠ '<') (name rest : Text) :
    elementLength name (c :: rest) = 0 := by
  have unopened : Text.beginsFolded (c :: rest) ('<' :: name) = false :=
    Text.beginsFolded_of_ne (by decide) untagged rest name
  simp only [elementLength, unopened, Bool.false_eq_true, if_false]

theorem commentLength_eq_zero {c : Char} (untagged : c ≠ '<') (rest : Text) :
    commentLength (c :: rest) = 0 := by
  have unopened : Text.startsWith (c :: rest) "<!--".toList = false := by
    have apart : ('<' == c) = false := beq_eq_false_iff_ne.mpr (Ne.symm untagged)
    exact (congrArg (· && _) apart).trans (Bool.false_and _)
  simp only [commentLength, unopened, Bool.false_eq_true, if_false]

theorem dropOpening_eq_none {c : Char} (untagged : c ≠ '<') (rest : Text) :
    dropOpening (c :: rest) = none := by
  unfold dropOpening
  split
  case h_1 => simp_all
  case h_2 => simp_all
  case h_3 => rfl

theorem blockTagLength_eq_zero {c : Char} (untagged : c ≠ '<') (rest : Text) :
    blockTagLength (c :: rest) = 0 := by
  rw [blockTagLength, dropOpening_eq_none untagged]

theorem tagLength_eq_zero {c : Char} (untagged : c ≠ '<') (rest : Text) :
    tagLength (c :: rest) = 0 := by
  rw [tagLength, dropOpening_eq_none untagged]

/-- Where the length of what is found is zero, a text stays. -/
theorem rewrite_of_zero
    {value : Text}
    {length : Text → Nat}
    (zero : ∀ c rest, c :: rest <:+ text → length (c :: rest) = 0) :
    Text.rewrite (fun rest => replacing value (length rest)) text = text :=
  Text.rewrite_of_unfound fun c rest behind => by
    rw [zero c rest behind]
    rfl

/-- A page without markup stays. -/
theorem dropMarkup_of_unmarked (unmarked : IsUnmarked text) : dropMarkup text = text := by
  have untagged {c rest} (behind : c :: rest <:+ text) : c ≠ '<' := by
    rintro rfl
    exact unmarked.untagged (behind.subset List.mem_cons_self)
  have numbered {c rest} (behind : c :: rest <:+ text) : c = '&' → rest.head? = some '#' := by
    rintro rfl
    exact unmarked.numbered rest behind
  have soft : softenBlanks text = text := rewrite_of_zero fun c rest behind => by
    have absent : referenceLength ["&nbsp;".toList] (c :: rest) = 0 :=
      referenceLength_eq_zero (by decide) (numbered behind)
    rw [List.length_cons, hardBlankLength, absent]
    rfl
  have narrow : narrowBlanks text = text := rewrite_of_zero fun _ _ behind =>
    referenceLength_eq_zero (by decide) (numbered behind)
  have thick : dropThin text = text := rewrite_of_zero fun c rest behind => by
    have wide : isThin c = false := unmarked.thick c (behind.subset List.mem_cons_self)
    rw [List.head?_cons, Option.any_some, wide, if_neg Bool.false_ne_true]
    exact referenceLength_eq_zero (by decide) (numbered behind)
  have uncommented : dropComments text = text := rewrite_of_zero fun _ rest behind =>
    commentLength_eq_zero (untagged behind) rest
  have scriptless : dropScripts text = text := rewrite_of_zero fun c rest behind => by
    rw [elementLength_eq_zero (untagged behind), elementLength_eq_zero (untagged behind),
      Nat.max_self]
  have unbroken : breakBlocks text = text := rewrite_of_zero fun _ rest behind =>
    blockTagLength_eq_zero (untagged behind) rest
  have tagless : dropTags text = text := rewrite_of_zero fun _ rest behind =>
    tagLength_eq_zero (untagged behind) rest
  rw [dropMarkup, soft, narrow, thick, uncommented, scriptless, unbroken, tagless]

/-- Neither tags nor references nor characters without width stand in a text. -/
def IsPlain (text : Text) : Prop := ∀ c ∈ text, c ≠ '<' ∧ c ≠ '&' ∧ isThin c = false

instance (text : Text) : Decidable (IsPlain text) :=
  List.decidableBAll _ text

namespace IsPlain

variable (plain : IsPlain text)

include plain

theorem no_ampersand : '&' ∉ text := fun member => (plain _ member).2.1 rfl

theorem isUnmarked : IsUnmarked text where
  untagged member := (plain _ member).1 rfl
  thick c member := (plain c member).2.2
  numbered _ behind := absurd (behind.subset List.mem_cons_self) plain.no_ampersand

end IsPlain

/-! ## The lines of a layout -/

/-- The lines of a text that are not blank, each without the blanks around it. -/
def visibleLines (text : Text) : List Text := Text.visibleParts (· == '\n') [] text

theorem isBlank_of_mem_indent : ∀ c ∈ indent, Text.isBlank c = true :=
  List.all_eq_true.mp (by decide)

/-- What a run of blanks becomes ends a line where the run does. -/
theorem visibleParts_closeRun
    {run : Text}
    (blank : ∀ c ∈ run, Text.isBlank c = true)
    (past text : Text) :
    Text.visibleParts (· == '\n') past (closeRun run ++ text) =
      Text.visibleParts (· == '\n') past (run.reverse ++ text) := by
  unfold closeRun
  split
  case isTrue broken =>
    have member : '\n' ∈ run := by simpa using broken
    have added : ∀ c ∈ '\n' :: indent, Text.isBlank c = true := List.all_eq_true.mp (by decide)
    rw [Text.visibleParts_blanks_mark added ⟨'\n', List.mem_cons_self, rfl⟩,
      Text.visibleParts_blanks_mark (by simpa using blank) ⟨'\n', by simpa using member, rfl⟩]
  case isFalse => rfl

/-- Reducing runs of blanks changes no line. -/
theorem visibleParts_reduceBreaks
    {run : Text}
    (blank : ∀ c ∈ run, Text.isBlank c = true)
    (past text : Text) :
    Text.visibleParts (· == '\n') past (reduceBreaks run text) =
      Text.visibleParts (· == '\n') past (run.reverse ++ text) := by
  induction text generalizing run past with
  | nil => simpa [reduceBreaks] using visibleParts_closeRun blank past []
  | cons c rest hypothesis =>
      rw [reduceBreaks]
      split
      case isTrue isBlank =>
        rw [hypothesis (List.forall_mem_cons.mpr ⟨isBlank, blank⟩), List.reverse_cons,
          List.append_assoc, List.singleton_append]
      case isFalse =>
        have behind (past : Text) :
            Text.visibleParts (· == '\n') past (c :: reduceBreaks [] rest) =
              Text.visibleParts (· == '\n') past (c :: rest) :=
          Text.visibleParts_append_congr (fun past => hypothesis (by simp) past) past [c]
        rw [visibleParts_closeRun blank, Text.visibleParts_append_congr behind]

theorem visibleLines_indentStart (text : Text) :
    visibleLines (indentStart text) = visibleLines text := by
  unfold indentStart visibleLines
  split
  case isTrue =>
    have blank : ∀ c ∈ text.takeWhile Text.isBlank, Text.isBlank c = true := fun c member =>
      List.mem_takeWhile_imp member
    calc Text.visibleParts (· == '\n') [] (indent ++ text.trimLeft)
      _ = Text.visibleParts (· == '\n') [] (text.dropWhile Text.isBlank) :=
          Text.visibleParts_blanks_append isBlank_of_mem_indent _
      _ = Text.visibleParts (· == '\n') []
            (text.takeWhile Text.isBlank ++ text.dropWhile Text.isBlank) :=
          (Text.visibleParts_blanks_append blank _).symm
      _ = Text.visibleParts (· == '\n') [] text := by rw [List.takeWhile_append_dropWhile]
  case isFalse => rfl

theorem visibleLines_trimRight (text : Text) :
    visibleLines text.trimRight = visibleLines text := by
  have blank : ∀ c ∈ text.rtakeWhile Text.isBlank, Text.isBlank c = true := fun c member =>
    List.mem_rtakeWhile_imp member
  have parts : text.trimRight ++ text.rtakeWhile Text.isBlank = text :=
    List.rdropWhile_append_rtakeWhile
  calc visibleLines text.trimRight
    _ = visibleLines (text.trimRight ++ text.rtakeWhile Text.isBlank) :=
        (Text.visibleParts_append_blanks blank [] _).symm
    _ = visibleLines text := by rw [parts]

/-- A layout has the lines of its page without markup. -/
theorem visibleLines_layOut (page : Text) :
    visibleLines (layOut page) = visibleLines (dropMarkup page) := by
  rw [layOut, visibleLines_trimRight, visibleLines_indentStart]
  exact visibleParts_reduceBreaks (by simp) [] (dropMarkup page)

/-! ## The characters of a layout -/

theorem mem_closeRun {run : Text} {c : Char} (member : c ∈ closeRun run) :
    c ∈ run ∨ c ∈ '\n' :: indent := by
  unfold closeRun at member
  split at member
  · exact .inr member
  · exact .inl (by simpa using member)

theorem mem_reduceBreaks {run : Text} {c : Char} (member : c ∈ reduceBreaks run text) :
    c ∈ run ∨ c ∈ text ∨ c ∈ '\n' :: indent := by
  induction text generalizing run with
  | nil => exact (mem_closeRun member).imp_right .inr
  | cons d rest hypothesis =>
      rw [reduceBreaks] at member
      split at member
      · rcases hypothesis member with here | later | added
        · rcases List.mem_cons.mp here with rfl | early
          · exact .inr (.inl List.mem_cons_self)
          · exact .inl early
        · exact .inr (.inl (List.mem_cons_of_mem _ later))
        · exact .inr (.inr added)
      · rcases List.mem_append.mp member with early | late
        · exact (mem_closeRun early).imp_right .inr
        · rcases List.mem_cons.mp late with rfl | behind
          · exact .inr (.inl List.mem_cons_self)
          · rcases hypothesis behind with none | later | added
            · cases none
            · exact .inr (.inl (List.mem_cons_of_mem _ later))
            · exact .inr (.inr added)

/-- A layout holds characters of the page without markup, breaks and indents. -/
theorem mem_layOut {page : Text} {c : Char} (member : c ∈ layOut page) :
    c ∈ dropMarkup page ∨ c ∈ '\n' :: indent := by
  have kept : c ∈ indentStart (reduceBreaks [] (dropMarkup page)) :=
    (List.rdropWhile_prefix Text.isBlank _).subset member
  have inside : c ∈ reduceBreaks [] (dropMarkup page) ∨ c ∈ '\n' :: indent := by
    unfold indentStart at kept
    split at kept
    · rcases List.mem_append.mp kept with early | late
      · exact .inr (List.mem_cons_of_mem _ early)
      · exact .inl ((List.dropWhile_suffix _).subset late)
    · exact .inl kept
  rcases inside with given | added
  · rcases mem_reduceBreaks given with none | given | added
    · cases none
    · exact .inl given
    · exact .inr added
  · exact .inr added

theorem IsPlain.layOut (plain : IsPlain text) : IsPlain (layOut text) := by
  have added : IsPlain ('\n' :: indent) := by decide
  intro c member
  rcases mem_layOut member with given | here
  · rw [dropMarkup_of_unmarked plain.isUnmarked] at given
    exact plain c given
  · exact added c here

/-! ## Paragraphs -/

/-- A paragraph without its indent. -/
structure IsLine (line : Text) : Prop where
  /-- It is not empty. -/
  given : line ≠ []
  /-- No blank stands at either end of it. -/
  trimmed : line.Trimmed
  /-- It is a single line. -/
  unbroken : '\n' ∉ line

/-- Lines as paragraphs: each with an indent, and breaks between them. -/
def paragraphs (lines : List Text) : Text := Text.join ['\n'] (lines.map (indent ++ ·))

/-- A text is empty or falls into indented paragraphs. -/
def IsClean (text : Text) : Prop := ∃ lines, (∀ line ∈ lines, IsLine line) ∧ text = paragraphs lines

theorem isLine_of_mem_visibleLines {line : Text} (member : line ∈ visibleLines text) :
    IsLine line :=
  have ⟨given, trimmed, unbroken⟩ := Text.of_mem_visibleParts member
  ⟨given, trimmed, unbroken⟩

theorem isClean_paragraphs (text : Text) : IsClean (paragraphs (visibleLines text)) :=
  ⟨visibleLines text, fun _ => isLine_of_mem_visibleLines, rfl⟩

theorem IsLine.visibleLines_eq {line : Text} (isLine : IsLine line) :
    visibleLines (indent ++ line) = [line] :=
  (Text.visibleParts_blanks_append isBlank_of_mem_indent line).trans
    (Text.visibleParts_of_unmarked isLine.given isLine.trimmed
      (Text.unmarked_of_not_mem isLine.unbroken))

/-- The lines of paragraphs are read back. -/
theorem visibleLines_paragraphs {lines : List Text} (each : ∀ line ∈ lines, IsLine line) :
    visibleLines (paragraphs lines) = lines := by
  calc visibleLines (paragraphs lines)
    _ = (lines.map (indent ++ ·)).flatMap visibleLines := Text.visibleParts_join (by decide) _
    _ = lines.flatMap fun line => visibleLines (indent ++ line) := List.flatMap_map ..
    _ = lines.flatMap fun line => [line] :=
        List.flatMap_congr fun line member => (each line member).visibleLines_eq
    _ = lines := List.flatMap_singleton' lines

/-- A line becomes a paragraph unless it is blank; one that is trimmed has no indent yet. -/
theorem ofLine?_eq (line : Text) :
    ofLine? line = if line.trim.isEmpty then none else some (indent ++ line.trim) := by
  have unindented : line.trim.startsWith indent = false := by
    rw [Bool.eq_false_iff]
    intro indented
    obtain ⟨rest, whole⟩ := List.isPrefixOf_iff_prefix.mp indented
    exact absurd ((Text.trimmed_trim line).first '\u3000' (by rw [← whole]; rfl)) (by decide)
  unfold ofLine?
  simp only [unindented, Bool.false_eq_true, if_false]

/-- A body becomes the paragraphs of the lines of its page. -/
theorem ofContent_eq (content : Text) :
    ofContent content = paragraphs (visibleLines (ofPage content)) := by
  unfold ofContent paragraphs visibleLines Text.visibleParts
  refine congrArg (Text.join ['\n']) ?_
  induction Text.splitWhere (· == '\n') [] (ofPage content) with
  | nil => rfl
  | cons line others hypothesis =>
      rw [List.filterMap_cons, ofLine?_eq, hypothesis, List.map_cons, List.filter_cons]
      cases line.trim.isEmpty <;> rfl

/-- A body whose references can be read becomes the paragraphs of the lines of its page. -/
theorem readContent_of_short (short : ¬Entity.HoldsLongReference (layOut text)) :
    readContent text = .ok (paragraphs (visibleLines (ofPage text))) := by
  rw [readContent, Entity.check_of_short short, ofContent_eq]
  rfl

theorem readContent_of_long (long : Entity.HoldsLongReference (layOut text)) :
    readContent text = .error (.defect (.longReference (layOut text))) := by
  rw [readContent, Entity.check_of_long long]
  rfl

/-- Without markup the lines of a body are those that become paragraphs. -/
theorem readContent_of_plain (plain : IsPlain text) :
    readContent text = .ok (paragraphs (visibleLines text)) := by
  have absent := plain.layOut.no_ampersand
  have lines : visibleLines (ofPage text) = visibleLines text := by
    rw [ofPage, Entity.decode_of_absent absent, visibleLines_layOut,
      dropMarkup_of_unmarked plain.isUnmarked]
  rw [readContent_of_short (Entity.not_holdsLongReference absent), lines]

/-- A body is given out as clean paragraphs, unless a reference by number in it is too long to be
read.  Without markup the paragraphs are the lines that are not blank, trimmed and in order, so that
reading such paragraphs again changes nothing. -/
theorem readContent_clean (content : Text) :
    (¬Entity.HoldsLongReference (layOut content) →
        ∃ output, readContent content = .ok output ∧ IsClean output) ∧
      (Entity.HoldsLongReference (layOut content) →
        readContent content = .error (.defect (.longReference (layOut content)))) ∧
      (IsPlain content → readContent content = .ok (paragraphs (visibleLines content))) ∧
      ∀ output, readContent content = .ok output → IsPlain output →
        readContent output = .ok output := by
  refine ⟨fun short => ⟨_, readContent_of_short short, isClean_paragraphs _⟩,
    readContent_of_long, readContent_of_plain, ?_⟩
  intro output read plain
  have short : ¬Entity.HoldsLongReference (layOut content) := by
    intro long
    rw [readContent_of_long long] at read
    cases read
  obtain rfl := Except.ok.inj ((readContent_of_short short).symm.trans read)
  rw [readContent_of_plain plain, visibleLines_paragraphs fun line => isLine_of_mem_visibleLines]

/-- A body of two lines with blanks of several kinds. -/
def blankBody : Text := " a b\t\n \u3000\n\n\u3000c \n"

/-- The two lines become two paragraphs, which stay as they are. -/
theorem readContent_clean_blankBody :
    IsPlain blankBody ∧ ¬Entity.HoldsLongReference (layOut blankBody) ∧
      readContent blankBody = .ok "\u3000\u3000a b\n\u3000\u3000c".toList ∧
      IsPlain "\u3000\u3000a b\n\u3000\u3000c" ∧
      readContent "\u3000\u3000a b\n\u3000\u3000c" =
        .ok "\u3000\u3000a b\n\u3000\u3000c".toList ∧
      IsClean "\u3000\u3000a b\n\u3000\u3000c" := by
  obtain ⟨clean, -, lines, again⟩ := readContent_clean blankBody
  have plain : IsPlain blankBody := by decide
  have short : ¬Entity.HoldsLongReference (layOut blankBody) :=
    Entity.not_holdsLongReference plain.layOut.no_ampersand
  have read : readContent blankBody = .ok "\u3000\u3000a b\n\u3000\u3000c".toList :=
    (lines plain).trans (by decide)
  have plainAgain : IsPlain "\u3000\u3000a b\n\u3000\u3000c" := by decide
  obtain ⟨output, same, isClean⟩ := clean short
  rw [read] at same
  obtain rfl := Except.ok.inj same
  exact ⟨plain, short, read, plainAgain, again _ read plainAgain, isClean⟩

/-! ## References that are too long -/

/-- A text in which no line breaks is no run of blanks to reduce. -/
theorem reduceBreaks_of_unbroken
    {run : Text}
    (unbrokenRun : '\n' ∉ run)
    (unbroken : '\n' ∉ text) :
    reduceBreaks run text = run.reverse ++ text := by
  induction text generalizing run with
  | nil =>
      rw [reduceBreaks, closeRun, if_neg (by simpa using unbrokenRun), List.append_nil]
  | cons c rest hypothesis =>
      rw [List.mem_cons, not_or] at unbroken
      rw [reduceBreaks]
      split
      case isTrue =>
        have unbrokenMore : '\n' ∉ c :: run := by simp [unbroken.1, unbrokenRun]
        rw [hypothesis unbrokenMore unbroken.2, List.reverse_cons, List.append_assoc,
          List.singleton_append]
      case isFalse =>
        rw [closeRun, if_neg (by simpa using unbrokenRun),
          hypothesis List.not_mem_nil unbroken.2, List.reverse_nil, List.nil_append]

/-- A single line without markup is its own layout. -/
theorem layOut_of_isLine (isLine : IsLine text) (unmarked : IsUnmarked text) :
    layOut text = text := by
  have start : text.head?.any Text.isBlank = false := by
    cases begins : text.head? with
    | none => rfl
    | some c => exact isLine.trimmed.first c begins
  have last : text.trimRight = text := by
    refine List.rdropWhile_eq_self_iff.mpr fun nonempty => ?_
    rw [isLine.trimmed.last _ (List.getLast?_eq_some_getLast nonempty)]
    exact Bool.false_ne_true
  rw [layOut, dropMarkup_of_unmarked unmarked,
    reduceBreaks_of_unbroken List.not_mem_nil isLine.unbroken, List.reverse_nil, List.nil_append,
    indentStart, start, if_neg Bool.false_ne_true, last]

/-- A reference by a number of 4301 digits. -/
def longReference : Text := '&' :: '#' :: List.replicate (Integer.digitLimit + 1) '1'

theorem eq_of_mem_longReference {c : Char} (member : c ∈ longReference) : c ∈ ['&', '#', '1'] := by
  rcases List.mem_cons.mp member with rfl | later
  · decide
  · rcases List.mem_cons.mp later with rfl | digit
    · decide
    · rw [List.eq_of_mem_replicate digit]
      decide

theorem isLine_longReference : IsLine longReference where
  given := List.cons_ne_nil _ _
  trimmed := by
    have digits : longReference = '&' :: ('#' :: List.replicate Integer.digitLimit '1' ++ ['1']) := by
      rw [longReference, List.replicate_succ', List.cons_append]
    rw [digits]
    exact Text.trimmed_between (by decide) _ (by decide)
  unbroken member := absurd (eq_of_mem_longReference member) (by decide)

theorem isUnmarked_longReference : IsUnmarked longReference where
  untagged member := absurd (eq_of_mem_longReference member) (by decide)
  thick c member := by
    have signs : IsPlain ['#', '1'] := by decide
    rcases List.mem_cons.mp (eq_of_mem_longReference member) with rfl | sign
    · decide
    · exact (signs c sign).2.2
  numbered rest behind := by
    rcases List.suffix_cons_iff.mp behind with whole | inside
    · rw [(List.cons.inj whole).2]
      rfl
    · have later := inside.subset List.mem_cons_self
      simp at later

/-- A long reference is refused, instead of being read as a number that is no character. -/
theorem readContent_longReference_escapes :
    readContent longReference = .error (.defect (.longReference longReference)) ∧
      ¬∃ output, readContent longReference = .ok output ∧ IsClean output := by
  have laid := layOut_of_isLine isLine_longReference isUnmarked_longReference
  have holds : Entity.HoldsLongReference longReference := by
    refine ⟨List.replicate (Integer.digitLimit + 1) '1', fun d member => ?_, by simp,
      List.infix_rfl⟩
    rw [List.eq_of_mem_replicate member]
    rfl
  have escapes : readContent longReference = .error (.defect (.longReference longReference)) := by
    rw [readContent_of_long (laid.symm ▸ holds), laid]
  refine ⟨escapes, ?_⟩
  rintro ⟨output, read, -⟩
  rw [escapes] at read
  cases read

end Paragraph

end RuleProbe
