import Mathlib.Data.List.Infix
import RuleProbe.Proofs.Stage.ChapterPage
import RuleProbe.Proofs.Template

/-!
# Search addresses of manga sources

The address of a search names the keyword and the page by plain words.  The words are replaced in
turn, first that of the keyword and then that of the page, and the keyword is not escaped.  So the
address is the template with the keyword and the page put in at once, as long as the keyword makes
no further word for the page.

Replacing a mark in a text rewrites it from left to right.  The marks here begin with a character
that does not come again in them, so no two of them overlap, and a text consists of marks and of
characters at which no mark begins.  How often a mark stands in a text tells what replacing it does:
a start of the text in which no mark begins stays as it is.
-/

namespace RuleProbe

namespace Text

/-! ## Places of a mark -/

/-- The number of places of a text at which a mark stands. -/
def occurrences (mark text : Text) : Nat := text.tails.countP fun rest => mark.isPrefixOf rest

variable {c : Char} {mark others start rest new : Text}

theorem occurrences_nil (given : mark ≠ []) : occurrences mark [] = 0 := by
  cases mark with
  | nil => exact absurd rfl given
  | cons => rfl

theorem occurrences_cons :
    occurrences mark (c :: rest) =
      occurrences mark rest + if mark.isPrefixOf (c :: rest) then 1 else 0 := by
  rw [occurrences, List.tails_cons, List.countP_cons]
  rfl

theorem occurrences_le_append (mark start rest : Text) :
    occurrences mark rest ≤ occurrences mark (start ++ rest) := by
  induction start with
  | nil => exact Nat.le_refl _
  | cons c others hypothesis =>
      rw [List.cons_append, occurrences_cons]
      omega

/-- A mark does not begin with another character than its first one. -/
theorem not_isPrefixOf_of_ne {d : Char} (differ : d ≠ c) (others rest : Text) :
    List.isPrefixOf (c :: others) (d :: rest) = false := by
  simp [List.isPrefixOf, Ne.symm differ]

theorem occurrences_append_of_not_mem (absent : c ∉ start) :
    occurrences (c :: others) (start ++ rest) = occurrences (c :: others) rest := by
  induction start with
  | nil => rfl
  | cons d more hypothesis =>
      obtain ⟨differ, later⟩ := not_or.mp (mt List.mem_cons.mpr absent)
      rw [List.cons_append, occurrences_cons, not_isPrefixOf_of_ne (Ne.symm differ),
        hypothesis later]
      rfl

/-- A mark stands at its own beginning, and nowhere else in itself. -/
theorem occurrences_mark_append (once : c ∉ others) (rest : Text) :
    occurrences (c :: others) (c :: others ++ rest) = occurrences (c :: others) rest + 1 := by
  rw [List.cons_append, occurrences_cons, occurrences_append_of_not_mem once, if_pos]
  simp

/-- A mark that begins alike does not count. -/
theorem occurrences_other_append
    {more : Text}
    (once : c ∉ more)
    (apart : List.isPrefixOf (c :: others) (c :: more ++ rest) = false) :
    occurrences (c :: others) (c :: more ++ rest) = occurrences (c :: others) rest := by
  rw [List.cons_append] at apart ⊢
  rw [occurrences_cons, occurrences_append_of_not_mem once, apart]
  rfl

/-! ## Replacing -/

/-- What replaces a mark at the beginning of a text, and the length of the mark. -/
def replacing (mark new text : Text) : Option (Text × Nat) :=
  if mark.isPrefixOf text then some (new, mark.length) else none

theorem splitAux_ne_nil (mark : Text) (skip : Nat) (part text : Text) :
    splitAux mark skip part text ≠ [] := by
  fun_induction splitAux mark skip part text with
  | case1 => exact List.cons_ne_nil _ _
  | case2 _ _ _ _ hypothesis => exact hypothesis
  | case3 => exact List.cons_ne_nil _ _
  | case4 _ _ _ _ hypothesis => exact hypothesis

theorem join_splitAux
    (given : mark ≠ [])
    (skip : Nat)
    (part text : Text) :
    join new (splitAux mark skip part text) =
      part.reverse ++ rewriteAux (replacing mark new) skip text := by
  fun_induction splitAux mark skip part text with
  | case1 => simp [join, rewriteAux]
  | case2 skip part c rest hypothesis => rw [hypothesis, rewriteAux]
  | case3 part c rest begins hypothesis =>
      obtain ⟨first, more, shape⟩ := List.exists_cons_of_ne_nil
        (splitAux_ne_nil mark (mark.length - 1) [] rest)
      have length : mark.length = mark.length - 1 + 1 := by
        have positive := List.length_pos_iff.mpr given
        omega
      have found : replacing mark new (c :: rest) = some (new, mark.length - 1 + 1) := by
        rw [← length]
        exact if_pos begins
      rw [join] at hypothesis ⊢
      rw [shape] at hypothesis ⊢
      rw [List.intercalate_cons_cons, hypothesis, rewriteAux, found, List.append_assoc]
      rfl
  | case4 part c rest other hypothesis =>
      rw [hypothesis, rewriteAux_cons_of_none (if_neg other), List.reverse_cons,
        List.append_assoc]
      rfl

/-- Replacing a mark rewrites a text. -/
theorem replaceAll_eq_rewrite (given : mark ≠ []) (new text : Text) :
    replaceAll mark new text = rewrite (replacing mark new) text :=
  join_splitAux given 0 [] text

theorem replaceAll_nil (given : mark ≠ []) : replaceAll mark new [] = [] := by
  rw [replaceAll_eq_rewrite given]
  rfl

theorem replaceAll_mark_append (given : mark ≠ []) (new rest : Text) :
    replaceAll mark new (mark ++ rest) = new ++ replaceAll mark new rest := by
  obtain ⟨c, others, rfl⟩ := List.exists_cons_of_ne_nil given
  have turns : Turns (replacing (c :: others) new) (c :: others) new :=
    Turns.replaced fun rest => if_pos (List.isPrefixOf_iff_prefix.mpr (List.prefix_append _ _))
  rw [replaceAll_eq_rewrite given, replaceAll_eq_rewrite given]
  exact turns rest

theorem replaceAll_cons
    (given : mark ≠ [])
    (other : mark.isPrefixOf (c :: rest) = false) :
    replaceAll mark new (c :: rest) = c :: replaceAll mark new rest := by
  rw [replaceAll_eq_rewrite given, replaceAll_eq_rewrite given]
  exact rewriteAux_cons_of_none (if_neg (by simp [other]))

theorem replaceAll_append_of_not_mem (absent : c ∉ start) :
    replaceAll (c :: others) new (start ++ rest) = start ++ replaceAll (c :: others) new rest := by
  induction start with
  | nil => rfl
  | cons d more hypothesis =>
      obtain ⟨differ, later⟩ := not_or.mp (mt List.mem_cons.mpr absent)
      rw [List.cons_append, replaceAll_cons (List.cons_ne_nil _ _)
        (not_isPrefixOf_of_ne (Ne.symm differ) _ _), hypothesis later]
      rfl

/-- A mark that begins alike stays. -/
theorem replaceAll_other_append
    {more : Text}
    (once : c ∉ more)
    (apart : List.isPrefixOf (c :: others) (c :: more ++ rest) = false) :
    replaceAll (c :: others) new (c :: more ++ rest) =
      c :: more ++ replaceAll (c :: others) new rest := by
  rw [List.cons_append] at apart ⊢
  rw [replaceAll_cons (List.cons_ne_nil _ _) apart, replaceAll_append_of_not_mem once]
  rfl

/-- A start at which no mark begins stays. -/
theorem replaceAll_append_of_occurrences
    (given : mark ≠ [])
    (same : occurrences mark (start ++ rest) = occurrences mark rest) :
    replaceAll mark new (start ++ rest) = start ++ replaceAll mark new rest := by
  induction start with
  | nil => rfl
  | cons c more hypothesis =>
      have fewer := occurrences_le_append mark more rest
      rw [List.cons_append, occurrences_cons] at same
      cases begins : mark.isPrefixOf (c :: (more ++ rest)) with
      | true =>
          rw [begins, if_pos rfl] at same
          omega
      | false =>
          rw [begins] at same
          rw [List.cons_append, replaceAll_cons given begins, hypothesis same]
          rfl

/-! ## Marks and characters -/

/-- A text consists of marks and of characters at which none of the marks begins. -/
theorem induction_marks
    {motive : Text → Prop}
    (marks : List Text)
    (given : ∀ mark ∈ marks, mark ≠ [])
    (nil : motive [])
    (mark : ∀ mark ∈ marks, ∀ rest, motive rest → motive (mark ++ rest))
    (char : ∀ c rest, (∀ mark ∈ marks, mark.isPrefixOf (c :: rest) = false) → motive rest →
      motive (c :: rest))
    (text : Text) :
    motive text := by
  induction length : text.length using Nat.strongRecOn generalizing text with
  | _ n hypothesis =>
      subst length
      cases text with
      | nil => exact nil
      | cons c rest =>
          by_cases begins : ∃ found ∈ marks, found <+: c :: rest
          · obtain ⟨found, among, later, split⟩ := begins
            have positive := List.length_pos_iff.mpr (given found among)
            have shorter : later.length < (c :: rest).length := by
              rw [← split, List.length_append]
              omega
            rw [← split]
            exact mark found among later (hypothesis _ shorter later rfl)
          · refine char c rest (fun found among => ?_) (hypothesis _ (Nat.lt_succ_self _) rest rfl)
            rw [← Bool.not_eq_true, List.isPrefixOf_iff_prefix]
            exact fun isPrefix => begins ⟨found, among, isPrefix⟩

/-- A letter that a mark holds once, and its replacement not at all, is lost once wherever the mark
is replaced. -/
theorem count_replaceAll
    {letter : Char}
    (once : c ∉ others)
    (single : (c :: others).count letter = 1)
    (missing : letter ∉ new)
    (text : Text) :
    (replaceAll (c :: others) new text).count letter + occurrences (c :: others) text =
      text.count letter := by
  have given : c :: others ≠ [] := List.cons_ne_nil _ _
  induction text using induction_marks [c :: others] (by simp) with
  | nil =>
      rw [replaceAll_nil given, occurrences_nil given]
      rfl
  | mark found among rest hypothesis =>
      rw [List.mem_singleton.mp among, replaceAll_mark_append given, occurrences_mark_append once,
        List.count_append, List.count_append, List.count_eq_zero.mpr missing, single]
      omega
  | char d rest other hypothesis =>
      have begins := other _ List.mem_cons_self
      rw [replaceAll_cons given begins, occurrences_cons, begins, List.count_cons, List.count_cons]
      simp only [Bool.false_eq_true, if_false]
      omega

end Text

namespace Integer

/-- A number is written without letters. -/
theorem not_mem_write {letter : Char} (noDigit : letter.isDigit = false) (noSign : letter ≠ '-')
    (n : Int) : letter ∉ write n := by
  have digits (n : Nat) : letter ∉ writeNat n := by
    intro member
    rw [Nat.isDigit_of_mem_toDigits (by decide) (by decide) member] at noDigit
    cases noDigit
  cases n with
  | ofNat m => exact digits m
  | negSucc m => simp [write, digits, noSign]

end Integer

namespace Stage

namespace Manga

/-! ## Templates of searches -/

/-- What stands for a word of a template at the beginning of a text, and the length of the word. -/
def wordValue? (keyword number text : Text) : Option (Text × Nat) :=
  if keywordMark.isPrefixOf text then some (keyword, keywordMark.length)
  else if pageMark.isPrefixOf text then some (number, pageMark.length)
  else none

/-- A template with the keyword and the number of the page in place of its words, all of them put in
at once: nothing that is put in is looked at again. -/
def filled (keyword number template : Text) : Text :=
  Text.rewrite (wordValue? keyword number) template

/-- A template with the keyword in place of its word. -/
def keyed (keyword template : Text) : Text := Text.replaceAll keywordMark keyword template

/-- A text with the number of the page in place of its word. -/
def numbered (number text : Text) : Text := Text.replaceAll pageMark number text

/-- The words of a template. -/
def marks : List Text := [keywordMark, pageMark]

theorem marks_given : ∀ mark ∈ marks, mark ≠ [] := by decide

theorem keywordMark_apart (rest : Text) : pageMark.isPrefixOf (keywordMark ++ rest) = false := rfl

theorem pageMark_apart (rest : Text) : keywordMark.isPrefixOf (pageMark ++ rest) = false := rfl

variable (keyword number : Text)

theorem filled_keywordMark (rest : Text) :
    filled keyword number (keywordMark ++ rest) = keyword ++ filled keyword number rest := by
  have turns : Text.Turns (wordValue? keyword number) keywordMark keyword :=
    Text.Turns.replaced fun rest => if_pos rfl
  exact turns rest

theorem filled_pageMark (rest : Text) :
    filled keyword number (pageMark ++ rest) = number ++ filled keyword number rest := by
  have turns : Text.Turns (wordValue? keyword number) pageMark number :=
    Text.Turns.replaced fun rest => rfl
  exact turns rest

theorem filled_cons
    {c : Char}
    {rest : Text}
    (other : ∀ mark ∈ marks, mark.isPrefixOf (c :: rest) = false) :
    filled keyword number (c :: rest) = c :: filled keyword number rest := by
  refine Text.rewriteAux_cons_of_none ?_
  unfold wordValue?
  rw [if_neg (by simp [other keywordMark (by decide)]),
    if_neg (by simp [other pageMark (by decide)])]

/-! ## Words put in one after the other -/

theorem keyed_keywordMark (rest : Text) :
    keyed keyword (keywordMark ++ rest) = keyword ++ keyed keyword rest :=
  Text.replaceAll_mark_append (by decide) keyword rest

theorem keyed_pageMark (rest : Text) :
    keyed keyword (pageMark ++ rest) = pageMark ++ keyed keyword rest :=
  Text.replaceAll_other_append (by decide) (pageMark_apart rest)

theorem keyed_cons
    {c : Char}
    {rest : Text}
    (other : ∀ mark ∈ marks, mark.isPrefixOf (c :: rest) = false) :
    keyed keyword (c :: rest) = c :: keyed keyword rest :=
  Text.replaceAll_cons (by decide) (other keywordMark (by decide))

theorem occurrences_keywordMark (rest : Text) :
    Text.occurrences pageMark (keywordMark ++ rest) = Text.occurrences pageMark rest :=
  Text.occurrences_other_append (by decide) (keywordMark_apart rest)

theorem occurrences_pageMark (rest : Text) :
    Text.occurrences pageMark (pageMark ++ rest) = Text.occurrences pageMark rest + 1 :=
  Text.occurrences_mark_append (by decide) rest

theorem occurrences_cons
    {c : Char}
    {rest : Text}
    (other : ∀ mark ∈ marks, mark.isPrefixOf (c :: rest) = false) :
    Text.occurrences pageMark (c :: rest) = Text.occurrences pageMark rest := by
  rw [Text.occurrences_cons, other pageMark (by decide)]
  rfl

/-- The word for the page stands as often as in the template at least when the keyword has been put
in; and if not more often, the number of the page is put in as at once. -/
theorem numbered_keyed (template : Text) :
    Text.occurrences pageMark template ≤ Text.occurrences pageMark (keyed keyword template) ∧
      (Text.occurrences pageMark (keyed keyword template) = Text.occurrences pageMark template →
        numbered number (keyed keyword template) = filled keyword number template) := by
  induction template using Text.induction_marks marks marks_given with
  | nil => exact ⟨Nat.le_refl _, fun _ => rfl⟩
  | mark mark among rest hypothesis =>
      obtain ⟨atLeast, atOnce⟩ := hypothesis
      simp only [marks, List.mem_cons, List.not_mem_nil, or_false] at among
      rcases among with rfl | rfl
      · have more := Text.occurrences_le_append pageMark keyword (keyed keyword rest)
        rw [keyed_keywordMark, occurrences_keywordMark, filled_keywordMark]
        refine ⟨atLeast.trans more, fun same => ?_⟩
        rw [numbered, Text.replaceAll_append_of_occurrences (by decide) (by omega)]
        exact congrArg (keyword ++ ·) (atOnce (by omega))
      · rw [keyed_pageMark, occurrences_pageMark, occurrences_pageMark, filled_pageMark]
        refine ⟨Nat.succ_le_succ atLeast, fun same => ?_⟩
        rw [numbered, Text.replaceAll_mark_append (by decide)]
        exact congrArg (number ++ ·) (atOnce (Nat.succ.inj same))
  | char c rest other hypothesis =>
      obtain ⟨atLeast, atOnce⟩ := hypothesis
      have more := Text.occurrences_le_append pageMark [c] (keyed keyword rest)
      rw [keyed_cons keyword other, occurrences_cons other, filled_cons keyword number other]
      rw [List.singleton_append] at more
      refine ⟨atLeast.trans more, fun same => ?_⟩
      have stays : Text.occurrences pageMark ([c] ++ keyed keyword rest) =
          Text.occurrences pageMark (keyed keyword rest) := by
        rw [List.singleton_append]
        omega
      have kept : numbered number ([c] ++ keyed keyword rest) =
          [c] ++ numbered number (keyed keyword rest) :=
        Text.replaceAll_append_of_occurrences (by decide) stays
      exact kept.trans (congrArg (c :: ·) (atOnce (by omega)))

/-- Put in at once, the number of the page takes a letter from each word for the page that the
template itself holds. -/
theorem count_filled
    (missing : 'P' ∉ number)
    (template : Text) :
    (filled keyword number template).count 'P' + Text.occurrences pageMark template =
      (keyed keyword template).count 'P' := by
  induction template using Text.induction_marks marks marks_given with
  | nil => rfl
  | mark mark among rest hypothesis =>
      simp only [marks, List.mem_cons, List.not_mem_nil, or_false] at among
      rcases among with rfl | rfl
      · rw [filled_keywordMark, occurrences_keywordMark, keyed_keywordMark, List.count_append,
          List.count_append]
        omega
      · have single : pageMark.count 'P' = 1 := by decide
        rw [filled_pageMark, occurrences_pageMark, keyed_pageMark, List.count_append,
          List.count_append, List.count_eq_zero.mpr missing, single]
        omega
  | char c rest other hypothesis =>
      rw [filled_cons keyword number other, occurrences_cons other, keyed_cons keyword other,
        List.count_cons, List.count_cons]
      omega

/-- Put in one after the other, the keyword and the page stand as if put in at once exactly when the
keyword makes no further word for the page. -/
theorem numbered_keyed_eq_iff
    (missing : 'P' ∉ number)
    (template : Text) :
    numbered number (keyed keyword template) = filled keyword number template ↔
      Text.occurrences pageMark (keyed keyword template) = Text.occurrences pageMark template := by
  refine ⟨fun same => ?_, (numbered_keyed keyword number template).2⟩
  have lost : (numbered number (keyed keyword template)).count 'P' +
      Text.occurrences pageMark (keyed keyword template) = (keyed keyword template).count 'P' :=
    Text.count_replaceAll (by decide) (by decide) missing _
  have kept := count_filled keyword number missing template
  rw [same] at lost
  omega

/-! ## Addresses of searches -/

/-- The address of a search is what its template gives with the keyword and then the page put in.
It is the template with both put in at once exactly when the keyword, where the template has its
word, makes no further word for the page. -/
theorem searchAddress_filled_iff
    {site : Site}
    {template : Text}
    (entry : Extraction.ruleOf (site.entry "ruleSearchUrl") = .ok template)
    (keyword : Text)
    (page : Int) :
    (searchAddress site keyword page =
      if template.isBlankText then throw (.template .emptySearch)
      else absolute site (numbered (Integer.write page) (keyed keyword template))) ∧
      (numbered (Integer.write page) (keyed keyword template) =
          filled keyword (Integer.write page) template ↔
        Text.occurrences pageMark (keyed keyword template) =
          Text.occurrences pageMark template) := by
  have missing : 'P' ∉ Integer.write page := Integer.not_mem_write (by decide) (by decide) page
  refine ⟨?_, numbered_keyed_eq_iff keyword _ missing template⟩
  unfold searchAddress
  rw [entry]
  change (if template.isBlankText then _ else _) = _
  split <;> rfl

/-- A source of manga with an address for searches. -/
def searchSite (template : Text) : Site where
  kind := .manga
  definition := [("bookSourceUrl", .str "https://a.b"), ("ruleSearchUrl", .str template)]
  settings := {}
  network := fun _ => .failure "ConnectionError" "unreachable"
  browser := fun _ => none

/-- A template of addresses for searches. -/
def pagedTemplate : Text := "https://a.b/searchKey?p=searchPage"

/-- A keyword may be the word for the keyword: it is not looked at again. -/
theorem searchAddress_filled_iff_keyword :
    Extraction.ruleOf ((searchSite pagedTemplate).entry "ruleSearchUrl") = .ok pagedTemplate ∧
      searchAddress (searchSite pagedTemplate) "searchKey" 2 =
        absolute (searchSite pagedTemplate) (filled "searchKey" "2" pagedTemplate) ∧
      filled "searchKey" "2" pagedTemplate = "https://a.b/searchKey?p=2".toList := by
  have entry : Extraction.ruleOf ((searchSite pagedTemplate).entry "ruleSearchUrl") =
      .ok pagedTemplate := rfl
  obtain ⟨built, atOnce⟩ := searchAddress_filled_iff entry "searchKey" 2
  have given : pagedTemplate.isBlankText = false := by decide
  rw [given, if_neg Bool.false_ne_true, atOnce.mpr (by decide +kernel)] at built
  exact ⟨entry, built, by decide +kernel⟩

/-- A keyword that is the word for the page is taken for it. -/
theorem searchAddress_not_filled :
    (runFrom (searchAddress (searchSite "https://a.b/searchKey") "searchPage" 1)
        (Walk.begun {})).1 = .ok "https://a.b/1".toList ∧
      (runFrom (absolute (searchSite "https://a.b/searchKey")
          (filled "searchPage" "1" "https://a.b/searchKey")) (Walk.begun {})).1 =
        .ok "https://a.b/searchPage".toList := by
  constructor <;> rfl

end Manga

end Stage

end RuleProbe
