import RuleProbe.Markup.Reader
import RuleProbe.Proofs.Chain.Order
import RuleProbe.Proofs.Chain.Segment

/-!
# Segments as they are written

A segment can ask for the elements of an identifier, of a class, or of an element name.  The name
stands behind a point, where an index can stand as well: the segment selects by the name exactly
when the name is no index.

An index can stand in brackets, behind a point, or, when it leaves items out, behind an
exclamation mark.  Whichever way it is written, the segment takes what its base selects and
narrows that by the index, whatever points, brackets and marks stand in the base.
-/

namespace RuleProbe

theorem Text.words_of_unblank
    {text : Text}
    (given : text ≠ [])
    (visible : ∀ c ∈ text, isBlank c = false) :
    text.words = [text] := by
  unfold words
  rw [splitWhere_of_none visible]
  simp [given]

namespace Chain

open Markup

/-- What a segment can name: some text without blanks and without the marks of a chain. -/
structure IsName (name : Text) : Prop where
  /-- The name is not empty. -/
  given : name ≠ []
  /-- No blank stands in it. -/
  visible : ∀ c ∈ name, Text.isBlank c = false
  /-- No mark of a chain stands in it. -/
  unmarked : ∀ c ∈ name, c ∉ ['.', '!', '[', ']', '@']

instance (name : Text) : Decidable (IsName name) :=
  decidable_of_iff
    (name ≠ [] ∧ name.all (fun c => !Text.isBlank c) = true ∧
      name.all (fun c => decide (c ∉ ['.', '!', '[', ']', '@'])) = true)
    ⟨fun ⟨given, visible, unmarked⟩ => ⟨given, by simpa using visible, by simpa using unmarked⟩,
      fun ⟨given, visible, unmarked⟩ => ⟨given, by simpa using visible, by simpa using unmarked⟩⟩

/-- What a name can be the name of. -/
inductive Kind where
  /-- One element. -/
  | identifier
  /-- The elements of a name. -/
  | tag
  /-- The elements of a class. -/
  | ofClass
  deriving DecidableEq, Inhabited

namespace Kind

/-- The word that stands before the point. -/
def word : Kind → Text
  | identifier => "id".toList
  | tag => "tag".toList
  | ofClass => "class".toList

/-- The segment that asks for a name. -/
def segment (kind : Kind) (name : Text) : Text := kind.word ++ '.' :: name

/-- An element carries a name. -/
def Carries (kind : Kind) (tree : Tree) (name : Text) (i : Nat) : Prop :=
  match kind with
  | identifier => tree.attribute? i "id" = some name
  | tag => tree.name? i = some name
  | ofClass => name ∈ tree.classes i

end Kind

/-- A segment selects, once each, the elements below some nodes that carry a name. -/
def SelectsByName (tree : Tree) (nodes : List Nat) (kind : Kind) (name : Text) : Prop :=
  ∃ found, selectSegment tree nodes (kind.segment name) false = .ok found ∧ found.Nodup ∧
    ∀ j, j ∈ found ↔ ∃ i ∈ nodes, j ∈ tree.descendants i ∧ kind.Carries tree name j

variable {tree : Tree} {nodes : List Nat} {kind : Kind} {name : Text}

/-! ## Elements that carry a name -/

theorem isElement_of_get?
    {key value : Text}
    {i : Nat}
    (given : Keyed.get? (tree.attributes i) key = some value) :
    tree.isElement i = true := by
  unfold Tree.attributes at given
  unfold Tree.isElement Tree.name?
  cases content : tree.content i with
  | element name attributes => rfl
  | root =>
      rw [content] at given
      cases given
  | text kind text =>
      rw [content] at given
      cases given

theorem Kind.isElement_of_carries {i : Nat} (carries : kind.Carries tree name i) :
    tree.isElement i = true := by
  cases kind with
  | identifier =>
      obtain ⟨value, given, -⟩ := Option.map_eq_some_iff.mp carries
      exact isElement_of_get? given
  | tag => exact Option.isSome_of_eq_some carries
  | ofClass =>
      cases given : Keyed.get? (tree.attributes i) "class" with
      | some value => exact isElement_of_get? given
      | none =>
          have among : name ∈ tree.classes i := carries
          unfold Tree.classes at among
          rw [given] at among
          cases among

/-! ## Names that are no indices -/

/-- The base that a name writes. -/
def Kind.base : Kind → Text → Base
  | identifier, name => .identifier name
  | tag, name => .name name
  | ofClass, name => .classes [name]

theorem Kind.ofText_segment (isName : IsName name) (kind : Kind) :
    Base.ofText (kind.segment name) = kind.base name := by
  cases kind with
  | identifier => rfl
  | tag => rfl
  | ofClass =>
      have classes : Base.ofText (Kind.ofClass.segment name) = .classes name.words := rfl
      rw [classes, Text.words_of_unblank isName.given isName.visible]
      rfl

/-- The base of a name selects the elements below that carry it. -/
theorem Kind.select_base (kind : Kind) (tree : Tree) (nodes : List Nat) (name : Text) :
    ∃ found, (kind.base name).select tree nodes = .ok found ∧
      ∀ j, j ∈ found ↔ ∃ i ∈ nodes, j ∈ tree.descendants i ∧ kind.Carries tree name j := by
  have below : ∀ test : Nat → Bool, (∀ j, test j = true ↔ kind.Carries tree name j) →
      ∀ j, j ∈ distinct (nodes.flatMap fun i => (tree.elements i).filter test) ↔
        ∃ i ∈ nodes, j ∈ tree.descendants i ∧ kind.Carries tree name j := by
    intro test carries j
    rw [mem_distinct, List.mem_flatMap]
    unfold Tree.elements
    simp only [List.mem_filter, carries]
    constructor
    · rintro ⟨i, among, ⟨within, -⟩, carried⟩
      exact ⟨i, among, within, carried⟩
    · rintro ⟨i, among, within, carried⟩
      exact ⟨i, among, ⟨within, Kind.isElement_of_carries carried⟩, carried⟩
  cases kind with
  | identifier => exact ⟨_, rfl, below _ fun j => beq_iff_eq⟩
  | tag => exact ⟨_, rfl, below _ fun j => beq_iff_eq⟩
  | ofClass =>
      refine ⟨_, rfl, below _ fun j => ?_⟩
      unfold hasClasses Kind.Carries
      simp

theorem Kind.isBase_word (kind : Kind) : IsBase kind.word := by
  cases kind <;> decide

/-- The segment of a name is read like a base with an index, or as a whole. -/
theorem Kind.selectSegment_segment
    {base : Text}
    {index? : Option Text}
    (parts : splitIndex (kind.segment name) = (base, index?))
    (tree : Tree)
    (nodes : List Nat) :
    selectSegment tree nodes (kind.segment name) false =
      ((Base.ofText base).select tree nodes >>= fun found =>
        match index? with
        | none => .ok found
        | some index => IndexExpression.select found index) := by
  have other : kind.segment name ≠ "children".toList := by
    cases kind <;> exact fun same => by cases same
  have selector : bareIndex? (kind.segment name) = none := by
    cases kind <;> rfl
  have textless : (kind.segment name).dropStart? "text." = none := by
    cases kind <;> rfl
  have taken := selectSegment_of_splitIndex other selector textless parts tree nodes false
  rwa [take_below] at taken

theorem selectsByName_of_not_recognised
    (isName : IsName name)
    (other : IndexExpression.recognises name = false)
    (kind : Kind)
    (tree : Tree)
    (nodes : List Nat) :
    SelectsByName tree nodes kind name := by
  have absent : ∀ c ∈ ['.', '!', '[', ']', '@'], c ∉ name :=
    fun c mark member => isName.unmarked c member mark
  have unmarkedWord : '!' ∉ kind.word := by cases kind <;> decide
  have parts := splitIndex_none kind.isBase_word unmarkedWord isName.given
    (isName.visible _ (List.getLast_mem isName.given)) (absent ']' (by decide))
    (absent '.' (by decide)) (absent '!' (by decide)) other
  obtain ⟨found, selected, members⟩ := kind.select_base tree nodes name
  refine ⟨found, ?_, nodup_select selected, members⟩
  rw [kind.selectSegment_segment parts]
  have base : Base.ofText (kind.word ++ '.' :: name) = kind.base name := kind.ofText_segment isName
  rw [base, selected]
  rfl

/-! ## Names that are indices -/

/-- The word of a kind on its own selects elements of that name. -/
theorem Kind.name?_of_select_word
    {found : List Nat}
    {j : Nat}
    (selected : (Base.ofText kind.word).select tree nodes = .ok found)
    (member : j ∈ found) :
    tree.name? j = some kind.word := by
  have base : Base.ofText kind.word = .selector kind.word := by cases kind <;> rfl
  have given : readSelector kind.word = .ok [.tests [.name kind.word] none] := by
    cases kind <;> rfl
  have small : Text.lower kind.word = kind.word := by cases kind <;> decide +kernel
  have plain : (kind.word == ['*']) = false := by cases kind <;> decide
  rw [base] at selected
  unfold Base.select at selected
  dsimp only at selected
  split at selected
  · rw [← Except.ok.inj selected] at member
    cases member
  · rw [given] at selected
    rw [← Except.ok.inj selected, mem_distinct, List.mem_flatMap] at member
    obtain ⟨i, -, among⟩ := member
    obtain ⟨below, holds⟩ := List.mem_filter.mp among
    obtain ⟨found, isElement⟩ := Option.isSome_iff_exists.mp (List.mem_filter.mp below).2
    simp only [Selector.holds, Selector.oneHolds, Selector.Alternative.holds, Selector.allHold,
      Selector.Test.holds, Selector.Place.nameOf, isElement, plain, small, Option.getD_some,
      Bool.false_or, Bool.and_true, Bool.or_false, beq_iff_eq] at holds
    rw [isElement, holds]

/-- A document with one element, which carries a name in every way. -/
def carrier (name : Text) : Tree where
  nodes := #[⟨0, 2, .root⟩,
    ⟨0, 2, .element name [("id".toList, name), ("class".toList, name)]⟩]

theorem carries_carrier (isName : IsName name) (kind : Kind) :
    kind.Carries (carrier name) name 1 := by
  have words := Text.words_of_unblank isName.given isName.visible
  cases kind with
  | identifier =>
      have value : attributeText name "id" name = name := by
        unfold attributeText
        rw [words]
        split
        · simp [Text.join]
        · rfl
      exact congrArg some value
  | tag => rfl
  | ofClass =>
      have classes : (carrier name).classes 1 = name.words := rfl
      unfold Kind.Carries
      rw [classes, words]
      exact List.mem_singleton_self name

/-- An index behind the word of a kind selects nothing but elements of that name. -/
theorem not_selectsByName_carrier
    (isName : IsName name)
    (recognised : IndexExpression.recognises name = true)
    (kind : Kind) :
    ¬SelectsByName (carrier name) [0] kind name := by
  rintro ⟨found, selected, -, members⟩
  have parts := splitIndex_dot kind.isBase_word (Text.trimmed_of_unblank isName.visible) recognised
  rw [kind.selectSegment_segment parts] at selected
  obtain ⟨taken, based, selected⟩ := exists_ok_of_bind selected
  have member : 1 ∈ found :=
    (members 1).mpr ⟨0, List.mem_cons_self, List.mem_singleton_self 1, carries_carrier isName kind⟩
  have named := kind.name?_of_select_word based ((select_sublist selected).subset member)
  have same : name = kind.word := Option.some.inj named
  have letter : ∃ c ∈ kind.word, IndexExpression.isIndexChar c = false ∧ c ≠ '!' := by
    cases kind with
    | identifier => exact ⟨'i', by decide, by decide +kernel, by decide⟩
    | tag => exact ⟨'t', by decide, by decide +kernel, by decide⟩
    | ofClass => exact ⟨'c', by decide, by decide +kernel, by decide⟩
  obtain ⟨c, inside, stray, unmarked⟩ := letter
  rw [← same] at inside
  exact IndexExpression.not_mem_of_recognises recognised stray unmarked inside

/-- A selector by name selects exactly the elements below that carry the name, unless the name is
an index. -/
theorem selectsByName_iff (isName : IsName name) (kind : Kind) :
    (∀ tree nodes, SelectsByName tree nodes kind name) ↔
      IndexExpression.recognises name = false := by
  constructor
  · intro selects
    by_contra recognised
    exact not_selectsByName_carrier isName (Bool.of_not_eq_false recognised) kind (selects _ _)
  · exact fun other tree nodes => selectsByName_of_not_recognised isName other kind tree nodes

/-- A class of one letter is selected in every document. -/
theorem selectsByName_letter :
    IsName ['a'] ∧ IndexExpression.recognises ['a'] = false ∧
      ∀ tree nodes, SelectsByName tree nodes .ofClass ['a'] := by
  have isName : IsName ['a'] := by decide
  exact ⟨isName, rfl, (selectsByName_iff isName .ofClass).mpr rfl⟩

/-- A page with an element whose identifier is a number. -/
def numberedPage : Text := "<p id=\"0\">a</p>".toList

/-- The tree of the page. -/
def numberedTree : Tree where
  nodes := #[⟨0, 3, .root⟩, ⟨0, 3, .element ['p'] [("id".toList, ['0'])]⟩,
    ⟨1, 3, .text .plain ['a']⟩]

/-- The element of the page is not found by its identifier. -/
theorem not_selectsByName_numbered :
    read numberedPage = .ok numberedTree ∧ IsName ['0'] ∧
      Kind.identifier.Carries numberedTree ['0'] 1 ∧
      selectSegment numberedTree [0] "id.0".toList false = .ok [] ∧
      ¬SelectsByName numberedTree [0] .identifier ['0'] := by
  have given : read numberedPage = .ok numberedTree := by decide +kernel
  have carries : Kind.identifier.Carries numberedTree ['0'] 1 := rfl
  have missed : selectSegment numberedTree [0] "id.0".toList false = .ok [] := by rfl
  refine ⟨given, by decide, carries, missed, ?_⟩
  rintro ⟨found, selected, -, members⟩
  have same : selectSegment numberedTree [0] "id.0".toList false = .ok found := selected
  rw [missed] at same
  have member : 1 ∈ found := (members 1).mpr ⟨0, List.mem_cons_self, by decide, carries⟩
  rw [← Except.ok.inj same] at member
  cases member

end Chain

namespace Chain

open Markup

/-- What can stand before an index, however the index is written. -/
structure IsSelectorBase (base : Text) : Prop extends IsBase base where
  /-- The base does not end in a point. -/
  closed : base.getLast? ≠ some '.'
  /-- The segment does not search for a text. -/
  textless : ¬"text.".toList <+: base

instance (base : Text) : Decidable (IsSelectorBase base) :=
  decidable_of_iff (IsBase base ∧ base.getLast? ≠ some '.' ∧ ¬"text.".toList <+: base)
    ⟨fun parts => ⟨parts.1, parts.2.1, parts.2.2⟩,
      fun isBase => ⟨isBase.toIsBase, isBase.closed, isBase.textless⟩⟩

/-- An index expression without blanks around it. -/
structure IsIndex (index : Text) : Prop where
  /-- The index is recognised. -/
  recognised : IndexExpression.recognises index = true
  /-- No blank stands before it or behind it. -/
  trimmed : index.Trimmed

/-- The numbers of an index that leaves items out. -/
structure IsExclusion (numbers : Text) : Prop where
  /-- Digits, signs, commas and colons are all that stands in it. -/
  plain : ∀ c ∈ numbers, isMarkIndexChar c = true
  /-- The numbers make an index. -/
  recognised : IndexExpression.recognises numbers = true

/-- No point with a base of its own stands before the blanks at the end of a base. -/
def EndsApart (base : Text) : Prop :=
  (Text.trimRight base).getLast? = some '.' → (Text.trimRight base).length ≤ 1

instance (base : Text) : Decidable (EndsApart base) :=
  inferInstanceAs (Decidable (_ → _))

/-- What a base selects, narrowed by an index. -/
def takeAt (tree : Tree) (nodes : List Nat) (base index : Text) (includeSelf : Bool) :
    Except Fault (List Nat) :=
  take tree nodes base includeSelf >>= fun found => IndexExpression.select found index

/-! ## The spellings -/

/-- A base with an index in brackets. -/
def bracketed (base index : Text) : Text := base ++ '[' :: (index ++ [']'])

/-- A base with an index behind a point. -/
def dotted (base index : Text) : Text := base ++ '.' :: index

/-- A base with an index behind an exclamation mark. -/
def marked (base numbers : Text) : Text := base ++ '!' :: numbers

variable {base index numbers : Text}

theorem IsExclusion.isIndex (isExclusion : IsExclusion numbers) : IsIndex ('!' :: numbers) where
  recognised := by
    rw [IndexExpression.recognises_mark isExclusion.plain]
    exact isExclusion.recognised
  trimmed := by
    refine Text.trimmed_of_unblank (List.forall_mem_cons.mpr ⟨by decide, fun c member => ?_⟩)
    exact isBlank_of_isMarkIndexChar (isExclusion.plain c member)

/-- The marks before an index. -/
def indexMarks : Text := ['[', '.', '!']

variable {mark : Char} {rest : Text}

theorem not_mem_of_mem_indexMarks
    {word : Text}
    (isMark : mark ∈ indexMarks)
    (foreign : indexMarks.all (fun d => decide (d ∉ word)) = true) :
    mark ∉ word := by
  simpa using List.all_eq_true.mp foreign mark isMark

/-- A segment searches for a text only where its base does, or is the word for that. -/
theorem dropStart?_append_cons
    (isMark : mark ∈ indexMarks)
    (textless : ¬"text.".toList <+: base)
    (apart : mark = '.' → base ≠ "text".toList) :
    Text.dropStart? (base ++ mark :: rest) "text." = none := by
  refine Text.dropStart?_of_not_prefix (Text.not_prefix_append_cons textless ?_ rest)
  have search : "text.".toList = "text".toList ++ ['.'] := by decide
  have foreign : mark ∉ "text".toList := not_mem_of_mem_indexMarks isMark (by decide)
  rw [search, List.prefix_concat_iff]
  rintro (same | within)
  · obtain ⟨word, point⟩ := List.append_inj' same rfl
    exact apart (List.cons.inj point).1 word
  · exact foreign (within.subset (by simp))

theorem bareIndex?_of_open {segment : Text} (open' : Text.endsWith segment [']'] = false) :
    bareIndex? segment = none := by
  unfold bareIndex?
  rw [open', Bool.and_false]
  rfl

/-- Brackets behind a base are not the whole segment, even where the base begins with one. -/
theorem bareIndex?_bracketed (given : base ≠ []) (index : Text) :
    bareIndex? (bracketed base index) = none := by
  obtain ⟨c, others, rfl⟩ := List.exists_cons_of_ne_nil given
  have inside : ((bracketed (c :: others) index).drop 1).dropLast = others ++ '[' :: index := by
    have whole : (bracketed (c :: others) index).drop 1 = (others ++ '[' :: index) ++ [']'] := by
      simp [bracketed]
    rw [whole, List.dropLast_concat]
  have nested : IndexExpression.recognises (others ++ '[' :: index) = false := by
    by_contra recognised
    refine IndexExpression.not_mem_of_recognises (Bool.of_not_eq_false recognised) (c := '[')
      (by decide) (by decide) (by simp)
  unfold bareIndex?
  simp only [inside, nested, Bool.false_eq_true, if_false, ite_self]

/-- A segment takes what its base selects at the index that is read off it. -/
theorem selectSegment_written
    (isBase : IsSelectorBase base)
    (isMark : mark ∈ indexMarks)
    (apart : mark = '.' → base ≠ "text".toList)
    (selector : bareIndex? (base ++ mark :: rest) = none)
    (parts : splitIndex (base ++ mark :: rest) = (base, some index))
    (tree : Tree)
    (nodes : List Nat)
    (includeSelf : Bool) :
    selectSegment tree nodes (base ++ mark :: rest) includeSelf =
      takeAt tree nodes base index includeSelf := by
  have foreign : mark ∉ "children".toList := not_mem_of_mem_indexMarks isMark (by decide)
  have other : base ++ mark :: rest ≠ "children".toList :=
    fun same => foreign (same ▸ by simp)
  exact selectSegment_of_splitIndex other selector
    (dropStart?_append_cons isMark isBase.textless apart) parts tree nodes includeSelf

theorem selectSegment_bracketed
    (isBase : IsSelectorBase base)
    (isIndex : IsIndex index)
    (tree : Tree)
    (nodes : List Nat)
    (includeSelf : Bool) :
    selectSegment tree nodes (bracketed base index) includeSelf =
      takeAt tree nodes base index includeSelf :=
  selectSegment_written isBase (by decide) (fun same => by cases same)
    (bareIndex?_bracketed isBase.given index)
    (splitIndex_bracket isBase.toIsBase isBase.closed isIndex.recognised) tree nodes includeSelf

theorem selectSegment_dotted
    (isBase : IsSelectorBase base)
    (named : base ≠ "text".toList)
    (isIndex : IsIndex index)
    (tree : Tree)
    (nodes : List Nat)
    (includeSelf : Bool) :
    selectSegment tree nodes (dotted base index) includeSelf =
      takeAt tree nodes base index includeSelf := by
  have closing : ']' ∉ '.' :: index :=
    List.not_mem_cons_of_ne_of_not_mem (by decide)
      (IndexExpression.not_mem_of_recognises isIndex.recognised (by decide) (by decide))
  have open' : Text.endsWith (dotted base index) [']'] = false := by
    unfold dotted
    rw [Text.endsWith_append_of_ne_nil (List.cons_ne_nil '.' index)]
    exact Text.endsWith_eq_false closing
  exact selectSegment_written isBase (by decide) (fun _ => named) (bareIndex?_of_open open')
    (splitIndex_dot isBase.toIsBase isIndex.trimmed isIndex.recognised) tree nodes includeSelf

theorem selectSegment_marked
    (isBase : IsSelectorBase base)
    (apart : EndsApart base)
    (isExclusion : IsExclusion numbers)
    (tree : Tree)
    (nodes : List Nat)
    (includeSelf : Bool) :
    selectSegment tree nodes (marked base numbers) includeSelf =
      takeAt tree nodes base ('!' :: numbers) includeSelf := by
  have closing : ']' ∉ '!' :: numbers := by
    refine List.not_mem_cons_of_ne_of_not_mem (by decide) fun member => ?_
    have mark := isExclusion.plain ']' member
    cases mark
  have open' : Text.endsWith (marked base numbers) [']'] = false := by
    unfold marked
    rw [Text.endsWith_append_of_ne_nil (List.cons_ne_nil '!' numbers)]
    exact Text.endsWith_eq_false closing
  exact selectSegment_written isBase (by decide) (fun same => by cases same)
    (bareIndex?_of_open open')
    (splitIndex_mark isBase.toIsBase apart isExclusion.plain isExclusion.recognised) tree nodes
    includeSelf

/-- All spellings of an index take what the base selects at that index, flaws of the base
included.  The point is no mark of an index behind the word that searches for a text, and the
exclamation mark is part of one behind a point and blanks. -/
theorem selectSegment_spellings
    (isBase : IsSelectorBase base)
    (tree : Tree)
    (nodes : List Nat)
    (includeSelf : Bool) :
    (∀ index, IsIndex index →
      selectSegment tree nodes (bracketed base index) includeSelf =
          takeAt tree nodes base index includeSelf ∧
        (base ≠ "text".toList →
          selectSegment tree nodes (dotted base index) includeSelf =
            takeAt tree nodes base index includeSelf)) ∧
      ∀ numbers, IsExclusion numbers →
        selectSegment tree nodes (bracketed base ('!' :: numbers)) includeSelf =
            takeAt tree nodes base ('!' :: numbers) includeSelf ∧
          (base ≠ "text".toList →
            selectSegment tree nodes (dotted base ('!' :: numbers)) includeSelf =
              takeAt tree nodes base ('!' :: numbers) includeSelf) ∧
          (EndsApart base →
            selectSegment tree nodes (marked base numbers) includeSelf =
              takeAt tree nodes base ('!' :: numbers) includeSelf) := by
  have written : ∀ index, IsIndex index →
      selectSegment tree nodes (bracketed base index) includeSelf =
          takeAt tree nodes base index includeSelf ∧
        (base ≠ "text".toList →
          selectSegment tree nodes (dotted base index) includeSelf =
            takeAt tree nodes base index includeSelf) :=
    fun index isIndex =>
      ⟨selectSegment_bracketed isBase isIndex tree nodes includeSelf,
        fun named => selectSegment_dotted isBase named isIndex tree nodes includeSelf⟩
  refine ⟨written, fun numbers isExclusion => ?_⟩
  obtain ⟨brackets, point⟩ := written ('!' :: numbers) isExclusion.isIndex
  exact ⟨brackets, point,
    fun apart => selectSegment_marked isBase apart isExclusion tree nodes includeSelf⟩

/-- A page with two items. -/
def itemsPage : Text := "<li>a</li><li>b</li>".toList

/-- The tree of two elements of a name, each with a letter in it. -/
def pairTree (name : Text) : Tree where
  nodes := #[⟨0, 5, .root⟩, ⟨0, 3, .element name []⟩, ⟨1, 3, .text .plain ['a']⟩,
    ⟨0, 5, .element name []⟩, ⟨3, 5, .text .plain ['b']⟩]

theorem isIndex_one : IsIndex ['1'] :=
  ⟨rfl, Text.trimmed_of_unblank (List.forall_mem_singleton.mpr rfl)⟩

theorem isExclusion_zero : IsExclusion ['0'] := ⟨List.forall_mem_singleton.mpr rfl, rfl⟩

/-- The second of two items, by every spelling of two indices. -/
theorem selectSegment_spellings_items :
    read itemsPage = .ok (pairTree "li".toList) ∧
      selectSegment (pairTree "li".toList) [0] "li[1]".toList false = .ok [3] ∧
      selectSegment (pairTree "li".toList) [0] "li.1".toList false = .ok [3] ∧
      selectSegment (pairTree "li".toList) [0] "li[!0]".toList false = .ok [3] ∧
      selectSegment (pairTree "li".toList) [0] "li.!0".toList false = .ok [3] ∧
      selectSegment (pairTree "li".toList) [0] "li!0".toList false = .ok [3] := by
  have isBase : IsSelectorBase "li".toList := by decide
  have named : "li".toList ≠ "text".toList := by decide
  have apart : EndsApart "li".toList := by decide +kernel
  have second : takeAt (pairTree "li".toList) [0] "li".toList ['1'] false = .ok [3] := by rfl
  have others : takeAt (pairTree "li".toList) [0] "li".toList ['!', '0'] false = .ok [3] := by rfl
  obtain ⟨written, excluded⟩ :=
    selectSegment_spellings isBase (pairTree "li".toList) [0] false
  obtain ⟨brackets, point⟩ := written ['1'] isIndex_one
  obtain ⟨outer, behind, mark⟩ := excluded ['0'] isExclusion_zero
  exact ⟨by decide +kernel, brackets.trans second, (point named).trans second,
    outer.trans others, (behind named).trans others, (mark apart).trans others⟩

/-- A page with two elements that have the name of a search for texts. -/
def textsPage : Text := "<text>a</text><text>b</text>".toList

/-- The word that searches for a text takes the index behind a point as the text, and behind a
point and a blank the exclamation mark stands within the index. -/
theorem selectSegment_spellings_differ :
    (read textsPage = .ok (pairTree "text".toList) ∧ IsSelectorBase "text".toList ∧
      IsIndex ['1'] ∧
      selectSegment (pairTree "text".toList) [0] "text[1]".toList false = .ok [3] ∧
      selectSegment (pairTree "text".toList) [0] "text.1".toList false = .ok []) ∧
    read itemsPage = .ok (pairTree "li".toList) ∧ IsSelectorBase "li. ".toList ∧
      IsExclusion ['0'] ∧
      selectSegment (pairTree "li".toList) [0] "li. [!0]".toList false =
        .error (.rule (.selector "li. ".toList)) ∧
      selectSegment (pairTree "li".toList) [0] "li. !0".toList false = .ok [3] :=
  ⟨⟨by decide +kernel, by decide, isIndex_one, by rfl, by rfl⟩,
    by decide +kernel, by decide, isExclusion_zero, by rfl, by rfl⟩

end Chain

end RuleProbe
