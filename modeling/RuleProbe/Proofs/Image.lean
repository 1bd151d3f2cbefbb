import Mathlib.Data.List.Nodup
import RuleProbe.Content.Image
import RuleProbe.Proofs.Effects
import RuleProbe.Proofs.Matching
import RuleProbe.Proofs.Paragraph

/-!
# Addresses of images

The images of a chapter are collected from values that are addresses or pages.  Every address is
kept where it first occurs, so that further values only add addresses at the end.  A value is
refused only where an image has an address with a reference that is too long to be read; a page
that is a single tag names the address in it.
-/

namespace RuleProbe

/-! ## Loops without effects -/

section

variable {α β ε : Type} {body : α → Except ε β}

theorem mapM_cons_eq_ok_iff {item : α} {rest : List α} {values : List β} :
    (item :: rest).mapM body = .ok values ↔
      ∃ first others, body item = .ok first ∧ rest.mapM body = .ok others ∧
        values = first :: others := by
  rw [List.mapM_cons]
  constructor
  · intro done
    obtain ⟨first, returned, done⟩ := exists_ok_of_bind done
    obtain ⟨others, more, done⟩ := exists_ok_of_bind done
    exact ⟨first, others, returned, more, (Except.ok.inj done).symm⟩
  · rintro ⟨first, others, returned, more, rfl⟩
    rw [returned, more]
    rfl

/-- A loop without effects returns what its turns return. -/
theorem mapM_eq_ok_iff {items : List α} {values : List β} :
    items.mapM body = .ok values ↔
      List.Forall₂ (fun item value => body item = .ok value) items values := by
  induction items generalizing values with
  | nil =>
      rw [List.forall₂_nil_left_iff, List.mapM_nil]
      exact ⟨fun done => (Except.ok.inj done).symm, fun none => none ▸ rfl⟩
  | cons item rest hypothesis =>
      simp only [mapM_cons_eq_ok_iff, hypothesis, List.forall₂_cons_left_iff]

/-- A loop without effects returns when all its turns do. -/
theorem exists_mapM_eq_ok_iff {items : List α} :
    (∃ values, items.mapM body = .ok values) ↔ ∀ item ∈ items, ∃ value, body item = .ok value := by
  induction items with
  | nil => exact iff_of_true ⟨[], rfl⟩ (by simp)
  | cons item rest hypothesis =>
      rw [List.forall_mem_cons, ← hypothesis]
      constructor
      · rintro ⟨values, done⟩
        obtain ⟨first, others, returned, more, -⟩ := mapM_cons_eq_ok_iff.mp done
        exact ⟨⟨first, returned⟩, others, more⟩
      · rintro ⟨⟨first, returned⟩, others, more⟩
        exact ⟨first :: others, mapM_cons_eq_ok_iff.mpr ⟨first, others, returned, more, rfl⟩⟩

end

namespace Image

section

open Pattern Pattern.Node

/-! ## The pattern of a tag -/

/-- The characters of a word, one pattern each. -/
def letters (word : String) : List Node := word.toList.map fun c => .char .full c.toNat

/-- One of the two quotation marks. -/
def quote : Node := .set .full false [.range 39 39, .range 34 34]

/-- Blanks, as many as there are. -/
def blanks : Node := .repeat .greedy 0 none [] true (.set .full false [.named false .blank])

/-- Anything before the end of a tag. -/
def inside : Node := .repeat .greedy 0 none [] true (.set .full true [.range 62 62])

/-- An address, which is recorded, and the rest of the tag. -/
def addressNode : Node :=
  .seq (.group 1 (.repeat .greedy 1 none [] true (.set .full true [.range 39 39, .range 34 34])))
    (.seq quote (.seq inside (.char .full 62)))

/-- The attribute that names an image, and the rest of the tag. -/
def attributeNode : Node :=
  .seq (.set .full false [.named false .blank])
    (.seq (Node.choice (["data-src", "data-original", "src"].map fun name =>
        Node.sequence (letters name)))
      (.seq blanks (.seq (.char .full 61) (.seq blanks (.seq quote addressNode)))))

/-- A tag, and the attribute that names its image. -/
def tagNode : Node :=
  .seq (.char .full 60) (.seq (.char .full 105) (.seq (.char .full 109)
    (.seq (.char .full 103) (.seq inside attributeNode))))

theorem root_tagPattern : tagPattern.root = tagNode := Node.eq_of_agrees (by decide +kernel)

theorem groupCount_tagPattern : tagPattern.groupCount = 1 := by decide +kernel

/-! ## Following a tag -/

/-- Characters of an address that stands in quotation marks. -/
structure IsSource (codes : List Nat) : Prop where
  /-- There is one. -/
  given : codes ≠ []
  /-- They are of the basic alphabet. -/
  ascii : ∀ code ∈ codes, code < 128
  /-- None of them is a quotation mark. -/
  unquoted : ∀ code ∈ codes, code ≠ 34 ∧ code ≠ 39
  /-- None of them ends the tag. -/
  unended : ∀ code ∈ codes, code ≠ 62
  /-- None of them is blank. -/
  solid : ∀ code ∈ codes, Blank.isBlankCode code = false

variable {subject : Subject} {pos : Nat} {codes : List Nat}
variable {spans : Array (Option (Nat × Nat))} {goal : Goal} {result : Trail}

/-- An address is recorded when quotation marks and the tag end behind it. -/
theorem matcher_addressNode
    (follows : Follows subject pos (codes ++ [39, 62]))
    (isSource : IsSource codes)
    (behind : goal ⟨pos + codes.length + 2,
      spans.setIfInBounds 1 (some (pos, pos + codes.length))⟩ = some result) :
    addressNode.matcher subject true ⟨pos, spans⟩ goal = some result := by
  simp only [addressNode, quote, inside, matcher_seq, matcher_group, matcher_repeat_set,
    matcher_set, matcher_char]
  refine repeatUnit_keeps follows (fun code member => ?_) ?_ ?_ ?_
  · have ascii := isSource.ascii code member
    have unquoted := isSource.unquoted code member
    simp [admits_sign ascii, unquoted.1, unquoted.2]
  · simp [admits_sign]
  · exact List.length_pos_iff.mpr isSource.given
  · have closing := follows.append
    dsimp only
    rw [matchUnit_pass closing (by simp [admits_sign])]
    refine repeatUnit_empty closing.tail (by simp [admits_sign]) ?_
    exact (matchUnit_pass closing.tail (by decide)).trans behind

/-- A word is not matched where its first character does not stand. -/
theorem matcher_word_stop
    (word : Node)
    {first : Nat}
    {others : Node}
    (begins : word = .seq (.char .full first) others)
    {code : Nat}
    {rest : List Nat}
    (follows : Follows subject pos (code :: rest))
    (differ : CaseRule.full.same first code = false) :
    word.matcher subject true ⟨pos, spans⟩ goal = none := by
  rw [begins]
  simp only [matcher_seq, matcher_char]
  exact matchUnit_stop follows (by simpa using differ)

/-- An attribute whose name is the last of the three names an address. -/
theorem matcher_attributeNode
    (follows : Follows subject pos ([32, 115, 114, 99, 61, 39] ++ (codes ++ [39, 62])))
    (isSource : IsSource codes)
    (behind : goal ⟨pos + 6 + codes.length + 2,
      spans.setIfInBounds 1 (some (pos + 6, pos + 6 + codes.length))⟩ = some result) :
    attributeNode.matcher subject true ⟨pos, spans⟩ goal = some result := by
  have name := follows.tail
  have equals := name.tail.tail.tail
  have last : Node.sequence (letters "src") =
      .seq (.char .full 115) (.seq (.char .full 114) (.char .full 99)) := rfl
  simp only [attributeNode, Node.choice, List.map, last]
  simp only [matcher_seq, matcher_set, matcher_char]
  rw [matchUnit_pass follows (by decide)]
  simp only [matcher_alt]
  rw [matcher_word_stop (Node.sequence (letters "data-src")) rfl name (by decide)]
  rw [matcher_word_stop (Node.sequence (letters "data-original")) rfl name (by decide)]
  rw [Option.none_or, Option.none_or]
  simp only [matcher_seq, matcher_char]
  rw [matchUnit_pass name (by decide), matchUnit_pass name.tail (by decide),
    matchUnit_pass name.tail.tail (by decide)]
  simp only [blanks, matcher_repeat_set]
  refine repeatUnit_empty equals rfl ?_
  simp only [quote, matcher_set]
  rw [matchUnit_pass equals (by decide)]
  refine repeatUnit_empty equals.tail rfl ?_
  rw [matchUnit_pass equals.tail (by simp [admits_sign])]
  exact matcher_addressNode equals.tail.tail isSource behind

/-- A tag that names an image by an address. -/
def tag (source : Text) : Text :=
  ['<', 'i', 'm', 'g', ' ', 's', 'r', 'c', '=', '\''] ++ (source ++ ['\'', '>'])

variable {source : Text}

theorem toList_subjectOf_tag (source : Text) :
    (subjectOf (tag source)).toList =
      [60, 105, 109, 103] ++ ([32, 115, 114, 99, 61, 39] ++
        (source.map Char.toNat ++ [39, 62])) := by
  rw [subjectOf, tag, List.map_append, List.map_append]
  rfl

/-- Nothing but the end of a tag ends what stands inside of it. -/
theorem unended_inside
    (isSource : IsSource codes) :
    ∀ code ∈ [32, 115, 114, 99, 61, 39] ++ (codes ++ [39]), code < 128 ∧ code ≠ 62 := by
  intro code member
  rcases List.mem_append.mp member with name | member
  · exact (by decide : ∀ code ∈ [32, 115, 114, 99, 61, 39], code < 128 ∧ code ≠ 62) code name
  · rcases List.mem_append.mp member with address | mark
    · exact ⟨isSource.ascii code address, isSource.unended code address⟩
    · obtain rfl := List.mem_singleton.mp mark
      decide

/-- No blanks stand in a tag behind the one that its name ends with. -/
theorem solid_behind
    (isSource : IsSource codes) :
    ∀ code ∈ [115, 114, 99, 61, 39] ++ (codes ++ [39, 62]), Blank.isBlankCode code = false := by
  intro code member
  rcases List.mem_append.mp member with name | member
  · exact (by decide : ∀ code ∈ [115, 114, 99, 61, 39], Blank.isBlankCode code = false) code name
  · rcases List.mem_append.mp member with address | closing
    · exact isSource.solid code address
    · exact (by decide : ∀ code ∈ [39, 62], Blank.isBlankCode code = false) code closing

theorem attributeNode_blank
    {rest : List Nat}
    (follows : Follows subject pos rest)
    (solid : ∀ code ∈ rest, Blank.isBlankCode code = false) :
    attributeNode.matcher subject true ⟨pos, spans⟩ goal = none := by
  simp only [attributeNode, matcher_seq, matcher_set]
  refine matchUnit_stop follows ?_
  cases rest with
  | nil => rfl
  | cons code others => simp [SetItem.admits, CharClass.holds, solid code List.mem_cons_self]

/-- The pattern of a tag takes one up to its end, and records its address. -/
theorem matcher_tag (isSource : IsSource (source.map Char.toNat)) :
    tagPattern.root.matcher (subjectOf (tag source)) true ⟨0, #[none, none]⟩ some =
      some ⟨10 + source.length + 2, #[none, some (10, 10 + source.length)]⟩ := by
  have follows := Follows.start (subjectOf (tag source))
  rw [toList_subjectOf_tag] at follows
  have behind := follows.append
  have found : attributeNode.matcher (subjectOf (tag source)) true ⟨4, #[none, none]⟩ some =
      some ⟨10 + source.length + 2, #[none, some (10, 10 + source.length)]⟩ := by
    refine matcher_attributeNode behind isSource ?_
    simp
  have upToEnd : Follows (subjectOf (tag source)) 4
      (([32, 115, 114, 99, 61, 39] ++ (source.map Char.toNat ++ [39])) ++ [62]) := by
    rw [List.append_assoc, List.append_assoc]
    exact behind
  rw [root_tagPattern, tagNode, ← found]
  simp only [matcher_seq, matcher_char]
  rw [matchUnit_pass follows (by decide), matchUnit_pass follows.tail (by decide),
    matchUnit_pass follows.tail.tail (by decide),
    matchUnit_pass follows.tail.tail.tail (by decide)]
  simp only [inside, matcher_repeat_set]
  -- everything up to the end is taken first, and given back for want of another blank
  refine repeatUnit_returns upToEnd (fun code member => ?_) (by simp [admits_sign])
    fun count positive _ => ?_
  · obtain ⟨ascii, unended⟩ := unended_inside isSource code member
    simp [admits_sign ascii, unended]
  · refine attributeNode_blank (behind.drop count) fun code member => ?_
    refine solid_behind isSource code ?_
    obtain ⟨fewer, rfl⟩ := Nat.exists_eq_succ_of_ne_zero (Nat.ne_of_gt positive)
    exact List.mem_of_mem_drop member

theorem matchAt_tag (isSource : IsSource (source.map Char.toNat)) :
    matchAt tagPattern (subjectOf (tag source)) 0 false =
      some ⟨0, 10 + source.length + 2,
        #[some (0, 10 + source.length + 2), some (10, 10 + source.length)]⟩ := by
  have matched := matcher_tag isSource
  have start : #[none, none] = Array.replicate (tagPattern.groupCount + 1)
      (none : Option (Nat × Nat)) := by
    rw [groupCount_tagPattern]
    rfl
  rw [start] at matched
  rw [matchAt_of_matcher matched]
  rfl

/-- No tag begins at the end of a page. -/
theorem matchAt_end (subject : Subject) :
    matchAt tagPattern subject subject.size false = none := by
  have nothing : Follows subject subject.size [] := by
    unfold Follows
    rw [List.drop_eq_nil_of_le (by simp)]
  rw [matchAt, root_tagPattern, tagNode]
  simp only [matcher_seq, matcher_char]
  rw [matchUnit_stop nothing rfl, Option.map_none]

/-- A page that is one tag names its address alone. -/
theorem groupTexts_tag (isSource : IsSource (source.map Char.toNat)) :
    groupTexts tagPattern (tag source) = [source] := by
  have size : (subjectOf (tag source)).size = 10 + source.length + 2 := by
    simp [subjectOf, tag, Nat.add_comm, Nat.add_left_comm]
  have found := matchesIn_single (matchAt_tag isSource) rfl size.symm (by omega)
    (matchAt_end (subjectOf (tag source)))
  have address : slice (subjectOf (tag source)) (10, 10 + source.length) =
      source.map Char.toNat := by
    have follows := Follows.start (subjectOf (tag source))
    rw [toList_subjectOf_tag] at follows
    have named : Follows (subjectOf (tag source)) 10 (source.map Char.toNat ++ [39, 62]) :=
      follows.append.append
    have extracted := named.extract
    rwa [List.length_map] at extracted
  have read : (source.map Char.toNat).map Char.ofNat = source := by
    simp [Function.comp_def, Char.ofNat_toNat]
  simp only [groupTexts, found, List.map_cons, List.map_nil]
  simp [Match.group?, address, textOf, read]

/-- A tag is no address. -/
theorem isAddress_tag (source : Text) : isAddress (tag source) = false := by
  have ends : tag source = '<' ::
      (['i', 'm', 'g', ' ', 's', 'r', 'c', '=', '\''] ++ (source ++ ['\'']) ++ ['>']) := by
    simp [tag]
  have trimmed : Text.trim (tag source) = tag source := by
    rw [ends]
    exact (Text.trimmed_between (by decide) _ (by decide)).trim_eq_self
  rw [isAddress, trimmed, ends]
  simp

end

variable {baseUrl : Text}

/-! ## Collecting -/

theorem collect_append (found first second : List Text) :
    collect found (first ++ second) = collect (collect found first) second :=
  List.foldl_append

theorem collect_cons (found : List Text) (url : Text) (rest : List Text) :
    collect found (url :: rest) =
      collect (if url.isEmpty || found.elem url then found else found ++ [url]) rest := rfl

/-- What is collected stays, and what comes later stands behind it. -/
theorem prefix_collect (found addresses : List Text) : found <+: collect found addresses := by
  induction addresses generalizing found with
  | nil => exact List.prefix_rfl
  | cons url rest hypothesis =>
      rw [collect_cons]
      split
      · exact hypothesis found
      · exact (List.prefix_append found [url]).trans (hypothesis _)

/-- Addresses that are collected are distinct, and none is empty. -/
theorem collect_distinct
    {found : List Text}
    (nodup : found.Nodup)
    (given : [] ∉ found)
    (addresses : List Text) :
    (collect found addresses).Nodup ∧ [] ∉ collect found addresses := by
  induction addresses generalizing found with
  | nil => exact ⟨nodup, given⟩
  | cons url rest hypothesis =>
      rw [collect_cons]
      split
      · exact hypothesis nodup given
      · rename_i fresh
        rw [Bool.or_eq_true, not_or, List.isEmpty_iff, List.elem_iff] at fresh
        refine hypothesis ?_ ?_
        · exact List.nodup_append.mpr ⟨nodup, List.nodup_singleton url, by grind⟩
        · simp [given, Ne.symm fresh.1]

/-- The first occurrences of addresses are collected, empty ones left out. -/
theorem collect_eq (found addresses : List Text) :
    collect found addresses =
      found ++ ((addresses.filter fun url => !url.isEmpty).removeAll found).eraseDups := by
  induction addresses generalizing found with
  | nil => simp [collect]
  | cons url rest hypothesis =>
      rw [collect_cons, hypothesis]
      by_cases empty : url.isEmpty = true
      · simp [empty]
      · have given : (!url.isEmpty) = true := by simpa using empty
        rw [List.filter_cons_of_pos (p := fun url : Text => !url.isEmpty) given,
          List.cons_removeAll]
        by_cases known : found.elem url = true
        · rw [if_pos (by rw [known, Bool.or_true]), if_neg (by simpa using known)]
        · have fresh : (url.isEmpty || found.elem url) = false := by
            rw [Bool.or_eq_false_iff]
            exact ⟨by simpa using empty, by simpa using known⟩
          have behind (others : List Text) :
              others.removeAll (found ++ [url]) =
                (others.removeAll found).filter fun other => !other == url := by
            simp only [List.removeAll, List.filter_filter]
            refine List.filter_congr fun other _ => ?_
            by_cases same : other = url <;> simp [same]
          rw [fresh, if_neg Bool.false_ne_true, if_pos (by simpa using known), behind,
            List.eraseDups_cons, List.append_assoc, List.singleton_append]

/-! ## Values -/

/-- A value gives the address that it is, or else those of the images in it. -/
def Gives (baseUrl value : Text) (addresses : List Text) : Prop :=
  if isAddress value = true then ∃ url, Url.resolve value baseUrl = .ok url ∧ addresses = [url]
  else extract value baseUrl = .ok addresses

theorem ofValue_eq_ok_iff {value : Text} {addresses : List Text} :
    ofValue baseUrl value = .ok addresses ↔ Gives baseUrl value addresses := by
  unfold ofValue Gives
  split
  · constructor
    · intro done
      obtain ⟨url, resolved, same⟩ := exists_ok_of_map done
      exact ⟨url, resolved, same.symm⟩
    · rintro ⟨url, resolved, rfl⟩
      rw [resolved]
      rfl
  · rfl

/-- Every address that a value names can be resolved, as far as it can be read. -/
def IsResolved (baseUrl value : Text) : Prop :=
  if isAddress value = true then ∃ url, Url.resolve value baseUrl = .ok url
  else ∀ source ∈ groupTexts tagPattern value, ¬Entity.HoldsLongReference source →
    ∃ url, Url.resolve (Entity.decode source) baseUrl = .ok url

/-- An image in a value has an address with a reference that is too long. -/
def HasLongSource (value : Text) : Prop :=
  isAddress value = false ∧
    ∃ source ∈ groupTexts tagPattern value, Entity.HoldsLongReference source

theorem exists_ofValue_iff {value : Text} (resolved : IsResolved baseUrl value) :
    (∃ addresses, ofValue baseUrl value = .ok addresses) ↔ ¬HasLongSource value := by
  unfold IsResolved at resolved
  unfold ofValue HasLongSource
  split
  · rename_i address
    rw [if_pos address] at resolved
    obtain ⟨url, resolved⟩ := resolved
    rw [resolved]
    refine iff_of_true ⟨[url], rfl⟩ ?_
    simp [address]
  · rename_i page
    rw [if_neg page] at resolved
    have isPage : isAddress value = false := Bool.of_not_eq_true page
    have sources : (∃ images, extract value baseUrl = .ok images) ↔
        ∀ source ∈ groupTexts tagPattern value, ¬Entity.HoldsLongReference source := by
      have read (source : Text) (named : source ∈ groupTexts tagPattern value) :
          (∃ url, (Entity.check source >>= fun _ =>
              Url.resolve (Entity.decode source) baseUrl) = .ok url) ↔
            ¬Entity.HoldsLongReference source := by
        by_cases long : Entity.HoldsLongReference source
        · rw [Entity.check_of_long long]
          exact iff_of_false (fun ⟨url, done⟩ => nomatch done) (not_not_intro long)
        · rw [Entity.check_of_short long]
          exact iff_of_true (resolved source named long) long
      unfold extract
      rw [exists_bind_eq_ok_iff]
      refine Iff.trans ?_ (exists_mapM_eq_ok_iff.trans (forall₂_congr read))
      exact exists_congr fun found => and_iff_left ⟨_, rfl⟩
    rw [sources]
    simp [isPage]

/-- Where every address can be resolved, values give distinct addresses, none of them empty: the
first occurrences among those that the values give one by one, so that further values only add
addresses at the end.  They fail to do so just where an image has an address with a reference that
is too long to be read. -/
theorem collectAll_collects_iff
    {values : List Text}
    (resolved : ∀ value ∈ values, IsResolved baseUrl value) :
    (∃ found, collectAll baseUrl values = .ok found ∧ found.Nodup ∧ [] ∉ found ∧
        (∃ parts, List.Forall₂ (Gives baseUrl) values parts ∧
          found = (parts.flatten.filter fun url => !url.isEmpty).eraseDups) ∧
        ∀ more all, collectAll baseUrl (values ++ more) = .ok all → found <+: all) ↔
      ∀ value ∈ values, ¬HasLongSource value := by
  have returns : (∃ parts, values.mapM (ofValue baseUrl) = .ok parts) ↔
      ∀ value ∈ values, ¬HasLongSource value := by
    rw [exists_mapM_eq_ok_iff]
    exact forall₂_congr fun value member => exists_ofValue_iff (resolved value member)
  rw [← returns]
  constructor
  · rintro ⟨found, collected, -⟩
    obtain ⟨parts, done, -⟩ := exists_ok_of_map collected
    exact ⟨parts, done⟩
  · rintro ⟨parts, done⟩
    have collected : collectAll baseUrl values = .ok (collect [] parts.flatten) := by
      rw [collectAll, done]
      rfl
    obtain ⟨nodup, given⟩ := collect_distinct List.nodup_nil List.not_mem_nil parts.flatten
    refine ⟨_, collected, nodup, given, ⟨parts, ?_, ?_⟩, ?_⟩
    · exact (mapM_eq_ok_iff.mp done).imp fun value addresses => ofValue_eq_ok_iff.mp
    · rw [collect_eq, List.nil_append, List.removeAll_nil]
    · intro more all extended
      obtain ⟨whole, allDone, rfl⟩ := exists_ok_of_map extended
      rw [List.mapM_append, done] at allDone
      obtain ⟨first, here, allDone⟩ := exists_ok_of_bind allDone
      obtain ⟨others, -, same⟩ := exists_ok_of_bind allDone
      obtain rfl := Except.ok.inj here
      rw [← Except.ok.inj same, List.flatten_append, collect_append]
      exact prefix_collect _ _

/-- An address, a page that is the tag of another image, and the first image once more. -/
def imageValues : List Text := ["//h/a".toList, tag "//h/b".toList, "https://h/a".toList]

/-- An address and a page give two images, the first of which comes again. -/
theorem collectAll_collects_iff_imageValues :
    (∀ value ∈ imageValues, IsResolved "https://h/c".toList value) ∧
      ∃ found, collectAll "https://h/c".toList imageValues = .ok found ∧ found.Nodup ∧
        [] ∉ found := by
  have sources : groupTexts tagPattern (tag "//h/b".toList) = ["//h/b".toList] :=
    groupTexts_tag (by constructor <;> decide)
  have one : isAddress "//h/a".toList = true := by decide +kernel
  have three : isAddress "https://h/a".toList = true := by decide +kernel
  have absent : '&' ∉ "//h/b".toList := by decide
  have resolved : ∀ value ∈ imageValues, IsResolved "https://h/c".toList value := by
    have page : IsResolved "https://h/c".toList (tag "//h/b".toList) := by
      rw [IsResolved, isAddress_tag, sources, if_neg Bool.false_ne_true]
      intro source member _
      rw [List.mem_singleton.mp member, Entity.decode_of_absent absent]
      exact ⟨"https://h/b".toList, by decide +kernel⟩
    refine List.forall_mem_cons.mpr ⟨?_, List.forall_mem_cons.mpr ⟨page, ?_⟩⟩
    · rw [IsResolved, if_pos one]
      exact ⟨"https://h/a".toList, by decide +kernel⟩
    · rw [List.forall_mem_singleton, IsResolved, if_pos three]
      exact ⟨"https://h/a".toList, by decide +kernel⟩
  have short : ∀ value ∈ imageValues, ¬HasLongSource value := by
    have page : ¬HasLongSource (tag "//h/b".toList) := by
      rintro ⟨-, source, member, long⟩
      rw [sources] at member
      rw [List.mem_singleton.mp member] at long
      exact Entity.not_holdsLongReference absent long
    refine List.forall_mem_cons.mpr ⟨?_, List.forall_mem_cons.mpr ⟨page, ?_⟩⟩
    · exact fun long => Bool.false_ne_true (long.1.symm.trans one)
    · rw [List.forall_mem_singleton]
      exact fun long => Bool.false_ne_true (long.1.symm.trans three)
  obtain ⟨found, collected, nodup, given, -⟩ := (collectAll_collects_iff resolved).mpr short
  exact ⟨resolved, found, collected, nodup, given⟩

/-- A tag whose address has a long reference is refused, although nothing else is wrong with it. -/
theorem collectAll_tag_of_long
    {source : Text}
    (isSource : IsSource (source.map Char.toNat))
    (long : Entity.HoldsLongReference source) :
    (∀ value ∈ [tag source], IsResolved baseUrl value) ∧
      ¬∃ found, collectAll baseUrl [tag source] = .ok found := by
  have sources := groupTexts_tag isSource
  have resolved : IsResolved baseUrl (tag source) := by
    rw [IsResolved, isAddress_tag, sources, if_neg Bool.false_ne_true]
    intro other member short
    rw [List.mem_singleton.mp member] at short
    exact absurd long short
  have refused : HasLongSource (tag source) := by
    refine ⟨isAddress_tag source, source, ?_, long⟩
    rw [sources]
    exact List.mem_singleton_self source
  constructor
  · exact List.forall_mem_singleton.mpr resolved
  · rintro ⟨found, collected⟩
    obtain ⟨parts, done, -⟩ := exists_ok_of_map collected
    obtain ⟨first, others, returned, -⟩ := mapM_cons_eq_ok_iff.mp done
    exact (exists_ofValue_iff resolved).mp ⟨first, returned⟩ refused

theorem isSource_longReference : IsSource (Paragraph.longReference.map Char.toNat) := by
  have signs : ∀ code ∈ Paragraph.longReference.map Char.toNat, code ∈ [38, 35, 49] := by
    intro code member
    obtain ⟨c, inside, rfl⟩ := List.mem_map.mp member
    exact List.mem_map_of_mem (f := Char.toNat) (Paragraph.eq_of_mem_longReference inside)
  have each : IsSource [38, 35, 49] := by constructor <;> decide
  exact
    { given := List.cons_ne_nil _ _
      ascii := fun code member => each.ascii code (signs code member)
      unquoted := fun code member => each.unquoted code (signs code member)
      unended := fun code member => each.unended code (signs code member)
      solid := fun code member => each.solid code (signs code member) }

/-- An image with a reference by a number of 4301 digits is refused. -/
theorem collectAll_longReference_escapes :
    (∀ value ∈ [tag Paragraph.longReference], IsResolved "https://h/".toList value) ∧
      ¬∃ found, collectAll "https://h/".toList [tag Paragraph.longReference] = .ok found := by
  refine collectAll_tag_of_long isSource_longReference
    ⟨List.replicate (Integer.digitLimit + 1) '1', fun d member => ?_, by simp, List.infix_rfl⟩
  rw [List.eq_of_mem_replicate member]
  rfl

end Image

end RuleProbe
