import RuleProbe.Proofs.JsonBalance
import RuleProbe.Proofs.Parts
import RuleProbe.Proofs.Template

/-!
# Options behind an address

Options follow an address after a comma.  The address itself may have commas that are followed by
what begins like options, but none of these is an object up to the end of the text, so the options
are found where they were attached.  The one way to miss them is that the reader gives up on what
begins in the address, because of its size.
-/

namespace RuleProbe

namespace Text

theorem trim_append_blanks {blanks : Text} (blank : blanks.isBlankText = true) (text : Text) :
    trim (text ++ blanks) = trim text := by
  induction blanks using List.reverseRecOn with
  | nil => rw [List.append_nil]
  | append_singleton others c hypothesis =>
      have all := List.all_eq_true.mp blank
      have early : isBlankText others = true :=
        List.all_eq_true.mpr fun d member => all d (List.mem_append_left _ member)
      rw [← List.append_assoc, trim_concat (all c (by simp)), hypothesis early]

end Text

/-- No object begins with two brackets. -/
theorem Json.Reader.readValue_doubled (fuel depth : Nat) (text : Text) :
    ∃ refused, readValue fuel depth ('\x7b' :: '\x7b' :: text) = .error refused := by
  cases fuel with
  | zero => exact ⟨_, rfl⟩
  | succ fuel =>
      rw [readValue]
      split
      · exact ⟨_, rfl⟩
      · cases fuel with
        | zero => exact ⟨_, rfl⟩
        | succ fuel => exact ⟨_, rfl⟩

namespace AddressTemplate

/-! ## What begins like options -/

/-- The parts of an address that begin like options, each up to the end of the address. -/
def fragments : Text → List Text
  | [] => []
  | c :: rest => (if c == ',' then (optionsAfter? rest).toList else []) ++ fragments rest

/-- The reader comes to the end of a text, or to what is no JSON there. -/
def Followed (text : Text) : Prop :=
  Json.read text ≠ .error .integerTooLong ∧ Json.read text ≠ .error .tooDeep

theorem optionsAfter?_eq_some
    {rest fragment : Text}
    (found : optionsAfter? rest = some fragment) :
    fragment = rest.trimLeft ∧ beginsOptions fragment = true := by
  unfold optionsAfter? at found
  dsimp only at found
  split at found
  · rename_i begins
    cases found
    exact ⟨rfl, begins⟩
  · cases found

/-- What begins like options does so with a bracket. -/
theorem exists_of_beginsOptions {text : Text} (begins : beginsOptions text = true) :
    ∃ inner, text = '\x7b' :: inner := by
  unfold beginsOptions at begins
  obtain ⟨inner, shape⟩ := List.isPrefixOf_iff_prefix.mp (Bool.and_eq_true_iff.mp begins).1
  exact ⟨inner, shape.symm⟩

theorem fragments_isSuffix {address fragment : Text} (found : fragment ∈ fragments address) :
    fragment <:+ address := by
  induction address with
  | nil => cases found
  | cons c rest hypothesis =>
      rcases List.mem_append.mp found with here | later
      · split at here
        · obtain ⟨rfl, -⟩ := optionsAfter?_eq_some (Option.mem_toList.mp here)
          exact (List.dropWhile_suffix _).trans (List.suffix_cons c rest)
        · cases here
      · exact (hypothesis later).trans (List.suffix_cons c rest)

/-- What follows a text after a comma does not change whether it begins like options. -/
theorem optionsAfter?_append (rest tail : Text) :
    optionsAfter? (rest ++ ',' :: tail) = (optionsAfter? rest).map (· ++ ',' :: tail) := by
  unfold optionsAfter?
  cases visible : rest.trimLeft with
  | nil =>
      have all : rest.isBlankText = true :=
        List.all_eq_true.mpr (List.dropWhile_eq_nil_iff.mp visible)
      rw [Text.trimLeft_append all rfl]
      rfl
  | cons c more =>
      have shape : (rest ++ ',' :: tail).trimLeft = c :: (more ++ ',' :: tail) := by
        have given : ¬(rest.dropWhile Text.isBlank).isEmpty = true := by
          rw [show rest.dropWhile Text.isBlank = c :: more from visible]
          exact Bool.false_ne_true
        unfold Text.trimLeft Text.trimLeftWhere
        rw [List.dropWhile_append, if_neg given, show rest.dropWhile Text.isBlank = c :: more
          from visible]
        rfl
      have same : beginsOptions (c :: (more ++ ',' :: tail)) = beginsOptions (c :: more) := by
        cases more with
        | nil => simp [beginsOptions, Text.startsWith, List.isPrefixOf]
        | cons d others => rfl
      rw [shape]
      dsimp only
      rw [same]
      split <;> rfl

/-! ## Options that are attached -/

section

variable {object before after : Text} {members : Json.Members}

theorem beginsOptions_of_read
    (trimmed : object.Trimmed)
    (isObject : Json.read object = .ok (.obj members))
    (after : Text) :
    beginsOptions (object ++ after) = true := by
  obtain ⟨body, -, rfl⟩ := Json.exists_body_of_read trimmed isObject
  cases inner : body ++ ['\x7d'] with
  | nil => simp at inner
  | cons c others =>
      have single : c ≠ '\x7b' := by
        rintro rfl
        obtain ⟨⟨value, rest⟩, read, -⟩ := exists_ok_of_bind isObject
        rw [inner] at read
        obtain ⟨refused, failed⟩ := Json.Reader.readValue_doubled
          (2 * ('\x7b' :: '\x7b' :: others).length + 2) 0 others
        cases failed.symm.trans read
      simp [beginsOptions, Text.startsWith, List.isPrefixOf, single.symm]

theorem optionsAfter?_attached
    (trimmed : object.Trimmed)
    (isObject : Json.read object = .ok (.obj members))
    (blankBefore : before.isBlankText = true)
    (after : Text) :
    optionsAfter? (before ++ object ++ after) = some (object ++ after) := by
  have begins := beginsOptions_of_read trimmed isObject after
  obtain ⟨inner, shape⟩ := exists_of_beginsOptions begins
  unfold optionsAfter?
  rw [List.append_assoc, shape, Text.trimLeft_append blankBefore rfl, ← shape]
  exact if_pos begins

theorem object?_eq_none
    {text : Text}
    (noObject : ∀ members, Json.read text ≠ .ok (.obj members))
    (followed : Followed text) :
    object? text = .ok none := by
  unfold object?
  split
  · exact absurd ‹_› (noObject _)
  · rfl
  · rfl
  · exact absurd ‹_› followed.1
  · exact absurd ‹_› followed.2

theorem object?_eq_error {text : Text} (lost : ¬Followed text) :
    ∃ fault, object? text = .error fault := by
  unfold object?
  split
  all_goals first
    | exact ⟨_, rfl⟩
    | skip
  all_goals
    rename_i done
    exact absurd ⟨by rw [done]; simp, by rw [done]; simp⟩ lost

/-- What begins like options in an address goes on to the end of the object, blanks aside. -/
theorem trim_fragment
    (trimmed : object.Trimmed)
    (isObject : Json.read object = .ok (.obj members))
    (blankAfter : after.isBlankText = true)
    {fragment : Text}
    (begins : beginsOptions fragment = true)
    (before : Text) :
    Text.trim (fragment ++ ',' :: (before ++ object ++ after)) =
      fragment ++ ',' :: (before ++ object) := by
  obtain ⟨inner, rfl⟩ := exists_of_beginsOptions begins
  obtain ⟨body, -, rfl⟩ := Json.exists_body_of_read trimmed isObject
  have regroup : '\x7b' :: inner ++ ',' :: (before ++ '\x7b' :: (body ++ ['\x7d']) ++ after) =
      '\x7b' :: (inner ++ ',' :: (before ++ '\x7b' :: body) ++ ['\x7d']) ++ after := by
    simp
  rw [regroup, Text.trim_append_blanks blankAfter,
    (Text.trimmed_between rfl _ rfl).trim_eq_self]
  simp

theorem findOptions_cons_of_none
    {c : Char}
    {rest : Text}
    (nothing : c = ',' → optionsAfter? rest = none)
    (start : Text) :
    findOptions start (c :: rest) = findOptions (c :: start) rest := by
  rw [findOptions]
  split
  · rename_i comma
    rw [nothing (beq_iff_eq.mp comma)]
    rfl
  · rfl

theorem findOptions_cons_of_some
    {rest text : Text}
    (found : optionsAfter? rest = some text)
    (start : Text) :
    findOptions start (',' :: rest) =
      (object? text.trim >>= fun found =>
        match found with
        | some options => .ok (some (Text.trim start.reverse, options))
        | none => findOptions (',' :: start) rest) := by
  rw [findOptions, found]
  rfl

theorem findOptions_attached
    (trimmed : object.Trimmed)
    (isObject : Json.read object = .ok (.obj members))
    (blankBefore : before.isBlankText = true)
    (blankAfter : after.isBlankText = true)
    (start address : Text) :
    findOptions start (address ++ ',' :: (before ++ object ++ after)) =
        .ok (some (Text.trim (start.reverse ++ address), members)) ↔
      ∀ fragment ∈ fragments address, Followed (fragment ++ ',' :: (before ++ object)) := by
  induction address generalizing start with
  | nil =>
      have whole : Text.trim (object ++ after) = object := by
        rw [Text.trim_append_blanks blankAfter, trimmed.trim_eq_self]
      have read : object? object = .ok (some members) := by
        rw [object?, isObject]
      rw [List.nil_append, List.append_nil, findOptions_cons_of_some
        (optionsAfter?_attached trimmed isObject blankBefore after), whole, read]
      exact ⟨fun _ _ found => absurd found List.not_mem_nil, fun _ => rfl⟩
  | cons c rest hypothesis =>
      have regroup : (c :: start).reverse ++ rest = start.reverse ++ c :: rest := by simp
      have later := hypothesis (c :: start)
      rw [regroup] at later
      have attached := optionsAfter?_append rest (before ++ object ++ after)
      rw [List.cons_append]
      cases found : optionsAfter? rest with
      | none =>
          rw [found] at attached
          rw [findOptions_cons_of_none (fun _ => attached), later, fragments, found]
          simp
      | some fragment =>
          by_cases comma : c = ','
          case neg =>
            rw [findOptions_cons_of_none (fun same => absurd same comma), later, fragments]
            simp [comma]
          case pos =>
            subst comma
            rw [found] at attached
            have begins := (optionsAfter?_eq_some found).2
            have split : fragments (',' :: rest) = fragment :: fragments rest := by
              rw [fragments, found]
              rfl
            rw [findOptions_cons_of_some attached, trim_fragment trimmed isObject blankAfter begins,
              split, List.forall_mem_cons]
            by_cases followed : Followed (fragment ++ ',' :: (before ++ object))
            · obtain ⟨inner, rfl⟩ := exists_of_beginsOptions begins
              have nothing := object?_eq_none (fun others =>
                Json.not_read_attached trimmed isObject blankBefore inner) followed
              rw [← List.cons_append] at nothing
              rw [nothing]
              exact later.trans (and_iff_right followed).symm
            · obtain ⟨fault, failed⟩ := object?_eq_error followed
              rw [failed]
              exact ⟨fun done => (nomatch done), fun all => absurd all.1 followed⟩

/-! ## Splitting what was put together -/

/-- A text without long digits and with few brackets is followed to its end. -/
theorem followed_of_small
    {text : Text}
    (shallow : Json.openings text ≤ Json.Reader.depthLimit + 1)
    (short : ¬Json.HasLongDigits text) :
    Followed text := by
  refine ⟨fun failed => short (Json.excess_of_read failed), fun failed => ?_⟩
  have deep : Json.Reader.depthLimit + 1 < 0 + Json.openings text := Json.excess_of_read failed
  omega

/-- What follows an address is found, and not left to it. -/
theorem splitOptions_eq_iff (address tail : Text) :
    splitOptions (address ++ ',' :: tail) = .ok (address.trim, members) ↔
      findOptions [] (address ++ ',' :: tail) = .ok (some (address.trim, members)) := by
  unfold splitOptions
  cases ended : findOptions [] (address ++ ',' :: tail) with
  | error fault => exact ⟨fun done => (nomatch done), fun done => (nomatch done)⟩
  | ok found =>
      cases found with
      | some parts => simp [Except.map]
      | none =>
          refine ⟨fun done => ?_, fun done => (nomatch done)⟩
          have same : address ++ ',' :: tail = address.trim :=
            (Prod.mk.inj (Except.ok.inj done)).1
          have shorter := (Text.trim_isInfix address).length_le
          rw [← same, List.length_append, List.length_cons] at shorter
          omega

/-- Splitting a text into an address and options gives back what was put together: an address,
whatever stands in it, a comma and the text of an object with blanks around it.  That is so exactly
when the reader follows what begins like options in the address, on to the end of the object; and it
does so where no row of digits is too long and there are not too many brackets. -/
theorem splitOptions_attached
    (trimmed : object.Trimmed)
    (isObject : Json.read object = .ok (.obj members))
    (blankBefore : before.isBlankText = true)
    (blankAfter : after.isBlankText = true)
    (address : Text) :
    (splitOptions (address ++ ',' :: (before ++ object ++ after)) = .ok (address.trim, members) ↔
        ∀ fragment ∈ fragments address, Followed (fragment ++ ',' :: (before ++ object))) ∧
      (Json.openings (address ++ ',' :: (before ++ object)) ≤ Json.Reader.depthLimit + 1 →
        ¬Json.HasLongDigits (address ++ ',' :: (before ++ object)) →
        splitOptions (address ++ ',' :: (before ++ object ++ after)) =
          .ok (address.trim, members)) := by
  have found := findOptions_attached trimmed isObject blankBefore blankAfter [] address
  have split := (splitOptions_eq_iff address (before ++ object ++ after)).trans found
  refine ⟨split, fun shallow short => split.mpr fun fragment member => ?_⟩
  have isSuffix :
      fragment ++ ',' :: (before ++ object) <:+ address ++ ',' :: (before ++ object) := by
    obtain ⟨start, same⟩ := fragments_isSuffix member
    exact ⟨start, by rw [← same, List.append_assoc]⟩
  refine followed_of_small (le_trans isSuffix.sublist.countP_le shallow) fun long => short ?_
  obtain ⟨digits, inside, all, many⟩ := long
  exact ⟨digits, inside.trans isSuffix.isInfix, all, many⟩

end

/-- An address that leaves a string open. -/
def openAddress : Text := "https://a.b/?q=,\x7b\"a\":[\""

/-- Options with a charset. -/
def charsetOptions : Text := "\x7b\"charset\":\"gbk\"\x7d"

/-- The strings of options are turned inside out behind an address that leaves a string open, and
the options are found. -/
theorem splitOptions_attached_string :
    charsetOptions.Trimmed ∧
      Json.read charsetOptions = .ok (.obj [("charset".toList, .str "gbk")]) ∧
      fragments openAddress = ["\x7b\"a\":[\"".toList] ∧
      splitOptions (openAddress ++ ',' :: ([' '] ++ charsetOptions ++ ['\n'])) =
        .ok (openAddress, [("charset".toList, .str "gbk")]) := by
  have trimmed : charsetOptions.Trimmed := Text.trimmed_between rfl "\"charset\":\"gbk\"" rfl
  have isObject : Json.read charsetOptions = .ok (.obj [("charset".toList, .str "gbk")]) := by cbv
  have blank : Text.isBlankText [' '] = true := by decide
  have blankBreak : Text.isBlankText ['\n'] = true := by decide
  have small := (splitOptions_attached trimmed isObject blank blankBreak openAddress).2
  refine ⟨trimmed, isObject, by decide, small (by decide) fun long => ?_⟩
  obtain ⟨digits, inside, -, many⟩ := long
  exact absurd (Nat.lt_of_lt_of_le many inside.length_le) (by decide)

/-- An address that opens an object, and then as many arrays as the reader follows. -/
def deepAddress : Text := "a,\x7b\"k\":".toList ++ List.replicate 981 '['

section

-- The text is long, and evaluated character by character.
set_option maxRecDepth 20000

/-- Options behind that address are not found: the reader gives up. -/
theorem splitOptions_deepAddress :
    charsetOptions.Trimmed ∧
      Json.read charsetOptions = .ok (.obj [("charset".toList, .str "gbk")]) ∧
      splitOptions (deepAddress ++ ',' :: charsetOptions) =
        .error (.defect (.deepNesting (deepAddress.drop 2 ++ ',' :: charsetOptions))) :=
  ⟨Text.trimmed_between rfl "\"charset\":\"gbk\"" rfl, by cbv, by cbv⟩

end

end AddressTemplate

end RuleProbe
