import RuleProbe.Extraction.Template
import RuleProbe.Source

/-!
# Templates without expressions

A template in which the only braces are those of placeholders is a list of pieces.  Filling
it puts values for the placeholders and leaves all other characters, and when no value holds
a brace, no expression is left to evaluate.
-/

namespace RuleProbe

namespace Text

theorem dropStart?_append (start rest : Text) : dropStart? (start ++ rest) start = some rest := by
  unfold dropStart? startsWith
  rw [if_pos (List.isPrefixOf_iff_prefix.mpr (List.prefix_append _ _)), List.drop_left]

/-- A text that begins with another character does not begin with the mark. -/
theorem dropStart?_of_ne {c d : Char} (differ : c ≠ d) (rest mark : Text) :
    dropStart? (c :: rest) (d :: mark) = none := by
  unfold dropStart? startsWith
  rw [if_neg (by simp [Ne.symm differ])]

/-- Blanks before a text are dropped. -/
theorem trimLeft_append
    {blanks : Text}
    (blank : blanks.isBlankText = true)
    {c : Char}
    (given : isBlank c = false)
    (rest : Text) :
    trimLeft (blanks ++ c :: rest) = c :: rest := by
  unfold trimLeft trimLeftWhere
  rw [List.dropWhile_append_of_pos (List.all_eq_true.mp blank), List.dropWhile_cons, given]
  rfl

/-- A mark does not occur in a text without its first character. -/
theorem contains_of_not_mem {text mark : Text} {c : Char} (absent : c ∉ text) :
    contains text (c :: mark) = false := by
  have cut (before : Text) : cutAux (c :: mark) before text = none := by
    induction text generalizing before with
    | nil => rfl
    | cons d rest hypothesis =>
        rw [List.mem_cons, not_or] at absent
        rw [cutAux, if_neg (by simp [absent.1]), hypothesis absent.2]
  unfold contains cut?
  rw [cut]
  rfl

/-! ## Rewriting part by part -/

/-- Rewriting turns the text before any other into what stands before that text rewritten. -/
def Turns (find : Text → Option (Text × Nat)) (before after : Text) : Prop :=
  ∀ rest, rewriteAux find 0 (before ++ rest) = after ++ rewriteAux find 0 rest

section

variable {find : Text → Option (Text × Nat)}

theorem Turns.rewrite_eq {before after : Text} (turns : Turns find before after) :
    rewrite find before = after := by
  simpa [rewrite, rewriteAux] using turns []

theorem Turns.append
    {before after before' after' : Text}
    (first : Turns find before after)
    (second : Turns find before' after') :
    Turns find (before ++ before') (after ++ after') := by
  intro rest
  rw [List.append_assoc, first, second, List.append_assoc]

theorem Turns.flatMap
    {α : Type}
    {items : List α}
    {before after : α → Text}
    (each : ∀ item ∈ items, Turns find (before item) (after item)) :
    Turns find (items.flatMap before) (items.flatMap after) := by
  induction items with
  | nil => exact fun _ => rfl
  | cons item others hypothesis =>
      rw [List.flatMap_cons, List.flatMap_cons]
      exact (each item List.mem_cons_self).append
        (hypothesis fun other member => each other (List.mem_cons_of_mem _ member))

theorem rewriteAux_cons_of_none {c : Char} {rest : Text} (nothing : find (c :: rest) = none) :
    rewriteAux find 0 (c :: rest) = c :: rewriteAux find 0 rest := by
  rw [rewriteAux, nothing]

/-- Where nothing is found from any character on, a text stays. -/
theorem rewrite_of_unfound
    {text : Text}
    (unfound : ∀ c rest, c :: rest <:+ text → find (c :: rest) = none) :
    rewrite find text = text := by
  unfold rewrite
  induction text with
  | nil => rfl
  | cons c others hypothesis =>
      rw [rewriteAux_cons_of_none (unfound c others List.suffix_rfl),
        hypothesis fun d rest behind => unfound d rest (behind.trans (List.suffix_cons c others))]

/-- Where nothing is found, whatever follows, a text stays before any other. -/
theorem Turns.stays
    {text : Text}
    (nothing : ∀ c ∈ text, ∀ rest, find (c :: rest) = none) :
    Turns find text text := by
  intro rest
  induction text with
  | nil => rfl
  | cons c others hypothesis =>
      rw [List.cons_append, rewriteAux_cons_of_none (nothing c List.mem_cons_self _),
        hypothesis fun d member => nothing d (List.mem_cons_of_mem _ member)]
      rfl

theorem rewriteAux_skip (skipped rest : Text) :
    rewriteAux find skipped.length (skipped ++ rest) = rewriteAux find 0 rest := by
  induction skipped with
  | nil => rfl
  | cons c others hypothesis => exact hypothesis

/-- What is found is replaced. -/
theorem Turns.replaced
    {c : Char}
    {others value : Text}
    (found : ∀ rest, find (c :: others ++ rest) = some (value, others.length + 1)) :
    Turns find (c :: others) value := by
  intro rest
  have here := found rest
  rw [List.cons_append] at here ⊢
  rw [rewriteAux, here]
  exact congrArg (value ++ ·) (rewriteAux_skip others rest)

end

end Text

namespace AddressTemplate

/-! ## Pieces -/

/-- What a placeholder stands for. -/
inductive Role where
  /-- The key of a search. -/
  | key
  /-- The number of a page. -/
  | page
  deriving DecidableEq

/-- The name of a placeholder. -/
def Role.name : Role → Text
  | .key => "key"
  | .page => "page"

/-- A brace, which may belong to a placeholder. -/
def isBrace (c : Char) : Bool := c == '\x7b' || c == '\x7d'

/-- A piece of a template in which the only braces are those of placeholders. -/
inductive Piece where
  /-- A character that is no brace. -/
  | char (c : Char) (plain : isBrace c = false)
  /-- A placeholder, with blanks around its name. -/
  | placeholder (role : Role) (before after : Text)
      (blankBefore : before.isBlankText = true) (blankAfter : after.isBlankText = true)

/-- The characters of a text without braces. -/
def piecesOf (text : Text) (plain : text.any isBrace = false) : List Piece :=
  text.attach.map fun c => .char c.1 (eq_false_of_ne_true (List.any_eq_false.mp plain c.1 c.2))

/-- A placeholder as it is written. -/
def Role.written (role : Role) (before after : Text) : Text :=
  ['\x7b', '\x7b'] ++ (before ++ (role.name ++ (after ++ ['\x7d', '\x7d'])))

/-- A piece as it is written. -/
def Piece.text : Piece → Text
  | .char c _ => [c]
  | .placeholder role before after _ _ => role.written before after

/-- A piece with a value in place of the placeholders of one role. -/
def Piece.withValue (role : Role) (value : Text) : Piece → Text
  | .char c _ => [c]
  | .placeholder other before after _ _ =>
      if other = role then value else other.written before after

/-- A piece with values in place of all placeholders. -/
def Piece.filled (key page : Text) : Piece → Text
  | .char c _ => [c]
  | .placeholder .key .. => key
  | .placeholder .page .. => page

/-- The text of pieces. -/
def textOf (pieces : List Piece) : Text := pieces.flatMap Piece.text

/-- The text of pieces with values in place of all placeholders. -/
def filledText (key page : Text) (pieces : List Piece) : Text :=
  pieces.flatMap (Piece.filled key page)

/-! ## Looking for placeholders -/

theorem placeholderLength?_of_ne {c : Char} (plain : c ≠ '\x7b') (name rest : Text) :
    placeholderLength? name (c :: rest) = none := by
  unfold placeholderLength?
  rw [Text.dropStart?_of_ne plain]
  rfl

/-- The first characters of names are neither blank nor those of other names. -/
theorem Role.name_eq_cons (role : Role) :
    ∃ c rest, role.name = c :: rest ∧ Text.isBlank c = false ∧
      ∀ other, other ≠ role → ∃ d others, other.name = d :: others ∧ c ≠ d := by
  cases role with
  | key => exact ⟨'k', _, rfl, by decide, fun other differ => by
      cases other with
      | key => exact absurd rfl differ
      | page => exact ⟨'p', _, rfl, by decide⟩⟩
  | page => exact ⟨'p', _, rfl, by decide, fun other differ => by
      cases other with
      | key => exact ⟨'k', _, rfl, by decide⟩
      | page => exact absurd rfl differ⟩

theorem placeholderLength?_placeholder
    (role : Role)
    {before after : Text}
    (blankBefore : before.isBlankText = true)
    (blankAfter : after.isBlankText = true)
    (rest : Text) :
    placeholderLength? role.name (role.written before after ++ rest) =
      some (role.written before after).length := by
  obtain ⟨c, others, isName, visible, -⟩ := role.name_eq_cons
  have start : Text.trimLeft (before ++ (role.name ++ (after ++ (['\x7d', '\x7d'] ++ rest)))) =
      role.name ++ (after ++ (['\x7d', '\x7d'] ++ rest)) := by
    rw [isName]
    exact Text.trimLeft_append blankBefore visible _
  have ending : Text.trimLeft (after ++ (['\x7d', '\x7d'] ++ rest)) =
      ['\x7d', '\x7d'] ++ rest :=
    Text.trimLeft_append blankAfter (by decide) _
  unfold placeholderLength? Role.written
  simp only [List.append_assoc, Text.dropStart?_append, start, ending, Option.bind_eq_bind,
    Option.bind_some, Option.pure_def, List.length_append]
  exact congrArg some (by omega)

/-- A placeholder of one role is none of the other. -/
theorem placeholderLength?_other
    {role other : Role}
    (differ : other ≠ role)
    {before : Text}
    (blankBefore : before.isBlankText = true)
    (after rest : Text) :
    placeholderLength? role.name (other.written before after ++ rest) = none := by
  obtain ⟨c, others, isName, visible, apart⟩ := other.name_eq_cons
  obtain ⟨d, letters, isRole, notSame⟩ := apart role differ.symm
  have start (rest : Text) :
      Text.trimLeft (before ++ (other.name ++ rest)) = c :: (others ++ rest) := by
    rw [isName]
    exact Text.trimLeft_append blankBefore visible _
  have missed (rest : Text) : Text.dropStart? (c :: rest) role.name = none := by
    rw [isRole]
    exact Text.dropStart?_of_ne notSame _ _
  unfold placeholderLength? Role.written
  simp only [List.append_assoc, Text.dropStart?_append, Option.bind_eq_bind, Option.bind_some,
    start, missed, Option.bind_none]

/-- A single brace opens no placeholder. -/
theorem placeholderLength?_single {c : Char} (single : c ≠ '\x7b') (name rest : Text) :
    placeholderLength? name ('\x7b' :: c :: rest) = none := by
  have missed : Text.dropStart? ('\x7b' :: c :: rest) ['\x7b', '\x7b'] = none := by
    unfold Text.dropStart? Text.startsWith
    rw [if_neg (by simp [Ne.symm single])]
  unfold placeholderLength?
  rw [missed]
  rfl

/-! ## Filling pieces -/

/-- What replaces a placeholder, and how long that is. -/
def findRole (role : Role) (value text : Text) : Option (Text × Nat) :=
  (placeholderLength? role.name text).map fun length => (value, length)

theorem findRole_eq_none
    {role : Role}
    {text : Text}
    (missed : placeholderLength? role.name text = none)
    (value : Text) :
    findRole role value text = none := by
  unfold findRole
  rw [missed]
  rfl

/-- A text without opening braces stays. -/
theorem turns_of_not_mem
    (role : Role)
    (value : Text)
    {text : Text}
    (plain : '\x7b' ∉ text) :
    Text.Turns (findRole role value) text text := by
  refine .stays fun c member rest => findRole_eq_none (placeholderLength?_of_ne ?_ _ _) value
  rintro rfl
  exact plain member

theorem not_mem_of_isBlankText {blanks : Text} (blank : blanks.isBlankText = true) :
    '\x7b' ∉ blanks := fun member =>
  absurd (List.all_eq_true.mp blank _ member) (by decide)

theorem Role.not_mem_name (role : Role) : '\x7b' ∉ role.name := by
  cases role <;> decide

theorem turns_placeholder
    (role : Role)
    (value : Text)
    {before after : Text}
    (blankBefore : before.isBlankText = true)
    (blankAfter : after.isBlankText = true) :
    Text.Turns (findRole role value) (role.written before after) value :=
  .replaced fun rest => by
    have found := placeholderLength?_placeholder role blankBefore blankAfter rest
    unfold findRole
    exact congrArg (Option.map fun length => (value, length)) found

theorem turns_other
    {role other : Role}
    (differ : other ≠ role)
    (value : Text)
    {before after : Text}
    (blankBefore : before.isBlankText = true)
    (blankAfter : after.isBlankText = true) :
    Text.Turns (findRole role value) (other.written before after)
      (other.written before after) := by
  have inside : '\x7b' ∉ before ++ (other.name ++ (after ++ ['\x7d', '\x7d'])) := by
    simp [not_mem_of_isBlankText blankBefore, not_mem_of_isBlankText blankAfter,
      other.not_mem_name]
  intro rest
  have first := placeholderLength?_other differ blankBefore after rest
  unfold Role.written at first ⊢
  generalize shape : before ++ (other.name ++ (after ++ ['\x7d', '\x7d'])) = text at first inside ⊢
  cases text with
  | nil => simp at shape
  | cons c others =>
      have single : c ≠ '\x7b' := by
        rintro rfl
        exact inside List.mem_cons_self
      have second := placeholderLength?_single single role.name (others ++ rest)
      have stays := turns_of_not_mem role value inside rest
      calc Text.rewriteAux (findRole role value) 0 ('\x7b' :: '\x7b' :: c :: (others ++ rest))
        _ = '\x7b' :: Text.rewriteAux (findRole role value) 0 ('\x7b' :: c :: (others ++ rest)) :=
            Text.rewriteAux_cons_of_none (findRole_eq_none first value)
        _ = '\x7b' :: '\x7b' :: Text.rewriteAux (findRole role value) 0 (c :: (others ++ rest)) :=
            congrArg _ (Text.rewriteAux_cons_of_none (findRole_eq_none second value))
        _ = '\x7b' :: '\x7b' :: (c :: others ++ Text.rewriteAux (findRole role value) 0 rest) := by
            rw [← stays]
            rfl

/-- Filling the placeholders of one role leaves the other pieces. -/
theorem turns_piece (role : Role) (value : Text) (piece : Piece) :
    Text.Turns (findRole role value) piece.text (piece.withValue role value) := by
  cases piece with
  | char c plain =>
      refine turns_of_not_mem role value ?_
      rintro (_ | ⟨_, ⟨⟩⟩)
      exact absurd plain (by decide)
  | placeholder other before after blankBefore blankAfter =>
      by_cases same : other = role
      · subst same
        simpa [Piece.text, Piece.withValue] using
          turns_placeholder other value blankBefore blankAfter
      · simpa [Piece.text, Piece.withValue, same] using
          turns_other same value blankBefore blankAfter

/-- Once the key has been filled in, filling in the page leaves no placeholder. -/
theorem turns_keyed
    {key : Text}
    (plain : '\x7b' ∉ key)
    (page : Text)
    (piece : Piece) :
    Text.Turns (findRole .page page) (piece.withValue .key key) (piece.filled key page) := by
  cases piece with
  | char c plain => exact turns_piece .page page (.char c plain)
  | placeholder role before after blankBefore blankAfter =>
      cases role with
      | key => exact turns_of_not_mem .page page plain
      | page => exact turns_placeholder .page page blankBefore blankAfter

/-- Filling in the key and then the page puts the values for the placeholders, and leaves all
other characters. -/
theorem fill_textOf
    {key : Text}
    (plain : '\x7b' ∉ key)
    (page : Text)
    (pieces : List Piece) :
    fill "page" page (fill "key" key (textOf pieces)) = filledText key page pieces := by
  have keyed : Text.Turns (findRole .key key) (textOf pieces)
      (pieces.flatMap (Piece.withValue .key key)) :=
    .flatMap fun piece _ => turns_piece .key key piece
  have paged : Text.Turns (findRole .page page) (pieces.flatMap (Piece.withValue .key key))
      (filledText key page pieces) :=
    .flatMap fun piece _ => turns_keyed plain page piece
  exact (congrArg (fill "page" page) keyed.rewrite_eq).trans paged.rewrite_eq

/-- No expression is left in a text that has been filled with values without braces. -/
theorem isTemplate_filledText
    {key page : Text}
    (plainKey : '\x7b' ∉ key)
    (plainPage : '\x7b' ∉ page)
    (pieces : List Piece) :
    Template.isTemplate (filledText key page pieces) = false := by
  refine Text.contains_of_not_mem fun member => ?_
  obtain ⟨piece, -, inside⟩ := List.mem_flatMap.mp member
  cases piece with
  | char c plain =>
      rcases inside with _ | ⟨_, ⟨⟩⟩
      exact absurd plain (by decide)
  | placeholder role before after blankBefore blankAfter =>
      cases role with
      | key => exact plainKey inside
      | page => exact plainPage inside

/-- Pieces are filled to a text that is empty when there are none. -/
theorem filledText_eq_nil_iff
    {key page : Text}
    (givenKey : key ≠ [])
    (givenPage : page ≠ [])
    (pieces : List Piece) :
    filledText key page pieces = [] ↔ pieces = [] := by
  cases pieces with
  | nil => simp [filledText]
  | cons piece rest =>
      have given : piece.filled key page ≠ [] := by
        cases piece with
        | char c plain => simp [Piece.filled]
        | placeholder role before after blankBefore blankAfter =>
            cases role with
            | key => exact givenKey
            | page => exact givenPage
      simp [filledText, given]

end AddressTemplate

end RuleProbe
