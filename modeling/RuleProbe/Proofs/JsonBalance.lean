import Mathlib.Data.List.TakeDrop
import RuleProbe.Proofs.Effects
import RuleProbe.Proofs.Numeral
import RuleProbe.Proofs.Text

/-!
# Brackets and quotes of JSON texts

Whatever the reader of JSON takes from a text closes each container that it opens, and no other one,
and the same holds of strings.  So the place at which a text stops tells whether it could go on with
an object and be complete with it: outside of all strings the object leaves the containers around it
open, and inside of a string it stops inside of a string again, since its own strings are turned
inside out.

What the reader takes also tells why it gives up on a text that follows the grammar: the text holds
a long row of digits, or many opening brackets.
-/

namespace RuleProbe

namespace Json

/-! ## Places -/

/-- A place of a JSON text, with the number of containers that are open there. -/
inductive Place where
  /-- Outside of all strings. -/
  | outside (depth : Nat)
  /-- Inside of a string, perhaps behind the character that escapes the next one. -/
  | inside (depth : Nat) (escaped : Bool)

/-- A character that has no part in brackets and quotes. -/
def isNeutral (c : Char) : Bool := ['"', '\\', '[', ']', '\x7b', '\x7d'].all (c != ·)

namespace Place

/-- The place behind a character.  Nothing is closed that is not open, and nothing is escaped
outside of strings. -/
def step : Place → Char → Option Place
  | outside depth, c =>
      if isNeutral c then some (outside depth)
      else if c = '"' then some (inside depth false)
      else if c = '[' ∨ c = '\x7b' then some (outside (depth + 1))
      else if c = '\\' ∨ depth = 0 then none
      else some (outside (depth - 1))
  | inside depth escaped, c =>
      if escaped then some (inside depth false)
      else if c = '"' then some (outside depth)
      else some (inside depth (c == '\\'))

/-- The place behind a text. -/
def scan (place : Place) (text : Text) : Option Place := text.foldlM step place

variable {c : Char} {first second : Text} {place next : Place}

theorem scan_append : scan place (first ++ second) = scan place first >>= (scan · second) :=
  List.foldlM_append

theorem scan_append_of (scanned : scan place first = some next) :
    scan place (first ++ second) = scan next second := by
  rw [scan_append, scanned]
  rfl

theorem scan_cons_of (stepped : step place c = some next) :
    scan place (c :: second) = scan next second := by
  rw [scan, List.foldlM_cons, stepped]
  rfl

/-! ## Neutral characters -/

theorem step_outside_of_isNeutral (neutral : isNeutral c = true) (depth : Nat) :
    step (outside depth) c = some (outside depth) := if_pos neutral

theorem step_inside_of_ne (noQuote : c ≠ '"') (noEscape : c ≠ '\\') (depth : Nat) :
    step (inside depth false) c = some (inside depth false) := by
  simp [step, noQuote, noEscape]

theorem ne_of_isNeutral (neutral : isNeutral c = true) : c ≠ '"' ∧ c ≠ '\\' := by
  constructor
  all_goals
    rintro rfl
    cases neutral

/-- A place stays where no character leaves it. -/
theorem scan_of_stays
    {text : Text}
    (stays : ∀ c ∈ text, step place c = some place) :
    scan place text = some place := by
  induction text with
  | nil => rfl
  | cons c rest hypothesis =>
      rw [scan_cons_of (stays c List.mem_cons_self)]
      exact hypothesis fun d member => stays d (List.mem_cons_of_mem c member)

theorem scan_outside_of_neutral
    {text : Text}
    (neutral : ∀ c ∈ text, isNeutral c = true)
    (depth : Nat) :
    scan (outside depth) text = some (outside depth) :=
  scan_of_stays fun c member => step_outside_of_isNeutral (neutral c member) depth

theorem scan_inside_of_neutral
    {text : Text}
    (neutral : ∀ c ∈ text, isNeutral c = true)
    (depth : Nat) :
    scan (inside depth false) text = some (inside depth false) := by
  refine scan_of_stays fun c member => ?_
  obtain ⟨noQuote, noEscape⟩ := ne_of_isNeutral (neutral c member)
  exact step_inside_of_ne noQuote noEscape depth

/-! ## Strings turned inside out -/

/-- One of two places is outside of strings, the other one inside. -/
inductive Opposite : Place → Place → Prop where
  | outside (m n : Nat) : Opposite (.outside m) (.inside n false)
  | inside (m n : Nat) : Opposite (.inside m false) (.outside n)

theorem Opposite.symm {one two : Place} (opposite : Opposite one two) : Opposite two one := by
  cases opposite with
  | outside m n => exact .inside n m
  | inside m n => exact .outside n m

/-- Outside of strings a quote opens a string, and other characters stay outside. -/
theorem step_outside_cases
    {depth : Nat}
    (stepped : step (outside depth) c = some next) :
    (c = '"' ∧ next = inside depth false) ∨
      (c ≠ '"' ∧ c ≠ '\\' ∧ ∃ now, next = outside now) := by
  rw [step] at stepped
  split at stepped
  case isTrue neutral =>
    obtain ⟨noQuote, noEscape⟩ := ne_of_isNeutral neutral
    exact .inr ⟨noQuote, noEscape, depth, (Option.some.inj stepped).symm⟩
  case isFalse =>
    split at stepped
    case isTrue quote => exact .inl ⟨quote, (Option.some.inj stepped).symm⟩
    case isFalse noQuote =>
      refine .inr ⟨noQuote, ?_⟩
      split at stepped
      case isTrue opening =>
        refine ⟨?_, _, (Option.some.inj stepped).symm⟩
        rcases opening with rfl | rfl <;> decide
      case isFalse =>
        split at stepped
        case isTrue => cases stepped
        case isFalse closing =>
          exact ⟨(not_or.mp closing).1, _, (Option.some.inj stepped).symm⟩

/-- A character that both places allow keeps them opposite. -/
theorem Opposite.step
    {one two one' two' : Place}
    (opposite : Opposite one two)
    (left : one.step c = some one')
    (right : two.step c = some two') :
    Opposite one' two' := by
  have across {m n : Nat} {next next' : Place}
      (out : (Place.outside m).step c = some next)
      (within : (Place.inside n false).step c = some next') :
      Opposite next next' := by
    rcases step_outside_cases out with ⟨rfl, rfl⟩ | ⟨noQuote, noEscape, now, rfl⟩
    · cases within
      exact .inside m n
    · rw [step_inside_of_ne noQuote noEscape] at within
      cases within
      exact .outside now n
  cases opposite with
  | outside m n => exact across left right
  | inside m n => exact (across right left).symm

theorem Opposite.scan
    {text : Text}
    {one two one' two' : Place}
    (opposite : Opposite one two)
    (left : one.scan text = some one')
    (right : two.scan text = some two') :
    Opposite one' two' := by
  induction text generalizing one two with
  | nil =>
      cases left
      cases right
      exact opposite
  | cons c rest hypothesis =>
      obtain ⟨one₁, firstLeft, left⟩ := Option.bind_eq_some_iff.mp left
      obtain ⟨two₁, firstRight, right⟩ := Option.bind_eq_some_iff.mp right
      exact hypothesis (opposite.step firstLeft firstRight) left right

end Place

/-! ## From one place to another -/

/-- A part of a text leads from the one place to the other, whatever the depth, and the text goes on
with the rest behind it. -/
def Leads (start goal : Nat → Place) (text rest : Text) : Prop :=
  ∃ part, (∀ depth, (start depth).scan part = some (goal depth)) ∧ part ++ rest = text

/-- Inside of a string. -/
def inString (depth : Nat) : Place := .inside depth false

/-- A text whose strings and containers are closed in it, and no other ones. -/
def Balanced (text : Text) : Prop :=
  ∀ depth, (Place.outside depth).scan text = some (.outside depth)

namespace Leads

variable {start middle goal : Nat → Place} {c : Char} {text between rest : Text}

theorem refl (start : Nat → Place) (text : Text) : Leads start start text text :=
  ⟨[], fun _ => rfl, rfl⟩

theorem trans
    (one : Leads start middle text between)
    (two : Leads middle goal between rest) :
    Leads start goal text rest := by
  obtain ⟨first, toMiddle, rfl⟩ := one
  obtain ⟨second, toGoal, rfl⟩ := two
  refine ⟨first ++ second, fun depth => ?_, List.append_assoc _ _ _⟩
  rw [Place.scan_append_of (toMiddle depth), toGoal]

theorem cons (stepped : ∀ depth, (start depth).step c = some (goal depth)) (rest : Text) :
    Leads start goal (c :: rest) rest :=
  ⟨[c], fun depth => Place.scan_cons_of (stepped depth), rfl⟩

theorem neutral {first : Text} (all : ∀ c ∈ first, isNeutral c = true) (rest : Text) :
    Leads .outside .outside (first ++ rest) rest :=
  ⟨first, Place.scan_outside_of_neutral all, rfl⟩

/-- What stands between two brackets is a container. -/
theorem enclosed
    {opening closing : Char}
    (opens : ∀ depth, (Place.outside depth).step opening = some (.outside (depth + 1)))
    (closes : ∀ depth, (Place.outside (depth + 1)).step closing = some (.outside depth))
    (inner : Leads .outside .outside text (closing :: rest)) :
    Leads .outside .outside (opening :: text) rest := by
  obtain ⟨part, scanned, split⟩ := inner
  have deeper : Leads (fun depth => .outside (depth + 1)) (fun depth => .outside (depth + 1)) text
      (closing :: rest) :=
    ⟨part, fun depth => scanned (depth + 1), split⟩
  exact (cons opens text).trans (deeper.trans (cons closes rest))

theorem isSuffix (leads : Leads start goal text rest) : rest <:+ text := by
  obtain ⟨part, -, split⟩ := leads
  exact ⟨part, split⟩

end Leads

/-! ## What the reader takes -/

namespace Reader

theorem isNeutral_of_isSpace {c : Char} (space : isSpace c = true) : isNeutral c = true := by
  simp only [isSpace, Bool.or_eq_true, beq_iff_eq] at space
  rcases space with ((rfl | rfl) | rfl) | rfl <;> rfl

theorem isNeutral_of_digit {c : Char} (digit : Letter.isAsciiDigit c.toNat = true) :
    isNeutral c = true := by
  have other := ne_of_digit digit
  simp [isNeutral, other '"' rfl, other '\\' rfl, other '[' rfl, other ']' rfl, other '\x7b' rfl,
    other '\x7d' rfl]

theorem skipSpace_leads (text : Text) : Leads .outside .outside text (skipSpace text) := by
  refine ⟨text.takeWhile isSpace, ?_, List.takeWhile_append_dropWhile⟩
  refine Place.scan_outside_of_neutral fun c member => isNeutral_of_isSpace ?_
  exact List.mem_takeWhile_imp member

/-- The blanks behind a sign between values are passed over. -/
theorem sign_leads {sign : Char} (neutral : isNeutral sign = true) (rest : Text) :
    Leads .outside .outside (sign :: rest) (skipSpace rest) :=
  (Leads.cons (Place.step_outside_of_isNeutral neutral) rest).trans (skipSpace_leads rest)

/-! ### Strings -/

theorem hexDigit?_plain {c : Char} {digit : Nat} (found : hexDigit? c = some digit) (depth : Nat) :
    (inString depth).step c = some (inString depth) := by
  refine Place.step_inside_of_ne ?_ ?_ depth
  all_goals
    rintro rfl
    cases found

theorem readHex4_leads
    {text rest : Text}
    {code : Nat}
    (found : readHex4 text = some (code, rest)) :
    Leads inString inString text rest := by
  match text with
  | a :: b :: c :: d :: others =>
      simp only [readHex4, Option.bind_eq_bind, Option.bind_eq_some_iff, Option.some.injEq,
        Prod.mk.injEq] at found
      obtain ⟨_, first, _, second, _, third, _, fourth, _, rfl⟩ := found
      exact (Leads.cons (hexDigit?_plain first) _).trans <|
        (Leads.cons (hexDigit?_plain second) _).trans <|
        (Leads.cons (hexDigit?_plain third) _).trans (Leads.cons (hexDigit?_plain fourth) _)
  | [] | [_] | [_, _] | [_, _, _] => cases found

/-- An escaped character leaves a string open. -/
theorem escape_leads (c : Char) (rest : Text) :
    Leads inString inString ('\\' :: c :: rest) rest := by
  have escapes : Leads inString (.inside · true) ('\\' :: c :: rest) (c :: rest) :=
    .cons (fun _ => rfl) _
  exact escapes.trans (.cons (fun _ => rfl) rest)

theorem readUnicode_leads (first : Nat) (rest : Text) :
    Leads inString inString rest (readUnicode first rest).2 := by
  unfold readUnicode
  split
  · split
    · rename_i more
      split
      · rename_i second after found
        split
        · exact (escape_leads 'u' more).trans (readHex4_leads found)
        · exact .refl _ _
      · exact .refl _ _
    · exact .refl _ _
  · exact .refl _ _

theorem readChars_leads
    {fuel : Nat}
    {read text value rest : Text}
    (done : readChars fuel read text = .ok (value, rest)) :
    Leads inString .outside text rest := by
  induction fuel generalizing read text with
  | zero => cases done
  | succ fuel hypothesis =>
      unfold readChars at done
      split at done
      · cases done
      · cases done
        exact .cons (fun _ => rfl) rest
      · rename_i others
        split at done
        · cases done
        · rename_i first after found
          have digits := (escape_leads 'u' others).trans (readHex4_leads found)
          exact (digits.trans (readUnicode_leads first after)).trans (hypothesis done)
      · split at done
        · cases done
        · exact (escape_leads _ _).trans (hypothesis done)
      · rename_i c others noQuote _ _
        split at done
        · cases done
        · rename_i plain
          rw [Bool.or_eq_true, not_or, beq_iff_eq] at plain
          have stays := Place.step_inside_of_ne noQuote plain.2
          exact (Leads.cons stays _).trans (hypothesis done)

theorem readString_leads
    {text value rest : Text}
    (done : readString text = .ok (value, rest)) :
    Leads .outside .outside ('"' :: text) rest :=
  (Leads.cons (fun _ => rfl) text).trans (readChars_leads done)

/-! ### Words and numbers -/

theorem dropStart?_leads
    {text word rest : Text}
    (found : Text.dropStart? text word = some rest)
    (neutral : word.all isNeutral = true) :
    Leads .outside .outside text rest := by
  unfold Text.dropStart? at found
  split at found
  · rename_i starts
    obtain ⟨more, rfl⟩ := List.isPrefixOf_iff_prefix.mp starts
    rw [List.drop_left] at found
    cases found
    exact .neutral (List.all_eq_true.mp neutral) _
  · cases found

theorem spanDigits_leads (text : Text) :
    Leads .outside .outside text (Decimal.spanDigits text).2 := by
  rw [Decimal.spanDigits, List.span_eq_takeWhile_dropWhile]
  refine ⟨_, ?_, List.takeWhile_append_dropWhile⟩
  refine Place.scan_outside_of_neutral fun c member => isNeutral_of_digit ?_
  exact List.mem_takeWhile_imp (p := fun (c : Char) => Letter.isAsciiDigit c.toNat) member

theorem readWhole_leads
    {text digits rest : Text}
    (found : readWhole text = some (digits, rest)) :
    Leads .outside .outside text rest := by
  unfold readWhole at found
  split at found
  · cases found
    exact .cons (fun _ => rfl) rest
  · simp only at found
    split at found
    · cases found
    · cases found
      exact spanDigits_leads text

theorem readFraction_leads
    {text digits rest : Text}
    (found : readFraction text = some (digits, rest)) :
    Leads .outside .outside text rest := by
  unfold readFraction at found
  split at found
  · rename_i others
    simp only at found
    split at found
    · cases found
    · cases found
      exact (Leads.cons (fun _ => rfl) others).trans (spanDigits_leads others)
  · cases found

theorem readExponent_leads
    {text rest : Text}
    {exponent : Int}
    (found : Decimal.readExponent text = some (exponent, rest)) :
    Leads .outside .outside text rest := by
  unfold Decimal.readExponent at found
  split at found
  · rename_i mark more
    split at found
    · rename_i isMark
      have begins : Leads .outside .outside (mark :: more) more := by
        rw [Bool.or_eq_true, beq_iff_eq, beq_iff_eq] at isMark
        rcases isMark with rfl | rfl <;> exact .cons (fun _ => rfl) more
      refine begins.trans ?_
      -- Past the mark and the sign, only digits are read.
      simp only at found
      repeat' split at found
      all_goals
        cases found
        try first
          | exact spanDigits_leads _
          | exact (Leads.cons (fun _ => rfl) _).trans (spanDigits_leads _)
    · cases found
  · cases found

theorem readUnsigned_leads
    {negative : Bool}
    {text rest : Text}
    {value : Json}
    (done : readUnsigned negative text = .ok (value, rest)) :
    Leads .outside .outside text rest ∧ value.isContainer = false := by
  unfold readUnsigned at done
  split at done
  · cases done
  · rename_i whole others isWhole
    have first := readWhole_leads isWhole
    have second :
        Leads .outside .outside others (((readFraction others).map (·.2)).getD others) := by
      cases fraction : readFraction others with
      | none => exact .refl _ _
      | some found => exact readFraction_leads fraction
    simp only at done
    split at done
    · split at done
      · cases done
      · cases done
        exact ⟨first, rfl⟩
    · cases done
      refine ⟨(first.trans second).trans ?_, rfl⟩
      cases exponent : Decimal.readExponent
          (((readFraction others).map (·.2)).getD others) with
      | none => exact .refl _ _
      | some found => exact readExponent_leads exponent

theorem readScalar_leads
    {text rest : Text}
    {value : Json}
    (done : readScalar text = .ok (value, rest)) :
    Leads .outside .outside text rest ∧ value.isContainer = false := by
  unfold readScalar at done
  repeat' split at done
  all_goals first
    | (cases done; exact ⟨dropStart?_leads ‹_› (by decide), rfl⟩)
    | skip
  · have inner := readUnsigned_leads done
    exact ⟨(Leads.cons (fun _ => rfl) _).trans inner.1, inner.2⟩
  · exact readUnsigned_leads done

/-! ### Containers -/

/-- What stands between the brackets of an array is one. -/
theorem array_leads {text rest : Text} (inner : Leads .outside .outside text (']' :: rest)) :
    Leads .outside .outside ('[' :: text) rest :=
  inner.enclosed (fun _ => rfl) fun _ => rfl

theorem object_leads {text rest : Text} (inner : Leads .outside .outside text ('\x7d' :: rest)) :
    Leads .outside .outside ('\x7b' :: text) rest :=
  inner.enclosed (fun _ => rfl) fun _ => rfl

/-- With some fuel, what is read is closed by what it opens, the closing bracket of a container
aside. -/
structure LeadsAt (fuel : Nat) : Prop where
  value {depth : Nat} {text rest : Text} {value : Json}
      (done : readValue fuel depth text = .ok (value, rest)) :
    Leads .outside .outside text rest
  items {depth : Nat} {text rest : Text} {items : List Json}
      (done : readItems fuel depth text = .ok (items, rest)) :
    Leads .outside .outside text (']' :: rest)
  members {depth : Nat} {text rest : Text} {before after : Members}
      (done : readMembers fuel depth before text = .ok (after, rest)) :
    Leads .outside .outside text ('\x7d' :: rest)

namespace LeadsAt

theorem zero : LeadsAt 0 where
  value done := by cases done
  items done := by cases done
  members done := by cases done

variable {fuel : Nat}

theorem array_inner
    (below : LeadsAt fuel)
    {depth : Nat}
    {inner rest : Text}
    {value : Json}
    (done : readValue (fuel + 1) depth ('[' :: inner) = .ok (value, rest)) :
    Leads .outside .outside inner (']' :: rest) := by
  rw [readValue] at done
  refine (skipSpace_leads inner).trans ?_
  split at done
  · cases done
  · split at done
    · rename_i closed
      cases done
      rw [closed]
      exact .refl _ _
    · obtain ⟨found, read, returned⟩ := exists_ok_of_bind done
      cases returned
      exact below.items read

theorem object_inner
    (below : LeadsAt fuel)
    {depth : Nat}
    {inner rest : Text}
    {value : Json}
    (done : readValue (fuel + 1) depth ('\x7b' :: inner) = .ok (value, rest)) :
    Leads .outside .outside inner ('\x7d' :: rest) := by
  rw [readValue] at done
  refine (skipSpace_leads inner).trans ?_
  split at done
  · cases done
  · split at done
    · rename_i closed
      cases done
      rw [closed]
      exact .refl _ _
    · obtain ⟨found, read, returned⟩ := exists_ok_of_bind done
      cases returned
      exact below.members read

theorem value_succ
    (below : LeadsAt fuel)
    {depth : Nat}
    {text rest : Text}
    {value : Json}
    (done : readValue (fuel + 1) depth text = .ok (value, rest)) :
    Leads .outside .outside text rest := by
  have whole := done
  unfold readValue at done
  split at done
  · obtain ⟨found, string, returned⟩ := exists_ok_of_bind done
    cases returned
    exact readString_leads string
  · exact array_leads (below.array_inner whole)
  · exact object_leads (below.object_inner whole)
  · exact (readScalar_leads done).1

theorem items_succ
    (below : LeadsAt fuel)
    {depth : Nat}
    {text rest : Text}
    {items : List Json}
    (done : readItems (fuel + 1) depth text = .ok (items, rest)) :
    Leads .outside .outside text (']' :: rest) := by
  unfold readItems at done
  obtain ⟨⟨item, others⟩, first, returned⟩ := exists_ok_of_bind done
  refine (below.value first).trans ((skipSpace_leads others).trans ?_)
  dsimp only at returned
  split at returned
  · rename_i closed
    cases returned
    rw [closed]
    exact .refl _ _
  · rename_i after more
    rw [more]
    obtain ⟨_, later, last⟩ := exists_ok_of_bind returned
    cases last
    exact (sign_leads rfl after).trans (below.items later)
  · cases returned

theorem members_succ
    (below : LeadsAt fuel)
    {depth : Nat}
    {text rest : Text}
    {before after : Members}
    (done : readMembers (fuel + 1) depth before text = .ok (after, rest)) :
    Leads .outside .outside text ('\x7d' :: rest) := by
  unfold readMembers at done
  split at done
  · obtain ⟨⟨key, behindKey⟩, string, afterKey⟩ := exists_ok_of_bind done
    refine (readString_leads string).trans ((skipSpace_leads behindKey).trans ?_)
    dsimp only at afterKey
    split at afterKey
    · rename_i source colon
      obtain ⟨⟨value, behindValue⟩, first, afterValue⟩ := exists_ok_of_bind afterKey
      rw [colon]
      refine (sign_leads rfl source).trans ?_
      refine (below.value first).trans ((skipSpace_leads behindValue).trans ?_)
      dsimp only at afterValue
      split at afterValue
      · rename_i closed
        cases afterValue
        rw [closed]
        exact .refl _ _
      · rename_i more comma
        rw [comma]
        exact (sign_leads rfl more).trans (below.members afterValue)
      · cases afterValue
    · cases afterKey
  · cases done

theorem succ (below : LeadsAt fuel) : LeadsAt (fuel + 1) where
  value := below.value_succ
  items := below.items_succ
  members := below.members_succ

end LeadsAt

theorem leadsAt (fuel : Nat) : LeadsAt fuel := by
  induction fuel with
  | zero => exact .zero
  | succ fuel below => exact below.succ

/-- An object is read from its opening to its closing bracket. -/
theorem readValue_obj
    {fuel depth : Nat}
    {text rest : Text}
    {members : Members}
    (done : readValue fuel depth text = .ok (.obj members, rest)) :
    ∃ body, Balanced body ∧ text = '\x7b' :: (body ++ '\x7d' :: rest) := by
  cases fuel with
  | zero => cases done
  | succ fuel =>
      have whole := done
      unfold readValue at done
      split at done
      · obtain ⟨found, -, returned⟩ := exists_ok_of_bind done
        cases returned
      · split at done
        · cases done
        · split at done
          · cases done
          · obtain ⟨found, -, returned⟩ := exists_ok_of_bind done
            cases returned
      · obtain ⟨body, balanced, split⟩ := (leadsAt fuel).object_inner whole
        exact ⟨body, balanced, by rw [split]⟩
      · have scalar := (readScalar_leads done).2
        cases scalar

end Reader

/-! ## Objects behind a text -/

theorem isNeutral_of_isBlank {c : Char} (blank : Text.isBlank c = true) : isNeutral c = true := by
  refine List.all_eq_true.mpr fun bracket member => bne_iff_ne.mpr ?_
  rintro rfl
  simp only [List.mem_cons, List.not_mem_nil, or_false] at member
  rcases member with rfl | rfl | rfl | rfl | rfl | rfl <;> cases blank

theorem isBlank_of_isSpace {c : Char} (space : Reader.isSpace c = true) :
    Text.isBlank c = true := by
  simp only [Reader.isSpace, Bool.or_eq_true, beq_iff_eq] at space
  rcases space with ((rfl | rfl) | rfl) | rfl <;> rfl

/-- An object without blanks around it stands between its brackets. -/
theorem exists_body_of_read
    {text : Text}
    {members : Members}
    (trimmed : text.Trimmed)
    (done : read text = .ok (.obj members)) :
    ∃ body, Balanced body ∧ text = '\x7b' :: (body ++ ['\x7d']) := by
  obtain ⟨⟨value, rest⟩, object, returned⟩ := exists_ok_of_bind done
  have start : Reader.skipSpace text = text := by
    cases text with
    | nil => rfl
    | cons c others =>
        have visible := trimmed.first c rfl
        have noSpace : ¬Reader.isSpace c = true := fun space => by
          rw [isBlank_of_isSpace space] at visible
          cases visible
        exact List.dropWhile_cons_of_neg noSpace
  dsimp only at returned
  split at returned
  case isFalse => cases returned
  case isTrue ends =>
    cases returned
    rw [start] at object
    obtain ⟨body, balanced, shape⟩ := Reader.readValue_obj object
    have all : ∀ c ∈ rest, Reader.isSpace c = true :=
      List.dropWhile_eq_nil_iff.mp (List.isEmpty_iff.mp ends)
    rcases rest.eq_nil_or_concat with rfl | ⟨others, last, rfl⟩
    · exact ⟨body, balanced, shape⟩
    · have visible : Text.isBlank last = false := by
        have regroup : text = ('\x7b' :: (body ++ '\x7d' :: others)) ++ [last] := by
          simp [shape]
        refine trimmed.last last ?_
        rw [regroup, List.getLast?_concat]
        rfl
      have blank := isBlank_of_isSpace (all last (by simp))
      rw [visible] at blank
      cases blank

/-- A balanced text does not go on with an object after a comma: where the object stands outside of
strings it is opened and not closed, and inside of a string it stops inside of one. -/
theorem not_balanced_attached
    {blanks body : Text}
    (blank : blanks.isBlankText = true)
    (balanced : Balanced body)
    (start : Text) :
    ¬Balanced (start ++ ',' :: (blanks ++ '\x7b' :: body)) := by
  intro whole
  have neutral (c : Char) (member : c ∈ blanks) : isNeutral c = true :=
    isNeutral_of_isBlank (List.all_eq_true.mp blank c member)
  have opened (depth : Nat) :
      (Place.outside depth).scan ('\x7b' :: body) = some (.outside (depth + 1)) :=
    (Place.scan_cons_of rfl).trans (balanced (depth + 1))
  have scanned := whole 0
  rw [Place.scan_append, Option.bind_eq_bind, Option.bind_eq_some_iff] at scanned
  obtain ⟨place, -, scanned⟩ := scanned
  cases place with
  | outside depth =>
      have comma : (Place.outside depth).step ',' = some (.outside depth) := rfl
      have passed := Place.scan_outside_of_neutral neutral depth
      rw [Place.scan_cons_of comma, Place.scan_append_of passed, opened] at scanned
      cases scanned
  | inside depth escaped =>
      have comma : (Place.inside depth escaped).step ',' = some (.inside depth false) := by
        cases escaped <;> rfl
      have passed := Place.scan_inside_of_neutral neutral depth
      rw [Place.scan_cons_of comma, Place.scan_append_of passed] at scanned
      cases (Place.Opposite.outside 0 depth).scan (opened 0) scanned

/-- No object begins before a comma and ends with an object behind it. -/
theorem not_read_attached
    {object blanks : Text}
    {members others : Members}
    (trimmed : object.Trimmed)
    (isObject : read object = .ok (.obj members))
    (blank : blanks.isBlankText = true)
    (start : Text) :
    read ('\x7b' :: (start ++ ',' :: (blanks ++ object))) ≠ .ok (.obj others) := by
  intro done
  obtain ⟨body, balanced, rfl⟩ := exists_body_of_read trimmed isObject
  have regroup : start ++ ',' :: (blanks ++ '\x7b' :: (body ++ ['\x7d'])) =
      (start ++ ',' :: (blanks ++ '\x7b' :: body)) ++ ['\x7d'] := by
    simp
  rw [regroup] at done
  obtain ⟨outer, whole, same⟩ := exists_body_of_read (Text.trimmed_between rfl _ rfl) done
  have inner := List.append_cancel_right (List.cons.inj same).2
  rw [← inner] at whole
  exact not_balanced_attached blank balanced start whole

/-! ## Texts of too great a size -/

/-- The number of brackets that open containers, or would do so outside of strings. -/
def openings (text : Text) : Nat := text.countP fun c => c == '[' || c == '\x7b'

theorem openings_cons
    {opening : Char}
    (opens : (opening == '[' || opening == '\x7b') = true)
    (text : Text) :
    openings (opening :: text) = openings text + 1 := by
  rw [openings, List.countP_cons, if_pos opens]
  rfl

/-- More digits stand in a row than an integer may have. -/
def HasLongDigits (text : Text) : Prop :=
  ∃ digits, digits <:+: text ∧ Decimal.AllDigits digits ∧ Integer.digitLimit < digits.length

/-- What a text has in excess where it is refused, with a number of containers open around it. -/
def Excess (depth : Nat) (text : Text) : ReadError → Prop
  | .malformed => True
  | .integerTooLong => HasLongDigits text
  | .tooDeep => Reader.depthLimit + 1 < depth + openings text

namespace Excess

variable {depth : Nat} {text rest : Text} {refused : ReadError}

theorem of_isSuffix (isSuffix : rest <:+ text) (excess : Excess depth rest refused) :
    Excess depth text refused := by
  cases refused with
  | malformed => trivial
  | integerTooLong =>
      obtain ⟨digits, inside, all, long⟩ := excess
      exact ⟨digits, inside.trans isSuffix.isInfix, all, long⟩
  | tooDeep =>
      have fewer : openings rest ≤ openings text := isSuffix.sublist.countP_le
      exact Nat.lt_of_lt_of_le excess (Nat.add_le_add_left fewer depth)

/-- The text of a container has in excess what its inner text has, its opening bracket counted. -/
theorem of_opened
    {opening : Char}
    (opens : (opening == '[' || opening == '\x7b') = true)
    (isSuffix : rest <:+ text)
    (excess : Excess (depth + 1) rest refused) :
    Excess depth (opening :: text) refused := by
  have within := excess.of_isSuffix isSuffix
  cases refused with
  | malformed => trivial
  | integerTooLong =>
      have same : Excess depth text .integerTooLong := within
      exact same.of_isSuffix (List.suffix_cons opening text)
  | tooDeep =>
      have counted := openings_cons opens text
      simp only [Excess] at within ⊢
      omega

/-- A container is nested too deeply only where the ones around it are counted to the limit. -/
theorem of_depth
    {opening : Char}
    (opens : (opening == '[' || opening == '\x7b') = true)
    (deep : Reader.depthLimit < depth)
    (text : Text) :
    Excess depth (opening :: text) .tooDeep := by
  have counted := openings_cons opens text
  simp only [Excess]
  omega

end Excess

namespace Reader

theorem readChars_error
    {fuel : Nat}
    {read text : Text}
    {refused : ReadError}
    (failed : readChars fuel read text = .error refused) :
    refused = .malformed := by
  induction fuel generalizing read text with
  | zero =>
      cases failed
      rfl
  | succ fuel hypothesis =>
      unfold readChars at failed
      repeat' split at failed
      all_goals first
        | exact hypothesis failed
        | (cases failed <;> rfl)

/-- The whole part of a number is a row of digits. -/
theorem readWhole_digits
    {text whole rest : Text}
    (found : readWhole text = some (whole, rest)) :
    whole <+: text ∧ Decimal.AllDigits whole := by
  unfold readWhole at found
  split at found
  · cases found
    exact ⟨List.prefix_append ['0'] _, by simp [Decimal.AllDigits, Letter.isAsciiDigit]⟩
  · simp only [Decimal.spanDigits, List.span_eq_takeWhile_dropWhile] at found
    split at found
    · cases found
    · cases found
      exact ⟨List.takeWhile_prefix _, fun c member =>
        List.mem_takeWhile_imp (p := fun (c : Char) => Letter.isAsciiDigit c.toNat) member⟩

theorem readUnsigned_error
    {negative : Bool}
    {text : Text}
    {refused : ReadError}
    (failed : readUnsigned negative text = .error refused)
    (depth : Nat) :
    Excess depth text refused := by
  unfold readUnsigned at failed
  split at failed
  · cases failed
    trivial
  · rename_i whole rest isWhole
    obtain ⟨begins, all⟩ := readWhole_digits isWhole
    simp only at failed
    split at failed
    · split at failed
      · rename_i long
        cases failed
        exact ⟨whole, begins.isInfix, all, long⟩
      · cases failed
    · cases failed

theorem readScalar_error
    {text : Text}
    {refused : ReadError}
    (failed : readScalar text = .error refused)
    (depth : Nat) :
    Excess depth text refused := by
  unfold readScalar at failed
  repeat' split at failed
  all_goals first
    | cases failed
    | skip
  · exact (readUnsigned_error failed depth).of_isSuffix (List.suffix_cons _ _)
  · exact readUnsigned_error failed depth

/-- With some fuel, whatever is refused has something in excess. -/
structure ExcessAt (fuel : Nat) : Prop where
  value {depth : Nat} {text : Text} {refused : ReadError}
      (failed : readValue fuel depth text = .error refused) :
    Excess depth text refused
  items {depth : Nat} {text : Text} {refused : ReadError}
      (failed : readItems fuel depth text = .error refused) :
    Excess depth text refused
  members {depth : Nat} {text : Text} {before : Members} {refused : ReadError}
      (failed : readMembers fuel depth before text = .error refused) :
    Excess depth text refused

namespace ExcessAt

theorem zero : ExcessAt 0 where
  value failed := by
    cases failed
    trivial
  items failed := by
    cases failed
    trivial
  members failed := by
    cases failed
    trivial

variable {fuel : Nat}

theorem value_succ
    (below : ExcessAt fuel)
    {depth : Nat}
    {text : Text}
    {refused : ReadError}
    (failed : readValue (fuel + 1) depth text = .error refused) :
    Excess depth text refused := by
  unfold readValue at failed
  split at failed
  · rcases exists_error_of_bind failed with string | ⟨found, -, returned⟩
    · rw [readChars_error string]
      trivial
    · cases returned
  · rename_i inner
    split at failed
    · rename_i deep
      cases failed
      exact .of_depth rfl deep inner
    · split at failed
      · cases failed
      · rcases exists_error_of_bind failed with items | ⟨found, -, returned⟩
        · exact (below.items items).of_opened rfl (skipSpace_leads inner).isSuffix
        · cases returned
  · rename_i inner
    split at failed
    · rename_i deep
      cases failed
      exact .of_depth rfl deep inner
    · split at failed
      · cases failed
      · rcases exists_error_of_bind failed with members | ⟨found, -, returned⟩
        · exact (below.members members).of_opened rfl (skipSpace_leads inner).isSuffix
        · cases returned
  · exact readScalar_error failed depth

theorem items_succ
    (below : ExcessAt fuel)
    {depth : Nat}
    {text : Text}
    {refused : ReadError}
    (failed : readItems (fuel + 1) depth text = .error refused) :
    Excess depth text refused := by
  unfold readItems at failed
  rcases exists_error_of_bind failed with first | ⟨⟨item, others⟩, first, returned⟩
  · exact below.value first
  · have behind := ((leadsAt fuel).value first).trans (skipSpace_leads others)
    dsimp only at returned
    split at returned
    · cases returned
    · rename_i after more
      rcases exists_error_of_bind returned with later | ⟨found, -, last⟩
      · rw [more] at behind
        exact (below.items later).of_isSuffix (behind.trans (sign_leads rfl after)).isSuffix
      · cases last
    · cases returned
      trivial

theorem members_succ
    (below : ExcessAt fuel)
    {depth : Nat}
    {text : Text}
    {before : Members}
    {refused : ReadError}
    (failed : readMembers (fuel + 1) depth before text = .error refused) :
    Excess depth text refused := by
  unfold readMembers at failed
  split at failed
  · rcases exists_error_of_bind failed with string | ⟨⟨key, behindKey⟩, string, afterKey⟩
    · rw [readChars_error string]
      trivial
    · have keyed := (readString_leads string).trans (skipSpace_leads behindKey)
      dsimp only at afterKey
      split at afterKey
      · rename_i source colon
        rw [colon] at keyed
        have valued := keyed.trans (sign_leads rfl source)
        rcases exists_error_of_bind afterKey with first | ⟨⟨value, behindValue⟩, first, afterValue⟩
        · exact (below.value first).of_isSuffix valued.isSuffix
        · have behind := ((leadsAt fuel).value first).trans (skipSpace_leads behindValue)
          dsimp only at afterValue
          split at afterValue
          · cases afterValue
          · rename_i more comma
            rw [comma] at behind
            have later := (valued.trans behind).trans (sign_leads rfl more)
            exact (below.members afterValue).of_isSuffix later.isSuffix
          · cases afterValue
            trivial
      · cases afterKey
        trivial
  · cases failed
    trivial

theorem succ (below : ExcessAt fuel) : ExcessAt (fuel + 1) where
  value := below.value_succ
  items := below.items_succ
  members := below.members_succ

end ExcessAt

theorem excessAt (fuel : Nat) : ExcessAt fuel := by
  induction fuel with
  | zero => exact .zero
  | succ fuel below => exact below.succ

end Reader

/-- A text that is refused as a whole has something in excess. -/
theorem excess_of_read
    {text : Text}
    {refused : ReadError}
    (failed : read text = .error refused) :
    Excess 0 text refused := by
  rcases exists_error_of_bind failed with early | ⟨⟨value, rest⟩, -, late⟩
  · exact ((Reader.excessAt _).value early).of_isSuffix (Reader.skipSpace_leads text).isSuffix
  · dsimp only at late
    split at late
    · cases late
    · cases late
      trivial

end Json

end RuleProbe
