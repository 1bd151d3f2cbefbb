import RuleProbe.Proofs.Script.Reread

/-!
# JSON texts of values, read back

The text of a value is read back as the value, down to the nesting that the reader can follow.
Values with floating-point numbers are left out: such a number is rounded on the way back.
-/

namespace RuleProbe

namespace Integer

theorem readAscii_append (digits : Text) (c : Char) :
    readAscii (digits ++ [c]) = readAscii digits * 10 + (c.toNat - 48) := by
  simp [readAscii]

/-- The digits of a number are read as the number. -/
theorem readAscii_writeNat (n : Nat) : readAscii (writeNat n) = n := by
  have digit : ∀ d < 10, (Nat.digitChar d).toNat - 48 = d := by decide
  induction n using Nat.strongRecOn with
  | _ n hypothesis =>
      unfold writeNat at hypothesis ⊢
      rw [Nat.toDigits_eq_if (by decide)]
      split
      case isTrue small => simp [readAscii, digit n small]
      case isFalse large =>
        rw [readAscii_append, hypothesis (n / 10) (by omega), digit _ (Nat.mod_lt n (by decide))]
        omega

end Integer

namespace Json

open Reader

/-! ## Values that are their texts -/

/-- A value that its text determines: no floating-point number stands in it, its integers have no
more digits than can be converted, and its objects have no key twice. -/
inductive IsExact : Json → Prop
  | null : IsExact .null
  | bool (value : Bool) : IsExact (.bool value)
  | int {value : Int} (short : (Integer.writeNat value.natAbs).length ≤ Integer.digitLimit) :
      IsExact (.int value)
  | str (value : Text) : IsExact (.str value)
  | arr {items : List Json} (inner : ∀ item ∈ items, IsExact item) : IsExact (.arr items)
  | obj {members : Members} (distinct : (Keyed.keys members).Nodup)
      (inner : ∀ member ∈ members, IsExact member.2) : IsExact (.obj members)

mutual

/-- How deeply containers are nested in a value, itself included. -/
def nesting : Json → Nat
  | .arr items => nestingItems items + 1
  | .obj members => nestingMembers members + 1
  | _ => 0
  termination_by structural value => value

/-- How deeply containers are nested in items. -/
def nestingItems : List Json → Nat
  | [] => 0
  | item :: rest => max (nesting item) (nestingItems rest)
  termination_by structural items => items

/-- How deeply containers are nested in members. -/
def nestingMembers : List (Text × Json) → Nat
  | [] => 0
  | member :: rest => max (nestingMember member) (nestingMembers rest)
  termination_by structural members => members

/-- How deeply containers are nested in a member. -/
def nestingMember : Text × Json → Nat
  | (_, value) => nesting value
  termination_by structural member => member

end

/-- What the reader makes of a text whose value has so many nested containers, inside others that
are open already. -/
def readIf {α : Type} (depth nested : Nat) (value : α) : Except ReadError α :=
  if depth + nested ≤ depthLimit + 1 then .ok value else .error .tooDeep

theorem readIf_of_le
    {α : Type}
    {depth nested : Nat}
    (fits : depth + nested ≤ depthLimit + 1)
    (value : α) :
    readIf depth nested value = .ok value :=
  if_pos fits

/-- The text of a value is read as the value, unless containers are nested too deeply. -/
def ReadsBack (value : Json) : Prop :=
  ∀ {fuel depth : Nat} {rest : Text}, 2 * (write .compact value).length ≤ fuel + 1 →
    depth ≤ depthLimit + 1 → Closes rest →
      readValue fuel depth (write .compact value ++ rest) =
        readIf depth value.nesting (value, rest)

/-! ## Numbers -/

/-- The digits of a natural number. -/
def NumberText.ofNat {n : Nat} (short : (Integer.writeNat n).length ≤ Integer.digitLimit) :
    NumberText where
  whole := Integer.writeNat n
  fraction := []
  exponent := []
  whole_digits := Integer.allDigits_writeNat n
  whole_ne_nil := Integer.writeNat_ne_nil n
  whole_leads leads := by
    cases n with
    | zero => rfl
    | succ n => exact absurd leads (Integer.head?_writeNat (Nat.succ_ne_zero n))
  whole_short := short
  fraction_digits := Decimal.allDigits_nil
  exponent_shape := .none

theorem readUnsigned_writeNat
    {n : Nat}
    (short : (Integer.writeNat n).length ≤ Integer.digitLimit)
    (negative : Bool)
    {rest : Text}
    (ends : Closes rest) :
    readUnsigned negative (Integer.writeNat n ++ rest) =
      .ok (.int (if negative then -n else n), rest) := by
  have whole : readWhole (Integer.writeNat n ++ rest) = some (Integer.writeNat n, rest) :=
    (NumberText.ofNat short).readWhole_append (NumberText.noDigit_of_closes ends)
  have fraction : readFraction rest = none := (NumberText.ofNat short).readFraction_append ends
  have exponent : Decimal.readExponent rest = none := by
    cases rest with
    | nil => rfl
    | cons c more => rcases closes_cons.mp ends with rfl | rfl | rfl <;> rfl
  have within : ¬Integer.digitLimit < (Integer.writeNat n).length := Nat.not_lt.mpr short
  simp [readUnsigned, whole, fraction, exponent, within, Integer.readAscii_writeNat]

/-- The digits of a number begin with a digit. -/
theorem writeNat_eq_cons (n : Nat) :
    ∃ c more, Integer.writeNat n = c :: more ∧ Letter.isAsciiDigit c.toNat = true := by
  cases digits : Integer.writeNat n with
  | nil => exact absurd digits (Integer.writeNat_ne_nil n)
  | cons c more =>
      have all := Integer.allDigits_writeNat n
      rw [digits] at all
      exact ⟨c, more, rfl, all c List.mem_cons_self⟩

/-- A written integer is read as the integer. -/
theorem readScalar_writeInt
    {value : Int}
    (short : (Integer.writeNat value.natAbs).length ≤ Integer.digitLimit)
    {rest : Text}
    (ends : Closes rest) :
    readScalar (Integer.write value ++ rest) = .ok (.int value, rest) := by
  cases value with
  | ofNat n =>
      obtain ⟨c, more, digits, digit⟩ := writeNat_eq_cons n
      have read := readUnsigned_writeNat short false ends
      simp only [Integer.write, Int.natAbs_ofNat'] at read ⊢
      rw [digits, List.cons_append] at read ⊢
      rw [readScalar_digit digit, read]
      rfl
  | negSucc n =>
      obtain ⟨c, more, digits, digit⟩ := writeNat_eq_cons (n + 1)
      have read := readUnsigned_writeNat short true ends
      simp only [Integer.write, Int.natAbs_negSucc, Nat.succ_eq_add_one] at read ⊢
      rw [digits, List.cons_append] at read
      rw [digits, List.cons_append, List.cons_append, readScalar_minus digit, read]
      rfl

/-! ## Beginnings of texts -/

/-- A written integer begins with a digit or a sign. -/
theorem writeInt_eq_cons (value : Int) :
    ∃ c more, Integer.write value = c :: more ∧ Script.isMark c = false := by
  cases value with
  | ofNat n =>
      obtain ⟨c, more, digits, digit⟩ := writeNat_eq_cons n
      exact ⟨c, more, digits, Script.isMark_eq_false_of_digit digit⟩
  | negSucc n => exact ⟨'-', _, rfl, rfl⟩

/-- The text of an exact value begins with what is no blank, and closes nothing. -/
theorem IsExact.write_eq_cons {value : Json} (exact' : IsExact value) :
    ∃ c more, write .compact value = c :: more ∧ isSpace c = false ∧ c ≠ ']' ∧ c ≠ '\x7d' := by
  cases exact' with
  | null => exact ⟨'n', _, rfl, rfl, by decide, by decide⟩
  | bool value => cases value <;> exact ⟨_, _, rfl, rfl, by decide, by decide⟩
  | int short =>
      obtain ⟨c, more, text, unmarked⟩ := writeInt_eq_cons ‹Int›
      refine ⟨c, more, text, (Bool.or_eq_false_iff.mp unmarked).1, ?_, ?_⟩
      · rintro rfl
        cases unmarked
      · rintro rfl
        cases unmarked
  | str value => exact ⟨'"', _, rfl, rfl, by decide, by decide⟩
  | @arr items inner =>
      cases items with
      | nil => exact ⟨'[', _, rfl, rfl, by decide, by decide⟩
      | cons item rest => exact ⟨'[', _, rfl, rfl, by decide, by decide⟩
  | @obj members distinct inner =>
      cases members with
      | nil => exact ⟨'\x7b', _, rfl, rfl, by decide, by decide⟩
      | cons member rest => exact ⟨'\x7b', _, rfl, rfl, by decide, by decide⟩

theorem IsExact.skipSpace_write {value : Json} (exact' : IsExact value) (rest : Text) :
    skipSpace (write .compact value ++ rest) = write .compact value ++ rest := by
  obtain ⟨c, more, text, visible, -⟩ := exact'.write_eq_cons
  rw [text, List.cons_append, Script.skipSpace_cons visible]

/-! ## Scalars -/

/-- What begins with no mark and is read as a number or a word is read back. -/
theorem readsBack_of_scalar
    {value : Json}
    (flat : value.nesting = 0)
    {c : Char}
    {more : Text}
    (text : write .compact value = c :: more)
    (unmarked : Script.isMark c = false)
    (reads : ∀ rest, Closes rest → readScalar (write .compact value ++ rest) = .ok (value, rest)) :
    ReadsBack value := by
  intro fuel depth rest enough within ends
  obtain ⟨less, rfl⟩ : ∃ less, fuel = less + 1 := ⟨fuel - 1, by simp [text] at enough; omega⟩
  rw [flat, readIf_of_le within, ← reads rest ends, text, List.cons_append,
    Script.readValue_unmarked unmarked]

theorem readsBack_int
    {value : Int}
    (short : (Integer.writeNat value.natAbs).length ≤ Integer.digitLimit) :
    ReadsBack (.int value) := by
  obtain ⟨c, more, text, unmarked⟩ := writeInt_eq_cons value
  have written : write .compact (.int value) = c :: more := text
  have flat : nesting (.int value) = 0 := rfl
  apply readsBack_of_scalar flat written unmarked
  intro rest ends
  exact readScalar_writeInt short ends

theorem readsBack_str (value : Text) : ReadsBack (.str value) := by
  intro fuel depth rest enough within ends
  have length : 0 < (write .compact (.str value)).length := by simp [write, writeString]
  obtain ⟨less, rfl⟩ : ∃ less, fuel = less + 1 := ⟨fuel - 1, by omega⟩
  have shape : write .compact (.str value) ++ rest =
      '"' :: (value.flatMap escapeChar ++ '"' :: rest) := by
    simp [write, writeString]
  rw [readIf_of_le within, shape, readValue, readString_written]
  rfl

/-! ## Items and members -/

theorem ok_bind {α β : Type} (value : α) (next : α → Except ReadError β) :
    (Except.ok value >>= next) = next value := rfl

/-- What is read after a value that fits is read as well if it fits itself. -/
theorem readIf_bind
    {α β : Type}
    {depth first second : Nat}
    {value : α}
    {next : α → Except ReadError β}
    {result : β}
    (later : next value = readIf depth second result) :
    (readIf depth first value >>= next) = readIf depth (max first second) result := by
  unfold readIf at later ⊢
  by_cases here : depth + first ≤ depthLimit + 1
  · rw [if_pos here]
    refine later.trans (if_congr ?_ rfl rfl)
    omega
  · rw [if_neg here, if_neg (by omega)]
    rfl

theorem readIf_map
    {α β : Type}
    (depth nested : Nat)
    (value : α)
    (change : α → β) :
    (readIf depth nested value >>= fun value => .ok (change value)) =
      readIf depth nested (change value) := by
  unfold readIf
  split <;> rfl

theorem writeItems_cons (item : Json) (more : List Json) :
    writeItems .compact true (item :: more) =
      write .compact item ++ writeItems .compact false more := by
  simp [writeItems]

theorem writeItems_false {items : List Json} (some : items ≠ []) :
    writeItems .compact false items = ',' :: ' ' :: writeItems .compact true items := by
  cases items with
  | nil => exact absurd rfl some
  | cons item more => simp [writeItems, Layout.separator]

/-- Items are read one after another up to the closing bracket. -/
theorem readItems_write
    {items : List Json}
    (inner : ∀ item ∈ items, IsExact item ∧ ReadsBack item)
    (some : items ≠ [])
    {fuel depth : Nat}
    {rest : Text}
    (enough : 2 * (writeItems .compact true items).length ≤ fuel)
    (within : depth ≤ depthLimit + 1) :
    readItems fuel depth (writeItems .compact true items ++ ']' :: rest) =
      readIf depth (nestingItems items) (items, rest) := by
  induction items generalizing fuel with
  | nil => exact absurd rfl some
  | cons item more hypothesis =>
      obtain ⟨⟨exact', readsBack⟩, others⟩ := List.forall_mem_cons.mp inner
      obtain ⟨c, letters, text, -⟩ := exact'.write_eq_cons
      rw [writeItems_cons, List.length_append] at enough
      have positive : 0 < (write .compact item).length := by simp [text]
      obtain ⟨less, rfl⟩ : ∃ less, fuel = less + 1 := ⟨fuel - 1, by omega⟩
      rw [writeItems_cons, List.append_assoc, readItems, nestingItems]
      by_cases alone : more = []
      · subst alone
        have closes : Closes (writeItems .compact false [] ++ ']' :: rest) :=
          closes_cons.mpr (.inr (.inl rfl))
        rw [readsBack (by omega) within closes]
        exact readIf_bind (readIf_of_le within _).symm
      · have comma := writeItems_false alone
        have closes : Closes (writeItems .compact false more ++ ']' :: rest) := by
          rw [comma]
          exact closes_cons.mpr (.inl rfl)
        have visible : skipSpace (' ' :: (writeItems .compact true more ++ ']' :: rest)) =
            writeItems .compact true more ++ ']' :: rest := by
          obtain ⟨second, later, rfl⟩ := List.exists_cons_of_ne_nil alone
          rw [writeItems_cons, List.append_assoc]
          exact (others second List.mem_cons_self).1.skipSpace_write _
        have short : 2 * (writeItems .compact true more).length ≤ less := by
          rw [comma, List.length_cons, List.length_cons] at enough
          omega
        rw [readsBack (by omega) within closes]
        refine readIf_bind ?_
        simp only [comma, List.cons_append, Script.skipSpace_cons (c := ',') rfl, visible,
          hypothesis others alone short]
        exact readIf_map depth _ (more, rest) fun read => (item :: read.1, read.2)

theorem writeMembers_cons (member : Text × Json) (more : Members) :
    writeMembers .compact true (member :: more) =
      '"' :: (member.1.flatMap escapeChar ++
        '"' :: ':' :: ' ' :: (write .compact member.2 ++ writeMembers .compact false more)) := by
  obtain ⟨key, value⟩ := member
  simp [writeMembers, writeMember, writeString]

theorem writeMembers_false {members : Members} (some : members ≠ []) :
    writeMembers .compact false members = ',' :: ' ' :: writeMembers .compact true members := by
  cases members with
  | nil => exact absurd rfl some
  | cons member more => simp [writeMembers, Layout.separator]

/-- Members are read one after another up to the closing brace, and bound in this order. -/
theorem readMembers_write
    {members : Members}
    (inner : ∀ member ∈ members, IsExact member.2 ∧ ReadsBack member.2)
    (some : members ≠ [])
    {fuel depth : Nat}
    {before : Members}
    {rest : Text}
    (enough : 2 * (writeMembers .compact true members).length ≤ fuel)
    (within : depth ≤ depthLimit + 1) :
    readMembers fuel depth before (writeMembers .compact true members ++ '\x7d' :: rest) =
      readIf depth (nestingMembers members) (Keyed.update before members, rest) := by
  induction members generalizing fuel before with
  | nil => exact absurd rfl some
  | cons member more hypothesis =>
      obtain ⟨⟨exact', readsBack⟩, others⟩ := List.forall_mem_cons.mp inner
      rw [writeMembers_cons] at enough ⊢
      simp only [List.length_cons, List.length_append] at enough
      obtain ⟨less, rfl⟩ : ∃ less, fuel = less + 1 := ⟨fuel - 1, by omega⟩
      simp only [List.cons_append, List.append_assoc]
      have value : skipSpace (' ' :: (write .compact member.2 ++
          (writeMembers .compact false more ++ '\x7d' :: rest))) =
            write .compact member.2 ++ (writeMembers .compact false more ++ '\x7d' :: rest) :=
        exact'.skipSpace_write _
      rw [readMembers, readString_written, nestingMembers, nestingMember]
      simp only [ok_bind, Script.skipSpace_cons (c := ':') rfl, value]
      by_cases alone : more = []
      · subst alone
        have closes : Closes (writeMembers .compact false [] ++ '\x7d' :: rest) :=
          closes_cons.mpr (.inr (.inr rfl))
        rw [readsBack (by omega) within closes]
        exact readIf_bind (readIf_of_le within _).symm
      · have comma := writeMembers_false alone
        have closes : Closes (writeMembers .compact false more ++ '\x7d' :: rest) := by
          rw [comma]
          exact closes_cons.mpr (.inl rfl)
        have visible : skipSpace (' ' :: (writeMembers .compact true more ++ '\x7d' :: rest)) =
            writeMembers .compact true more ++ '\x7d' :: rest := by
          obtain ⟨second, later, rfl⟩ := List.exists_cons_of_ne_nil alone
          rw [writeMembers_cons]
          exact Script.skipSpace_cons (c := '"') rfl
        have short : 2 * (writeMembers .compact true more).length ≤ less := by
          rw [comma, List.length_cons, List.length_cons] at enough
          omega
        rw [readsBack (by omega) within closes]
        refine readIf_bind ?_
        simp only [comma, List.cons_append, Script.skipSpace_cons (c := ',') rfl, visible]
        exact hypothesis others alone short

/-! ## Values -/

/-- A container fits when what is inside fits behind one more opening. -/
theorem readIf_container
    {α : Type}
    {depth nested : Nat}
    {value : α}
    {inside : Except ReadError α}
    (read : depth ≤ depthLimit → inside = readIf (depth + 1) nested value) :
    (if depthLimit < depth then .error .tooDeep else inside) = readIf depth (nested + 1) value := by
  split
  case isTrue deep =>
    rw [readIf, if_neg (by omega)]
  case isFalse shallow =>
    rw [read (by omega)]
    exact if_congr (by omega) rfl rfl

theorem readsBack_arr
    {items : List Json}
    (inner : ∀ item ∈ items, IsExact item ∧ ReadsBack item) :
    ReadsBack (.arr items) := by
  intro fuel depth rest enough within ends
  cases items with
  | nil =>
      have size : (write .compact (.arr [])).length = 2 := rfl
      obtain ⟨less, rfl⟩ : ∃ less, fuel = less + 1 := ⟨fuel - 1, by omega⟩
      have shape : write .compact (.arr []) ++ rest = '[' :: ']' :: rest := rfl
      rw [shape, readValue, nesting, nestingItems]
      exact readIf_container fun shallow => (readIf_of_le (by omega) _).symm
  | cons item more =>
      have shape : write .compact (.arr (item :: more)) ++ rest =
          '[' :: (writeItems .compact true (item :: more) ++ ']' :: rest) := by
        simp [write, Layout.lineBreak, Layout.inner]
      have size : (write .compact (.arr (item :: more))).length =
          (writeItems .compact true (item :: more)).length + 2 := by
        simp [write, Layout.lineBreak, Layout.inner]
      obtain ⟨less, rfl⟩ : ∃ less, fuel = less + 1 := ⟨fuel - 1, by omega⟩
      rw [shape, readValue, nesting]
      refine readIf_container fun shallow => ?_
      have read : readItems less (depth + 1)
          (writeItems .compact true (item :: more) ++ ']' :: rest) =
            readIf (depth + 1) (nestingItems (item :: more)) (item :: more, rest) :=
        readItems_write inner (List.cons_ne_nil _ _) (by omega) (by omega)
      obtain ⟨c, letters, text, visible, opens, -⟩ :=
        (inner item List.mem_cons_self).1.write_eq_cons
      rw [writeItems_cons, text, List.cons_append, List.cons_append] at read ⊢
      rw [Script.skipSpace_cons visible]
      split
      case h_1 closed => exact absurd (List.cons.inj closed).1 opens
      case h_2 =>
        rw [read]
        exact readIf_map _ _ (item :: more, rest) fun read => (Json.arr read.1, read.2)

theorem readsBack_obj
    {members : Members}
    (distinct : (Keyed.keys members).Nodup)
    (inner : ∀ member ∈ members, IsExact member.2 ∧ ReadsBack member.2) :
    ReadsBack (.obj members) := by
  intro fuel depth rest enough within ends
  cases members with
  | nil =>
      have size : (write .compact (.obj [])).length = 2 := rfl
      obtain ⟨less, rfl⟩ : ∃ less, fuel = less + 1 := ⟨fuel - 1, by omega⟩
      have shape : write .compact (.obj []) ++ rest = '\x7b' :: '\x7d' :: rest := rfl
      rw [shape, readValue, nesting, nestingMembers]
      exact readIf_container fun shallow => (readIf_of_le (by omega) _).symm
  | cons member more =>
      have shape : write .compact (.obj (member :: more)) ++ rest =
          '\x7b' :: (writeMembers .compact true (member :: more) ++ '\x7d' :: rest) := by
        simp [write, Layout.lineBreak, Layout.inner]
      have size : (write .compact (.obj (member :: more))).length =
          (writeMembers .compact true (member :: more)).length + 2 := by
        simp [write, Layout.lineBreak, Layout.inner]
      obtain ⟨less, rfl⟩ : ∃ less, fuel = less + 1 := ⟨fuel - 1, by omega⟩
      rw [shape, readValue, nesting]
      refine readIf_container fun shallow => ?_
      have read : readMembers less (depth + 1) []
          (writeMembers .compact true (member :: more) ++ '\x7d' :: rest) =
            readIf (depth + 1) (nestingMembers (member :: more))
              (Keyed.update [] (member :: more), rest) :=
        readMembers_write inner (List.cons_ne_nil _ _) (by omega) (by omega)
      rw [Keyed.update_nil_of_nodup distinct] at read
      rw [writeMembers_cons, List.cons_append] at read ⊢
      rw [Script.skipSpace_cons rfl]
      split
      case h_1 closed => cases closed
      case h_2 =>
        rw [read]
        exact readIf_map _ _ (member :: more, rest) fun read => (Json.obj read.1, read.2)

/-- The text of an exact value is read back. -/
theorem IsExact.readsBack {value : Json} (exact' : IsExact value) : ReadsBack value := by
  induction exact' with
  | null => exact readsBack_of_scalar rfl rfl rfl fun _ _ => rfl
  | bool value => cases value <;> exact readsBack_of_scalar rfl rfl rfl fun _ _ => rfl
  | int short => exact readsBack_int short
  | str value => exact readsBack_str value
  | arr inner hypothesis =>
      exact readsBack_arr fun item member => ⟨inner item member, hypothesis item member⟩
  | obj distinct inner hypothesis =>
      exact readsBack_obj distinct fun member within =>
        ⟨inner member within, hypothesis member within⟩

/-- The text of an exact value is read as the value, unless its containers are nested too
deeply. -/
theorem IsExact.read_toJsonText {value : Json} (exact' : IsExact value) :
    Json.read value.toJsonText =
      if value.nesting ≤ depthLimit + 1 then .ok value else .error .tooDeep := by
  have skipped := exact'.skipSpace_write []
  have read : readValue (2 * (write .compact value).length + 2) 0 (write .compact value ++ []) =
      readIf 0 value.nesting (value, []) :=
    exact'.readsBack (by omega) (by omega) closes_nil
  rw [List.append_nil] at skipped read
  unfold Json.read toJsonText
  rw [skipped, read, readIf, Nat.zero_add]
  split <;> rfl

end Json

end RuleProbe
