import RuleProbe.Proofs.Keyed
import RuleProbe.Proofs.Parts
import RuleProbe.Proofs.Size.Part
import RuleProbe.Proofs.Stage.Work
import RuleProbe.Stage.Book

/-!
# Parameters of addresses as variables

The address of a page brings variables along: the parameters of its query, and a number in its
path under the name `id`.  None of them takes the place of a variable that is there already, and
of several parameters of one name the first one with a value counts.
-/

namespace RuleProbe

/-! ## Entries that are completed -/

namespace Keyed

variable {α : Type}

/-- Bind each key of `others` that has no value yet, in order. -/
def complete (entries others : Keyed α) : Keyed α :=
  others.foldl (fun found entry => if has found entry.1 then found else found ++ [entry]) entries

theorem complete_cons (entries : Keyed α) (entry : Text × α) (others : Keyed α) :
    complete entries (entry :: others) =
      complete (if has entries entry.1 then entries else entries ++ [entry]) others := rfl

theorem complete_append (entries first second : Keyed α) :
    complete entries (first ++ second) = complete (complete entries first) second :=
  List.foldl_append

/-- Completing adds entries behind those that are there. -/
theorem prefix_complete (entries others : Keyed α) : entries <+: complete entries others := by
  induction others generalizing entries with
  | nil => exact List.prefix_rfl
  | cons entry rest hypothesis =>
      rw [complete_cons]
      split
      · exact hypothesis entries
      · exact (List.prefix_append entries [entry]).trans (hypothesis _)

/-- A key keeps its value, or else gets the first one among the others. -/
theorem get?_complete (entries others : Keyed α) (key : Text) :
    get? (complete entries others) key = (get? entries key).or (get? others key) := by
  induction others generalizing entries with
  | nil => simp [complete, get?]
  | cons entry rest hypothesis =>
      rw [complete_cons, hypothesis, get?]
      split
      · rename_i bound
        split
        · rename_i here
          rw [eq_of_beq here] at bound
          obtain ⟨value, found⟩ := Option.isSome_iff_exists.mp bound
          rw [found, Option.some_or, Option.some_or]
        · rfl
      · rw [get?_append, Option.or_assoc, get?, get?]
        split <;> rfl

/-- A key without a value is bound at the end. -/
theorem put_of_unbound
    {entries : Keyed α}
    {key : Text}
    (unbound : get? entries key = none)
    (value : α) :
    put entries key value = entries ++ [(key, value)] := by
  induction entries with
  | nil => rfl
  | cons entry rest hypothesis =>
      rw [get?] at unbound
      split at unbound
      · cases unbound
      · rename_i other
        rw [put, if_neg other, hypothesis unbound, List.cons_append]

end Keyed

/-! ## Parameters of a query -/

namespace Query

/-- A part of a query names a parameter and its value, which is not empty. -/
def Names (part key value : Text) : Prop :=
  ∃ name raw, part = name ++ '=' :: raw ∧ '=' ∉ name ∧ raw ≠ [] ∧ unescape name = key ∧
    unescape raw = value

/-- The first one of some parts that names a parameter tells its value. -/
def FirstNames (parts : List Text) (key value : Text) : Prop :=
  ∃ earlier part later, parts = earlier ++ part :: later ∧ Names part key value ∧
    ∀ other ∈ earlier, ∀ found, ¬Names other key found

/-- A query, which consists of parts joined by ampersands, binds a parameter to a value. -/
def Binds (query key value : Text) : Prop :=
  ∃ parts, (∀ part ∈ parts, '&' ∉ part) ∧ query = Text.join ['&'] parts ∧
    FirstNames parts key value

theorem cut?_of_not_mem {mark : Char} {text : Text} (absent : mark ∉ text) :
    Text.cut? [mark] text = none := by
  cases cut : Text.cut? [mark] text with
  | none => rfl
  | some parts =>
      rw [← Text.cut?_eq cut] at absent
      simp at absent

theorem parameter?_eq_some_iff {part key value : Text} :
    parameter? part = some (key, value) ↔ Names part key value := by
  unfold parameter?
  by_cases marked : '=' ∈ part
  · obtain ⟨name, raw, rfl, absent⟩ := List.eq_append_cons_of_mem marked
    rw [Text.cut?_append_cons absent]
    dsimp only
    constructor
    · intro found
      split at found
      · cases found
      · rename_i given
        obtain ⟨rfl, rfl⟩ := Prod.mk.inj (Option.some.inj found)
        exact ⟨name, raw, rfl, absent, by simpa using given, rfl, rfl⟩
    · rintro ⟨other, behind, same, absentOther, given, rfl, rfl⟩
      obtain rfl := Text.eq_of_append_cons absent absentOther same
      obtain rfl : raw = behind := by simpa using same
      rw [if_neg (by simpa using given)]
  · rw [cut?_of_not_mem marked]
    refine iff_of_false (nomatch ·) ?_
    rintro ⟨name, raw, rfl, -⟩
    simp at marked

/-- A text that is joined at a mark is cut into its parts there. -/
theorem splitWhere_join
    {mark : Char}
    {first : Text}
    {rest : List Text}
    (absent : ∀ part ∈ first :: rest, mark ∉ part) :
    Text.splitWhere (· == mark) [] (Text.join [mark] (first :: rest)) = first :: rest := by
  unfold Text.join
  induction rest generalizing first with
  | nil =>
      rw [List.intercalate_singleton, Text.splitWhere_of_none, List.reverse_nil, List.nil_append]
      exact Text.unmarked_of_not_mem (absent first List.mem_cons_self)
  | cons second rest hypothesis =>
      obtain ⟨here, later⟩ := List.forall_mem_cons.mp absent
      rw [List.intercalate_cons_cons, List.append_assoc, List.singleton_append,
        Text.splitWhere_append_cons here, hypothesis later, List.reverse_nil, List.nil_append]

theorem not_mem_of_mem_splitWhere
    {mark : Char}
    {text part : Text}
    (member : part ∈ Text.splitWhere (· == mark) [] text) :
    mark ∉ part :=
  (Text.mem_splitWhere_iff.mp member).1

theorem firstNames_cons {first : Text} {rest : List Text} {key value : Text} :
    FirstNames (first :: rest) key value ↔
      Names first key value ∨ (∀ found, ¬Names first key found) ∧ FirstNames rest key value := by
  constructor
  · rintro ⟨earlier, part, later, parts, names, before⟩
    rcases List.cons_eq_append_iff.mp parts with ⟨rfl, here⟩ | ⟨others, rfl, rfl⟩
    · rw [← (List.cons.inj here).1]
      exact .inl names
    · obtain ⟨other, before⟩ := List.forall_mem_cons.mp before
      exact .inr ⟨other, others, part, later, rfl, names, before⟩
  · rintro (names | ⟨other, earlier, part, later, rfl, names, before⟩)
    · exact ⟨[], first, rest, rfl, names, nofun⟩
    · exact ⟨first :: earlier, part, later, rfl, names, List.forall_mem_cons.mpr ⟨other, before⟩⟩

theorem get?_filterMap_iff {parts : List Text} {key value : Text} :
    Keyed.get? (parts.filterMap parameter?) key = some value ↔ FirstNames parts key value := by
  induction parts with
  | nil =>
      refine iff_of_false (nomatch ·) ?_
      rintro ⟨earlier, part, later, parts, -⟩
      simp at parts
  | cons first rest hypothesis =>
      rw [firstNames_cons, ← hypothesis]
      simp only [← parameter?_eq_some_iff]
      cases parameter : parameter? first with
      | none => simp [List.filterMap_cons_none parameter]
      | some entry =>
          obtain ⟨name, found⟩ := entry
          rw [List.filterMap_cons_some parameter, Keyed.get?]
          by_cases here : name = key
          · simp [here]
          · simp [here]

/-- The parameters of a query are those that it binds. -/
theorem get?_parameters_iff {query key value : Text} :
    Keyed.get? (parameters query) key = some value ↔ Binds query key value := by
  unfold parameters
  rw [get?_filterMap_iff]
  constructor
  · intro first
    refine ⟨_, fun part member => not_mem_of_mem_splitWhere member, ?_, first⟩
    rw [Text.join_splitWhere, List.reverse_nil, List.nil_append]
  · rintro ⟨parts, whole, rfl, first⟩
    obtain ⟨head, tail, rfl⟩ : ∃ head tail, parts = head :: tail := by
      obtain ⟨earlier, part, later, rfl, -⟩ := first
      exact List.exists_cons_of_ne_nil (by simp)
    rw [splitWhere_join whole]
    exact first

end Query

namespace Stage

namespace Book

/-! ## Numbers in a path -/

/-- A number ends where a part of a path or the name of a page does. -/
def EndsNumber (after : Text) : Prop := after = [] ∨ ['/'] <+: after ∨ ".htm".toList <+: after

/-- A run of digits stands in a path, right behind a slash, and is a number to its end. -/
def IsNumberAt (path before digits : Text) : Prop :=
  ∃ after, path = before ++ '/' :: (digits ++ after) ∧ digits ≠ [] ∧
    (∀ c ∈ digits, Letter.isDecimal c.toNat = true) ∧ EndsNumber after

/-- The first number in a path. -/
def IsPathNumber (path digits : Text) : Prop :=
  ∃ before, IsNumberAt path before digits ∧
    ∀ other found, IsNumberAt path other found → before.length ≤ other.length

theorem EndsNumber.takeWhile_isDecimal {after : Text} (ends : EndsNumber after) :
    after.takeWhile (fun c => Letter.isDecimal c.toNat) = [] := by
  have slash : Letter.isDecimal '/'.toNat = false := by decide
  have dot : Letter.isDecimal '.'.toNat = false := by decide
  rcases ends with rfl | ⟨rest, rfl⟩ | ⟨rest, rfl⟩
  · rfl
  · exact List.takeWhile_cons_of_neg (Bool.eq_false_iff.mp slash)
  · exact @List.takeWhile_cons_of_neg _ _ '.' ("htm".toList ++ rest) (Bool.eq_false_iff.mp dot)

theorem endsNumber_iff {after : Text} :
    (after.isEmpty || after.startsWith ['/'] || after.startsWith ".htm") = true ↔
      EndsNumber after := by
  unfold EndsNumber Text.startsWith
  rw [Bool.or_eq_true, Bool.or_eq_true, List.isEmpty_iff, List.isPrefixOf_iff_prefix,
    List.isPrefixOf_iff_prefix, or_assoc]

theorem pathNumber?_eq_some_iff {text digits : Text} :
    pathNumber? text = some digits ↔ IsNumberAt ('/' :: text) [] digits := by
  unfold pathNumber?
  dsimp only
  constructor
  · intro found
    split at found
    · cases found
    · rename_i fits
      rw [Bool.or_eq_true, not_or, Bool.not_eq_true, Bool.not_eq_true, Bool.not_eq_false',
        endsNumber_iff] at fits
      obtain rfl := Option.some.inj found
      have split := List.prefix_iff_eq_append.mp
        (List.takeWhile_prefix (l := text) fun c => Letter.isDecimal c.toNat)
      refine ⟨_, congrArg ('/' :: ·) split.symm, by simpa using fits.1, ?_, fits.2⟩
      intro c member
      exact List.mem_takeWhile_imp (p := fun c : Char => Letter.isDecimal c.toNat) member
  · rintro ⟨after, same, given, decimal, ends⟩
    obtain rfl : text = digits ++ after := by simpa using same
    have run : (digits ++ after).takeWhile (fun c => Letter.isDecimal c.toNat) = digits := by
      rw [List.takeWhile_append_of_pos decimal, ends.takeWhile_isDecimal, List.append_nil]
    rw [run, List.drop_left, endsNumber_iff.mpr ends]
    simp [given]

theorem isNumberAt_cons {c d : Char} {rest before digits : Text} :
    IsNumberAt (c :: rest) (d :: before) digits ↔ c = d ∧ IsNumberAt rest before digits := by
  unfold IsNumberAt
  simp only [List.cons_append, List.cons.injEq, and_assoc, exists_and_left]

/-- A number at the beginning of a path is the first one, and any other stands further on. -/
theorem isPathNumber_cons {c : Char} {rest digits : Text} :
    IsPathNumber (c :: rest) digits ↔
      IsNumberAt (c :: rest) [] digits ∨
        (∀ found, ¬IsNumberAt (c :: rest) [] found) ∧ IsPathNumber rest digits := by
  constructor
  · rintro ⟨before, here, first⟩
    cases before with
    | nil => exact .inl here
    | cons d before =>
        obtain ⟨rfl, later⟩ := isNumberAt_cons.mp here
        refine .inr ⟨fun found sooner => ?_, before, later, fun other found behind => ?_⟩
        · exact absurd (first [] found sooner) (by simp)
        · have further := first (c :: other) found (isNumberAt_cons.mpr ⟨rfl, behind⟩)
          simpa using further
  · rintro (here | ⟨none, before, later, first⟩)
    · exact ⟨[], here, fun other found _ => Nat.zero_le _⟩
    · refine ⟨c :: before, isNumberAt_cons.mpr ⟨rfl, later⟩, fun other found behind => ?_⟩
      cases other with
      | nil => exact absurd behind (none found)
      | cons d other =>
          have further := first other found (isNumberAt_cons.mp behind).2
          simpa using further

theorem pathId?_eq_some_iff {path digits : Text} :
    pathId? path = some digits ↔ IsPathNumber path digits := by
  induction path with
  | nil =>
      refine iff_of_false (nomatch ·) ?_
      rintro ⟨before, ⟨after, same, -⟩, -⟩
      simp at same
  | cons c rest hypothesis =>
      rw [isPathNumber_cons, ← hypothesis, pathId?]
      by_cases slash : c = '/'
      · subst slash
        simp only [← pathNumber?_eq_some_iff]
        cases pathNumber? rest with
        | none => simp
        | some found => simp
      · have absent (found : Text) : ¬IsNumberAt (c :: rest) [] found := by
          rintro ⟨after, same, -⟩
          exact slash (List.cons.inj same).1
        rw [if_neg (by simpa using slash), Option.none_or, or_iff_right (absent digits)]
        exact (and_iff_right absent).symm

/-! ## Storing -/

/-- Texts as variables. -/
def variablesOf (offered : Keyed Text) : Json.Members :=
  offered.map fun entry => (entry.1, .str entry.2)

theorem variablesOf_append (first second : Keyed Text) :
    variablesOf (first ++ second) = variablesOf first ++ variablesOf second := List.map_append

theorem get?_variablesOf (offered : Keyed Text) (key : Text) :
    Keyed.get? (variablesOf offered) key = (Keyed.get? offered key).map .str :=
  Keyed.get?_map Json.str offered key

/-- The walk with variables that are completed and with further entries in its log. -/
def completed (walk : Walk) (offered : Keyed Text) (logs : List Log) : Walk :=
  { walk with
    session :=
      { store := Keyed.complete walk.session.store (variablesOf offered)
        logs := logs ++ walk.session.logs } }

/-- Some work completes the variables with those that are offered, and does nothing else but to
report. -/
def Completes (offered : Keyed Text) (action : Work Unit) : Prop :=
  ∀ walk : Walk, ∃ logs, runFrom action walk = (.ok (), completed walk offered logs)

theorem completed_append (walk : Walk) (first second : Keyed Text) (before after : List Log) :
    completed (completed walk first before) second after =
      completed walk (first ++ second) (after ++ before) := by
  simp only [completed, variablesOf_append, Keyed.complete_append, List.append_assoc]

theorem Completes.nothing : Completes [] (pure ()) := fun _ => ⟨[], rfl⟩

theorem Completes.bind
    {first second : Keyed Text}
    {action next : Work Unit}
    (completes : Completes first action)
    (others : Completes second next) :
    Completes (first ++ second) (action >>= fun _ => next) := by
  intro walk
  obtain ⟨before, ran⟩ := completes walk
  obtain ⟨after, ended⟩ := others (completed walk first before)
  refine ⟨after ++ before, ?_⟩
  rw [runFrom_bind_of_ok ran, ended, completed_append]

theorem Completes.forM
    {offered : Keyed Text}
    {store : Text × Text → Work Unit}
    (each : ∀ entry, Completes [entry] (store entry)) :
    Completes offered (offered.forM store) := by
  induction offered with
  | nil => exact .nothing
  | cons entry rest hypothesis => exact (each entry).bind hypothesis

/-- A variable is stored when there is none of its name. -/
theorem Completes.absent (entry : Text × Text) (label : Text) :
    Completes [entry] (do
      if (← extract (Extraction.stored? entry.1)).isNone then
        storeParameter entry.1 entry.2 label) := by
  intro walk
  have asked : runFrom (extract (Extraction.stored? entry.1)) walk =
      (.ok (Keyed.get? walk.session.store entry.1), walk) := rfl
  rw [runFrom_bind_of_ok asked]
  cases bound : Keyed.get? walk.session.store entry.1 with
  | none =>
      refine ⟨[{ level := .info, topic := .parse, message := label ++ entry.1 ++ '=' :: entry.2 }], ?_⟩
      have unbound : Keyed.has walk.session.store entry.1 = false := by rw [Keyed.has, bound]; rfl
      have store : Keyed.complete walk.session.store (variablesOf [entry]) =
          Keyed.put walk.session.store entry.1 (.str entry.2) := by
        rw [Keyed.put_of_unbound bound, variablesOf, List.map_singleton, Keyed.complete_cons, unbound]
        rfl
      rw [completed, store]
      rfl
  | some value =>
      refine ⟨[], ?_⟩
      have isBound : Keyed.has walk.session.store entry.1 = true := by rw [Keyed.has, bound]; rfl
      have store : Keyed.complete walk.session.store (variablesOf [entry]) = walk.session.store := by
        rw [variablesOf, List.map_singleton, Keyed.complete_cons, isBound]
        rfl
      rw [completed, store]
      rfl

/-- The variables that an address brings along: the parameters of its query, then its number. -/
def offered (url : Url) : Keyed Text :=
  Query.parameters url.query ++
    ((pathId? url.path).map fun number => ("id".toList, number)).toList

theorem completes_storeParameters
    {address : Text}
    {url : Url}
    (parsed : Url.read [] address = .ok url) :
    Completes (offered url) (storeParameters address) := by
  have read : lift (Url.read [] address) = pure url := by
    rw [parsed]
    rfl
  unfold storeParameters offered
  rw [read, pure_bind]
  refine .bind (.forM fun entry => .absent entry _) ?_
  cases pathId? url.path with
  | none => exact .nothing
  | some number => exact .absent ("id", number) _

/-- What an address offers for a variable: the value of the first parameter of its name, or the
first number in the path for a variable `id` that is no parameter. -/
def Offers (url : Url) (key text : Text) : Prop :=
  Query.Binds url.query key text ∨
    key = "id" ∧ (∀ found, ¬Query.Binds url.query "id" found) ∧ IsPathNumber url.path text

theorem get?_offered_iff {url : Url} {key text : Text} :
    Keyed.get? (offered url) key = some text ↔ Offers url key text := by
  unfold Offers offered
  simp only [← Query.get?_parameters_iff, ← pathId?_eq_some_iff]
  rw [Keyed.get?_append]
  by_cases here : key = "id"
  · subst here
    have number : Keyed.get?
        ((pathId? url.path).map fun number => ("id".toList, number)).toList "id" =
        pathId? url.path := by
      cases pathId? url.path <;> rfl
    rw [number]
    cases Keyed.get? (Query.parameters url.query) "id" <;> simp
  · have other : Keyed.get?
        ((pathId? url.path).map fun number => ("id".toList, number)).toList key = none := by
      cases pathId? url.path with
      | none => rfl
      | some number =>
          rw [Option.map_some, Option.toList_some, Keyed.get?,
            if_neg fun same => here (eq_of_beq same).symm]
          rfl
    rw [other, Option.or_none, or_iff_left fun both => here both.1]

/-- The parameters of an address that can be read are stored beside the variables that are there:
each variable keeps its value, and one that is not there gets what the address offers for it. -/
theorem storeParameters_stores
    {address : Text}
    {url : Url}
    (parsed : Url.read [] address = .ok url)
    (walk : Walk) :
    ∃ added logs,
      runFrom (storeParameters address) walk =
          (.ok (),
            { walk with
              session := ⟨walk.session.store ++ added, logs ++ walk.session.logs⟩ }) ∧
        ∀ key value, Keyed.get? (walk.session.store ++ added) key = some value ↔
          Keyed.get? walk.session.store key = some value ∨
            Keyed.get? walk.session.store key = none ∧ ∃ text, value = .str text ∧
              Offers url key text := by
  obtain ⟨logs, ran⟩ := completes_storeParameters parsed walk
  obtain ⟨added, grown⟩ := Keyed.prefix_complete walk.session.store
    (variablesOf (offered url))
  refine ⟨added, logs, ?_, fun key value => ?_⟩
  · rw [ran, completed, ← grown]
  · rw [grown, Keyed.get?_complete, get?_variablesOf]
    simp only [← get?_offered_iff]
    cases Keyed.get? walk.session.store key with
    | some known => simp
    | none =>
        rw [Option.none_or, Option.map_eq_some_iff]
        simp [and_comm, eq_comm]

/-- An address with a blank parameter, a repeated one and two numbers in its path. -/
def numberedAddress : Text := "https://a.b/12/c/34.html?id=&a=%201&a=2&d=x+y#e".toList

/-- The parts of the address. -/
def numberedUrl : Url where
  scheme := "https"
  authority := "a.b"
  path := "/12/c/34.html"
  params := []
  query := "id=&a=%201&a=2&d=x+y"
  fragment := ['e']

/-- A walk with one variable. -/
def startedWalk : Walk := { session := ⟨[(['d'], .null)], []⟩ }

/-- The variable stays, the first value of the repeated parameter counts, and the blank parameter
gives way to the first number of the path. -/
theorem storeParameters_stores_numbered :
    Url.read [] numberedAddress = .ok numberedUrl ∧ Offers numberedUrl ['d'] "x y" ∧
      ∃ store logs,
        runFrom (storeParameters numberedAddress) startedWalk =
            (.ok (), { startedWalk with session := ⟨store, logs⟩ }) ∧
          Keyed.get? store ['d'] = some .null ∧ Keyed.get? store ['a'] = some (.str " 1") ∧
            Keyed.get? store "id" = some (.str "12") := by
  have parsed : Url.read [] numberedAddress = .ok numberedUrl := by decide +kernel
  have known : Offers numberedUrl ['d'] "x y" := get?_offered_iff.mp (by decide +kernel)
  have first : Offers numberedUrl ['a'] " 1" := get?_offered_iff.mp (by decide +kernel)
  have number : Offers numberedUrl "id" "12" := get?_offered_iff.mp (by decide +kernel)
  obtain ⟨added, logs, ran, stores⟩ := storeParameters_stores parsed startedWalk
  refine ⟨parsed, known, _, _, ran, ?_, ?_, ?_⟩
  · exact (stores _ _).mpr (.inl rfl)
  · exact (stores _ _).mpr (.inr ⟨rfl, _, rfl, first⟩)
  · exact (stores _ _).mpr (.inr ⟨rfl, _, rfl, number⟩)

end Book

end Stage

end RuleProbe
