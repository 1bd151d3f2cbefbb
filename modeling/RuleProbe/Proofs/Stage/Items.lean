import RuleProbe.Proofs.Keyed
import RuleProbe.Proofs.Stage.Secluded

/-!
# The items of a list

The items of a list are read one after the other, each by the same rules, and share nothing but
the variables.  A field that comes to nothing on an item and changes no variable is therefore as
good as absent there: the item has its other fields all the same, and all other items are what
they would be.
-/

namespace RuleProbe

/-! ## Slices -/

/-- The number of items up to a limit; a negative limit counts from the end. -/
def sliceEnd (limit : Int) (length : Nat) : Nat :=
  (min (if limit < 0 then limit + length else limit) length).toNat

theorem takeUpTo_eq_take {α : Type} (limit : Int) (items : List α) :
    takeUpTo limit items = items.take (sliceEnd limit items.length) := by
  unfold takeUpTo sliceEnd
  split
  case isTrue =>
    rw [if_neg (by omega), List.take_eq_take_iff]
    omega
  case isFalse =>
    rw [if_pos (by omega), List.take_eq_take_iff]
    omega

/-- The numbered items of a list are those before a place, the one at the place, and those
after it. -/
theorem zipIdx_eq_of_getElem?
    {α : Type}
    {items : List α}
    {place : Nat}
    {item : α}
    (here : items[place]? = some item) :
    items.zipIdx =
      (items.take place).zipIdx ++
        (item, place) :: (items.drop (place + 1)).zipIdx (place + 1) := by
  obtain ⟨within, same⟩ := List.getElem?_eq_some_iff.mp here
  have split : items.take place ++ item :: items.drop (place + 1) = items := by
    rw [← same, List.getElem_cons_drop, List.take_append_drop]
  have before : (items.take place).length = place := List.length_take_of_le within.le
  conv => lhs; rw [← split]
  rw [List.zipIdx_append, before, List.zipIdx_cons, Nat.zero_add]

/-- A loop does the same with bodies that are the same on its items. -/
theorem filterMapM_congr
    {σ α β : Type}
    {items : List β}
    {body other : β → ExceptT Fault (StateM σ) (Option α)}
    (same : ∀ item ∈ items, body item = other item) :
    items.filterMapM body = items.filterMapM other := by
  induction items with
  | nil => rfl
  | cons item rest hypothesis =>
      rw [List.filterMapM_cons, List.filterMapM_cons, same item List.mem_cons_self,
        hypothesis fun item member => same item (List.mem_cons_of_mem _ member)]

/-- A loop over items in a row is one over the first and then one over the others. -/
theorem filterMapM_append
    {σ α β : Type}
    (body : β → ExceptT Fault (StateM σ) (Option α))
    (one two : List β) :
    (one ++ two).filterMapM body =
      one.filterMapM body >>= fun first =>
        two.filterMapM body >>= fun second => pure (first ++ second) := by
  induction one with
  | nil => simp
  | cons item rest hypothesis =>
      rw [List.cons_append, List.filterMapM_cons, List.filterMapM_cons, hypothesis, bind_assoc]
      congr 1
      funext found
      cases found with
      | none => rfl
      | some value => simp

namespace Stage

open Extraction (Context Found)

/-! ## Items with rules of their own -/

/-- The elements of a list that are read: those that its rule finds, up to the limit. -/
def takenElements (site : Site) (context : Context) (listRule : Json) (what : Text) :
    Work (List Found) := do
  let elements ← readElements site context listRule what
  let limit := site.settings.itemLimit
  if limit < elements.length then
    report .info .parse ("Parsing the first " ++ Integer.write limit ++ " of ".toList ++
      countText elements.length ++ " elements".toList)
  return takeUpTo limit elements

/-- The rules of the fields that are read before the address. -/
def otherRules (rules : Keyed Json) : Keyed Json :=
  Keyed.remove rules addressField

/-- The rule of the address. -/
def addressRule (rules : Keyed Json) : Json :=
  (Keyed.get? rules addressField).getD .null

/-- Read the element at a place of a list. -/
def readItem (site : Site) (context : Context) (rules : Keyed Json) (item : Found × Nat) :
    Work (Option Record) :=
  readBook site (context.withElement item.1) (itemLabel (item.2 + 1)) (otherRules rules)
    (addressRule rules)

/-- Read elements of a list, each by the rules for its place. -/
def readItems (site : Site) (context : Context) (rulesAt : Nat → Keyed Json)
    (items : List (Found × Nat)) : Work (List Record) :=
  items.filterMapM fun item => readItem site context (rulesAt item.2) item

/-- Read the books of a list whose items have rules of their own. -/
def readBooksBy (site : Site) (context : Context) (listRule : Json)
    (rulesAt : Nat → Keyed Json) (what : Text) : Work (List Record) := do
  let elements ← takenElements site context listRule what
  let books ← readItems site context rulesAt elements.zipIdx
  report .success .parse ("Parsed " ++ countText books.length ++ " books".toList)
  return books

/-- A list is read by the same rules at all places. -/
theorem readBooks_eq
    (site : Site)
    (context : Context)
    (listRule : Json)
    (rules : Keyed Json)
    (what : Text) :
    readBooks site context listRule rules what =
      readBooksBy site context listRule (fun _ => rules) what := by
  unfold readBooks readBooksBy takenElements
  rw [bind_assoc]
  congr 1
  funext elements
  simp only
  split <;> rfl

/-- The same rules, but none for a field at one place. -/
def omitting (rulesAt : Nat → Keyed Json) (place : Nat) (name : Text) : Nat → Keyed Json :=
  fun other => if other = place then Keyed.remove (rulesAt other) name else rulesAt other

/-! ## The context of a field -/

/-- Read the fields of an item that come before a field, and give the context in which the rule
of that field is evaluated: the rule of the address can see the other fields. -/
def fieldContext (site : Site) (context : Context) (rules : Keyed Json) (name : Text)
    (item : Found × Nat) : Work Context := do
  let inner := context.withElement item.1
  let record ← readFields site inner (itemLabel (item.2 + 1))
    ((otherRules rules).takeWhile fun rule => rule.1 != name)
  return if name = addressField then { inner with book := .obj record, chapter := .null }
    else inner

/-- Read all that comes before a field of the item at a place, and give the context in which the
rule of that field is evaluated there, if there is such an item. -/
def fieldContextAt (site : Site) (context : Context) (listRule : Json)
    (rulesAt : Nat → Keyed Json) (what : Text) (place : Nat) (name : Text) :
    Work (Option Context) := do
  let elements ← takenElements site context listRule what
  let _ ← readItems site context rulesAt (elements.take place).zipIdx
  match elements[place]? with
  | none => return none
  | some element =>
      return some (← fieldContext site context (rulesAt place) name (element, place))

/-- A rule comes to nothing in a context: its evaluation ends in a failure or without a text, and
changes no variable. -/
def ComesToNothing (site : Site) (context : Context) (rule : Json) (walk : Walk) : Prop :=
  ∃ text result session,
    Extraction.ruleOf rule = .ok text ∧
      runFrom (Extraction.evaluate site.engine context text) walk.session =
        (.ok result, session) ∧
      result.givenTexts = [] ∧
      session.store = walk.session.store

/-! ## Work that ends alike -/

variable {α β : Type}

/-- From a walk, two pieces of work end alike and in walks that share all but what has been
reported and asked for. -/
def EndAlike (walk : Walk) (one two : Work α) : Prop :=
  (runFrom two walk).1 = (runFrom one walk).1 ∧ Alike (runFrom one walk).2 (runFrom two walk).2

namespace EndAlike

variable {walk : Walk}

/-- Work goes on alike after it has ended alike. -/
theorem bind
    {one two : Work α}
    {next : α → Work β}
    (alike : EndAlike walk one two)
    (secluded : ∀ value first second, Secluded first second (next value)) :
    EndAlike walk (one >>= next) (two >>= next) := by
  obtain ⟨same, share⟩ := alike
  unfold EndAlike
  rw [runFrom_bind, runFrom_bind]
  cases oneEnd : runFrom one walk with
  | mk result after =>
      cases twoEnd : runFrom two walk with
      | mk otherResult otherAfter =>
          rw [oneEnd, twoEnd] at same share
          cases same
          cases result with
          | error fault => exact ⟨rfl, share⟩
          | ok value => exact (secluded value after otherAfter).endsAlike share

/-- The same work may come first. -/
theorem after
    {action : Work α}
    {one two : α → Work β}
    {value : α}
    {middle : Walk}
    (returned : runFrom action walk = (.ok value, middle))
    (alike : EndAlike middle (one value) (two value)) :
    EndAlike walk (action >>= one) (action >>= two) := by
  unfold EndAlike
  rw [runFrom_bind_of_ok returned, runFrom_bind_of_ok returned]
  exact alike

end EndAlike

variable {site : Site}

/-! ## A field that comes to nothing -/

/-- A field whose rule comes to nothing has no value, and is reported at most. -/
theorem ComesToNothing.readField
    {context : Context}
    {rule : Json}
    {walk : Walk}
    (nothing : ComesToNothing site context rule walk)
    (name : Text)
    (style : FieldStyle) :
    EndAlike walk (readField site context name rule style) (pure none) := by
  obtain ⟨text, result, session, isText, evaluated, empty, same⟩ := nothing
  cases given : rule.isGiven with
  | false =>
      rw [readField_of_not_given given]
      exact ⟨rfl, Alike.refl _⟩
  | true =>
      obtain ⟨logs, ran⟩ := runFrom_readField site given isText context name style walk
      have none : style.read? result = none := by
        unfold FieldStyle.read?
        rw [empty]
        rfl
      rw [evaluated] at ran
      unfold EndAlike
      rw [ran, runFrom_pure]
      refine ⟨?_, { Alike.refl walk with store := ?_ }⟩
      · rw [Except.map, none]
      · exact same.symm

/-- A field whose rule comes to nothing leaves the record as it is. -/
theorem ComesToNothing.addField
    {context : Context}
    {rule : Json}
    {walk : Walk}
    (nothing : ComesToNothing site context rule walk)
    (name label : Text)
    (record : Record) :
    EndAlike walk (addField site context label record (name, rule)) (pure record) := by
  unfold Stage.addField
  refine (nothing.readField name (styleOf name label)).bind fun found first second => ?_
  cases found with
  | none => exact .of_pure record
  | some value =>
      refine .ite ?_ ?_
      · exact (Secluded.resolve _ _).andThen fun resolved => .of_pure _
      · exact .of_pure _

theorem readAddress_null (context : Context) (label : Text) (record : Record) :
    readAddress site context label .null record = pure record := rfl

/-- An address whose rule comes to nothing leaves the record as it is. -/
theorem ComesToNothing.readAddress
    {context : Context}
    {record : Record}
    {rule : Json}
    {walk : Walk}
    (nothing : ComesToNothing site { context with book := .obj record, chapter := .null } rule walk)
    (label : Text) :
    EndAlike walk (readAddress site context label rule record) (pure record) := by
  unfold Stage.readAddress
  split
  · exact ⟨rfl, Alike.refl _⟩
  · refine (nothing.readField addressField { label }).bind fun found first second => ?_
    cases found with
    | none => exact .of_pure record
    | some value => exact (Secluded.resolve _ _).andThen fun resolved => .of_pure _

/-- Keep a record that has a name or an address. -/
def keepRecord (label : Text) (record : Record) : Work (Option Record) := do
  if (record.text "name").isEmpty && (record.text addressField).isEmpty then
    report .warning .parse (label ++ "dropped: neither name nor bookUrl")
    return none
  return some record

theorem readBook_eq
    (context : Context)
    (label : Text)
    (rules : Keyed Json)
    (addressRule : Json) :
    readBook site context label rules addressRule =
      readFields site context label rules >>= fun known =>
        readAddress site context label addressRule known >>= keepRecord label := rfl

theorem keepRecord_secluded (label : Text) (record : Record) (first second : Walk) :
    Secluded first second (keepRecord label record) :=
  .ite (Secluded.reportThen _ _ _ _ none) (.of_pure _)

variable {context inner : Context}
variable {rules : Keyed Json}
variable {item : Found × Nat}
variable {walk before : Walk}

/-- An address that comes to nothing on an item is as good as absent there. -/
theorem readItem_omitting_address
    {rule : Json}
    (ruled : Keyed.get? rules addressField = some rule)
    (reached : runFrom (fieldContext site context rules addressField item) walk =
      (.ok inner, before))
    (nothing : ComesToNothing site inner rule before) :
    EndAlike walk (readItem site context rules item)
      (readItem site context (Keyed.remove rules addressField) item) := by
  unfold fieldContext at reached
  obtain ⟨record, middle, earlier, ends⟩ := runFrom_bind_eq_ok_iff.mp reached
  cases ends
  have all : (otherRules rules).takeWhile (fun rule => rule.1 != addressField) =
      otherRules rules :=
    List.takeWhile_eq_self_iff.mpr fun rule member => (List.mem_filter.mp member).2
  have others : otherRules (Keyed.remove rules addressField) = otherRules rules := by
    unfold otherRules
    refine Keyed.remove_eq_self fun member => ?_
    obtain ⟨value, found⟩ := Keyed.exists_get?_of_mem_keys member
    rw [Keyed.get?_remove, if_pos rfl] at found
    cases found
  have ruledSo : addressRule rules = rule := by
    unfold addressRule
    rw [ruled]
    rfl
  have bare : addressRule (Keyed.remove rules addressField) = .null := by
    unfold addressRule
    rw [Keyed.get?_remove, if_pos rfl]
    rfl
  rw [all] at earlier
  rw [if_pos rfl] at nothing
  unfold readItem
  rw [readBook_eq, readBook_eq, others, ruledSo, bare]
  refine .after earlier ?_
  rw [readAddress_null]
  exact (nothing.readAddress _).bind (keepRecord_secluded _)

/-- A field other than the address that comes to nothing on an item is as good as absent there. -/
theorem readItem_omitting_other
    (distinct : (Keyed.keys rules).Nodup)
    {name : Text}
    (other : name ≠ addressField)
    {rule : Json}
    (ruled : Keyed.get? rules name = some rule)
    (reached : runFrom (fieldContext site context rules name item) walk = (.ok inner, before))
    (nothing : ComesToNothing site inner rule before) :
    EndAlike walk (readItem site context rules item)
      (readItem site context (Keyed.remove rules name) item) := by
  unfold fieldContext at reached
  obtain ⟨record, middle, earlier, ends⟩ := runFrom_bind_eq_ok_iff.mp reached
  cases ends
  have among : Keyed.get? (otherRules rules) name = some rule := by
    unfold otherRules
    rw [Keyed.get?_remove, if_neg other, ruled]
  obtain ⟨rest, split, removed⟩ :=
    Keyed.exists_behind (Keyed.nodup_keys_remove distinct addressField) among
  have others : otherRules (Keyed.remove rules name) =
      (otherRules rules).takeWhile (fun rule => rule.1 != name) ++ rest :=
    (Keyed.remove_comm rules name addressField).trans removed
  have address : addressRule (Keyed.remove rules name) = addressRule rules := by
    unfold addressRule
    rw [Keyed.get?_remove, if_neg (Ne.symm other)]
  rw [if_neg other] at nothing
  have fields :
      EndAlike walk
        (readFields site (context.withElement item.1) (itemLabel (item.2 + 1)) (otherRules rules))
        (readFields site (context.withElement item.1) (itemLabel (item.2 + 1))
          (otherRules (Keyed.remove rules name))) := by
    rw [others]
    conv => arg 2; arg 4; rw [show otherRules rules = _ from split]
    rw [readFields_eq] at earlier
    rw [readFields_eq, readFields_eq, List.foldlM_append, List.foldlM_append]
    refine .after earlier ?_
    rw [List.foldlM_cons, ← pure_bind record fun record =>
      rest.foldlM (addField site (context.withElement item.1) (itemLabel (item.2 + 1))) record]
    refine (nothing.addField name _ record).bind fun record first second => ?_
    exact Parallel.foldlM (fun record rule _ => Secluded.addField _ _ record rule) record
  unfold readItem
  rw [readBook_eq, readBook_eq, address]
  refine fields.bind fun record first second => ?_
  exact (Secluded.readAddress _ _ _ record).andThen fun record =>
    keepRecord_secluded _ record first second

/-- A field that comes to nothing on an item is as good as absent there. -/
theorem readItem_omitting
    (distinct : (Keyed.keys rules).Nodup)
    {name : Text}
    {rule : Json}
    (ruled : Keyed.get? rules name = some rule)
    (reached : runFrom (fieldContext site context rules name item) walk = (.ok inner, before))
    (nothing : ComesToNothing site inner rule before) :
    EndAlike walk (readItem site context rules item)
      (readItem site context (Keyed.remove rules name) item) := by
  by_cases last : name = addressField
  · subst last
    exact readItem_omitting_address ruled reached nothing
  · exact readItem_omitting_other distinct last ruled reached nothing

/-! ## A list with an item whose field comes to nothing -/

/-- Items are read alike by rules that are the same at their places. -/
theorem readItems_congr
    {items : List (Found × Nat)}
    {rulesAt otherRulesAt : Nat → Keyed Json}
    (same : ∀ item ∈ items, rulesAt item.2 = otherRulesAt item.2) :
    readItems site context rulesAt items = readItems site context otherRulesAt items := by
  refine filterMapM_congr fun item member => ?_
  rw [same item member]

theorem readItems_secluded
    (rulesAt : Nat → Keyed Json)
    (items : List (Found × Nat))
    (first second : Walk) :
    Secluded first second (readItems site context rulesAt items) := by
  unfold readItems readItem
  exact Secluded.filterMapM fun item => Secluded.readBook _ _ _ _

/-- A list is read up to an item, then that item, and then the others. -/
theorem readItems_split
    (rulesAt : Nat → Keyed Json)
    (before after : List (Found × Nat))
    (item : Found × Nat) :
    readItems site context rulesAt (before ++ item :: after) =
      readItems site context rulesAt before >>= fun first =>
        readItem site context (rulesAt item.2) item >>= fun found =>
          readItems site context rulesAt after >>= fun last =>
            pure (first ++ (found.toList ++ last)) := by
  unfold readItems
  rw [filterMapM_append]
  congr 1
  funext first
  rw [List.filterMapM_cons, bind_assoc]
  congr 1
  funext found
  cases found with
  | none => rfl
  | some record => rw [bind_assoc]; rfl

/-- The items at all other places are read as ever. -/
theorem omitting_of_ne
    {rulesAt : Nat → Keyed Json}
    {place other : Nat}
    (elsewhere : other ≠ place)
    (name : Text) :
    omitting rulesAt place name other = rulesAt other :=
  if_neg elsewhere

theorem omitting_self (rulesAt : Nat → Keyed Json) (place : Nat) (name : Text) :
    omitting rulesAt place name place = Keyed.remove (rulesAt place) name :=
  if_pos rfl

/-- The items before a place are read alike when a field is omitted there. -/
theorem readItems_omitting_take
    (elements : List Found)
    (rulesAt : Nat → Keyed Json)
    (place : Nat)
    (name : Text) :
    readItems site context (omitting rulesAt place name) (elements.take place).zipIdx =
      readItems site context rulesAt (elements.take place).zipIdx := by
  refine readItems_congr fun item member => omitting_of_ne ?_ name
  have bound := List.snd_lt_of_mem_zipIdx member
  rw [List.length_take] at bound
  omega

/-- So are those after it. -/
theorem readItems_omitting_drop
    (elements : List Found)
    (rulesAt : Nat → Keyed Json)
    (place : Nat)
    (name : Text) :
    readItems site context (omitting rulesAt place name)
        ((elements.drop (place + 1)).zipIdx (place + 1)) =
      readItems site context rulesAt ((elements.drop (place + 1)).zipIdx (place + 1)) := by
  refine readItems_congr fun item member => omitting_of_ne ?_ name
  have bound := List.le_snd_of_mem_zipIdx member
  omega

/-- A field that comes to nothing on an item of a list is as good as absent there: the list ends
alike, and in walks that share all but what has been reported. -/
theorem readBooksBy_omitting
    {listRule : Json}
    {rulesAt : Nat → Keyed Json}
    {what : Text}
    {place : Nat}
    (distinct : (Keyed.keys (rulesAt place)).Nodup)
    {name : Text}
    {rule : Json}
    (ruled : Keyed.get? (rulesAt place) name = some rule)
    (reached : runFrom (fieldContextAt site context listRule rulesAt what place name) walk =
      (.ok (some inner), before))
    (nothing : ComesToNothing site inner rule before) :
    EndAlike walk (readBooksBy site context listRule rulesAt what)
      (readBooksBy site context listRule (omitting rulesAt place name) what) := by
  unfold fieldContextAt at reached
  obtain ⟨elements, found, taken, reached⟩ := runFrom_bind_eq_ok_iff.mp reached
  obtain ⟨earlier, middle, read, reached⟩ := runFrom_bind_eq_ok_iff.mp reached
  cases here : elements[place]? with
  | none =>
      rw [here] at reached
      cases reached
  | some element =>
      rw [here] at reached
      obtain ⟨inner, after, reached, ends⟩ := runFrom_bind_eq_ok_iff.mp reached
      cases ends
      unfold readBooksBy
      refine .after taken ?_
      refine EndAlike.bind ?_ fun books _ _ => Secluded.reportThen _ _ _ _ books
      rw [zipIdx_eq_of_getElem? here, readItems_split, readItems_split]
      rw [readItems_omitting_take, readItems_omitting_drop, omitting_self]
      refine .after read ?_
      refine (readItem_omitting distinct ruled reached nothing).bind fun found first second => ?_
      exact (readItems_secluded _ _ first second).andThen fun last => .of_pure _

/-! ## Turns -/

/-- The reading of an item of a list. -/
structure Turn where
  /-- The element that is read. -/
  element : Found
  /-- Its place in the list. -/
  place : Nat
  /-- The walk before it is read. -/
  start : Walk
  /-- Its fields but for the address. -/
  known : Record
  /-- Its record. -/
  record : Record
  /-- The walk after it has been read. -/
  finish : Walk

/-- A record has a name or an address. -/
def Record.isKept (record : Record) : Bool :=
  !(record.text "name").isEmpty || !(record.text addressField).isEmpty

/-- The address of a record is read by a rule that sees the fields that are known as the book, and
goes into the record when there is one. -/
def AddressRead (site : Site) (context : Context) (rule : Json) (known record : Record)
    (walk : Walk) : Prop :=
  ∃ text result session,
    Extraction.ruleOf rule = .ok text ∧
      runFrom (Extraction.evaluate site.engine
        { context with book := .obj known, chapter := .null } text) walk.session =
          (.ok result, session) ∧
      match result.givenTexts with
      | [] => record = known
      | first :: _ =>
          ∃ address, resolved site first context.baseUrl = .ok address ∧
            record = known.put addressField address

/-- A turn reads all other fields of its element first, and then the address, if it has a rule. -/
structure Turn.Reads (site : Site) (context : Context) (rules : Keyed Json) (turn : Turn) :
    Prop where
  /-- All other fields are known when the address is read. -/
  record :
    ∃ middle,
      runFrom (readFields site (context.withElement turn.element) (itemLabel (turn.place + 1))
        (otherRules rules)) turn.start = (.ok turn.known, middle) ∧
      if (addressRule rules).isGiven then
        AddressRead site (context.withElement turn.element) (addressRule rules) turn.known
          turn.record middle
      else turn.record = turn.known
  /-- The next turn begins where the reading of the item has come to. -/
  finish :
    (runFrom (readItem site context rules (turn.element, turn.place)) turn.start).2 = turn.finish

/-- Every turn begins where the one before it has come to. -/
def Consecutive (start : Walk) : List Turn → Prop
  | [] => True
  | turn :: rest => turn.start = start ∧ Consecutive turn.finish rest

/-- An address that is read is read by its rule, if it has one. -/
theorem addressRead_of_returned
    {label : Text}
    {rule : Json}
    {known record : Record}
    {walk after : Walk}
    (returned : runFrom (readAddress site context label rule known) walk = (.ok record, after)) :
    if rule.isGiven then AddressRead site context rule known record walk else record = known := by
  unfold readAddress at returned
  cases given : rule.isGiven with
  | false =>
      rw [given] at returned
      cases returned
      simp
  | true =>
      rw [given] at returned
      obtain ⟨value?, middle, read, rest⟩ := runFrom_bind_eq_ok_iff.mp returned
      obtain ⟨text, result, session, isText, evaluated, value⟩ := exists_evaluated given read
      rw [if_pos rfl]
      refine ⟨text, result, session, isText, evaluated, ?_⟩
      unfold FieldStyle.read? at value
      cases texts : result.givenTexts with
      | nil =>
          rw [texts] at value
          cases value
          cases rest
          rfl
      | cons first others =>
          rw [texts] at value
          cases value
          obtain ⟨address, last, found, ends⟩ := runFrom_bind_eq_ok_iff.mp rest
          rw [resolve_eq_lift, runFrom_lift] at found
          cases ends
          exact ⟨address, (Prod.mk.inj found).1, rfl⟩

/-- A record that is read is kept when it has a name or an address. -/
theorem runFrom_keepRecord (label : Text) (record : Record) (walk : Walk) :
    (runFrom (keepRecord label record) walk).1 =
      .ok (if record.isKept then some record else none) := by
  unfold keepRecord Record.isKept
  cases (record.text "name").isEmpty with
  | false => rfl
  | true =>
      cases (record.text addressField).isEmpty with
      | false => rfl
      | true => rfl

/-- An item that has been read had its turn. -/
theorem exists_turn
    {found : Option Record}
    {after : Walk}
    (returned : runFrom (readItem site context rules item) walk = (.ok found, after)) :
    ∃ known record,
      Turn.Reads site context rules
          { element := item.1, place := item.2, start := walk, known, record, finish := after } ∧
        found = if record.isKept then some record else none := by
  have read := returned
  unfold readItem at read
  rw [readBook_eq] at read
  obtain ⟨known, middle, others, read⟩ := runFrom_bind_eq_ok_iff.mp read
  obtain ⟨record, last, address, kept⟩ := runFrom_bind_eq_ok_iff.mp read
  refine ⟨known, record, ⟨⟨middle, others, addressRead_of_returned address⟩, ?_⟩, ?_⟩
  · rw [show ((item.1, item.2) : Found × Nat) = item from rfl, returned]
  · have same := runFrom_keepRecord (itemLabel (item.2 + 1)) record last
    rw [kept] at same
    exact Except.ok.inj same

/-- Items that have been read had their turns one after the other, and the records of the turns
are those of the list. -/
theorem exists_turns
    {items : List (Found × Nat)}
    {records : List Record}
    {after : Walk}
    (returned : runFrom (readItems site context (fun _ => rules) items) walk =
      (.ok records, after)) :
    ∃ turns,
      turns.map (fun turn => (turn.element, turn.place)) = items ∧
        Consecutive walk turns ∧
        (∀ turn ∈ turns, turn.Reads site context rules) ∧
        records = (turns.map Turn.record).filter Record.isKept := by
  unfold readItems at returned
  induction items generalizing walk records with
  | nil =>
      cases returned
      exact ⟨[], rfl, trivial, by simp, rfl⟩
  | cons item rest hypothesis =>
      rw [List.filterMapM_cons] at returned
      obtain ⟨found, middle, read, others⟩ := runFrom_bind_eq_ok_iff.mp returned
      obtain ⟨known, record, reads, same⟩ := exists_turn read
      cases kept : record.isKept with
      | false =>
          rw [kept] at same
          cases same
          obtain ⟨turns, elements, row, all, rfl⟩ := hypothesis others
          exact ⟨_ :: turns, by rw [List.map_cons, elements], ⟨rfl, row⟩,
            List.forall_mem_cons.mpr ⟨reads, all⟩, by simp [kept]⟩
      | true =>
          rw [kept] at same
          cases same
          obtain ⟨later, last, others, ends⟩ := runFrom_bind_eq_ok_iff.mp others
          cases ends
          obtain ⟨turns, elements, row, all, rfl⟩ := hypothesis others
          exact ⟨_ :: turns, by rw [List.map_cons, elements], ⟨rfl, row⟩,
            List.forall_mem_cons.mpr ⟨reads, all⟩, by simp [kept]⟩

theorem takenElements_returned
    {listRule : Json}
    {what : Text}
    {taken : List Found}
    {after : Walk}
    (returned : runFrom (takenElements site context listRule what) walk = (.ok taken, after)) :
    ∃ elements,
      (runFrom (readElements site context listRule what) walk).1 = .ok elements ∧
        taken = elements.take (sliceEnd site.settings.itemLimit elements.length) := by
  unfold takenElements at returned
  obtain ⟨elements, middle, read, rest⟩ := runFrom_bind_eq_ok_iff.mp returned
  refine ⟨elements, congrArg Prod.fst read, ?_⟩
  rw [← takeUpTo_eq_take]
  simp only at rest
  split at rest
  · rw [runFrom_bind, runFrom_report] at rest
    exact (Except.ok.inj (Prod.mk.inj rest).1).symm
  · exact (Except.ok.inj (Prod.mk.inj rest).1).symm

/-- The items of a list are read in turns, one for each element up to the limit in their order;
a turn reads the address last, which can see the fields before it, and its record is one of the
list when it has a name or an address.  A field that comes to nothing on an item is as good as
absent there: the list ends alike, with the same records, and in a walk that shares all but what
has been reported. -/
theorem readBooks_items
    (site : Site)
    (context : Context)
    (listRule : Json)
    {rules : Keyed Json}
    (distinct : (Keyed.keys rules).Nodup)
    (what : Text)
    (walk : Walk) :
    (∀ records after,
      runFrom (readBooks site context listRule rules what) walk = (.ok records, after) →
      ∃ elements turns start,
        (runFrom (readElements site context listRule what) walk).1 = .ok elements ∧
        (runFrom (takenElements site context listRule what) walk).2 = start ∧
        turns.map (fun turn => (turn.element, turn.place)) =
          (elements.take (sliceEnd site.settings.itemLimit elements.length)).zipIdx ∧
        Consecutive start turns ∧
        (∀ turn ∈ turns, turn.Reads site context rules) ∧
        records = (turns.map Turn.record).filter Record.isKept) ∧
    ∀ place name rule inner before,
      Keyed.get? rules name = some rule →
      runFrom (fieldContextAt site context listRule (fun _ => rules) what place name) walk =
        (.ok (some inner), before) →
      ComesToNothing site inner rule before →
      EndAlike walk (readBooks site context listRule rules what)
        (readBooksBy site context listRule (omitting (fun _ => rules) place name) what) := by
  rw [readBooks_eq]
  refine ⟨fun records after returned => ?_,
    fun place name rule inner before ruled reached nothing =>
      readBooksBy_omitting distinct ruled reached nothing⟩
  unfold readBooksBy at returned
  obtain ⟨taken, start, first, rest⟩ := runFrom_bind_eq_ok_iff.mp returned
  obtain ⟨books, middle, read, reported⟩ := runFrom_bind_eq_ok_iff.mp rest
  obtain ⟨elements, found, rfl⟩ := takenElements_returned first
  obtain ⟨turns, items, row, all, same⟩ := exists_turns read
  rw [runFrom_bind, runFrom_report] at reported
  cases reported
  exact ⟨elements, turns, start, found, congrArg Prod.snd first, items, row, all, same⟩

/-- A source without any rule of its own. -/
def shelfSite : Site where
  kind := .book
  definition := [("bookSourceUrl", .str "https://a.b")]
  settings := {}
  network := fun _ => .failure "ConnectionError" "unreachable"
  browser := fun _ => none

/-- A page of a single letter. -/
def shelfContext : Context where
  document := .ofBody 0 "a"
  baseUrl := "https://a.b/"

/-- The name of a book is that letter, and its author is to be read by some rule. -/
def shelfRules (author : Text) : Keyed Json :=
  [("name", .str ":a"), ("author", .str author)]

/-- Read the books of the page. -/
def shelf (author : Text) : Work (List Record) :=
  readBooks shelfSite shelfContext (.str ":a") (shelfRules author) "Shelf"

/-- Read the books of the page, the first of them without an author. -/
def shelfWithout (author : Text) : Work (List Record) :=
  readBooksBy shelfSite shelfContext (.str ":a") (omitting (fun _ => shelfRules author) 0 "author")
    "Shelf"

/-- The context of the author of the first book. -/
def authorContext (author : Text) : Work (Option Context) :=
  fieldContextAt shelfSite shelfContext (.str ":a") (fun _ => shelfRules author) "Shelf" 0 "author"

/-- The walk before the author of the first book is read, and the evaluation of the rule for it. -/
def authorRead (author : Text) :
    Option (Walk × Except Fault Extraction.Result × Extraction.Session) :=
  match runFrom (authorContext author) {} with
  | (.ok (some inner), before) =>
      some (before, runFrom (Extraction.evaluate shelfSite.engine inner author) before.session)
  | _ => none

/-- The names of books that have been read. -/
def names? (ended : Except Fault (List Record) × Walk) : Option (List Text) :=
  ended.1.toOption.map fun books => books.map fun book => book.text "name"

theorem exists_authorContext
    {author : Text}
    {check : Walk × Except Fault Extraction.Result × Extraction.Session → Bool}
    (checked : (authorRead author).any check = true) :
    ∃ inner before result session,
      runFrom (authorContext author) {} = (.ok (some inner), before) ∧
        runFrom (Extraction.evaluate shelfSite.engine inner author) before.session =
          (result, session) ∧
        check (before, result, session) = true := by
  unfold authorRead at checked
  split at checked
  case h_1 inner before reached => exact ⟨inner, before, _, _, reached, rfl, checked⟩
  case h_2 => cases checked

/-- A book whose author is looked for in vain is read as if there were no rule for the author. -/
theorem readBooks_items_letter :
    names? (runFrom (shelf ":b") {}) = some ["a".toList] ∧
      EndAlike {} (shelf ":b") (shelfWithout ":b") := by
  have vain : (authorRead ":b").any (fun read =>
      read.2.2.store.isEmpty && read.1.session.store.isEmpty &&
        match read.2.1 with
        | .ok result => result.givenTexts.isEmpty
        | .error _ => false) = true := by
    decide +kernel
  obtain ⟨inner, before, result, session, reached, evaluated, vain⟩ := exists_authorContext vain
  have distinct : (Keyed.keys (shelfRules ":b")).Nodup := by decide
  refine ⟨by decide +kernel, ?_⟩
  refine (readBooks_items shelfSite shelfContext (.str ":a") distinct "Shelf" {}).2 0 "author"
    (.str ":b") inner before rfl reached ?_
  cases result with
  | error fault => simp at vain
  | ok result =>
      simp only [Bool.and_eq_true, List.isEmpty_iff] at vain
      obtain ⟨⟨after, start⟩, empty⟩ := vain
      exact ⟨":b", result, session, rfl, evaluated, empty, after.trans start.symm⟩

/-- A rule whose count is too large changes no variable and costs all books, which are read without
the rule. -/
theorem readBooks_hugeCount_lost :
    (∃ inner before fault session,
      runFrom (authorContext ":a\x7b4294967295\x7d") {} = (.ok (some inner), before) ∧
        runFrom (Extraction.evaluate shelfSite.engine inner ":a\x7b4294967295\x7d")
          before.session = (.error fault, session) ∧
        session.store = before.session.store) ∧
      names? (runFrom (shelf ":a\x7b4294967295\x7d") {}) = none ∧
      names? (runFrom (shelfWithout ":a\x7b4294967295\x7d") {}) = some ["a".toList] := by
  have escapes : (authorRead ":a\x7b4294967295\x7d").any (fun read =>
      read.2.2.store.isEmpty && read.1.session.store.isEmpty &&
        match read.2.1 with
        | .ok _ => false
        | .error _ => true) = true := by
    decide +kernel
  obtain ⟨inner, before, result, session, reached, evaluated, escapes⟩ :=
    exists_authorContext escapes
  refine ⟨?_, by decide +kernel, by decide +kernel⟩
  cases result with
  | ok result => simp at escapes
  | error fault =>
      simp only [Bool.and_eq_true, List.isEmpty_iff] at escapes
      obtain ⟨⟨after, start⟩, -⟩ := escapes
      exact ⟨inner, before, fault, session, reached, evaluated, after.trans start.symm⟩

end Stage

end RuleProbe
