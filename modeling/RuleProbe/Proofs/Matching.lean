import RuleProbe.Pattern.Matcher

/-!
# Matchers on subjects

The matcher of a pattern is followed along a subject by what stands there: single characters, and
repetitions that keep everything that they took or give all of it back.
-/

namespace RuleProbe

namespace Pattern

/-! ## Patterns that agree -/

deriving instance DecidableEq for SetItem

/-- Two patterns are built alike; conditions on positions and marks of groups are not compared. -/
def Node.agrees : Node → Node → Bool
  | .empty, .empty => true
  | .fail, .fail => true
  | .char one code, .char two other => one == two && code == other
  | .set one negated items, .set two outside others =>
      one == two && negated == outside && items == others
  | .seq first second, .seq one two => first.agrees one && second.agrees two
  | .alt first second, .alt one two => first.agrees one && second.agrees two
  | .group index body, .group number other => index == number && body.agrees other
  | .repeat greed low high forget emptyTurn body, .repeat one two three four five other =>
      greed == one && low == two && high == three && forget == four && emptyTurn == five &&
        body.agrees other
  | _, _ => false

theorem Node.eq_of_agrees {one two : Node} (agree : one.agrees two = true) : one = two := by
  fun_induction Node.agrees one two with
  | case1 | case2 => rfl
  | case3 | case4 => simpa [and_assoc] using agree
  | case5 first second one two left right | case6 first second one two left right =>
      rw [Bool.and_eq_true] at agree
      rw [left agree.1, right agree.2]
  | case7 index body number other hypothesis =>
      rw [Bool.and_eq_true, beq_iff_eq] at agree
      rw [agree.1, hypothesis agree.2]
  | case8 =>
      simp_all
  | case9 => cases agree

/-! ## Subjects -/

/-- What stands in a subject from a position on. -/
def Follows (subject : Subject) (pos : Nat) (codes : List Nat) : Prop :=
  subject.toList.drop pos = codes

variable {subject : Subject} {pos code : Nat} {codes run rest : List Nat} {test : Nat → Bool}

namespace Follows

theorem start (subject : Subject) : Follows subject 0 subject.toList := rfl

theorem drop (follows : Follows subject pos codes) (count : Nat) :
    Follows subject (pos + count) (codes.drop count) := by
  unfold Follows at follows ⊢
  rw [← List.drop_drop, follows]

theorem append (follows : Follows subject pos (run ++ rest)) :
    Follows subject (pos + run.length) rest := by
  have behind := follows.drop run.length
  rwa [List.drop_left] at behind

theorem tail (follows : Follows subject pos (code :: rest)) : Follows subject (pos + 1) rest :=
  follows.drop 1

theorem getElem? (follows : Follows subject pos codes) : subject[pos]? = codes.head? := by
  rw [← follows, List.head?_drop, Array.getElem?_toList]

theorem length_le (follows : Follows subject pos (run ++ rest)) : run.length ≤ subject.size := by
  have total := congrArg List.length follows
  rw [List.length_drop, List.length_append, Array.length_toList] at total
  omega

theorem extract (follows : Follows subject pos (run ++ rest)) :
    slice subject (pos, pos + run.length) = run := by
  have taken : pos + run.length - pos = run.length := by omega
  rw [slice, Array.toList_extract, List.extract_eq_take_drop, taken, follows, List.take_left]

end Follows

/-! ## Single characters -/

variable {spans : Array (Option (Nat × Nat))} {goal : Goal} {result : Trail}

theorem matchUnit_pass
    (follows : Follows subject pos (code :: rest))
    (passed : test code = true) :
    matchUnit subject true test ⟨pos, spans⟩ goal = goal ⟨pos + 1, spans⟩ := by
  simp [matchUnit, follows.getElem?, passed]

theorem matchUnit_stop
    (follows : Follows subject pos codes)
    (stopped : codes.head?.any test = false) :
    matchUnit subject true test ⟨pos, spans⟩ goal = none := by
  cases codes with
  | nil => simp [matchUnit, follows.getElem?]
  | cons code rest =>
      have failed : test code = false := by simpa using stopped
      simp [matchUnit, follows.getElem?, failed]

/-! ## Repetitions -/

theorem countUnits_run
    (follows : Follows subject pos (run ++ rest))
    (passed : ∀ code ∈ run, test code = true)
    (stopped : rest.head?.any test = false)
    {limit : Nat}
    (room : run.length < limit) :
    countUnits subject true test limit pos = run.length := by
  induction run generalizing pos limit with
  | nil =>
      obtain ⟨limit, rfl⟩ := Nat.exists_eq_succ_of_ne_zero (Nat.ne_of_gt room)
      cases rest with
      | nil => simp [countUnits, follows.getElem?]
      | cons code others =>
          have failed : test code = false := by simpa using stopped
          simp [countUnits, follows.getElem?, failed]
  | cons code others hypothesis =>
      obtain ⟨limit, rfl⟩ := Nat.exists_eq_succ_of_ne_zero (Nat.ne_of_gt (Nat.zero_lt_of_lt room))
      have further : countUnits subject true test limit (pos + 1) = others.length :=
        hypothesis follows.tail (fun code member => passed code (List.mem_cons_of_mem _ member))
          (by simpa using room)
      simp [countUnits, follows.getElem?, passed code List.mem_cons_self, further]

theorem repeatUnit_run
    (follows : Follows subject pos (run ++ rest))
    (passed : ∀ code ∈ run, test code = true)
    (stopped : rest.head?.any test = false)
    {low : Nat}
    (enough : low ≤ run.length) :
    repeatUnit subject true test .greedy low none ⟨pos, spans⟩ goal =
      tryDown true low ⟨pos, spans⟩ goal (run.length - low) := by
  have counted := countUnits_run follows passed stopped
    (Nat.lt_succ_of_le follows.length_le)
  have kept : ¬run.length < low := Nat.not_lt.mpr enough
  simp [repeatUnit, counted, kept]

/-- A repetition keeps all that it took when the rest matches behind it. -/
theorem repeatUnit_keeps
    (follows : Follows subject pos (run ++ rest))
    (passed : ∀ code ∈ run, test code = true)
    (stopped : rest.head?.any test = false)
    {low : Nat}
    (enough : low ≤ run.length)
    (behind : goal ⟨pos + run.length, spans⟩ = some result) :
    repeatUnit subject true test .greedy low none ⟨pos, spans⟩ goal = some result := by
  rw [repeatUnit_run follows passed stopped enough]
  have all : low + (run.length - low) = run.length := by omega
  cases extra : run.length - low with
  | zero =>
      have least : low = run.length := by omega
      rw [tryDown, Trail.advance, least]
      exact behind
  | succ fewer =>
      rw [tryDown, Trail.advance, ← extra, all]
      simp [behind]

/-- A repetition takes nothing when what follows does not pass its test. -/
theorem repeatUnit_empty
    (follows : Follows subject pos rest)
    (stopped : rest.head?.any test = false)
    (behind : goal ⟨pos, spans⟩ = some result) :
    repeatUnit subject true test .greedy 0 none ⟨pos, spans⟩ goal = some result := by
  have nothing : Follows subject pos ([] ++ rest) := follows
  exact repeatUnit_keeps nothing (fun code member => absurd member List.not_mem_nil) stopped
    (Nat.le_refl 0) behind

/-- A repetition gives back all that it took when the rest matches behind none of it. -/
theorem repeatUnit_returns
    (follows : Follows subject pos (run ++ rest))
    (passed : ∀ code ∈ run, test code = true)
    (stopped : rest.head?.any test = false)
    (refused : ∀ taken, 0 < taken → taken ≤ run.length → goal ⟨pos + taken, spans⟩ = none) :
    repeatUnit subject true test .greedy 0 none ⟨pos, spans⟩ goal = goal ⟨pos, spans⟩ := by
  have down (extra : Nat) (most : extra ≤ run.length) :
      tryDown true 0 ⟨pos, spans⟩ goal extra = goal ⟨pos, spans⟩ := by
    induction extra with
    | zero => rfl
    | succ fewer hypothesis =>
        have further := refused (fewer + 1) (Nat.succ_pos fewer) most
        simp [tryDown, Trail.advance, further, hypothesis (by omega)]
  rw [repeatUnit_run follows passed stopped (Nat.zero_le _)]
  exact down _ (Nat.sub_le _ _)

/-! ## Nodes -/

namespace Node

-- The equations are given as such, and not by computation: unfolding the matcher of a node costs
-- more the more nodes stand behind it.
variable {first second body : Node} {trail : Trail} {rule : CaseRule} {negated : Bool}
variable {items : List SetItem}

theorem matcher_char :
    (Node.char rule code).matcher subject true = matchUnit subject true (rule.same code ·) := (rfl)

theorem matcher_set :
    (Node.set rule negated items).matcher subject true =
      matchUnit subject true fun other => (items.any (·.admits rule other)) != negated := (rfl)

theorem matcher_seq :
    (Node.seq first second).matcher subject true trail goal =
      first.matcher subject true trail (second.matcher subject true · goal) := (rfl)

theorem matcher_alt :
    (Node.alt first second).matcher subject true trail goal =
      (first.matcher subject true trail goal).or (second.matcher subject true trail goal) := by
  rw [Node.matcher]
  dsimp only
  cases first.matcher subject true trail goal <;> rfl

theorem matcher_group {index : Nat} :
    (Node.group index body).matcher subject true trail goal =
      body.matcher subject true trail fun next =>
        goal { next with spans := next.spans.setIfInBounds index (some (trail.pos, next.pos)) } :=
  (rfl)

theorem matcher_repeat_set
    {greed : Greed}
    {low : Nat}
    {high : Option Nat}
    {forget : List Nat}
    {emptyTurn : Bool} :
    (Node.repeat greed low high forget emptyTurn (.set rule negated items)).matcher subject true
        trail goal =
      repeatUnit subject true (fun other => (items.any (·.admits rule other)) != negated) greed
        low high trail goal := (rfl)

end Node

/-! ## Searching -/

variable {pattern : Pattern}

theorem matchAt_of_matcher
    (matched : pattern.root.matcher subject true
      ⟨pos, Array.replicate (pattern.groupCount + 1) none⟩ some = some result) :
    matchAt pattern subject pos false =
      some ⟨pos, result.pos, result.spans.setIfInBounds 0 (some (pos, result.pos))⟩ := by
  simp only [matchAt, Bool.false_and, Bool.false_eq_true, ↓reduceIte]
  rw [matched, Option.map_some]

/-- A match that leaves nothing of a subject is the only one. -/
theorem matchesIn_single
    {found : Match}
    (first : matchAt pattern subject 0 false = some found)
    (starts : found.start = 0)
    (stops : found.stop = subject.size)
    (given : 0 < subject.size)
    (last : matchAt pattern subject subject.size false = none) :
    matchesIn pattern subject = [found] := by
  have apart : (found.stop == found.start) = false := by
    rw [starts, stops, beq_eq_false_iff_ne]
    omega
  have one : subject.size + 1 - subject.size = 0 + 1 := by omega
  have nothing : searchFrom pattern subject (0 + 1) subject.size false = none := by
    rw [searchFrom, last, searchFrom]
  rw [matchesIn, matchesFrom, Nat.sub_zero, searchFrom, first]
  simp only
  rw [apart, stops]
  cases fuel : 2 * subject.size + 1 with
  | zero => omega
  | succ fewer => rw [matchesFrom, one, nothing]

/-! ## Signs -/

/-- In the basic alphabet, a sign that comes before the letters agrees with itself only. -/
theorem admits_sign
    {sign : Nat}
    (ascii : code < 128)
    (low : sign < 65) :
    (SetItem.range sign sign).admits .full code = (code == sign) := by
  rw [Bool.eq_iff_iff, beq_iff_eq]
  simp only [SetItem.admits, CaseRule.partners, Bool.or_eq_true, Bool.and_eq_true,
    decide_eq_true_eq, List.any_eq_true, List.mem_filter]
  constructor
  · rintro (⟨above, below⟩ | ⟨-, other, ⟨-, same⟩, above, below⟩)
    · omega
    · obtain rfl : other = sign := by omega
      have both : (decide (code < 128) && decide (other < 128)) = true := by
        simp only [Bool.and_eq_true, decide_eq_true_eq]
        omega
      rw [CaseRule.same, if_pos both, beq_iff_eq] at same
      simp only [asciiLower, Bool.and_eq_true, decide_eq_true_eq] at same
      split at same <;> split at same <;> omega
  · rintro rfl
    exact .inl ⟨Nat.le_refl _, Nat.le_refl _⟩

end Pattern

end RuleProbe
