import RuleProbe.Proofs.Effects
import RuleProbe.Stage.Basic

/-!
# Addresses that say something

An absolute address begins with its scheme, and what is joined to it has a scheme as well.  So
resolving at an absolute address takes a text to an address that says something, unless the text
is blank: a blank one is resolved to nothing.
-/

namespace RuleProbe

namespace Url

/-! ## Schemes -/

theorem write_ne_nil {url : Url} (named : url.scheme ≠ []) : write url ≠ [] := by
  have named : url.scheme.isEmpty = false := by simpa using named
  simp [write, named]

/-- An address has the scheme that it names, or else the one that is handed down to it. -/
theorem scheme_of_read
    {scheme text : Text}
    {url : Url}
    (done : read scheme text = .ok url) :
    url.scheme =
      if (splitScheme (clean text)).1.isEmpty then scheme else (splitScheme (clean text)).1 := by
  unfold read at done
  dsimp only at done
  split at done
  · split at done
    · cases done
    · rw [← Except.ok.inj done]
  · split at done
    · cases done
    · rw [← Except.ok.inj done]

theorem scheme_ne_nil_of_read
    {scheme text : Text}
    {url : Url}
    (named : (splitScheme (clean text)).1 ≠ [] ∨ scheme ≠ [])
    (done : read scheme text = .ok url) :
    url.scheme ≠ [] := by
  rw [scheme_of_read done]
  split
  · rename_i unnamed
    exact named.resolve_left fun found => found (by simpa using unnamed)
  · rename_i found
    simpa using found

theorem lt_of_isSchemeChar {c : Char} (inScheme : isSchemeChar c = true) : 32 < c.toNat := by
  simp only [isSchemeChar, isLetter, isDigit, Letter.isAsciiLetter, Letter.isAsciiDigit,
    Bool.or_eq_true, Bool.and_eq_true, decide_eq_true_eq, beq_iff_eq] at inScheme
  rcases inScheme with ((((letter | digit) | rfl) | rfl) | rfl)
  · omega
  · omega
  · decide
  · decide
  · decide

/-- A character of a scheme is none that cleaning takes away. -/
theorem isSchemeChar_clean {c : Char} (inScheme : isSchemeChar c = true) :
    isControlOrSpace c = false ∧ (!(c == '\t' || c == '\r' || c == '\n')) = true := by
  have visible := lt_of_isSchemeChar inScheme
  have other {d : Char} (low : d.toNat ≤ 32) : c ≠ d := by
    rintro rfl
    omega
  have noTab : c ≠ '\t' := other (by decide)
  have noReturn : c ≠ '\r' := other (by decide)
  have noBreak : c ≠ '\n' := other (by decide)
  exact ⟨by simpa [isControlOrSpace] using visible, by simp [noTab, noReturn, noBreak]⟩

/-- A word before a colon is the scheme of an address. -/
theorem splitScheme_clean
    {first : Char}
    {word : Text}
    (letter : isLetter first = true)
    (named : (first :: word).all isSchemeChar = true)
    (rest : Text) :
    (splitScheme (clean (first :: word ++ ':' :: rest))).1 = Text.lower (first :: word) := by
  have inScheme : ∀ c ∈ first :: word, isSchemeChar c = true := List.all_eq_true.mp named
  have cleaned : ∃ kept, clean (first :: word ++ ':' :: rest) = first :: word ++ ':' :: kept := by
    have start := (isSchemeChar_clean (inScheme first List.mem_cons_self)).1
    have others : (first :: word).filter (fun c => !(c == '\t' || c == '\r' || c == '\n')) =
        first :: word :=
      List.filter_eq_self.mpr fun c member => (isSchemeChar_clean (inScheme c member)).2
    refine ⟨rest.filter fun c => !(c == '\t' || c == '\r' || c == '\n'), ?_⟩
    rw [clean, List.cons_append, List.dropWhile_cons_of_neg (by simp [start]), ← List.cons_append,
      List.filter_append, others, List.filter_cons_of_pos (by decide)]
  obtain ⟨kept, cleaned⟩ := cleaned
  have colon : isSchemeChar ':' = false := by decide
  rw [cleaned, List.cons_append, splitScheme, if_pos letter, ← List.cons_append,
    List.dropWhile_append_of_pos inScheme, List.takeWhile_append_of_pos inScheme,
    List.dropWhile_cons_of_neg (by simp [colon]), List.takeWhile_cons_of_neg (by simp [colon]),
    List.append_nil]
  rfl

/-- What an absolute address begins with is its scheme. -/
theorem splitScheme_of_absolute
    {text : Text}
    (absolute : text.startsWithAny Stage.absoluteStarts = true) :
    (splitScheme (clean text)).1 ≠ [] := by
  obtain ⟨start, isStart, begins⟩ := List.any_eq_true.mp absolute
  obtain ⟨rest, rfl⟩ := List.isPrefixOf_iff_prefix.mp begins
  simp only [Stage.absoluteStarts, List.mem_cons, List.not_mem_nil, or_false] at isStart
  rcases isStart with rfl | rfl | rfl
  · change (splitScheme (clean ('h' :: ['t', 't', 'p'] ++ ':' :: '/' :: '/' :: rest))).1 ≠ []
    rw [splitScheme_clean (by decide) (by decide)]
    decide +kernel
  · change (splitScheme (clean ('h' :: ['t', 't', 'p', 's'] ++ ':' :: '/' :: '/' :: rest))).1 ≠ []
    rw [splitScheme_clean (by decide) (by decide)]
    decide +kernel
  · change (splitScheme (clean ('d' :: ['a', 't', 'a'] ++ ':' :: rest))).1 ≠ []
    rw [splitScheme_clean (by decide) (by decide)]
    decide +kernel

/-! ## Resolving -/

/-- What is joined to an absolute address is an address that says something. -/
theorem join_ne_nil
    {base text url : Text}
    (given : text ≠ [])
    (absolute : base.startsWithAny Stage.absoluteStarts = true)
    (joined : join base text = .ok url) :
    url ≠ [] := by
  unfold join at joined
  split at joined
  · rw [← Except.ok.inj joined]
    exact given
  rw [if_neg (by simpa using given)] at joined
  obtain ⟨origin, readBase, joined⟩ := exists_ok_of_bind joined
  obtain ⟨target, readText, joined⟩ := exists_ok_of_bind joined
  have ofBase := scheme_ne_nil_of_read (.inl (splitScheme_of_absolute absolute)) readBase
  have ofTarget := scheme_ne_nil_of_read (.inr ofBase) readText
  split at joined
  · rw [← Except.ok.inj joined]
    exact given
  split at joined
  · rw [← Except.ok.inj joined]
    exact write_ne_nil ofTarget
  dsimp only at joined
  split at joined
  · rw [← Except.ok.inj joined]
    exact write_ne_nil ofTarget
  · rw [← Except.ok.inj joined]
    exact write_ne_nil ofTarget

/-- An address is resolved to nothing when it is blank. -/
theorem resolve_blank {text : Text} (blank : text.trim = []) (base : Text) :
    resolve text base = .ok [] := by
  simp [resolve, blank]

/-- At an absolute address, what is not blank is resolved to an address that says something. -/
theorem resolve_ne_nil
    {text base url : Text}
    (given : text.trim ≠ [])
    (absolute : base.startsWithAny Stage.absoluteStarts = true)
    (resolved : resolve text base = .ok url) :
    url ≠ [] := by
  unfold resolve at resolved
  rw [if_neg (by simpa using given)] at resolved
  split at resolved
  · cases base : read [] base with
    | error fault =>
        rw [base] at resolved
        cases resolved
    | ok found =>
        rw [base] at resolved
        rw [← Except.ok.inj resolved]
        simp
  split at resolved
  · rw [← Except.ok.inj resolved]
    exact given
  split at resolved
  · rw [← Except.ok.inj resolved]
    exact given
  · exact join_ne_nil given absolute resolved

end Url

end RuleProbe
