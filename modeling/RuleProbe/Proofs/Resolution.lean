import RuleProbe.Chain.Evaluate
import RuleProbe.Proofs.Stage.Reading
import RuleProbe.Proofs.Text
import RuleProbe.Proofs.Url

/-!
# Addresses that are resolved again

An accessor resolves the address that it reads off a node at the address of the page, and the
stage that it is read for resolves it there once more.  What has been resolved has a scheme of its
own, unless it says nothing, and so it stays as it is.
-/

namespace RuleProbe

namespace Url

/-! ## Texts without blanks and controls -/

/-- A control character. -/
def isControl (c : Char) : Bool := c.toNat < 32 || (127 ≤ c.toNat && c.toNat < 160)

/-- Every character of a text can be seen: none is a blank or a control character. -/
def IsSolid (text : Text) : Prop := ∀ c ∈ text, Text.isBlank c = false ∧ isControl c = false

instance (text : Text) : Decidable (IsSolid text) :=
  -- Instances for all characters would try each of them.
  List.decidableBAll (fun c => Text.isBlank c = false ∧ isControl c = false) text

namespace IsSolid

variable {one two text : Text}

theorem nil : IsSolid [] := by
  intro c member
  cases member

theorem append (first : IsSolid one) (second : IsSolid two) : IsSolid (one ++ two) := by
  intro c member
  exact (List.mem_append.mp member).elim (first c) (second c)

theorem cons
    {c : Char}
    (blank : Text.isBlank c = false)
    (control : isControl c = false)
    (rest : IsSolid text) :
    IsSolid (c :: text) := by
  intro d member
  rcases List.mem_cons.mp member with rfl | later
  · exact ⟨blank, control⟩
  · exact rest d later

theorem subset (solid : IsSolid text) (within : one ⊆ text) : IsSolid one :=
  fun c member => solid c (within member)

theorem trim (solid : IsSolid text) : Text.trim text = text :=
  Text.trimWhere_of_ends (fun c first => (solid c (List.mem_of_mem_head? first)).1)
    fun c last => (solid c (List.mem_of_getLast? last)).1

theorem marked {mark : Char} (sign : IsSolid [mark]) (solid : IsSolid text) :
    IsSolid (Url.marked mark text) := by
  unfold Url.marked
  split
  · exact nil
  · exact sign.append solid

theorem join
    {mark : Text}
    {parts : List Text}
    (sign : IsSolid mark)
    (each : ∀ part ∈ parts, IsSolid part) :
    IsSolid (Text.join mark parts) := by
  unfold Text.join
  induction parts with
  | nil => exact nil
  | cons first rest hypothesis =>
      obtain ⟨solid, others⟩ := List.forall_mem_cons.mp each
      cases rest with
      | nil =>
          rw [List.intercalate_singleton]
          exact solid
      | cons second rest =>
          rw [List.intercalate_cons_cons]
          exact (solid.append sign).append (hypothesis others)

end IsSolid

/-! ## Parts of addresses -/

/-- Every part of an address can be seen, its scheme aside. -/
structure HasSolidParts (url : Url) : Prop where
  authority : IsSolid url.authority
  path : IsSolid url.path
  params : IsSolid url.params
  query : IsSolid url.query
  fragment : IsSolid url.fragment

theorem cutAt_subset (mark : Char) (text : Text) :
    (cutAt mark text).1 ⊆ text ∧ (cutAt mark text).2 ⊆ text :=
  ⟨(List.takeWhile_prefix _).subset,
    ((List.drop_suffix 1 _).trans (List.dropWhile_suffix _)).subset⟩

theorem splitParams_subset (path : Text) :
    (splitParams path).1 ⊆ path ∧ (splitParams path).2 ⊆ path := by
  have last : (path.reverse.takeWhile (· != '/')).reverse ⊆ path := by
    intro c member
    exact List.mem_reverse.mp ((List.takeWhile_prefix _).subset (List.mem_reverse.mp member))
  obtain ⟨name, params⟩ := cutAt_subset ';' (path.reverse.takeWhile (· != '/')).reverse
  exact ⟨List.append_subset.mpr ⟨List.take_subset _ _, List.Subset.trans name last⟩, List.Subset.trans params last⟩

theorem splitScheme_subset (text : Text) : (splitScheme text).2 ⊆ text := by
  unfold splitScheme
  split
  · split
    · split
      · rename_i found
        refine fun c member => (List.dropWhile_suffix isSchemeChar).subset ?_
        rw [found]
        exact List.mem_cons_of_mem _ member
      · exact List.Subset.refl _
    · exact List.Subset.refl _
  · exact List.Subset.refl _

theorem clean_subset (text : Text) : clean text ⊆ text :=
  fun _ member => (List.dropWhile_suffix _).subset (List.mem_of_mem_filter member)

/-- An address is read into parts of its text. -/
theorem hasSolidParts_of_read
    {scheme text : Text}
    {url : Url}
    (solid : IsSolid text)
    (done : read scheme text = .ok url) :
    HasSolidParts url := by
  have rest : IsSolid (splitScheme (clean text)).2 :=
    solid.subset (List.Subset.trans (splitScheme_subset _) (clean_subset _))
  unfold read at done
  dsimp only at done
  generalize (splitScheme (clean text)).2 = behind at rest done
  generalize (if (splitScheme (clean text)).1.isEmpty = true then scheme else _) = named at done
  generalize cut : (if behind.startsWith ['/', '/'] = true then (_, _) else ([], behind)) = found
    at done
  have inside : found.1 ⊆ behind ∧ found.2 ⊆ behind := by
    rw [← cut]
    split
    · have dropped : behind.drop 2 ⊆ behind := List.drop_subset 2 behind
      exact ⟨List.Subset.trans (List.takeWhile_prefix _).subset dropped,
        List.Subset.trans (List.dropWhile_suffix _).subset dropped⟩
    · exact ⟨List.nil_subset _, List.Subset.refl _⟩
  obtain ⟨beforeFragment, fragment⟩ := cutAt_subset '#' found.2
  obtain ⟨wholePath, query⟩ := cutAt_subset '?' (cutAt '#' found.2).1
  generalize (cutAt '?' (cutAt '#' found.2).1).1 = whole at wholePath done
  generalize split : (if hasParams named = true then _ else (whole, [])) = pathParts at done
  have ofPath : pathParts.1 ⊆ whole ∧ pathParts.2 ⊆ whole := by
    rw [← split]
    split_ifs
    · exact splitParams_subset whole
    · exact ⟨List.Subset.refl _, List.nil_subset _⟩
  have pathSolid := rest.subset
    (List.Subset.trans (List.Subset.trans wholePath beforeFragment) inside.2)
  split_ifs at done
  rw [← Except.ok.inj done]
  exact
    { authority := rest.subset inside.1
      path := pathSolid.subset ofPath.1
      params := pathSolid.subset ofPath.2
      query := rest.subset
        (List.Subset.trans (List.Subset.trans query beforeFragment) inside.2)
      fragment := rest.subset (List.Subset.trans fragment inside.2) }

/-! ## Addresses that are written -/

theorem subset_of_mem_splitWhere
    {isMark : Char → Bool}
    {before text part : Text}
    (member : part ∈ Text.splitWhere isMark before text) :
    part ⊆ before ++ text := by
  induction text generalizing before with
  | nil =>
      rw [Text.splitWhere, List.mem_singleton] at member
      simp [member]
  | cons c rest hypothesis =>
      rw [Text.splitWhere] at member
      split at member
      · rcases List.mem_cons.mp member with rfl | later
        · simp
        · exact fun d inside => List.mem_append_right _
            (List.mem_cons_of_mem _ (hypothesis later inside))
      · refine List.Subset.trans (hypothesis member) fun d inside => ?_
        simpa [or_left_comm, or_assoc] using inside

theorem walk_subset (done parts : List Text) : walk done parts ⊆ done ++ parts := by
  fun_induction walk done parts with
  | case1 done => simp
  | case2 done part rest up hypothesis =>
      exact List.Subset.trans hypothesis (List.append_subset.mpr
        ⟨List.Subset.trans (List.drop_subset _ _) (by simp), by simp⟩)
  | case3 done part rest notUp here hypothesis =>
      exact List.Subset.trans hypothesis (List.append_subset.mpr ⟨by simp, by simp⟩)
  | case4 done part rest notUp notHere hypothesis =>
      exact List.Subset.trans hypothesis (by simp)

theorem dropEmptyParts_subset (parts : List Text) : dropEmptyParts parts ⊆ parts := by
  unfold dropEmptyParts
  split
  · exact List.Subset.refl _
  · exact List.Subset.refl _
  · rename_i first rest single
    obtain ⟨front, last, rfl⟩ := List.eq_nil_or_concat rest |>.resolve_left fun none => by
      subst none
      exact single rfl
    rw [List.concat_eq_append, List.dropLast_concat, List.getLastD_concat]
    intro part member
    simp only [List.cons_append, List.mem_cons, List.mem_append, List.mem_filter,
      List.not_mem_nil, or_false] at member ⊢
    rcases member with same | ⟨kept, -⟩ | same
    · exact .inl same
    · exact .inr (.inl kept)
    · exact .inr (.inr same)

theorem IsSolid.joinPath
    {base path : Text}
    (ofBase : IsSolid base)
    (ofPath : IsSolid path) :
    IsSolid (Url.joinPath base path) := by
  have cut {text : Text} (solid : IsSolid text) :
      ∀ part ∈ Text.splitWhere (· == '/') [] text, IsSolid part :=
    fun part member => solid.subset (subset_of_mem_splitWhere member)
  unfold Url.joinPath
  dsimp only
  generalize listed : (if path.startsWith ['/'] = true then _ else _) = parts
  have each : ∀ part ∈ parts, IsSolid part := by
    rw [← listed]
    split
    · exact cut ofPath
    · intro part member
      rcases List.mem_append.mp (dropEmptyParts_subset _ member) with before | behind
      · split at before
        · exact cut ofBase part before
        · exact cut ofBase part (List.dropLast_subset _ before)
      · exact cut ofPath part behind
  have walked : ∀ part ∈ walk [] parts, IsSolid part :=
    fun part member => each part (walk_subset [] parts member)
  generalize ended : (if (_ || _) = true then walk [] parts ++ [[]] else walk [] parts) = found
  have foundSolid : ∀ part ∈ found, IsSolid part := by
    rw [← ended]
    split
    · rw [List.forall_mem_append, List.forall_mem_singleton]
      exact ⟨walked, .nil⟩
    · exact walked
  have slash : IsSolid ['/'] := by decide
  split
  · exact slash
  · exact .join slash foundSolid

theorem HasSolidParts.write
    {url : Url}
    (parts : HasSolidParts url)
    (scheme : IsSolid url.scheme) :
    IsSolid url.write := by
  have path : IsSolid (url.path ++ marked ';' url.params) :=
    parts.path.append (.marked (by decide) parts.params)
  unfold Url.write
  dsimp only
  refine (IsSolid.append (.append ?_ ?_) (.marked (by decide) parts.query)).append
    (.marked (by decide) parts.fragment)
  · split
    · exact .nil
    · exact scheme.append (by decide)
  · split
    · refine (IsSolid.append (by decide) parts.authority).append ?_
      split
      · exact path
      · exact .cons (by decide) (by decide) path
    · exact path

/-! ## Schemes of addresses with a host -/

/-- Addresses under this scheme have a host. -/
def IsHostScheme (scheme : Text) : Prop := scheme = "http".toList ∨ scheme = "https".toList

theorem IsHostScheme.solid {scheme : Text} (known : IsHostScheme scheme) : IsSolid scheme := by
  rcases known with rfl | rfl <;> decide

theorem IsHostScheme.isEmpty {scheme : Text} (known : IsHostScheme scheme) :
    scheme.isEmpty = false := by
  rcases known with rfl | rfl <;> rfl

theorem IsHostScheme.begins {scheme : Text} (known : IsHostScheme scheme) (rest : Text) :
    beginsWithScheme (scheme ++ ':' :: rest) = true := by
  rcases known with rfl | rfl <;> rfl

/-- An address with a scheme is written with the scheme first. -/
theorem beginsWithScheme_write {url : Url} (known : IsHostScheme url.scheme) :
    beginsWithScheme url.write = true := by
  have written : ∃ rest, url.write = url.scheme ++ ':' :: rest := by
    simp [write, known.isEmpty]
  obtain ⟨rest, written⟩ := written
  rw [written]
  exact known.begins rest

/-! ## Resolving -/

/-- An address with a scheme of its own is resolved to itself. -/
theorem resolve_of_beginsWithScheme
    {text : Text}
    (solid : IsSolid text)
    (named : beginsWithScheme text = true)
    (base : Text) :
    resolve text base = .ok text := by
  cases text with
  | nil => cases named
  | cons c rest =>
      have letter : isLetter c = true := by
        rw [beginsWithScheme, Bool.and_eq_true] at named
        exact named.1
      have noSlash : Text.startsWith (c :: rest) ['/', '/'] = false := by
        rw [Text.startsWith, List.isPrefixOf_cons_cons, Bool.and_eq_false_iff]
        left
        rw [beq_eq_false_iff_ne]
        rintro rfl
        revert letter
        decide
      rw [resolve, solid.trim]
      simp [noSlash, named]

/-- Where addresses begin that have a host. -/
def hostStarts : List Text := ["http://".toList, "https://".toList]

/-- The scheme of an address with a host. -/
theorem scheme_of_hostStarts
    {base : Text}
    {url : Url}
    (hosted : base.startsWithAny hostStarts = true)
    (done : read [] base = .ok url) :
    IsHostScheme url.scheme := by
  obtain ⟨start, isStart, begins⟩ := List.any_eq_true.mp hosted
  obtain ⟨rest, rfl⟩ := List.isPrefixOf_iff_prefix.mp begins
  rw [hostStarts, List.mem_cons, List.mem_singleton] at isStart
  rw [scheme_of_read done]
  rcases isStart with rfl | rfl
  · have found : (splitScheme (clean ("http://".toList ++ rest))).1 = "http".toList :=
      (@splitScheme_clean 'h' ['t', 't', 'p'] (by decide) (by decide) ('/' :: '/' :: rest)).trans
        (by decide +kernel)
    rw [found]
    exact .inl rfl
  · have found : (splitScheme (clean ("https://".toList ++ rest))).1 = "https".toList :=
      (@splitScheme_clean 'h' ['t', 't', 'p', 's'] (by decide) (by decide)
        ('/' :: '/' :: rest)).trans (by decide +kernel)
    rw [found]
    exact .inr rfl

/-- What is joined to an address with a host has a scheme, unless it is given back. -/
theorem join_cases
    {base text url : Text}
    (hosted : base.startsWithAny hostStarts = true)
    (solidBase : IsSolid base)
    (solid : IsSolid text)
    (given : text ≠ [])
    (joined : join base text = .ok url) :
    url = text ∨ IsSolid url ∧ beginsWithScheme url = true := by
  unfold join at joined
  split at joined
  · exact .inl (Except.ok.inj joined).symm
  rw [if_neg (by simpa using given)] at joined
  obtain ⟨origin, readBase, joined⟩ := exists_ok_of_bind joined
  obtain ⟨target, readText, joined⟩ := exists_ok_of_bind joined
  have ofBase := hasSolidParts_of_read solidBase readBase
  have ofText := hasSolidParts_of_read solid readText
  split at joined
  · exact .inl (Except.ok.inj joined).symm
  rename_i joins
  have known : IsHostScheme target.scheme := by
    rw [Bool.or_eq_true, not_or, bne_iff_ne, not_not] at joins
    rw [joins.1]
    exact scheme_of_hostStarts hosted readBase
  right
  split at joined
  · rw [← Except.ok.inj joined]
    exact ⟨ofText.write known.solid, beginsWithScheme_write known⟩
  have authority : IsSolid
      (if hasAuthority target.scheme = true then origin.authority else target.authority) := by
    split
    · exact ofBase.authority
    · exact ofText.authority
  have query : IsSolid (if target.query.isEmpty = true then origin.query else target.query) := by
    split
    · exact ofBase.query
    · exact ofText.query
  dsimp only at joined
  split at joined
  · rw [← Except.ok.inj joined]
    have parts : HasSolidParts { target with
        authority := if hasAuthority target.scheme = true then origin.authority
          else target.authority
        path := origin.path
        params := origin.params
        query := if target.query.isEmpty = true then origin.query else target.query } :=
      { authority, query, path := ofBase.path, params := ofBase.params
        fragment := ofText.fragment }
    exact ⟨parts.write known.solid, beginsWithScheme_write known⟩
  · rw [← Except.ok.inj joined]
    have parts : HasSolidParts { target with
        authority := if hasAuthority target.scheme = true then origin.authority
          else target.authority
        path := joinPath origin.path target.path } :=
      { ofText with authority, path := ofBase.path.joinPath ofText.path }
    exact ⟨parts.write known.solid, beginsWithScheme_write known⟩

/-- What is resolved at an address with a host is resolved to itself there. -/
theorem resolve_settles
    {base text url : Text}
    (hosted : base.startsWithAny hostStarts = true)
    (solidBase : IsSolid base)
    (solid : IsSolid text)
    (resolved : resolve text base = .ok url) :
    resolve url base = .ok url := by
  have settled {found : Text} (cases_ : found = text ∨ IsSolid found ∧ beginsWithScheme found = true)
      (same : found = url) : resolve url base = .ok url := by
    subst same
    rcases cases_ with rfl | ⟨solid, named⟩
    · exact resolved
    · exact resolve_of_beginsWithScheme solid named base
  have parts := resolved
  unfold resolve at parts
  dsimp only at parts
  rw [solid.trim] at parts
  split at parts
  · rw [← Except.ok.inj parts]
    rfl
  rename_i given
  split at parts
  · obtain ⟨origin, readBase, same⟩ := exists_ok_of_map parts
    have known := scheme_of_hostStarts hosted readBase
    rw [if_neg (by simp [known.isEmpty])] at same
    have colon : IsSolid (':' :: text) := .cons (by decide) (by decide) solid
    exact settled (.inr ⟨known.solid.append colon, known.begins text⟩) same
  split at parts
  · exact settled (.inl rfl) (Except.ok.inj parts)
  split at parts
  · exact settled (.inl rfl) (Except.ok.inj parts)
  · exact settled (join_cases hosted solidBase solid (by simpa using given) parts) rfl

end Url

namespace Chain

open Url (IsSolid hostStarts)

/-- An accessor of addresses resolves the attribute of its name. -/
theorem readAccessor_of_isAddressName
    {accessor : Text}
    (ofAddress : isAddressName accessor.lower = true)
    (tree : Markup.Tree)
    (node : Nat)
    (base : Text) :
    readAccessor tree node accessor base =
      match (tree.attribute? node accessor.lower).or (tree.attribute? node accessor) with
      | none => .ok []
      | some value => Url.resolve value.trim base := by
  unfold readAccessor
  have named := ofAddress
  rw [isAddressName, Bool.or_eq_true, beq_iff_eq, beq_iff_eq] at named
  simp only [ofAddress, if_true]
  rcases named with same | same
  · simp only [same]
    rfl
  · simp only [same]
    rfl

/-- What an accessor of addresses reads off a node is resolved to itself. -/
theorem resolve_readAccessor
    {base : Text}
    (hosted : base.startsWithAny hostStarts = true)
    (solidBase : IsSolid base)
    {tree : Markup.Tree}
    {node : Nat}
    {accessor url : Text}
    (ofAddress : isAddressName accessor.lower = true)
    (solid : ∀ value ∈ (tree.attribute? node accessor.lower).or (tree.attribute? node accessor),
      IsSolid value.trim)
    (found : readAccessor tree node accessor base = .ok url) :
    Url.resolve url base = .ok url := by
  rw [readAccessor_of_isAddressName ofAddress] at found
  split at found
  · rw [← Except.ok.inj found]
    rfl
  · rename_i value given
    exact Url.resolve_settles hosted solidBase (solid value given) found

end Chain

namespace Stage

open Url (IsSolid hostStarts)

/-- Resolving again at an address with a host changes nothing: neither what resolving has given,
nor what an accessor of addresses has read off a node, when a stage resolves it once more. -/
theorem resolve_again
    {base : Text}
    (hosted : base.startsWithAny hostStarts = true)
    (solidBase : IsSolid base)
    (site : Site)
    (walk : Walk) :
    (∀ text url, IsSolid text → Url.resolve text base = .ok url →
        Url.resolve url base = .ok url) ∧
      ∀ tree node accessor url, Chain.isAddressName accessor.lower = true →
        (∀ value ∈ (tree.attribute? node accessor.lower).or (tree.attribute? node accessor),
          IsSolid value.trim) →
        Chain.readAccessor tree node accessor base = .ok url →
          runFrom (resolve site url base) walk = (.ok url, walk) := by
  constructor
  · intro text url solid resolved
    exact Url.resolve_settles hosted solidBase solid resolved
  · intro tree node accessor url ofAddress solid found
    have given : base.isEmpty = false := by
      rw [List.isEmpty_eq_false_iff]
      rintro rfl
      cases hosted
    rw [resolve_eq_lift, runFrom_lift, resolved, given, if_neg Bool.false_ne_true]
    exact congrArg (·, walk) (Chain.resolve_readAccessor hosted solidBase ofAddress solid found)

/-- A page with a link that leads upward. -/
def upwardPage : Text := "<a href=\"../e?f#\">b</a>".toList

/-- The tree of the page. -/
def upwardTree : Markup.Tree where
  nodes := #[⟨0, 3, .root⟩, ⟨0, 3, .element ['a'] [("href".toList, "../e?f#".toList)]⟩,
    ⟨1, 3, .text .plain ['b']⟩]

/-- A source that says nothing, in a world that does not answer. -/
def silentSite : Site where
  kind := .book
  definition := []
  settings := {}
  network := fun _ => .failure "ConnectionError" "unreachable"
  browser := fun _ => none

/-- The address of the page. -/
def upwardBase : Text := "https://a.b/c/d/".toList

/-- The address that the link leads to. -/
def upwardUrl : Text := "https://a.b/c/e?f".toList

/-- The link is resolved at the address of its page once or twice, with the same result. -/
theorem resolve_again_upward :
    upwardBase.startsWithAny hostStarts = true ∧ IsSolid upwardBase ∧ IsSolid "../e?f#" ∧
      Url.resolve "../e?f#" upwardBase = .ok upwardUrl ∧
      Url.resolve upwardUrl upwardBase = .ok upwardUrl ∧
      Markup.read upwardPage = .ok upwardTree ∧
      Chain.readAccessor upwardTree 1 "HREF" upwardBase = .ok upwardUrl ∧
      runFrom (resolve silentSite upwardUrl upwardBase) {} = (.ok upwardUrl, {}) := by
  have hosted : upwardBase.startsWithAny hostStarts = true := by decide
  have solidBase : IsSolid upwardBase := by decide
  have solid : IsSolid "../e?f#" := by decide
  have once : Url.resolve "../e?f#" upwardBase = .ok upwardUrl := by decide +kernel
  have page : Markup.read upwardPage = .ok upwardTree := by decide +kernel
  have found : Chain.readAccessor upwardTree 1 "HREF" upwardBase = .ok upwardUrl := by
    decide +kernel
  obtain ⟨again, accessed⟩ := resolve_again hosted solidBase silentSite {}
  have ofAddress : Chain.isAddressName (Text.lower "HREF") = true := by decide +kernel
  have attributes : (upwardTree.attribute? 1 (Text.lower "HREF")).or
      (upwardTree.attribute? 1 "HREF") = some "../e?f#".toList := by
    decide +kernel
  refine ⟨hosted, solidBase, solid, once, again _ _ solid once, page, found,
    accessed upwardTree 1 "HREF" _ ofAddress ?_ found⟩
  intro value isValue
  rw [attributes] at isValue
  rw [← Option.some.inj isValue]
  decide

end Stage

end RuleProbe
