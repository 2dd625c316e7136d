/-
DirectoryGroups/Proofs/Filter/Confinement.lean

A name cannot get out of the place that it has in a filter.

The written form of a name goes into the filter that finds a user's groups with
some of its characters replaced.  What comes of that is confined: it has no
parentheses and no null character, and a backslash in it begins one of five
replacements.  So whatever a name holds, the parentheses of the filter are those
that the configuration puts there.

Main results: an escaped name is confined (`confined_filterText`), and hence the
filter is enclosed if the configuration's part of it is balanced
(`membershipFilter_confines`).
-/
import DirectoryGroups.Filter.Membership
import DirectoryGroups.Proofs.Filter.Nesting

namespace DirectoryGroups.Filter

/-! ### Confined texts -/

/-- What may follow a backslash in an escaped name: the codes of a backslash, of
both parentheses, of the null character and of a star. -/
def escapeCodes : List (List Char) :=
  [['5', 'c'], ['2', '8'], ['2', '9'], ['0', '0'], ['2', 'a']]

/-- Whether a text has no character that could end an assertion, and a backslash
only before a code. -/
structure Confined (s : List Char) : Prop where
  no_open : '(' ∉ s
  no_close : ')' ∉ s
  no_null : '\x00' ∉ s
  code_of_backslash : ∀ before after, s = before ++ '\\' :: after →
    ∃ code ∈ escapeCodes, code <+: after

namespace Confined

theorem parens_eq_nil {s : List Char} (h : Confined s) : parens s = [] :=
  parens_eq_nil_iff.mpr ⟨h.no_open, h.no_close⟩

theorem nil : Confined [] where
  no_open := List.not_mem_nil
  no_close := List.not_mem_nil
  no_null := List.not_mem_nil
  code_of_backslash := by
    intro before after hsplit
    exact absurd hsplit.symm (List.append_ne_nil_of_right_ne_nil _ (List.cons_ne_nil _ _))

theorem plain {c : Char} (h : c ∉ ['\\', '(', ')', '\x00']) : Confined [c] := by
  simp only [List.mem_cons, List.not_mem_nil, or_false, not_or] at h
  obtain ⟨hslash, hopen, hclose, hnull⟩ := h
  refine ⟨?_, ?_, ?_, ?_⟩
  · exact fun hmem => hopen (List.mem_singleton.mp hmem).symm
  · exact fun hmem => hclose (List.mem_singleton.mp hmem).symm
  · exact fun hmem => hnull (List.mem_singleton.mp hmem).symm
  · intro before after hsplit
    have hmem : '\\' ∈ [c] := by
      rw [hsplit]
      exact List.mem_append_right _ List.mem_cons_self
    exact absurd (List.mem_singleton.mp hmem).symm hslash

theorem escaped {code : List Char} (h : code ∈ escapeCodes) : Confined ('\\' :: code) := by
  have hcodes : ∀ code ∈ escapeCodes, '(' ∉ '\\' :: code ∧ ')' ∉ '\\' :: code
      ∧ '\x00' ∉ '\\' :: code ∧ '\\' ∉ code := by decide
  obtain ⟨hopen, hclose, hnull, hslash⟩ := hcodes code h
  refine ⟨hopen, hclose, hnull, ?_⟩
  intro before after hsplit
  rcases before with - | ⟨c, before⟩
  · obtain rfl := List.tail_eq_of_cons_eq hsplit
    exact ⟨code, h, List.prefix_rfl⟩
  · -- A code has no backslash of its own.
    have hcode : code = before ++ '\\' :: after := List.tail_eq_of_cons_eq hsplit
    apply absurd _ hslash
    rw [hcode]
    exact List.mem_append_right _ List.mem_cons_self

theorem append {s t : List Char} (hs : Confined s) (ht : Confined t) : Confined (s ++ t) where
  no_open := fun h => (List.mem_append.mp h).elim hs.no_open ht.no_open
  no_close := fun h => (List.mem_append.mp h).elim hs.no_close ht.no_close
  no_null := fun h => (List.mem_append.mp h).elim hs.no_null ht.no_null
  code_of_backslash := by
    intro before after hsplit
    rcases List.append_eq_append_iff.mp hsplit with ⟨more, -, htail⟩ | ⟨more, hhead, htail⟩
    · exact ht.code_of_backslash more after htail
    · rcases more with - | ⟨c, more⟩
      · exact ht.code_of_backslash [] after htail.symm
      · -- The backslash stands in `s`, and so does the code after it.
        obtain ⟨rfl, rfl⟩ := List.cons.inj htail
        obtain ⟨code, hcode, hbegins⟩ := hs.code_of_backslash before more hhead
        exact ⟨code, hcode, hbegins.trans (List.prefix_append ..)⟩

theorem intercalate {sep : List Char} (hsep : Confined sep) {parts : List (List Char)}
    (h : ∀ part ∈ parts, Confined part) : Confined (sep.intercalate parts) := by
  induction parts with
  | nil => exact nil
  | cons part parts ih =>
    have hpart : Confined part := h part List.mem_cons_self
    have hparts : ∀ part ∈ parts, Confined part :=
      fun part hmem => h part (List.mem_cons_of_mem _ hmem)
    rcases parts with - | ⟨next, parts⟩
    · rw [List.intercalate_singleton]
      exact hpart
    · rw [List.intercalate_cons_cons]
      exact (hpart.append hsep).append (ih hparts)

end Confined

/-! ### Escaped texts -/

theorem confined_escapeChar (c : Char) : Confined (escapeChar c) := by
  -- Four characters have their codes, and any other is none of those to be replaced.
  unfold escapeChar
  split
  · exact .escaped (by decide)
  · split
    · exact .escaped (by decide)
    · split
      · exact .escaped (by decide)
      · split
        · exact .escaped (by decide)
        · apply Confined.plain
          simp_all

/-- Whatever a text holds, it is confined when it is escaped. -/
theorem confined_escapeChars (s : List Char) : Confined (escapeChars s) := by
  -- The cases are those of the scan: the end, the last character, a star that is
  -- escaped already, and any other character.
  fun_induction escapeChars s with
  | case1 => exact .nil
  | case2 c => exact confined_escapeChar c
  | case3 c d rest _ ih =>
    have hstar : Confined ('\\' :: ['2', 'a']) := .escaped (by decide)
    exact hstar.append ih
  | case4 c d rest _ ih => exact (confined_escapeChar c).append ih

theorem confined_filterText (dn : DistinguishedName) : Confined dn.filterText.toList := by
  rw [DistinguishedName.filterText, String.toList_ofList]
  apply Confined.intercalate
  · exact .plain (by decide)
  · intro part hpart
    obtain ⟨r, -, rfl⟩ := List.mem_map.mp hpart
    exact confined_escapeChars r.text

end DirectoryGroups.Filter

namespace DirectoryGroups.Config

open DirectoryGroups.Filter

/-! ### The filter for a user's groups -/

variable {config : Config} {attr : String}

/-- What a configuration puts before the name in the filter for a user's groups. -/
def membershipLead (config : Config) (attr : String) : String :=
  "(&" ++ config.groupFilter ++ "(" ++ attr ++ "="

/-- Groups that list names are found by the escaped name. -/
theorem membershipFilter_of_names (hattr : config.membershipAttribute = some attr)
    (hne : attr ≠ "") (huid : attr ≠ memberUid) (dn : DistinguishedName) :
    config.membershipFilter dn = .ok (config.membershipLead attr ++ dn.filterText ++ "))") := by
  have hrequired : config.requiredMembership = .ok attr := by
    simp [requiredMembership, hattr, hne]
  have hvalue : config.memberValue dn = .ok dn.filterText := by
    simp [memberValue, listsIdentifiers, hattr, huid]
  rw [membershipFilter, hrequired, hvalue]
  rfl

/-- **A name is confined to its place in the filter.**

Let groups list their members by name.  Then the filter for a user's groups is the
configuration's part of it, the escaped name, which is confined, and two closing
parentheses.  So the filters of any two names have the same parentheses; and if
the configuration's own filter is balanced and its attribute has no parentheses,
the filter is enclosed. -/
theorem membershipFilter_confines (hattr : config.membershipAttribute = some attr)
    (hne : attr ≠ "") (huid : attr ≠ memberUid) :
    (∀ dn, Confined dn.filterText.toList ∧
        config.membershipFilter dn = .ok (config.membershipLead attr ++ dn.filterText ++ "))"))
      ∧ (∀ dn dn' f f', config.membershipFilter dn = .ok f → config.membershipFilter dn' = .ok f' →
        parens f.toList = parens f'.toList)
      ∧ (Balanced config.groupFilter.toList → parens attr.toList = [] →
        ∀ dn f, config.membershipFilter dn = .ok f → Enclosed f.toList) := by
  have hfilter := membershipFilter_of_names hattr hne huid
  have heq : ∀ dn f, config.membershipFilter dn = .ok f →
      f = config.membershipLead attr ++ dn.filterText ++ "))" := by
    intro dn f hf
    exact Except.ok.inj (hf.symm.trans (hfilter dn))
  refine ⟨fun dn => ⟨confined_filterText dn, hfilter dn⟩, ?_, ?_⟩
  · intro dn dn' f f' hf hf'
    rw [heq dn f hf, heq dn' f' hf']
    simp only [String.toList_append, parens_append, (confined_filterText _).parens_eq_nil]
  · intro hbalanced hplain dn f hf
    rw [heq dn f hf]
    -- From the inside out: the assertion, the conjunction, and its parentheses.
    have hassertion : Balanced (attr.toList ++ '=' :: dn.filterText.toList) := by
      apply balanced_of_parens
      rw [parens_append, hplain]
      exact (confined_filterText dn).parens_eq_nil
    have hconjunction : Balanced ('&' :: config.groupFilter.toList
        ++ ('(' :: (attr.toList ++ '=' :: dn.filterText.toList) ++ [')'])) := by
      have hand : Balanced ['&'] := by decide
      exact (hand.append hbalanced).append hassertion.enclose.balanced
    have hwhole := hconjunction.enclose
    simpa [membershipLead] using hwhole

/-- A name that would close its assertion and add another one stays where it is. -/
theorem membershipFilter_confines_hostile :
    let config : Config :=
      { groupBases := [], groupFilter := "(objectClass=groupOfNames)", groupNameAttribute := "cn",
        membershipAttribute := some "member", userBases := [], userFilter := "(uid=?)" }
    let hostile : DistinguishedName :=
      ⟨[.single ⟨"cn", "*)(uid=*\\\\*\\"⟩, .single ⟨")", "("⟩]⟩
    config.membershipAttribute = some "member" ∧ "member" ≠ "" ∧ "member" ≠ memberUid
      ∧ Balanced config.groupFilter.toList ∧ parens "member".toList = []
      ∧ ∃ f, config.membershipFilter hostile = .ok f ∧ Enclosed f.toList := by
  intro config hostile
  have hbalanced : Balanced config.groupFilter.toList := by decide +kernel
  have hplain : parens "member".toList = [] := by decide +kernel
  have hmember : "member" ≠ "" ∧ "member" ≠ memberUid := by decide
  obtain ⟨hfilter, -, henclosed⟩ :=
    @membershipFilter_confines config "member" rfl hmember.1 hmember.2
  obtain ⟨-, hhostile⟩ := hfilter hostile
  exact ⟨rfl, hmember.1, hmember.2, hbalanced, hplain, _, hhostile,
    henclosed hbalanced hplain hostile _ hhostile⟩

end DirectoryGroups.Config
