/-
DirectoryGroups/Proofs/Filter/Distinction.lean

Different names have different filters.

Nothing is lost when the written form of a name is escaped for a filter.  Each code stands for
one character, and the code of the star for a backslash and a star, since a bare star is never
replaced by it.  So there is a way back from an escaped text (`restore_escapeChars`).  Along it
a name that was read is read again from its value in the filter (`parse_restore_filterText`).

Main results: what a filter is read as when a text was escaped for it, and that no two texts are
escaped in the same way (`readSigns_escape`); names that were read have different filters
(`membershipFilter_distinguishes`).
-/
import DirectoryGroups.Proofs.Filter.Confinement
import DirectoryGroups.Proofs.Filter.WrittenName
import DirectoryGroups.Proofs.Name.RoundTrip

namespace DirectoryGroups.Filter

/-! ### The way back -/

/-- The text that an escaped text came from. -/
def restore : List Char → List Char
  | [] => []
  | '\\' :: '2' :: 'a' :: rest => '\\' :: '*' :: restore rest
  | '\\' :: high :: low :: rest => .ofNat (Hex.octet high low).toNat :: restore rest
  | c :: rest => c :: restore rest

theorem restore_cons {c : Char} (h : c ≠ '\\') (rest : List Char) :
    restore (c :: rest) = c :: restore rest := by
  rw [restore]
  · intro rest' hc
    exact absurd hc h
  · intro high low rest' hc
    exact absurd hc h

theorem restore_escapeChar (c : Char) (rest : List Char) :
    restore (escapeChar c ++ rest) = c :: restore rest := by
  unfold escapeChar
  split_ifs with hslash hopen hclose hnull
  · subst hslash
    rfl
  · subst hopen
    rfl
  · subst hclose
    rfl
  · subst hnull
    rfl
  · exact restore_cons hslash rest

/-- **Escaping is undone.** -/
theorem restore_escapeChars (s : List Char) : restore (escapeChars s) = s := by
  fun_induction escapeChars s with
  | case1 => rfl
  | case2 c =>
    have hlast := restore_escapeChar c []
    rwa [List.append_nil] at hlast
  | case3 c d rest hguard ih =>
    -- The code of the star stands for the backslash as well.
    obtain ⟨rfl, rfl⟩ := hguard
    rw [restore, ih]
  | case4 c d rest _ ih => rw [restore_escapeChar, ih]

/-- Different texts are escaped differently. -/
theorem escapeChars_injective : Function.Injective escapeChars :=
  Function.LeftInverse.injective restore_escapeChars

/-- **Escaping keeps what a text says.**

Read a text sign by sign: a star behind a backslash is the star itself, every other star is the
wildcard, and every other character is itself.  When the text is escaped, a filter is read as just
these signs, where a code is its character, a bare star the wildcard and any other character
itself.  And no two texts are escaped in the same way. -/
theorem readSigns_escape :
    (∀ s : String, readSigns (escape s).toList = some (nameSigns s.toList))
      ∧ Function.Injective escape := by
  refine ⟨?_, ?_⟩
  · intro s
    rw [escape, String.toList_ofList, readSigns_escapeChars]
  · intro s t h
    have hchars : escapeChars s.toList = escapeChars t.toList := String.ofList_injective h
    exact String.toList_inj.mp (escapeChars_injective hchars)

/-- Of two backslashes before a star the second one guards it; a code that was written out is
no code. -/
example : readSigns (escape "\\\\*\\2a").toList
    = some [.literal '\\', .literal '*', .literal '\\', .literal '2', .literal 'a'] := by
  decide +kernel

end DirectoryGroups.Filter

namespace DirectoryGroups.DistinguishedName

/-! ### Names in filters -/

/-- A name that was read is read again from its value in the filter. -/
theorem parse_restore_filterText {written : Option String} {dn : DistinguishedName}
    (h : parse written = .ok dn) :
    parse (some (.ofList (Filter.restore dn.filterText.toList))) = .ok dn := by
  have htext : String.ofList (Filter.restore dn.filterText.toList) = toString dn := by
    rw [toList_filterText, Filter.restore_escapeChars]
    rfl
  rw [htext]
  exact (proper_of_parse h).parse_toString

/-- So names that were read have different values there. -/
theorem eq_of_filterText_eq {written written' : Option String} {dn dn' : DistinguishedName}
    (h : parse written = .ok dn) (h' : parse written' = .ok dn')
    (hvalue : dn.filterText = dn'.filterText) : dn = dn' := by
  have hread := parse_restore_filterText h
  rw [hvalue, parse_restore_filterText h'] at hread
  exact (Except.ok.inj hread).symm

end DirectoryGroups.DistinguishedName

namespace DirectoryGroups.Config

open DistinguishedName

variable {config : Config} {attr : String}

/-- **Different names have different filters.**

Let groups list their members by name.  Then there is a filter for the groups of every name that
was read, and two such names have the same filter just if they are the same name, with the same
pairs in the same components. -/
theorem membershipFilter_distinguishes (hattr : config.membershipAttribute = some attr)
    (hne : attr ≠ "") (huid : attr ≠ memberUid) {written written' : Option String}
    {dn dn' : DistinguishedName} (h : parse written = .ok dn) (h' : parse written' = .ok dn') :
    (∃ f, config.membershipFilter dn = .ok f) ∧ (∃ f, config.membershipFilter dn' = .ok f)
      ∧ (config.membershipFilter dn = config.membershipFilter dn' ↔ dn = dn') := by
  have hfilter := membershipFilter_of_names hattr hne huid
  refine ⟨⟨_, hfilter dn⟩, ⟨_, hfilter dn'⟩, ?_, congrArg config.membershipFilter⟩
  intro heq
  rw [hfilter, hfilter] at heq
  -- Both filters begin with what the configuration puts there, and end with two parentheses.
  have htexts := congrArg String.toList (Except.ok.inj heq)
  simp only [String.toList_append, List.append_assoc] at htexts
  have hvalue : dn.filterText.toList = dn'.filterText.toList :=
    List.append_cancel_right (List.append_cancel_left htexts)
  exact eq_of_filterText_eq h h' (String.toList_inj.mp hvalue)

/-- An escaped backslash before a star, and an octet in place of the backslash: both values are
resolved to the same text, but they are written differently, and so the filters differ. -/
theorem membershipFilter_distinguishes_stars :
    let config : Config :=
      { groupBases := [], groupFilter := "(objectClass=groupOfNames)", groupNameAttribute := "cn",
        membershipAttribute := some "member", userBases := [], userFilter := "(uid=?)" }
    let dn : DistinguishedName := ⟨[.single ⟨"cn", "a\\\\*b"⟩, .single ⟨"o", "x"⟩]⟩
    let dn' : DistinguishedName := ⟨[.single ⟨"cn", "a\\5c*b"⟩, .single ⟨"o", "x"⟩]⟩
    config.membershipAttribute = some "member" ∧ "member" ≠ "" ∧ "member" ≠ memberUid
      ∧ parse (some "cn=a\\\\*b,o=x") = .ok dn ∧ parse (some "cn=a\\5c*b, o=x") = .ok dn'
      ∧ config.membershipFilter dn ≠ config.membershipFilter dn' := by
  intro config dn dn'
  have hmember : "member" ≠ "" ∧ "member" ≠ memberUid := by decide
  have hparse : parse (some "cn=a\\\\*b,o=x") = .ok dn := by decide +kernel
  have hparse' : parse (some "cn=a\\5c*b, o=x") = .ok dn' := by decide +kernel
  obtain ⟨-, -, hdistinct⟩ :=
    @membershipFilter_distinguishes config "member" rfl hmember.1 hmember.2 _ _ _ _ hparse hparse'
  have hne : dn ≠ dn' := by decide
  exact ⟨rfl, hmember.1, hmember.2, hparse, hparse', fun heq => hne (hdistinct.mp heq)⟩

end DirectoryGroups.Config
