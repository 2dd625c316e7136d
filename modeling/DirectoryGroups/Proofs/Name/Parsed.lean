/-
DirectoryGroups/Proofs/Name/Parsed.lean

What is known of a name that was read from a text.

Reading takes each piece of the text for a pair, checks it, and groups the pairs
into components.  So a name that was read has a component (`components_ne_nil`),
and each of its pairs passed the checks (`pair_checked`).  A value passes just if
each of its tokens may stand in a written value (`checkEscapes_eq_ok_iff`).
-/
import DirectoryGroups.Name.Parser
import DirectoryGroups.Proofs.Results

namespace DirectoryGroups

namespace Name

/-! ### Values -/

/-- Whether a token may stand in a written value. -/
def Token.Written : Token → Prop
  | plain c => c ≠ '\\' ∧ isSpecial c = false
  | escaped c => isEscapable c = true
  | octet high low => Hex.isDigit high = true ∧ Hex.isDigit low = true

instance : DecidablePred Token.Written
  | .plain c => inferInstanceAs (Decidable (c ≠ '\\' ∧ isSpecial c = false))
  | .escaped c => inferInstanceAs (Decidable (isEscapable c = true))
  | .octet high low =>
    inferInstanceAs (Decidable (Hex.isDigit high = true ∧ Hex.isDigit low = true))

/-- No hexadecimal digit is escaped by a backslash alone. -/
theorem isDigit_of_isEscapable {c : Char} (h : isEscapable c = true) : Hex.isDigit c = false := by
  have hcases : c = ' ' ∨ c = '\\' ∨ c = '"' ∨ c = '#' ∨ c = '+' ∨ c = ',' ∨ c = ';' ∨ c = '<'
      ∨ c = '=' ∨ c = '>' ∨ c = '\x00' := by
    simpa [isEscapable, isSpecial, or_assoc] using h
  rcases hcases with rfl | rfl | rfl | rfl | rfl | rfl | rfl | rfl | rfl | rfl | rfl <;> rfl

/-- After a backslash that begins no octet, one escaped character comes. -/
theorem checkEscapes_opened_eq_ok_iff {c : Char} {rest : List Char}
    (h : ∀ d more, rest = d :: more → ¬ (Hex.isDigit c = true ∧ Hex.isDigit d = true)) :
    checkEscapes .opened (c :: rest) = .ok ()
      ↔ isEscapable c = true ∧ checkEscapes .outside rest = .ok () := by
  by_cases hdigit : Hex.isDigit c = true
  · -- One digit alone is no octet, and no digit is escapable.
    have hescapable : isEscapable c ≠ true := by
      intro hc
      rw [isDigit_of_isEscapable hc] at hdigit
      cases hdigit
    rcases rest with - | ⟨d, more⟩
    · simp [checkEscapes, hdigit, hescapable]
    · have hd : ¬ Hex.isDigit d = true := fun hd => h d more rfl ⟨hdigit, hd⟩
      simp [checkEscapes, hdigit, hescapable, hd]
  · by_cases hescapable : isEscapable c = true <;> simp [checkEscapes, hdigit, hescapable]

/-- A value passes its check just if its tokens may stand in it. -/
theorem checkEscapes_eq_ok_iff (s : List Char) :
    checkEscapes .outside s = .ok () ↔ ∀ t ∈ tokens s, t.Written := by
  -- The cases are those of the tokens: the end, a last character or two, and then an
  -- octet, an escaped character or a plain one with at least two characters behind it.
  fun_induction tokens s with
  | case1 => simp [checkEscapes]
  | case2 c =>
    by_cases hslash : c = '\\' <;> by_cases hspecial : isSpecial c = true <;>
      simp [checkEscapes, Token.Written, hslash, hspecial]
  | case3 d =>
    rw [checkEscapes, if_pos rfl, checkEscapes_opened_eq_ok_iff (by simp)]
    simp [Token.Written, checkEscapes]
  | case4 c d hslash =>
    by_cases hc : isSpecial c = true <;> by_cases hd : d = '\\' <;>
      by_cases hspecial : isSpecial d = true <;>
      simp [checkEscapes, Token.Written, hslash, hc, hd, hspecial]
  | case5 d e rest hdigits ih =>
    simp [checkEscapes, Token.Written, hdigits, ih]
  | case6 d e rest hdigits ih =>
    rw [checkEscapes, if_pos rfl, checkEscapes_opened_eq_ok_iff (by simpa using hdigits)]
    simp [Token.Written, ih]
  | case7 c d e rest hslash ih =>
    by_cases hc : isSpecial c = true
    · simp [checkEscapes, Token.Written, hslash, hc]
    · rw [checkEscapes, if_neg hslash, if_neg hc]
      simp [Token.Written, hslash, hc, ih]

/-- A value that passed its checks is made up of tokens that may stand in it. -/
theorem written_of_checkValue {item s : List Char} (h : checkValue item s = .ok ()) :
    ∀ t ∈ tokens s, t.Written := by
  unfold checkValue at h
  split at h
  · cases h
  · split at h
    · cases h
    · exact (checkEscapes_eq_ok_iff _).mp h

/-! ### Attributes -/

theorem mem_of_checkAttribute {s : List Char} (h : checkAttribute s = .ok ()) {c : Char}
    (hc : c ∈ s) : isAttributeChar c = true ∨ c = '<' := by
  unfold checkAttribute at h
  split at h
  · cases h
  · rename_i d rest
    -- One attribute passes as a whole, and it alone has an angle bracket.
    by_cases hguid : d :: rest = guidAttribute
    · have hall : guidAttribute.all (fun c => isAttributeChar c || c == '<') = true := by decide
      rw [hguid] at hc
      simpa using List.all_eq_true.mp hall c hc
    · rw [if_neg hguid] at h
      split at h
      · cases h
      · rename_i hfind
        have hchar := List.find?_eq_none.mp hfind c hc
        exact .inl (by simpa using hchar)

theorem not_mem_of_checkAttribute {s : List Char} (h : checkAttribute s = .ok ()) {c : Char}
    (hc : ¬ (isAttributeChar c = true ∨ c = '<')) : c ∉ s :=
  fun hmem => hc (mem_of_checkAttribute h hmem)

/-! ### Pairs -/

theorem checked_of_readPair {item : List Char} {p : TypedValue} (h : readPair item = .ok p) :
    checkAttribute p.attr.toList = .ok () ∧ checkValue item p.value.toList = .ok () := by
  unfold readPair at h
  split at h
  · cases h
  · obtain ⟨_, hattr, h⟩ := bind_eq_ok h
    obtain ⟨_, hvalue, h⟩ := bind_eq_ok h
    obtain rfl := Except.ok.inj h
    rw [String.toList_ofList, String.toList_ofList]
    exact ⟨hattr, hvalue⟩

/-- The pairs of a text are those of its pieces, and there is at least one. -/
theorem pairs_of_readPairs {s : List Char} {pairs : List JoinedPair}
    (h : readPairs s = .ok pairs) :
    pairs ≠ []
      ∧ List.Forall₂ (fun piece p => readPair piece.text = .ok p.pair ∧ p.joint = piece.joint)
        (pieces s) pairs := by
  unfold readPairs at h
  obtain ⟨read, hread, h⟩ := bind_eq_ok h
  cases read with
  | nil => cases h
  | cons p rest =>
    obtain rfl : p :: rest = pairs := Except.ok.inj h
    refine ⟨List.cons_ne_nil _ _, (mapM_eq_ok hread).imp ?_⟩
    intro piece q hq
    obtain ⟨pair, hpair, hq⟩ := bind_eq_ok hq
    obtain rfl := Except.ok.inj hq
    exact ⟨hpair, rfl⟩

/-- If each piece of a text is read, and there is at least one, so is the text. -/
theorem readPairs_of_pairs {s : List Char} {pairs : List JoinedPair} (hne : pairs ≠ [])
    (h : List.Forall₂ (fun piece p => readPair piece.text = .ok p.pair ∧ p.joint = piece.joint)
      (pieces s) pairs) : readPairs s = .ok pairs := by
  have hread : (pieces s).mapM (fun piece => do
      return (⟨← readPair piece.text, piece.joint⟩ : JoinedPair)) = .ok pairs := by
    refine mapM_of_forall₂ (h.imp ?_)
    rintro piece ⟨pair, joint⟩ ⟨hpair, rfl⟩
    rw [hpair]
    rfl
  have hsome : pairs.isEmpty = false := by simpa using hne
  rw [readPairs, hread]
  simp [bind, Except.bind, hsome, pure, Except.pure]

/-! ### Components -/

theorem group_ne_nil {pairs : List JoinedPair} (h : pairs ≠ []) : group pairs ≠ [] := by
  cases pairs with
  | nil => exact absurd rfl h
  | cons p rest =>
    unfold group
    split <;> exact List.cons_ne_nil _ _

theorem group_cons_of_ne_plus {joint : Joint} (h : joint ≠ .plus) (p : TypedValue)
    (rest : List JoinedPair) : group (⟨p, joint⟩ :: rest) = .single p :: group rest := by
  cases joint with
  | plus => exact absurd rfl h
  | comma => rfl
  | last => rfl

theorem group_cons_plus (p : TypedValue) {rest : List JoinedPair} (h : rest ≠ []) :
    ∃ r more, group rest = r :: more ∧ group (⟨p, .plus⟩ :: rest) = r.cons p :: more := by
  rcases hgroup : group rest with - | ⟨r, more⟩
  · exact absurd hgroup (group_ne_nil h)
  · refine ⟨r, more, rfl, ?_⟩
    simp only [group, hgroup]

/-- Grouping keeps the pairs and their order. -/
theorem flatMap_pairs_group (pairs : List JoinedPair) :
    (group pairs).flatMap RelativeName.pairs = pairs.map JoinedPair.pair := by
  induction pairs with
  | nil => rfl
  | cons p rest ih =>
    unfold group
    split
    · rename_i r more _ hgroup
      rw [hgroup] at ih
      rw [List.map_cons, ← ih]
      rfl
    · rw [List.map_cons, ← ih]
      rfl

end Name

namespace DistinguishedName

open Name

/-- A name that was read is grouped from the pairs of its text. -/
theorem eq_group_of_parse {written : Option String} {dn : DistinguishedName}
    (h : parse written = .ok dn) :
    ∃ pairs, readPairs (written.getD "").toList = .ok pairs ∧ dn.components = group pairs := by
  unfold parse at h
  split at h
  · rename_i pairs hpairs
    obtain rfl := Except.ok.inj h
    exact ⟨pairs, hpairs, rfl⟩
  · cases h

/-- A name that was read has a component. -/
theorem components_ne_nil {written : Option String} {dn : DistinguishedName}
    (h : parse written = .ok dn) : dn.components ≠ [] := by
  obtain ⟨pairs, hpairs, hgroup⟩ := eq_group_of_parse h
  rw [hgroup]
  exact group_ne_nil (pairs_of_readPairs hpairs).1

/-- Each pair of a name that was read comes from a piece of the text. -/
theorem exists_readPair {written : Option String} {dn : DistinguishedName}
    (h : parse written = .ok dn) {r : RelativeName} (hr : r ∈ dn.components) {p : TypedValue}
    (hp : p ∈ r.pairs) : ∃ item, readPair item = .ok p := by
  obtain ⟨pairs, hpairs, hgroup⟩ := eq_group_of_parse h
  have hmem : p ∈ pairs.map JoinedPair.pair := by
    rw [← flatMap_pairs_group, ← hgroup]
    exact List.mem_flatMap.mpr ⟨r, hr, hp⟩
  -- Grouping neither makes nor changes pairs, so this one was read for some piece.
  obtain ⟨q, hq, rfl⟩ := List.mem_map.mp hmem
  obtain ⟨piece, -, hread, -⟩ := exists_counterpart (pairs_of_readPairs hpairs).2 hq
  exact ⟨piece.text, hread⟩

/-- Each pair of a name that was read passed its checks. -/
theorem pair_checked {written : Option String} {dn : DistinguishedName}
    (h : parse written = .ok dn) {r : RelativeName} (hr : r ∈ dn.components) {p : TypedValue}
    (hp : p ∈ r.pairs) :
    checkAttribute p.attr.toList = .ok () ∧ ∃ item, checkValue item p.value.toList = .ok () := by
  obtain ⟨item, hread⟩ := exists_readPair h hr hp
  obtain ⟨hattr, hvalue⟩ := checked_of_readPair hread
  exact ⟨hattr, item, hvalue⟩

end DistinguishedName

end DirectoryGroups
