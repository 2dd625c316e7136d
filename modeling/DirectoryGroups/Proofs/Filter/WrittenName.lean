/-
DirectoryGroups/Proofs/Filter/WrittenName.lean

What the value in a membership filter stands for.

The value is the written form of a name, escaped for the filter, where a backslash
that stands directly before a star counts as a guard of the star and is dropped.
In a name that was read, a backslash is never such a guard: what stands there is
an escaped backslash and then a star of its own.  So the value stands for the
written form of the name unless one of its values has these two tokens in a row.

Main results: for a name that was read, when its value in the filter stands for its
written form, and for what it stands otherwise (`decode_filterText_of_parse`); there
is a name for which it does not (`decode_filterText_ne_text`).
-/
import DirectoryGroups.Proofs.Filter.Joining
import DirectoryGroups.Proofs.Filter.Reading
import DirectoryGroups.Proofs.Name.Parsed

namespace DirectoryGroups

/-! ### Texts within joined texts -/

/-- What does not hold a separator is found on one side of it. -/
theorem infix_append_cons_iff {α : Type} {c : α} {p : List α} (hc : c ∉ p) (s t : List α) :
    p <:+: s ++ c :: t ↔ p <:+: s ∨ p <:+: t := by
  constructor
  · rintro ⟨front, back, hsplit⟩
    rcases List.append_eq_append_iff.mp hsplit with ⟨more, rfl, -⟩ | ⟨more, hhead, htail⟩
    · exact .inl ⟨front, more, rfl⟩
    · rcases more with - | ⟨d, more⟩
      · rw [List.append_nil] at hhead
        exact .inl ⟨front, [], by rw [List.append_nil, hhead]⟩
      · -- The separator stands before the end of `p`, and so before all of it.
        obtain ⟨rfl, rfl⟩ := List.cons.inj htail
        rcases List.append_eq_append_iff.mp hhead with ⟨mid, -, hp⟩ | ⟨mid, -, hp⟩
        · apply absurd _ hc
          rw [hp]
          exact List.mem_append_right _ List.mem_cons_self
        · rcases mid with - | ⟨d, mid⟩
          · apply absurd _ hc
            rw [← List.nil_append p, ← hp]
            exact List.mem_cons_self
          · obtain ⟨-, rfl⟩ := List.cons.inj hp
            exact .inr ⟨mid, back, rfl⟩
  · rintro (h | h)
    · exact h.trans (List.prefix_append ..).isInfix
    · exact h.trans ((List.suffix_cons c t).trans (List.suffix_append ..)).isInfix

/-- What does not hold the separator is found in one of the texts that are joined. -/
theorem infix_intercalate_iff {α : Type} {c : α} {p : List α} (hc : c ∉ p) (hne : p ≠ [])
    (parts : List (List α)) :
    p <:+: [c].intercalate parts ↔ ∃ part ∈ parts, p <:+: part := by
  induction parts with
  | nil => simp [hne]
  | cons part parts ih =>
    rcases parts with - | ⟨next, parts⟩
    · simp
    · rw [List.intercalate_cons_cons, List.append_assoc, List.singleton_append,
        infix_append_cons_iff hc, ih]
      simp only [List.mem_cons, exists_eq_or_imp]

namespace Name

/-! ### Stars in written values -/

/-- An escaped backslash and a plain star: written down, they look like a guarded star. -/
def strayGuard : List Token :=
  [.escaped '\\', .plain '*']

/-- A backslash and a star in a row stand at the beginning of a text or further on. -/
theorem star_infix_cons {c : Char} {rest : List Char} (h : ['\\', '*'] <:+: c :: rest) :
    (c = '\\' ∧ rest.head? = some '*') ∨ ['\\', '*'] <:+: rest := by
  rcases List.infix_cons_iff.mp h with hbegins | hfound
  · obtain ⟨rfl, more, rfl⟩ := List.cons_prefix_cons.mp hbegins
    exact .inl ⟨rfl, rfl⟩
  · exact .inr hfound

theorem tokens_star (rest : List Char) : ∃ more, tokens ('*' :: rest) = .plain '*' :: more := by
  rcases rest with - | ⟨c, - | ⟨d, rest⟩⟩
  · exact ⟨[], rfl⟩
  · exact ⟨[.plain c], rfl⟩
  · exact ⟨tokens (c :: d :: rest), by simp [tokens]⟩

/-- In a written value a star that follows a backslash is a plain one, and the
backslash is escaped. -/
theorem strayGuard_infix_of_written {s : List Char} (hwritten : ∀ t ∈ tokens s, t.Written)
    (h : ['\\', '*'] <:+: s) : strayGuard <:+: tokens s := by
  fun_induction tokens s with
  | case1 => exact absurd (List.infix_nil.mp h) (List.cons_ne_nil _ _)
  | case2 c => exact absurd h.length_le (by simp)
  | case3 d =>
    -- A backslash escapes the star itself, which no value may have.
    have hd : (Token.escaped d).Written := hwritten _ List.mem_cons_self
    rcases star_infix_cons h with ⟨-, hstar⟩ | hrest
    · obtain rfl := Option.some.inj hstar
      exact absurd hd (by decide)
    · exact absurd hrest.length_le (by simp)
  | case4 c d hslash =>
    rcases star_infix_cons h with ⟨hc, -⟩ | hrest
    · exact absurd hc hslash
    · exact absurd hrest.length_le (by simp)
  | case5 d e rest hdigits ih =>
    -- Neither digit is a backslash or a star.
    rcases star_infix_cons h with ⟨-, hstar⟩ | hrest
    · obtain rfl := Option.some.inj hstar
      exact absurd hdigits.1 (by decide)
    · rcases star_infix_cons hrest with ⟨rfl, -⟩ | hrest
      · exact absurd hdigits.1 (by decide)
      · rcases star_infix_cons hrest with ⟨rfl, -⟩ | hrest
        · exact absurd hdigits.2 (by decide)
        · have hfound := ih (fun t ht => hwritten t (List.mem_cons_of_mem _ ht)) hrest
          exact hfound.trans (List.suffix_cons ..).isInfix
  | case6 d e rest hdigits ih =>
    have hd : (Token.escaped d).Written := hwritten _ List.mem_cons_self
    rcases star_infix_cons h with ⟨-, hstar⟩ | hrest
    · obtain rfl := Option.some.inj hstar
      exact absurd hd (by decide)
    · rcases star_infix_cons hrest with ⟨rfl, hstar⟩ | hrest
      · -- The backslash is the escaped one, and the star is the next token.
        obtain rfl := Option.some.inj hstar
        obtain ⟨more, hmore⟩ := tokens_star rest
        rw [hmore]
        exact ⟨[], more, rfl⟩
      · have hfound := ih (fun t ht => hwritten t (List.mem_cons_of_mem _ ht)) hrest
        exact hfound.trans (List.suffix_cons ..).isInfix
  | case7 c d e rest hslash ih =>
    rcases star_infix_cons h with ⟨hc, -⟩ | hrest
    · exact absurd hc hslash
    · have hfound := ih (fun t ht => hwritten t (List.mem_cons_of_mem _ ht)) hrest
      exact hfound.trans (List.suffix_cons ..).isInfix

/-- In a written value a backslash stands directly before a star just if an escaped
backslash comes before a plain star. -/
theorem infix_star_iff {s : List Char} (hwritten : ∀ t ∈ tokens s, t.Written) :
    ['\\', '*'] <:+: s ↔ strayGuard <:+: tokens s := by
  refine ⟨strayGuard_infix_of_written hwritten, ?_⟩
  rintro ⟨front, back, hsplit⟩
  refine ⟨front.flatMap Token.text ++ ['\\'], back.flatMap Token.text, ?_⟩
  conv_rhs => rw [← flatMap_text_tokens s, ← hsplit]
  simp [strayGuard, Token.text]

end Name

namespace DistinguishedName

open Name

/-! ### Names in filters -/

/-- In the written form of a name that was read, a backslash stands directly before a
star just if one of the values has an escaped backslash before a plain star. -/
theorem star_infix_text_iff {written : Option String} {dn : DistinguishedName}
    (h : parse written = .ok dn) :
    ['\\', '*'] <:+: dn.text
      ↔ ∃ r ∈ dn.components, ∃ p ∈ r.pairs, strayGuard <:+: tokens p.value.toList := by
  -- From pairs to components to names: what joins them is neither a backslash nor a star.
  have hpair : ∀ r ∈ dn.components, ∀ p ∈ r.pairs,
      (['\\', '*'] <:+: p.text ↔ strayGuard <:+: tokens p.value.toList) := by
    intro r hr p hp
    obtain ⟨hattr, item, hvalue⟩ := pair_checked h hr hp
    have hnone : ¬ ['\\', '*'] <:+: p.attr.toList := by
      intro hfound
      exact not_mem_of_checkAttribute hattr (by decide) (hfound.mem List.mem_cons_self)
    rw [TypedValue.text, infix_append_cons_iff (by decide), or_iff_right hnone,
      infix_star_iff (written_of_checkValue hvalue)]
  have hcomponent : ∀ r ∈ dn.components,
      (['\\', '*'] <:+: r.text ↔ ∃ p ∈ r.pairs, strayGuard <:+: tokens p.value.toList) := by
    intro r hr
    rw [RelativeName.text, infix_intercalate_iff (by decide) (List.cons_ne_nil _ _)]
    simp only [List.mem_map, exists_exists_and_eq_and]
    exact exists_congr fun p => and_congr_right fun hp => hpair r hr p hp
  rw [text, infix_intercalate_iff (by decide) (List.cons_ne_nil _ _)]
  simp only [List.mem_map, exists_exists_and_eq_and]
  exact exists_congr fun r => and_congr_right fun hr => hcomponent r hr

/-- The value in the filter does not always stand for the written form: of an escaped
backslash before a star, one half is lost. -/
theorem decode_filterText_ne_text :
    ∃ dn, parse (some "cn=a\\\\*b") = .ok dn
      ∧ Filter.decode dn.filterText.toList ≠ some dn.text := by
  have hparse : parse (some "cn=a\\\\*b") = .ok ⟨[.single ⟨"cn", "a\\\\*b"⟩]⟩ := by decide +kernel
  exact ⟨_, hparse, by decide⟩

/-- **What the value in the filter stands for.**

For a name that was read, the value is decoded to the written form of the name
without the backslashes that stand directly before a star.  It is decoded to the
written form itself just if no value has an escaped backslash before a plain star. -/
theorem decode_filterText_of_parse {written : Option String} {dn : DistinguishedName}
    (h : parse written = .ok dn) :
    Filter.decode dn.filterText.toList = some (Filter.unguardStars dn.text)
      ∧ (Filter.decode dn.filterText.toList = some dn.text
        ↔ ∀ r ∈ dn.components, ∀ p ∈ r.pairs, ¬ strayGuard <:+: tokens p.value.toList) := by
  have hdecode : Filter.decode dn.filterText.toList = some (Filter.unguardStars dn.text) := by
    rw [toList_filterText, Filter.decode_escapeChars]
  refine ⟨hdecode, ?_⟩
  rw [hdecode, Option.some_inj, Filter.unguardStars_eq_self_iff, star_infix_text_iff h]
  simp only [not_exists, not_and]

/-- An octet, an escaped plus sign and stars that do not follow a backslash at once. -/
theorem decode_filterText_of_mixed_name :
    let written := some "cn=a\\2a(b)\\+*+uid=x\\\\y*,o=z"
    let dn : DistinguishedName :=
      ⟨[.cons ⟨"cn", "a\\2a(b)\\+*"⟩ (.single ⟨"uid", "x\\\\y*"⟩), .single ⟨"o", "z"⟩]⟩
    parse written = .ok dn
      ∧ (∀ r ∈ dn.components, ∀ p ∈ r.pairs, ¬ strayGuard <:+: tokens p.value.toList)
      ∧ Filter.decode dn.filterText.toList = some dn.text := by
  intro written dn
  have hparse : parse written = .ok dn := by decide +kernel
  have hstray : ∀ r ∈ dn.components, ∀ p ∈ r.pairs,
      ¬ strayGuard <:+: tokens p.value.toList := by decide +kernel
  exact ⟨hparse, hstray, (decode_filterText_of_parse hparse).2.mpr hstray⟩

end DistinguishedName

end DirectoryGroups
