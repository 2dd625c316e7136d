/-
DirectoryGroups/Proofs/Filter/Joining.lean

Escaping a written name in parts.

A backslash and the star behind it are one escaped star, so escaping looks at two characters at
a time, and a text may not be taken apart everywhere.  Just the cuts between a backslash and a
star change what comes of it (`escapeChars_append_iff`).  Next to a separator there is no such
cut, whatever stands on its other side, and no separator is replaced itself.  So texts that are
escaped one by one and then joined are their joined text, escaped (`intercalate_escapeChars`).

Main result: a name whose components are escaped one by one is its written form, escaped
(`filterText_in_parts`).
-/
import DirectoryGroups.Filter.Escape

namespace DirectoryGroups

namespace Filter

/-! ### Cuts -/

/-- **Where a text may be cut.**  Both parts may be escaped on their own just if the cut does
not fall between a backslash and a star. -/
theorem escapeChars_append_iff (s t : List Char) :
    escapeChars (s ++ t) = escapeChars s ++ escapeChars t
      ↔ ¬ (s.getLast? = some '\\' ∧ t.head? = some '*') := by
  fun_induction escapeChars s with
  | case1 => simp
  | case2 c =>
    -- The cut comes next: what matters is the last character and the first one behind it.
    rcases t with - | ⟨d, rest⟩
    · simp [escapeChars]
    · by_cases hguard : c = '\\' ∧ d = '*'
      · obtain ⟨rfl, rfl⟩ := hguard
        simp [escapeChars, escapeChar]
      · have hapart : escapeChars (c :: d :: rest) = escapeChar c ++ escapeChars (d :: rest) := by
          rw [escapeChars, if_neg hguard]
        simpa [hapart] using hguard
  | case3 c d more hguard ih =>
    -- The star that is escaped here lies in front of the cut, and tells nothing of it.
    obtain ⟨rfl, rfl⟩ := hguard
    have hlast : ('\\' :: '*' :: more).getLast? = some '\\' ↔ more.getLast? = some '\\' := by
      rcases more with - | ⟨e, more⟩
      · decide
      · simp only [List.getLast?_cons_cons]
    rw [hlast, ← ih]
    simp [escapeChars]
  | case4 c d more hguard ih =>
    have hfront : escapeChars (c :: d :: more ++ t)
        = escapeChar c ++ escapeChars (d :: more ++ t) := by
      rw [List.cons_append, List.cons_append, escapeChars, if_neg hguard]
    rw [hfront, List.append_assoc, List.append_cancel_left_eq, List.getLast?_cons_cons, ih]

/-! ### Separators -/

theorem escapeChars_cons {c : Char} (h : c ∉ ['\\', '(', ')', '\x00']) (rest : List Char) :
    escapeChars (c :: rest) = c :: escapeChars rest := by
  simp only [List.mem_cons, List.not_mem_nil, or_false, not_or] at h
  cases rest <;> simp [escapeChars, escapeChar, h]

/-- A comma keeps apart what stands on its two sides. -/
theorem escapeChars_append_comma (s rest : List Char) :
    escapeChars (s ++ ',' :: rest) = escapeChars s ++ ',' :: escapeChars rest := by
  -- A comma is no star, so this cut is harmless whatever comes before it.
  have hcut : ¬ (s.getLast? = some '\\' ∧ (',' :: rest).head? = some '*') := by
    rintro ⟨-, hstar⟩
    cases hstar
  rw [(escapeChars_append_iff s _).mpr hcut, escapeChars_cons (by decide)]

/-- Texts that are escaped one by one and joined by commas are their joined text,
escaped. -/
theorem intercalate_escapeChars (parts : List (List Char)) :
    [','].intercalate (parts.map escapeChars) = escapeChars ([','].intercalate parts) := by
  induction parts with
  | nil => rfl
  | cons part parts ih =>
    rcases parts with - | ⟨next, parts⟩
    · simp
    · rw [List.map_cons, List.map_cons, List.intercalate_cons_cons, ← List.map_cons, ih,
        List.intercalate_cons_cons, List.append_assoc, List.append_assoc, List.singleton_append,
        List.singleton_append, escapeChars_append_comma]

theorem escape_ofList (s : List Char) : escape (.ofList s) = .ofList (escapeChars s) := by
  rw [escape, String.toList_ofList]

end Filter

namespace DistinguishedName

/-! ### Names -/

theorem toList_filterText (dn : DistinguishedName) :
    dn.filterText.toList = Filter.escapeChars dn.text := by
  rw [filterText, String.toList_ofList, text, ← Filter.intercalate_escapeChars, List.map_map]
  rfl

theorem filterText_eq_intercalate (dn : DistinguishedName) :
    dn.filterText = ",".intercalate (dn.components.map fun r => Filter.escape (toString r)) := by
  rw [← String.toList_inj, filterText, String.toList_ofList, String.toList_intercalate,
    List.map_map]
  apply congrArg
  apply List.map_congr_left
  intro r _
  show Filter.escapeChars r.text = (Filter.escape (.ofList r.text)).toList
  rw [Filter.escape_ofList, String.toList_ofList]

/-- **A name may be escaped as a whole or component by component.**

The components of any name, escaped one by one and joined by commas, are the written form of the
name, escaped.  This hangs on the commas: a text that is cut in two comes out the same just if
the cut does not fall between a backslash and a star. -/
theorem filterText_in_parts :
    (∀ dn : DistinguishedName,
      dn.filterText = ",".intercalate (dn.components.map fun r => Filter.escape (toString r))
        ∧ dn.filterText = Filter.escape (toString dn))
      ∧ ∀ s t : String, Filter.escape (s ++ t) = Filter.escape s ++ Filter.escape t
        ↔ ¬ (s.toList.getLast? = some '\\' ∧ t.toList.head? = some '*') := by
  refine ⟨?_, ?_⟩
  · intro dn
    refine ⟨dn.filterText_eq_intercalate, ?_⟩
    show dn.filterText = Filter.escape (.ofList dn.text)
    rw [Filter.escape_ofList, ← toList_filterText, String.ofList_toList]
  · intro s t
    rw [← Filter.escapeChars_append_iff, ← String.toList_inj]
    simp only [Filter.escape, String.toList_append, String.toList_ofList]

/-- The comma stands between a backslash and a star. -/
example : (⟨[.single ⟨"cn", "a\\"⟩, .single ⟨"*", "b"⟩]⟩ : DistinguishedName).filterText
    = "cn=a\\5c,*=b" := by decide +kernel

end DistinguishedName

end DirectoryGroups
