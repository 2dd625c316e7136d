/-
DirectoryGroups/Proofs/Text/Trim.lean

What trimming takes from a text and what it leaves.

Only blanks are taken (`mem_trim_of_not_blank`), and only at the ends, so that a text without
blanks is left as it is (`trim_of_no_blanks`), what is left does not begin with a blank
(`not_blank_of_trim`), and trimming once is enough (`trim_trim`).
-/
import DirectoryGroups.Text.Blank
import Mathlib.Data.List.DropRight

namespace DirectoryGroups.Text

/-! ### Blanks -/

/-- Characters that leave a mark in ASCII are not blank. -/
theorem isBlank_of_mark {c : Char} (hlow : 33 ≤ c.toNat) (hhigh : c.toNat ≤ 126) :
    isBlank c = false := by
  simp only [isBlank, Bool.or_eq_false_iff, Bool.and_eq_false_iff, decide_eq_false_iff_not,
    beq_eq_false_iff_ne]
  omega

/-! ### The end of a text -/

/-- What is trimmed from the end of two texts in a row. -/
theorem trimEnd_append (s t : List Char) :
    trimEnd (s ++ t) = if trimEnd t = [] then trimEnd s else s ++ trimEnd t := by
  simp only [trimEnd, List.reverse_append, List.dropWhile_append, List.isEmpty_iff,
    List.reverse_eq_nil_iff]
  split
  · rfl
  · rw [List.reverse_append, List.reverse_reverse]

theorem trimEnd_singleton_of_blank {c : Char} (h : isBlank c = true) : trimEnd [c] = [] := by
  simp [trimEnd, h]

theorem dropWhile_of_no_blanks {s : List Char} (h : ∀ c ∈ s, isBlank c = false) :
    s.dropWhile isBlank = s := by
  rcases s with - | ⟨c, s⟩
  · rfl
  · exact List.dropWhile_cons_of_neg (by simp [h c List.mem_cons_self])

theorem trimEnd_of_no_blanks {s : List Char} (h : ∀ c ∈ s, isBlank c = false) : trimEnd s = s := by
  have hback : ∀ c ∈ s.reverse, isBlank c = false := fun c hc => h c (List.mem_reverse.mp hc)
  rw [trimEnd, dropWhile_of_no_blanks hback, List.reverse_reverse]

/-! ### Both ends -/

theorem trim_of_no_blanks {s : List Char} (h : ∀ c ∈ s, isBlank c = false) : trim s = s := by
  rw [trim, dropWhile_of_no_blanks h, trimEnd_of_no_blanks h]

/-- Only blanks are dropped. -/
theorem mem_dropWhile_of_not_blank {s : List Char} {c : Char} (hc : c ∈ s)
    (hblank : isBlank c = false) : c ∈ s.dropWhile isBlank := by
  rw [← List.takeWhile_append_dropWhile (p := isBlank) (l := s), List.mem_append] at hc
  -- What is dropped are blanks, and the character is none.
  rcases hc with hfront | hrest
  · rw [List.mem_takeWhile_imp hfront] at hblank
    cases hblank
  · exact hrest

theorem mem_trimEnd_of_not_blank {s : List Char} {c : Char} (hc : c ∈ s)
    (hblank : isBlank c = false) : c ∈ trimEnd s :=
  List.mem_reverse.mpr (mem_dropWhile_of_not_blank (List.mem_reverse.mpr hc) hblank)

theorem mem_trim_of_not_blank {s : List Char} {c : Char} (hc : c ∈ s) (hblank : isBlank c = false) :
    c ∈ trim s :=
  mem_trimEnd_of_not_blank (mem_dropWhile_of_not_blank hc hblank) hblank

theorem not_blank_of_trim {s rest : List Char} {c : Char} (h : trim s = c :: rest) :
    isBlank c = false := by
  -- It begins where the text does behind its first blanks.
  obtain ⟨more, hmore⟩ : trim s <+: s.dropWhile isBlank := List.rdropWhile_prefix isBlank _
  have hhead := List.head?_dropWhile_not isBlank s
  rw [← hmore, h] at hhead
  simpa using hhead

theorem trim_trim (s : List Char) : trim (trim s) = trim s := by
  have hfront : (trim s).dropWhile isBlank = trim s := by
    rcases htrim : trim s with - | ⟨c, rest⟩
    · rfl
    · exact List.dropWhile_cons_of_neg (by simp [not_blank_of_trim htrim])
  have hback : trimEnd (trim s) = trim s := List.rdropWhile_idempotent isBlank _
  rw [trim, hfront, hback]

end DirectoryGroups.Text
