/-
DirectoryGroups/Proofs/Filter/Nesting.lean

How the parentheses of a filter nest.

The depth of a text is the number of parentheses that it opens and does not
close.  A text is balanced if it closes what it opens and never closes more than
that, and enclosed if it is balanced and its first parenthesis is closed by its
last character only.  A filter is to be enclosed: then it is one filter and not
several, and no part of it can be taken for the end of it.

Main results: balanced texts can be put one after the other (`Balanced.append`)
and in parentheses (`Balanced.enclose`).
-/
import Mathlib.Data.List.Infix

namespace DirectoryGroups.Filter

/-! ### Depth -/

/-- The parentheses of a text, in order. -/
def parens (s : List Char) : List Char :=
  s.filter fun c => c = '(' ∨ c = ')'

/-- How many parentheses a text opens and does not close. -/
def depth (s : List Char) : Int :=
  s.count '(' - s.count ')'

@[simp] theorem parens_append (s t : List Char) : parens (s ++ t) = parens s ++ parens t :=
  List.filter_append ..

theorem parens_eq_nil_iff {s : List Char} : parens s = [] ↔ '(' ∉ s ∧ ')' ∉ s := by
  rw [parens, List.filter_eq_nil_iff]
  constructor
  · intro h
    exact ⟨fun hmem => h _ hmem (by decide), fun hmem => h _ hmem (by decide)⟩
  · rintro ⟨hopen, hclose⟩ c hc hparen
    rcases of_decide_eq_true hparen with rfl | rfl
    · exact hopen hc
    · exact hclose hc

@[simp] theorem depth_nil : depth [] = 0 := rfl

@[simp] theorem depth_append (s t : List Char) : depth (s ++ t) = depth s + depth t := by
  simp only [depth, List.count_append]
  omega

@[simp] theorem depth_open (s : List Char) : depth ('(' :: s) = depth s + 1 := by
  have hclose : ('(' :: s).count ')' = s.count ')' := List.count_cons_of_ne (by decide)
  rw [depth, List.count_cons_self, hclose, depth]
  omega

theorem depth_of_parens {s : List Char} (h : parens s = []) : depth s = 0 := by
  obtain ⟨hopen, hclose⟩ := parens_eq_nil_iff.mp h
  rw [depth, List.count_eq_zero_of_not_mem hopen, List.count_eq_zero_of_not_mem hclose]
  rfl

/-! ### Balance -/

/-- Whether a text closes what it opens, and nothing that it did not open. -/
def Balanced (s : List Char) : Prop :=
  depth s = 0 ∧ ∀ front, front <+: s → 0 ≤ depth front

/-- Whether a text is within its parentheses from its first character on, and
leaves them with its last. -/
def Enclosed (s : List Char) : Prop :=
  depth s = 0 ∧ ∀ front, front <+: s → front ≠ [] → front ≠ s → 0 < depth front

instance (s : List Char) : Decidable (Balanced s) :=
  decidable_of_iff (depth s = 0 ∧ ∀ front ∈ s.inits, 0 ≤ depth front) <| by
    simp only [List.mem_inits, Balanced]

theorem balanced_of_parens {s : List Char} (h : parens s = []) : Balanced s := by
  refine ⟨depth_of_parens h, ?_⟩
  rintro front ⟨rest, rfl⟩
  have hfront : parens front = [] := (List.append_eq_nil_iff.mp (parens_append front rest ▸ h)).1
  exact Int.le_of_eq (depth_of_parens hfront).symm

/-- Balanced texts follow one another in balance. -/
theorem Balanced.append {s t : List Char} (hs : Balanced s) (ht : Balanced t) :
    Balanced (s ++ t) := by
  refine ⟨by rw [depth_append, hs.1, ht.1]; rfl, ?_⟩
  rintro front ⟨rest, hsplit⟩
  -- The beginning ends either within `s`, or after all of `s` and within `t`.
  rcases List.append_eq_append_iff.mp hsplit with ⟨more, rfl, -⟩ | ⟨more, rfl, htail⟩
  · exact hs.2 front (List.prefix_append ..)
  · have hmore : 0 ≤ depth more := ht.2 more ⟨rest, htail.symm⟩
    rw [depth_append, hs.1]
    omega

/-- A balanced text in parentheses is enclosed by them. -/
theorem Balanced.enclose {s : List Char} (h : Balanced s) : Enclosed ('(' :: s ++ [')']) := by
  refine ⟨?_, ?_⟩
  · rw [depth_append, depth_open, h.1]
    rfl
  · intro front hfront hne hproper
    rcases front with - | ⟨c, front⟩
    · exact absurd rfl hne
    · obtain ⟨rfl, hrest⟩ := List.cons_prefix_cons.mp hfront
      -- What follows the opening parenthesis stops short of the closing one.
      rcases List.prefix_concat_iff.mp hrest with rfl | hwithin
      · exact absurd rfl hproper
      · have hdepth : 0 ≤ depth front := h.2 front hwithin
        rw [depth_open]
        omega

/-- An enclosed text is balanced. -/
theorem Enclosed.balanced {s : List Char} (h : Enclosed s) : Balanced s := by
  refine ⟨h.1, ?_⟩
  intro front hfront
  by_cases hnil : front = []
  · subst hnil
    exact Int.le_of_eq depth_nil.symm
  · by_cases hwhole : front = s
    · subst hwhole
      exact Int.le_of_eq h.1.symm
    · exact Int.le_of_lt (h.2 front hfront hnil hwhole)

end DirectoryGroups.Filter
