/-
DirectoryGroups/Proofs/Name/Primary.lean

The primary pair of a component, and the order in which its pairs are written.

Pairs are ranked by their keys, compared by code points: the attribute in upper case comes
first, and then the bare value in lower case (`TypedValue.rank`).  The primary pair of a
component is the first of those that rank least, as it is found by one pass over the pairs
(`RelativeName.argmin_rank_pairs`, `RelativeName.primary_first`).

Two different pairs may rank alike, since case is folded and one value has several
spellings.  Writing the pairs in another order can make any of those that rank least the
primary one, and none else (`RelativeName.exists_perm_primary`).  So what is read off the
primary pair does not hang on the order just if all of them agree on it.

Main result: `RelativeName.forall_perm_iff`.
-/
import DirectoryGroups.Name.Basic
import Mathlib.Data.Char
import Mathlib.Data.List.Lex
import Mathlib.Data.List.MinMax
import Mathlib.Data.List.Nodup
import Mathlib.Data.Prod.Lex

namespace DirectoryGroups

/-! ### Ranks -/

namespace TypedValue

/-- The rank of a pair among others: its key, of which the attribute counts first. -/
def rank (p : TypedValue) : List Char ×ₗ List Char :=
  toLex p.key

theorem before_iff_rank_lt {p q : TypedValue} : p.before q = true ↔ p.rank < q.rank := by
  simp [before, rank, Prod.Lex.toLex_lt_toLex]

/-- Pairs of the same rank have attributes that differ in case alone. -/
theorem upper_attr_of_rank_eq {p q : TypedValue} (h : p.rank = q.rank) :
    Text.upper p.attr.toList = Text.upper q.attr.toList :=
  congrArg (fun r => (ofLex r).1) h

/-- Going through some pairs finds the first of those that rank least. -/
theorem argmin_rank_cons (best : TypedValue) (pairs : List TypedValue) :
    (best :: pairs).argmin rank = some (best.least pairs) := by
  induction pairs generalizing best with
  | nil => rfl
  | cons p pairs ih =>
    rw [least]
    -- Both passes keep what they have unless the next pair ranks lower.
    by_cases hbefore : p.before best = true
    · have hrank : p.rank < best.rank := before_iff_rank_lt.mp hbefore
      rw [if_pos hbefore, ← ih]
      simp [List.argmin, List.argAux, hrank]
    · have hrank : ¬ p.rank < best.rank := before_iff_rank_lt.not.mp hbefore
      rw [if_neg hbefore, ← ih]
      simp [List.argmin, List.argAux, hrank]

end TypedValue

/-! ### Primary pairs -/

namespace RelativeName

variable {r r' : RelativeName} {p q : TypedValue}

/-- Whether a pair of the component ranks least among its pairs. -/
structure Foremost (r : RelativeName) (p : TypedValue) : Prop where
  mem : p ∈ r.pairs
  le : ∀ q ∈ r.pairs, p.rank ≤ q.rank

/-- The primary pair is the first of those that rank least. -/
theorem argmin_rank_pairs (r : RelativeName) : r.pairs.argmin TypedValue.rank = some r.primary := by
  rcases r with ⟨- | ⟨p, rest⟩, hne⟩
  · exact absurd rfl hne
  · exact TypedValue.argmin_rank_cons p rest

theorem primary_mem (r : RelativeName) : r.primary ∈ r.pairs :=
  List.argmin_mem r.argmin_rank_pairs

theorem foremost_primary (r : RelativeName) : r.Foremost r.primary where
  mem := r.primary_mem
  le _ hq := List.le_of_mem_argmin hq r.argmin_rank_pairs

/-- **No pair in front of the primary one ranks as low.** -/
theorem primary_first (r : RelativeName) :
    ∃ front back, r.pairs = front ++ r.primary :: back
      ∧ ∀ q ∈ front, r.primary.rank < q.rank := by
  obtain ⟨front, back, hpairs, hfront⟩ := List.eq_append_cons_of_mem r.primary_mem
  refine ⟨front, back, hpairs, ?_⟩
  intro q hq
  by_contra hle
  have hmem : q ∈ r.pairs := by
    rw [hpairs]
    exact List.mem_append_left _ hq
  -- The first pair of least rank would have been found no later than `q`.
  have hindex : r.pairs.idxOf r.primary ≤ r.pairs.idxOf q :=
    List.index_of_argmin r.argmin_rank_pairs hmem (not_lt.mp hle)
  rw [hpairs, List.idxOf_append_of_notMem hfront, List.idxOf_cons_self,
    List.idxOf_append_of_mem hq] at hindex
  exact absurd (List.idxOf_lt_length_of_mem hq) (by omega)

theorem Foremost.rank_eq (hp : r.Foremost p) (hq : r.Foremost q) : p.rank = q.rank :=
  le_antisymm (hp.le q hq.mem) (hq.le p hp.mem)

/-! ### Other orders -/

/-- Which pairs rank least does not hang on their order. -/
theorem Foremost.of_perm (hperm : r'.pairs.Perm r.pairs) (h : r'.Foremost p) : r.Foremost p where
  mem := hperm.mem_iff.mp h.mem
  le q hq := h.le q (hperm.mem_iff.mpr hq)

/-- **Each pair that ranks least is the primary one in some order.** -/
theorem exists_perm_primary (h : r.Foremost p) :
    ∃ r' : RelativeName, r'.pairs.Perm r.pairs ∧ r'.primary = p := by
  let r' : RelativeName := ⟨p :: r.pairs.erase p, by simp⟩
  have hperm : r'.pairs.Perm r.pairs := (List.perm_cons_erase h.mem).symm
  refine ⟨r', hperm, ?_⟩
  obtain ⟨front, back, hpairs, hfront⟩ := r'.primary_first
  -- The pair stands first, and nothing ranks lower.
  rcases front with - | ⟨q, front⟩
  · exact (List.cons.inj hpairs).1.symm
  · obtain ⟨rfl, -⟩ := List.cons.inj hpairs
    have hle : p.rank ≤ r'.primary.rank := h.le _ (hperm.mem_iff.mp r'.primary_mem)
    exact absurd (hfront p List.mem_cons_self) (not_lt.mpr hle)

/-- **What is read off the primary pair hangs on the order of the pairs** unless all pairs
that rank least agree on it. -/
theorem forall_perm_iff {α : Type} (r : RelativeName) (f : TypedValue → α) :
    (∀ r' : RelativeName, r'.pairs.Perm r.pairs → f r'.primary = f r.primary)
      ↔ ∀ p q, r.Foremost p → r.Foremost q → f p = f q := by
  constructor
  · intro h p q hp hq
    -- Each of the two pairs is primary in an order of its own.
    obtain ⟨r₁, hperm₁, rfl⟩ := exists_perm_primary hp
    obtain ⟨r₂, hperm₂, rfl⟩ := exists_perm_primary hq
    rw [h r₁ hperm₁, h r₂ hperm₂]
  · intro h r' hperm
    exact h _ _ (r'.foremost_primary.of_perm hperm) r.foremost_primary

/-- If no two attributes differ in case alone, just one pair ranks least. -/
theorem Foremost.unique (hdistinct : (r.pairs.map fun p => Text.upper p.attr.toList).Nodup)
    (hp : r.Foremost p) (hq : r.Foremost q) : p = q :=
  List.inj_on_of_nodup_map hdistinct hp.mem hq.mem
    (TypedValue.upper_attr_of_rank_eq (hp.rank_eq hq))

end RelativeName

end DirectoryGroups
