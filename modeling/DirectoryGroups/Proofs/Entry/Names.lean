/-
DirectoryGroups/Proofs/Entry/Names.lean

Attributes and the names they are looked for by.

An attribute is looked for by its name as it is, and then by the first name that is the same
but for case.  The two looks may find different attributes, and which one comes first may count.
But if no two names of an entry are the same but for case (`Attributes.NamesApart`), then the
second look alone finds the same as both (`Attributes.find?_eq_folded?`), and it finds the one
attribute with such a name (`Attributes.folded?_eq_some_iff`).

Main result: `Entry.values_in_any_case`.
-/
import DirectoryGroups.Entry
import Mathlib.Data.List.Basic

namespace DirectoryGroups

namespace Attributes

variable {attributes : Attributes} {name : String} {pair : String × Value} {value : Value}

/-! ### The two looks -/

/-- A null attribute is never found by its name. -/
theorem verbatim?_ne_null : attributes.verbatim? name ≠ some .null := by
  unfold verbatim?
  split
  · simp
  · rename_i hfound
    exact hfound

theorem mem_of_verbatim? (h : attributes.verbatim? name = some value) :
    (name, value) ∈ attributes := by
  have hlookup : attributes.lookup name = some value := by
    unfold verbatim? at h
    split at h
    · cases h
    · exact h
  obtain ⟨before, after, hsplit, -⟩ := List.lookup_eq_some_iff.mp hlookup
  rw [hsplit]
  exact List.mem_append_right _ List.mem_cons_self

theorem folded?_cons : folded? (pair :: attributes) name
    = if Text.lower pair.1.toList = Text.lower name.toList then some pair.2
      else attributes.folded? name := by
  rw [folded?, List.find?_cons]
  split
  · rename_i hmatch
    rw [if_pos (beq_iff_eq.mp hmatch)]
    rfl
  · rename_i hother
    rw [if_neg (by simpa using hother)]
    rfl

/-- Nothing is found without regard to case just if no name matches. -/
theorem folded?_eq_none_iff : attributes.folded? name = none
    ↔ ∀ pair ∈ attributes, Text.lower pair.1.toList ≠ Text.lower name.toList := by
  simp [folded?, List.find?_eq_none]

theorem find?_eq_none_iff : attributes.find? name = none
    ↔ ∀ pair ∈ attributes, Text.lower pair.1.toList ≠ Text.lower name.toList := by
  rw [find?, Option.or_eq_none_iff, folded?_eq_none_iff, and_iff_right_iff_imp]
  -- What the first look finds, the second one would find as well.
  intro hnone
  by_contra hsome
  obtain ⟨value, hvalue⟩ := Option.ne_none_iff_exists'.mp hsome
  exact hnone _ (mem_of_verbatim? hvalue) rfl

/-! ### Names that are apart -/

/-- No two names are the same but for case. -/
def NamesApart (attributes : Attributes) : Prop :=
  (attributes.map fun pair => Text.lower pair.1.toList).Nodup

theorem NamesApart.of_perm {attributes' : Attributes} (h : attributes.NamesApart)
    (hperm : attributes'.Perm attributes) : attributes'.NamesApart :=
  (hperm.map _).nodup_iff.mpr h

/-- What is found without regard to case is the one attribute whose name matches. -/
theorem folded?_eq_some_iff (h : attributes.NamesApart) : attributes.folded? name = some value
    ↔ ∃ pair ∈ attributes, Text.lower pair.1.toList = Text.lower name.toList
        ∧ pair.2 = value := by
  induction attributes with
  | nil => simp [folded?]
  | cons first attributes ih =>
    obtain ⟨hfresh, hrest⟩ := List.nodup_cons.mp h
    rw [folded?_cons]
    by_cases hmatch : Text.lower first.1.toList = Text.lower name.toList
    · -- No attribute behind the first has a name that matches.
      have hother : ∀ pair ∈ attributes,
          Text.lower pair.1.toList ≠ Text.lower name.toList := by
        intro pair hpair heq
        exact hfresh (List.mem_map.mpr ⟨pair, hpair, heq.trans hmatch.symm⟩)
      rw [if_pos hmatch]
      constructor
      · intro hvalue
        exact ⟨first, List.mem_cons_self, hmatch, Option.some.inj hvalue⟩
      · rintro ⟨pair, hpair, heq, rfl⟩
        rcases List.mem_cons.mp hpair with rfl | hmem
        · rfl
        · exact absurd heq (hother pair hmem)
    · rw [if_neg hmatch, ih hrest]
      simp [hmatch]

/-- **The second look alone finds what both find**, if no two names are the same but for
case. -/
theorem find?_eq_folded? (h : attributes.NamesApart) :
    attributes.find? name = attributes.folded? name := by
  rw [find?]
  rcases hverbatim : attributes.verbatim? name with - | value
  · rw [Option.none_or]
  · rw [Option.some_or]
    -- It has the name that was looked for, so it is the one whose name matches.
    exact ((folded?_eq_some_iff h).mpr ⟨_, mem_of_verbatim? hverbatim, rfl, rfl⟩).symm

/-- What is found hangs neither on the case of the name nor on the order of the attributes. -/
theorem find?_eq_of_perm {attributes' : Attributes} {name' : String} (h : attributes.NamesApart)
    (hperm : attributes'.Perm attributes)
    (hname : Text.lower name'.toList = Text.lower name.toList) :
    attributes'.find? name' = attributes.find? name := by
  have h' := h.of_perm hperm
  rw [find?_eq_folded? h, find?_eq_folded? h']
  refine Option.ext fun value => ?_
  rw [folded?_eq_some_iff h, folded?_eq_some_iff h', hname]
  simp only [hperm.mem_iff]

end Attributes

/-! ### The main result -/

namespace Entry

/-- **Attributes are looked for without regard to case and order**, if no two names of the entry
are the same but for case.

A name in any case then has the same values, in whatever order the attributes come: those of the
one attribute whose name matches.  There are none just if there is no such attribute; an
attribute that is null counts as well. -/
theorem values_in_any_case {entry entry' : Entry} {name name' : String}
    (hapart : (entry.attributes.getD []).NamesApart)
    (horder : (entry'.attributes.getD []).Perm (entry.attributes.getD []))
    (hname : Text.lower name'.toList = Text.lower name.toList) :
    entry'.values name' = entry.values name
      ∧ (entry.values name = none ↔ ∀ pair ∈ entry.attributes.getD [],
          Text.lower pair.1.toList ≠ Text.lower name.toList)
      ∧ ∀ pair ∈ entry.attributes.getD [], Text.lower pair.1.toList = Text.lower name.toList →
          entry.values name = some pair.2.texts := by
  refine ⟨?_, ?_, ?_⟩
  · rw [values, values, Attributes.find?_eq_of_perm hapart horder hname]
  · rw [values, Option.map_eq_none_iff, Attributes.find?_eq_none_iff]
  · intro pair hpair hmatch
    rw [values, Attributes.find?_eq_folded? hapart,
      (Attributes.folded?_eq_some_iff hapart).mpr ⟨pair, hpair, hmatch, rfl⟩, Option.map_some]

/-- Names that end in a sigma, which has two lower-case forms, and a null attribute. -/
theorem values_in_any_case_of_sigma :
    let entry : Entry :=
      { dn := some "cn=a",
        attributes := some [("ΟΔΟΣ", .list [.text "a", .octets [98]]), ("cn", .null)] }
    let entry' : Entry :=
      { dn := some "cn=a",
        attributes := some [("cn", .null), ("ΟΔΟΣ", .list [.text "a", .octets [98]])] }
    (entry.attributes.getD []).NamesApart
      ∧ (entry'.attributes.getD []).Perm (entry.attributes.getD [])
      ∧ Text.lower "οδος".toList = Text.lower "ΟΔΟΣ".toList
      ∧ entry'.values "οδος" = entry.values "ΟΔΟΣ"
      ∧ entry.values "ΟΔΟΣ" = some ["a", "b"]
      ∧ entry'.values "CN" = entry.values "cn"
      ∧ entry.values "cn" = some ["None"] := by
  intro entry entry'
  have hapart : (entry.attributes.getD []).NamesApart := by
    unfold Attributes.NamesApart
    decide +kernel
  have horder : (entry'.attributes.getD []).Perm (entry.attributes.getD []) := .swap _ _ _
  have hsigma : Text.lower "οδος".toList = Text.lower "ΟΔΟΣ".toList := by decide +kernel
  obtain ⟨hvalues, -, hfound⟩ := values_in_any_case hapart horder hsigma
  have hcn : Text.lower "CN".toList = Text.lower "cn".toList := by decide +kernel
  obtain ⟨hnulls, -, hnull⟩ := values_in_any_case hapart horder hcn
  exact ⟨hapart, horder, hsigma, hvalues, hfound _ List.mem_cons_self rfl, hnulls,
    hnull _ (List.mem_cons_of_mem _ List.mem_cons_self) rfl⟩

end Entry

end DirectoryGroups
