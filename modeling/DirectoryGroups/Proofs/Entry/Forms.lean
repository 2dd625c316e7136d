/-
DirectoryGroups/Proofs/Entry/Forms.lean

The forms in which values are delivered.

One directory sends texts, another one sends octets; one sends a single value as it is, another
one as a list of one; lists may be of either kind.  Any of these forms may be replaced by another
(`Value.Recast`), in as many values and as often as one likes (`Value.SameButForm`), and so an
entry may come in many forms (`Entry.SameButForm`).  Null is a value in one form only.

A replacement keeps the texts of a value and makes no null of it, nor anything of a null; this is
all that both looks for an attribute and its reading need.  That octets are as good as the text
they encode rests on `Utf8.decode_encode`.

Main result: the values of an entry are the same in all its forms (`Entry.values_of_sameButForm`).
-/
import DirectoryGroups.Proofs.Entry.Names
import Mathlib.Data.List.Forall2
import Mathlib.Logic.Relation

namespace DirectoryGroups

/-! ### Values -/

namespace Value

/-- The value is not null and no list of either kind. -/
def IsSingle : Value → Prop
  | .null | .list _ | .tuple _ => False
  | _ => True

/-- A value is delivered in another form. -/
inductive Recast : Value → Value → Prop
  /-- A text as octets. -/
  | encoded (s : String) : Recast (.text s) (.octets (Utf8.encode s.toList))
  /-- A text in a list as octets. -/
  | encodedItem {before after : List Value} (s : String) :
      Recast (.list (before ++ .text s :: after))
        (.list (before ++ .octets (Utf8.encode s.toList) :: after))
  /-- A text in a list of fixed length as octets. -/
  | encodedMember {before after : List Value} (s : String) :
      Recast (.tuple (before ++ .text s :: after))
        (.tuple (before ++ .octets (Utf8.encode s.toList) :: after))
  /-- A list as one of fixed length. -/
  | fixed (items : List Value) : Recast (.list items) (.tuple items)
  /-- A single value as the list of it. -/
  | wrapped {value : Value} : value.IsSingle → Recast value (.list [value])

/-- The values are the same but for the form in which they are delivered. -/
def SameButForm : Value → Value → Prop :=
  Relation.EqvGen Recast

variable {value value' : Value}

/-- Octets that encode a text are read as this text. -/
theorem plain_octets_encode (s : String) :
    plain (.octets (Utf8.encode s.toList)) = plain (.text s) := by
  simp only [plain, Utf8.decode_encode, String.ofList_toList]

theorem IsSingle.texts (h : value.IsSingle) : value.texts = [value.plain] := by
  cases value <;> first | rfl | exact h.elim

/-- **Another form of a value has the same texts.** -/
theorem Recast.texts_eq (h : Recast value value') : value.texts = value'.texts := by
  cases h with
  | encoded s => exact congrArg ([·]) (plain_octets_encode s).symm
  | encodedItem s | encodedMember s =>
    simp only [Value.texts, List.map_append, List.map_cons, plain_octets_encode]
  | fixed items => rfl
  | wrapped hsingle => exact hsingle.texts

/-- Null is not delivered in another form, and nothing is delivered as null. -/
theorem Recast.null_iff (h : Recast value value') : value = .null ↔ value' = .null := by
  cases h with
  | encoded | encodedItem | encodedMember | fixed => simp
  | wrapped hsingle => cases value <;> simp_all [IsSingle]

theorem SameButForm.texts_eq (h : value.SameButForm value') : value.texts = value'.texts :=
  (eq_equivalence.comap texts).eqvGen_iff.mp (h.mono fun _ _ hrecast => hrecast.texts_eq)

theorem SameButForm.null_iff (h : value.SameButForm value') :
    value = .null ↔ value' = .null := by
  have hiff : Equivalence fun value value' : Value => value = .null ↔ value' = .null :=
    ⟨fun _ => .rfl, .symm, .trans⟩
  exact hiff.eqvGen_iff.mp (h.mono fun _ _ hrecast => hrecast.null_iff)

end Value

/-! ### Attributes -/

namespace Attributes

/-- The attributes have the same names, and values that are the same but for their form. -/
def SameButForm (attributes attributes' : Attributes) : Prop :=
  List.Forall₂ (fun pair pair' => pair.1 = pair'.1 ∧ pair.2.SameButForm pair'.2)
    attributes attributes'

variable {attributes attributes' : Attributes}

/-- Both looks find values that are the same but for their form. -/
theorem SameButForm.lookup (h : attributes.SameButForm attributes') (name : String) :
    Option.Rel Value.SameButForm (attributes.lookup name) (attributes'.lookup name) := by
  induction h with
  | nil => exact .none
  | @cons pair pair' _ _ hpair _ ih =>
    obtain ⟨hname, hvalue⟩ := hpair
    rw [List.lookup_cons, List.lookup_cons, ← hname]
    split
    · exact .some hvalue
    · exact ih

theorem SameButForm.verbatim? (h : attributes.SameButForm attributes') (name : String) :
    Option.Rel Value.SameButForm (attributes.verbatim? name) (attributes'.verbatim? name) := by
  have hlookup := h.lookup name
  unfold Attributes.verbatim?
  generalize attributes.lookup name = found at *
  generalize attributes'.lookup name = found' at *
  cases hlookup with
  | none => exact .none
  | @some value value' hvalue =>
    -- A null is passed over on both sides or on neither.
    by_cases hnull : value = .null
    · rw [hnull, hvalue.null_iff.mp hnull]
      exact .none
    · have hnull' : value' ≠ .null := mt hvalue.null_iff.mpr hnull
      simpa [hnull, hnull'] using Option.Rel.some hvalue

theorem SameButForm.folded? (h : attributes.SameButForm attributes') (name : String) :
    Option.Rel Value.SameButForm (attributes.folded? name) (attributes'.folded? name) := by
  induction h with
  | nil => exact .none
  | @cons pair pair' _ _ hpair _ ih =>
    obtain ⟨hname, hvalue⟩ := hpair
    rw [folded?_cons, folded?_cons, ← hname]
    -- The names are the same, so both looks stop at the same pair.
    split
    · exact .some hvalue
    · exact ih

theorem SameButForm.find? (h : attributes.SameButForm attributes') (name : String) :
    Option.Rel Value.SameButForm (attributes.find? name) (attributes'.find? name) := by
  have hverbatim := h.verbatim? name
  rw [Attributes.find?, Attributes.find?]
  generalize attributes.verbatim? name = found at *
  generalize attributes'.verbatim? name = found' at *
  cases hverbatim with
  | some hvalue => exact .some hvalue
  | none => exact h.folded? name

end Attributes

/-! ### Entries -/

namespace Entry

/-- The entries are the same but for the form in which their values are delivered. -/
structure SameButForm (entry entry' : Entry) : Prop where
  dn : entry'.dn = entry.dn
  attributes : Option.Rel Attributes.SameButForm entry.attributes entry'.attributes
  unreadable : entry'.unreadable = entry.unreadable

variable {entry entry' : Entry}

theorem attributes_of_sameButForm (h : entry.SameButForm entry') :
    (entry.attributes.getD []).SameButForm (entry'.attributes.getD []) := by
  have hattributes := h.attributes
  generalize entry.attributes = attributes at *
  generalize entry'.attributes = attributes' at *
  cases hattributes with
  | some hsame => exact hsame
  | none => exact .nil

/-- **The form in which values are delivered does not matter**: whatever the name, the values are
the same. -/
theorem values_of_sameButForm (h : entry.SameButForm entry') (name : String) :
    entry'.values name = entry.values name := by
  have hfound := (attributes_of_sameButForm h).find? name
  rw [values, values]
  generalize (entry.attributes.getD []).find? name = found at *
  generalize (entry'.attributes.getD []).find? name = found' at *
  cases hfound with
  | some hvalue => exact congrArg some hvalue.texts_eq.symm
  | none => rfl

/-- The entry with each of its values in another form. -/
def mapValues (f : Value → Value) (entry : Entry) : Entry :=
  { entry with attributes := entry.attributes.map (List.map fun pair => (pair.1, f pair.2)) }

theorem sameButForm_mapValues {f : Value → Value}
    (hf : ∀ value : Value, value.SameButForm (f value)) (entry : Entry) :
    entry.SameButForm (entry.mapValues f) where
  dn := rfl
  attributes := by
    rcases hsent : entry.attributes with - | attributes
    · rw [mapValues, hsent]
      exact .none
    · rw [mapValues, hsent]
      exact .some (List.forall₂_map_right_iff.mpr (List.forall₂_same.mpr fun _ _ => ⟨rfl, hf _⟩))
  unreadable := rfl

end Entry

end DirectoryGroups
