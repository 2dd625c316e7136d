/-
DirectoryGroups/Proofs/Lookup/NullAttributes.lean

Attributes that are null.

An attribute that is null has no value to tell, and one would expect it to be as good as
absent.  The first look at an entry, for the name as it is, treats it so.  The second look,
without regard to case, does not: the first attribute that it finds counts, even a null
one, and this reads as the text "None" (`Entry.readsNull`).  It takes no more than an entry
whose only attribute is null, as `Session.null_attribute_collected` shows.

We say exactly how far this goes.  The values of an entry are those without its null
attributes, unless a null is read, and then there is just this one text
(`Entry.values_eq_withoutNulls`).  Dropping the null attributes of all entries that a session
gives (`Session.mapEntries`) leaves the searches as they are, and in what is collected it
replaces this one text, for each entry of which a null is read, and nothing else.

Main result: `Session.nulls_read_as_text`.
-/
import DirectoryGroups.Proofs.Entry.Names
import DirectoryGroups.Proofs.Lookup.Mirrors
import DirectoryGroups.Proofs.Results

namespace DirectoryGroups

/-! ### Without null attributes -/

/-- Whether a value is null. -/
def Value.isNull : Value → Bool
  | .null => true
  | _ => false

theorem Value.isNull_iff {value : Value} : value.isNull = true ↔ value = .null := by
  cases value <;> simp [isNull]

namespace Attributes

/-- The attributes that are not null. -/
def withoutNulls (attributes : Attributes) : Attributes :=
  attributes.filter fun pair => !pair.2.isNull

variable {attributes : Attributes} {name : String} {pair : String × Value}

theorem withoutNulls_cons_of_null (h : pair.2 = .null) :
    withoutNulls (pair :: attributes) = withoutNulls attributes :=
  List.filter_cons_of_neg (by simp [h, Value.isNull])

theorem withoutNulls_cons_of_ne (h : pair.2 ≠ .null) :
    withoutNulls (pair :: attributes) = pair :: withoutNulls attributes := by
  refine List.filter_cons_of_pos ?_
  simpa [← Value.isNull_iff] using h

/-! ### Looking for the name as it is -/

theorem verbatim?_cons_of_ne (h : name ≠ pair.1) :
    verbatim? (pair :: attributes) name = verbatim? attributes name := by
  rw [verbatim?, verbatim?, List.lookup_cons, beq_false_of_ne h]

theorem lookup_withoutNulls_of_notMem (h : name ∉ attributes.map Prod.fst) :
    (withoutNulls attributes).lookup name = none := by
  rw [List.lookup_eq_none_iff]
  intro other hother
  rw [bne_iff_ne]
  rintro rfl
  exact h (List.mem_map.mpr ⟨other, (List.mem_filter.mp hother).1, rfl⟩)

/-- If no name comes up twice, looking for a name finds the same as if the null attributes
were not there. -/
theorem lookup_withoutNulls (h : (attributes.map Prod.fst).Nodup) :
    (withoutNulls attributes).lookup name = attributes.verbatim? name := by
  induction attributes with
  | nil => rfl
  | cons pair attributes ih =>
    rw [List.map_cons, List.nodup_cons] at h
    obtain ⟨hfresh, hrest⟩ := h
    by_cases hvalue : pair.2 = .null
    · rw [withoutNulls_cons_of_null hvalue]
      by_cases hname : name = pair.1
      · -- No attribute behind the null one has its name.
        subst hname
        rw [lookup_withoutNulls_of_notMem hfresh, verbatim?, List.lookup_cons_self, hvalue]
      · rw [verbatim?_cons_of_ne hname, ih hrest]
    · rw [withoutNulls_cons_of_ne hvalue]
      by_cases hname : name = pair.1
      · subst hname
        rw [verbatim?, List.lookup_cons_self, List.lookup_cons_self]
        split
        · rename_i hnull
          exact absurd (Option.some.inj hnull) hvalue
        · rfl
      · rw [verbatim?_cons_of_ne hname, List.lookup_cons, beq_false_of_ne hname, ih hrest]

theorem verbatim?_withoutNulls (h : (attributes.map Prod.fst).Nodup) :
    attributes.withoutNulls.verbatim? name = attributes.verbatim? name := by
  rw [verbatim?, lookup_withoutNulls h]
  split
  · rename_i hnull
    exact absurd hnull verbatim?_ne_null
  · rfl

/-! ### Looking without regard to case -/

/-- Unless that is null, it is found as well if the null attributes are not there. -/
theorem folded?_withoutNulls (h : attributes.folded? name ≠ some .null) :
    attributes.withoutNulls.folded? name = attributes.folded? name := by
  induction attributes with
  | nil => rfl
  | cons pair attributes ih =>
    rw [folded?_cons] at h ⊢
    by_cases hmatch : Text.lower pair.1.toList = Text.lower name.toList
    · rw [if_pos hmatch] at h ⊢
      -- This is the one that is found, so by assumption it is not null and stays.
      have hvalue : pair.2 ≠ .null := fun hnull => h (congrArg some hnull)
      rw [withoutNulls_cons_of_ne hvalue, folded?_cons, if_pos hmatch]
    · rw [if_neg hmatch] at h ⊢
      by_cases hvalue : pair.2 = .null
      · rw [withoutNulls_cons_of_null hvalue, ih h]
      · rw [withoutNulls_cons_of_ne hvalue, folded?_cons, if_neg hmatch, ih h]

/-- A null is found just if nothing has the name as it is and the first name that matches is
that of a null attribute. -/
theorem find?_eq_null_iff : attributes.find? name = some .null ↔
    attributes.verbatim? name = none ∧ attributes.folded? name = some .null := by
  rw [find?]
  rcases hverbatim : attributes.verbatim? name with - | value
  · simp
  · have hvalue : value ≠ .null := fun hnull => verbatim?_ne_null (hverbatim.trans (hnull ▸ rfl))
    simp [hvalue]

/-- Unless a null is found, the null attributes might as well not be there. -/
theorem find?_withoutNulls (hnames : (attributes.map Prod.fst).Nodup)
    (h : attributes.find? name ≠ some .null) :
    attributes.withoutNulls.find? name = attributes.find? name := by
  rw [find?, find?, verbatim?_withoutNulls hnames]
  -- Only the second look can find a null, and it counts only if the first finds nothing.
  rcases hverbatim : attributes.verbatim? name with - | value
  · rw [folded?_withoutNulls fun hnull => h (find?_eq_null_iff.mpr ⟨hverbatim, hnull⟩)]
  · rfl

end Attributes

/-! ### Entries -/

namespace Entry

/-- The entry without its null attributes. -/
def withoutNulls (entry : Entry) : Entry :=
  { entry with attributes := entry.attributes.map Attributes.withoutNulls }

/-- No two attributes of the entry have the same name. -/
def NamesDistinct (entry : Entry) : Prop :=
  ((entry.attributes.getD []).map Prod.fst).Nodup

/-- Whether a null is read as the value of an attribute. -/
def readsNull (entry : Entry) (name : String) : Bool :=
  match (entry.attributes.getD []).find? name with
  | some .null => true
  | _ => false

variable {entry : Entry} {name : String}

theorem readsNull_iff :
    entry.readsNull name = true ↔ (entry.attributes.getD []).find? name = some .null := by
  unfold readsNull
  split
  · rename_i hnull
    simp [hnull]
  · rename_i hother
    simpa using hother

theorem attributes_withoutNulls :
    entry.withoutNulls.attributes.getD [] = (entry.attributes.getD []).withoutNulls := by
  unfold withoutNulls
  cases entry.attributes <;> rfl

/-- **The values of an entry are those without its null attributes, unless a null is read**,
which has the one value "None". -/
theorem values_eq_withoutNulls (hnames : entry.NamesDistinct) :
    entry.values name
      = if entry.readsNull name then some ["None"] else entry.withoutNulls.values name := by
  by_cases hnull : entry.readsNull name = true
  · rw [if_pos hnull, values, readsNull_iff.mp hnull]
    rfl
  · rw [if_neg hnull, values, values, attributes_withoutNulls,
      Attributes.find?_withoutNulls hnames fun h => hnull (readsNull_iff.mpr h)]

theorem valueList_eq_withoutNulls (hnames : entry.NamesDistinct) :
    entry.valueList name
      = if entry.readsNull name then ["None"] else entry.withoutNulls.valueList name := by
  rw [valueList, values_eq_withoutNulls hnames]
  split <;> rfl

end Entry

/-! ### Sessions -/

namespace Session

variable {σ κ : Type}

section Maps

/-- A session is mirrored, entry by entry, if these can be read in the other form as well. -/
theorem mirrors_mapped (session : Session σ κ) {f : Entry → Entry}
    (hf : ∀ entry, (f entry).unreadable = entry.unreadable) :
    session.Mirrors (session.mapEntries f) (fun entry entry' => f entry = entry') Eq Eq := by
  refine session.mirrors_mapEntries (fun _ => rfl) ?_
  rintro entry _ rfl
  exact hf entry

variable {session : Session σ κ} {f : Entry → Entry} {s s' : σ}

/-- The searches bring the same entries in the other form, provided that they can be read just
when the entries themselves can. -/
theorem bringsInTurn_mapEntries (hf : ∀ entry, (f entry).unreadable = entry.unreadable)
    {query : String → Query} {bases : List String} {lists : List (List Entry)}
    (h : session.BringsInTurn session.GivesAll query s bases lists s') :
    (session.mapEntries f).BringsInTurn (session.mapEntries f).GivesAll query s bases
      (lists.map (List.map f)) s' := by
  obtain ⟨lists', t', hbrings, rfl, hlists⟩ := (mirrors_mapped session hf).bringsInTurn h rfl
  rwa [map_eq_of_forall₂ (hlists.imp fun _ _ => map_eq_of_forall₂)]

/-- The form of the entries does not matter to what is raised while values are collected. -/
theorem raisedBy_valuesBelowAll_mapEntries
    (hf : ∀ entry, (f entry).unreadable = entry.unreadable) (filter attr : String)
    (bases : List String) :
    raisedBy ((session.mapEntries f).valuesBelowAll filter attr bases s).result
      = raisedBy (session.valuesBelowAll filter attr bases s).result := by
  have hagree : ResultsAgree Eq (fun _ _ => True) (session.collect bases filter attr s).result
      ((session.mapEntries f).collect bases filter attr s).result :=
    (mirrors_mapped session hf).collect (fun _ => trivial) bases filter rfl
  exact hagree.raisedBy_eq.symm

end Maps

/-! ### The main result -/

/-- **A null attribute that is read counts as the text "None", and no other null attribute
counts.**

The values of an entry are the same without its null attributes, unless a null is read, and
then "None" is the only one.  So if all entries are given without their null attributes, then
collecting raises what it raised before.  If it returns names, then those of each entry are the
ones from before, unless a null was read of it, where "None" was collected in their place; hence
they are the very same if there is no such entry. -/
theorem nulls_read_as_text (session : Session σ κ) (bases : List String) (filter attr : String)
    (s : σ) :
    let query (base : String) : Query := { base, filter, attributes := [attr] }
    let done := session.collect bases filter attr s
    let done' := (session.mapEntries Entry.withoutNulls).collect bases filter attr s
    (∀ (entry : Entry) (name : String), entry.NamesDistinct →
        (entry.readsNull name = false → entry.withoutNulls.values name = entry.values name)
          ∧ (entry.readsNull name = true → entry.values name = some ["None"]))
      ∧ raisedBy done'.result = raisedBy done.result
      ∧ ∀ lists s', session.BringsInTurn session.GivesAll query s bases lists s' →
        (∀ entries ∈ lists, ∀ entry ∈ entries, entry.NamesDistinct) →
        done.result = .ok (lists.flatMap fun entries => entries.flatMap fun entry =>
            if entry.readsNull attr then ["None"] else entry.withoutNulls.valueList attr)
          ∧ done'.result = .ok (lists.flatMap fun entries => entries.flatMap fun entry =>
            entry.withoutNulls.valueList attr)
          ∧ ((∀ entries ∈ lists, ∀ entry ∈ entries, entry.readsNull attr = false) →
            done'.result = done.result) := by
  intro query done done'
  have hsame : ∀ entry : Entry, entry.withoutNulls.unreadable = entry.unreadable := fun _ => rfl
  refine ⟨?_, raisedBy_valuesBelowAll_mapEntries hsame filter attr bases, ?_⟩
  · intro entry name hnames
    rw [entry.values_eq_withoutNulls hnames]
    exact ⟨fun h => by simp [h], fun h => by simp [h]⟩
  · intro lists s' hbrings hnames
    have hdone : done.result = .ok (lists.flatMap fun entries =>
        entries.flatMap (Entry.valueList attr)) :=
      valuesBelowAll_of_brings hbrings
    have hdone' : done'.result = .ok (lists.flatMap fun entries => entries.flatMap fun entry =>
        entry.withoutNulls.valueList attr) := by
      refine (valuesBelowAll_of_brings (bringsInTurn_mapEntries hsame hbrings)).trans ?_
      simp only [List.flatMap_map]
    -- Entry by entry: where a null is read there is just its text.
    have hread : (lists.flatMap fun entries => entries.flatMap (Entry.valueList attr))
        = lists.flatMap fun entries => entries.flatMap fun entry =>
          if entry.readsNull attr then ["None"] else entry.withoutNulls.valueList attr := by
      refine List.flatMap_congr fun entries hentries => List.flatMap_congr fun entry hentry => ?_
      exact entry.valueList_eq_withoutNulls (hnames entries hentries entry hentry)
    rw [hdone, hread, hdone']
    refine ⟨rfl, rfl, fun hnone => congrArg _ ?_⟩
    refine List.flatMap_congr fun entries hentries => List.flatMap_congr fun entry hentry => ?_
    rw [hnone entries hentries entry hentry]
    rfl

/-- The first base has an entry with a null attribute beside one that is found, and the second
has an entry of which a null is read. -/
theorem nulls_read_as_text_over_table :
    let found : Entry := { dn := some "cn=a",
                           attributes := some [("CN", .text "staff"), ("cn", .null)] }
    let missing : Entry := { dn := some "cn=b",
                             attributes := some [("mail", .text "x"), ("Cn", .null)] }
    let table : AnswerTable :=
      [("o=a", { form := .plain, entries := [found] }), ("o=b", { entries := [missing] })]
    let session := AnswerTable.session
    let without := session.mapEntries Entry.withoutNulls
    (found.withoutNulls.values "cn" = found.values "cn" ∧ missing.values "cn" = some ["None"])
      ∧ (session.collect ["o=a", "o=b"] "(x=y)" "cn" table).result = .ok ["staff", "None"]
      ∧ (without.collect ["o=a", "o=b"] "(x=y)" "cn" table).result = .ok ["staff"]
      ∧ (without.collect ["o=a"] "(x=y)" "cn" table).result
        = (session.collect ["o=a"] "(x=y)" "cn" table).result := by
  intro found missing table session without
  have hnames : found.NamesDistinct ∧ missing.NamesDistinct := by
    unfold Entry.NamesDistinct
    decide
  have hnull : found.readsNull "cn" = false ∧ missing.readsNull "cn" = true := by decide +kernel
  have hfirst : ∀ {bases lists}, session.BringsInTurn session.GivesAll
      ({ base := ·, filter := "(x=y)", attributes := ["cn"] }) table bases lists table →
      session.BringsInTurn session.GivesAll
        ({ base := ·, filter := "(x=y)", attributes := ["cn"] }) table ("o=a" :: bases)
        ([found] :: lists) table :=
    fun hrest => .cons (.read rfl (.gives rfl rfl (.ends rfl)) rfl) hrest
  have hsecond : session.BringsInTurn session.GivesAll
      ({ base := ·, filter := "(x=y)", attributes := ["cn"] }) table ["o=b"] [[missing]] table :=
    .cons (.read rfl (.gives rfl rfl (.ends rfl)) rfl) .nil
  obtain ⟨hvalues, -, hone⟩ := session.nulls_read_as_text ["o=a"] "(x=y)" "cn" table
  obtain ⟨-, -, hboth⟩ := session.nulls_read_as_text ["o=a", "o=b"] "(x=y)" "cn" table
  obtain ⟨hdone, hdone', -⟩ := hboth _ _ (hfirst hsecond) (by simpa using hnames)
  obtain ⟨-, -, hsame⟩ := hone _ _ (hfirst .nil) (by simpa using hnames.1)
  have hmissing := (hvalues missing "cn" hnames.2).2 hnull.2
  refine ⟨⟨(hvalues found "cn" hnames.1).1 hnull.1, hmissing⟩, ?_, ?_,
    hsame (by simpa using hnull.1)⟩
  · refine hdone.trans (eq_ok_of_toOption (by decide +kernel))
  · refine hdone'.trans (eq_ok_of_toOption (by decide +kernel))

/-- **A group name is made up from a missing value**: the only attribute of the entry is null,
and yet it has the value "None", which is collected as a name; without the null attribute there
is none. -/
theorem null_attribute_collected :
    let entry : Entry := { dn := some "cn=g", attributes := some [("cn", .null)] }
    let table : AnswerTable := [("o=x", { form := .plain, entries := [entry] })]
    let session := AnswerTable.session
    let without := session.mapEntries Entry.withoutNulls
    (entry.values "cn" = some ["None"] ∧ entry.withoutNulls.values "cn" = none)
      ∧ (session.collect ["o=x"] "(x=y)" "cn" table).result = .ok ["None"]
      ∧ (without.collect ["o=x"] "(x=y)" "cn" table).result = .ok [] := by
  intro entry table session without
  refine ⟨by decide +kernel, ?_, ?_⟩
  · exact eq_ok_of_toOption (by decide +kernel)
  · exact eq_ok_of_toOption (by decide +kernel)

end Session

end DirectoryGroups
