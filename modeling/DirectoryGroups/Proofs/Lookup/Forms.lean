/-
DirectoryGroups/Proofs/Lookup/Forms.lean

Collecting values whatever the form in which they are delivered.

The values of an entry are the same in all the forms in which it may be delivered, and so what is
collected from a session does not change if each of its entries comes in another form.

Main result: `Session.values_in_any_form`.
-/
import DirectoryGroups.Proofs.Lookup.Mirrors
import DirectoryGroups.Proofs.Paging.Forms

namespace DirectoryGroups

theorem Entry.valueList_of_sameButForm {entry entry' : Entry} (h : entry.SameButForm entry')
    (attr : String) : entry.valueList attr = entry'.valueList attr := by
  rw [Entry.valueList, Entry.valueList, Entry.values_of_sameButForm h]

namespace Session

theorem flatMap_valueList_of_sameButForm (attr : String) {lists lists' : List (List Entry)}
    (h : List.Forall₂ (List.Forall₂ Entry.SameButForm) lists lists') :
    (lists.flatMap fun entries => entries.flatMap (Entry.valueList attr))
      = lists'.flatMap fun entries => entries.flatMap (Entry.valueList attr) := by
  have hflat := List.rel_flatMap h fun _ _ hentries => List.rel_flatMap hentries
    fun _ _ hentry => List.forall₂_eq_eq_eq ▸ Entry.valueList_of_sameButForm hentry attr
  rwa [List.forall₂_eq_eq_eq] at hflat

/-- **The values of a session are the same in any form.** -/
theorem Mirrors.collect_eq_of_forms {σ σ' κ κ' : Type} {session : Session σ κ}
    {session' : Session σ' κ'} {states : σ → σ' → Prop} {cursors : κ × σ → κ' × σ' → Prop}
    (h : session.Mirrors session' Entry.SameButForm states cursors) {s : σ} {s' : σ'}
    (hs : states s s') (bases : List String) (filter attr : String) :
    (session'.collect bases filter attr s').result
      = (session.collect bases filter attr s).result := by
  have hagree : ResultsAgree Eq Eq (session.collect bases filter attr s).result
      (session'.collect bases filter attr s').result := by
    exact h.collect (flatMap_valueList_of_sameButForm attr) bases filter hs
  exact (hagree.eq fun _ _ => id).symm

/-- **The form in which values are delivered does not matter.**

An entry in another form has the same values, whatever the name.  If a session mirrors another
one, with entries in other forms, then the same names are collected from it, or the same failure
is raised.  In particular this holds of the session that gives each entry of another one in some
other form, and of a paged session on scripts whose pages hold their items in other forms. -/
theorem values_in_any_form :
    (∀ {entry entry' : Entry}, entry.SameButForm entry' →
        ∀ name, entry'.values name = entry.values name)
      ∧ (∀ {σ σ' κ κ' : Type} {session : Session σ κ} {session' : Session σ' κ'}
          {states : σ → σ' → Prop} {cursors : κ × σ → κ' × σ' → Prop},
          session.Mirrors session' Entry.SameButForm states cursors →
          ∀ {s s'}, states s s' → ∀ bases filter attr,
            (session'.collect bases filter attr s').result
              = (session.collect bases filter attr s).result)
      ∧ (∀ {σ κ : Type} (session : Session σ κ) {form : Entry → Entry},
          (∀ entry : Entry, entry.SameButForm (form entry)) → ∀ s bases filter attr,
            ((session.mapEntries form).collect bases filter attr s).result
              = (session.collect bases filter attr s).result)
      ∧ ∀ (paging : Paging) {connection connection' : Connection},
          connection.Related Page.SameButForm connection' → ∀ bases filter attr,
            (paging.session.collect bases filter attr connection').result
              = (paging.session.collect bases filter attr connection).result := by
  refine ⟨Entry.values_of_sameButForm, Mirrors.collect_eq_of_forms, ?_, ?_⟩
  · intro σ κ session form hform s
    exact (session.mirrors_mapEntries hform Entry.SameButForm.unreadable).collect_eq_of_forms rfl
  · intro paging connection connection' hscripts
    exact paging.mirrors.collect_eq_of_forms hscripts

/-- A text may come as a list with its octets, and a list as one of fixed length: in two pages,
the second of which may come first, and in a table whose lists are all made ones of fixed length.
-/
theorem values_in_any_form_of_staff :
    let staff : Value := .text "staff"
    let staff' : Value := .list [.octets [115, 116, 97, 102, 102]]
    let rooms : Value := .list [.text "ü", .int 3]
    let rooms' : Value := .tuple [.octets [195, 188], .int 3]
    let fixed : Value → Value
      | .list items => .tuple items
      | value => value
    let entry (value : Value) : Entry := { dn := some "cn=a", attributes := some [("CN", value)] }
    let item (value : Value) : Item :=
      { kind := some "searchResEntry", dn := some "cn=a", attributes := some [("CN", value)] }
    let more : SearchResult := { controls := [(SearchResult.pagedControl, some [1])] }
    let pages (value value' : Value) : Connection :=
      { script := [{ answer := { items := some [item value], result := some more } },
                   { answer := { items := some [item value'] } }] }
    let table : AnswerTable := [("o=a", { entries := [entry staff, entry rooms] })]
    let session := Paging.session {}
    (entry rooms').values "cn" = some ["ü", "3"]
      ∧ (session.collect ["o=a"] "(x=y)" "cn" (pages staff' rooms')).result
        = .ok ["staff", "ü", "3"]
      ∧ (session.collect ["o=a"] "(x=y)" "cn" (pages rooms' staff')).result
        = .ok ["ü", "3", "staff"]
      ∧ ((AnswerTable.session.mapEntries (Entry.mapValues fixed)).collect ["o=a"] "(x=y)" "cn"
          table).result = .ok ["staff", "ü", "3"] := by
  intro staff staff' rooms rooms' fixed entry item more pages table session
  -- The text is made a list first and encoded then, the list fixed first.
  have hstaff : staff.SameButForm staff' := by
    have hitem : Value.Recast (.list ([] ++ .text "staff" :: []))
        (.list ([] ++ .octets (Utf8.encode "staff".toList) :: [])) := .encodedItem "staff"
    exact .trans _ _ _ (.rel _ _ (.wrapped trivial)) (.rel _ _ hitem)
  have hrooms : rooms.SameButForm rooms' := by
    have hitem : Value.Recast (.tuple ([] ++ .text "ü" :: [.int 3]))
        (.tuple ([] ++ .octets (Utf8.encode "ü".toList) :: [.int 3])) := .encodedMember "ü"
    exact .trans _ _ _ (.rel _ _ (.fixed _)) (.rel _ _ hitem)
  have hentry : (entry rooms).SameButForm (entry rooms') :=
    ⟨rfl, .some (.cons ⟨rfl, hrooms⟩ .nil), rfl⟩
  have hitem : ∀ {value value'}, value.SameButForm value' →
      (item value).SameButForm (item value') :=
    fun hvalue => ⟨rfl, rfl, .some (.cons ⟨rfl, hvalue⟩ .nil)⟩
  have hpages : ∀ {first first' second second' : Value}, first.SameButForm first' →
      second.SameButForm second' →
      (pages first second).Related Page.SameButForm (pages first' second') :=
    fun hfirst hsecond => .cons ⟨rfl, rfl, rfl, rfl, .cons (hitem hfirst) .nil⟩
      (.cons ⟨rfl, rfl, rfl, rfl, .cons (hitem hsecond) .nil⟩ .nil)
  have hfixed : ∀ value : Value, value.SameButForm (fixed value) := by
    intro value
    simp only [fixed]
    split
    · exact .rel _ _ (.fixed _)
    · exact .refl _
  obtain ⟨hvalues, hmirrors, hmapped, hpaged⟩ := values_in_any_form
  refine ⟨?_, ?_, ?_, ?_⟩
  · exact (hvalues hentry "cn").trans (by decide +kernel)
  · exact (hpaged {} (hpages hstaff hrooms) _ _ _).trans (eq_ok_of_toOption (by decide +kernel))
  · exact (hmirrors (Paging.mirrors {}) (hpages hrooms hstaff) _ _ _).trans
      (eq_ok_of_toOption (by decide +kernel))
  · exact (hmapped _ (Entry.sameButForm_mapValues hfixed) _ _ _ _).trans
      (eq_ok_of_toOption (by decide +kernel))

end Session

end DirectoryGroups
