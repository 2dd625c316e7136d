/-
DirectoryGroups/Proofs/Lookup/Orderly.lean

Lookups leave no cursor open.

Every stage of a lookup, from the search for a user to the collecting of group names,
consists of visits, one after another: each cursor is closed before the next search is
made, and after a failure there is no further search.  This holds of every session that
tells of its cursors, whatever its searches bring and wherever something is raised.

Main result: `lookups_are_orderly`.
-/
import DirectoryGroups.Lookup.Basic
import DirectoryGroups.Proofs.Session.Visits

namespace DirectoryGroups

/-- A resolver that searches the session, or one that leaves it alone. -/
def Resolver.Quiet {σ : Type} : Resolver σ → Prop
  | search => True
  | supplied answer => ∀ username config s,
    (answer username config s).state = s ∧ told (answer username config s).trace = []

namespace Session

variable {σ κ : Type} {session : Session σ κ} {view : κ → CursorView}

/-! ### Users -/

theorem orderly_findUser (htells : session.Tells view) (username filter : String)
    (bases : List String) : session.Orderly view (session.findUser username filter bases) := by
  induction bases with
  | nil => exact .pure none
  | cons base bases ih =>
    refine .bind (orderly_first htells _) fun found => ?_
    cases found with
    | none => exact ih
    | some entry => exact .bind (.ofExcept _) fun dn => .bind (.log _) fun _ => .pure (some dn)

theorem orderly_resolve (htells : session.Tells view) (config : Config) (username : String) :
    session.Orderly view (session.resolve config username) := by
  unfold resolve
  split
  · exact .pure none
  · refine .bind (orderly_findUser htells _ _ _) fun found => ?_
    cases found with
    | none => exact .bind (.log _) fun _ => .pure none
    | some dn => exact .pure (some dn)

theorem orderly_resolver (htells : session.Tells view) (config : Config) (username : String)
    {resolver : Resolver σ} (hquiet : resolver.Quiet) :
    session.Orderly view (resolver.resolve session config username) := by
  cases resolver with
  | search => exact orderly_resolve htells config username
  | supplied answer =>
    -- Asking a supplied resolver is told of as such, and cursors have no part in it.
    refine .bind (.silent (fun _ => rfl) fun _ => rfl) fun _ => ?_
    exact .silent (fun s => (hquiet username config s).1) fun s => (hquiet username config s).2

/-! ### Groups -/

theorem orderly_valuesBelow (htells : session.Tells view) (filter attr base : String) :
    session.Orderly view (session.valuesBelow filter attr base) := by
  -- Two things to show: what raises is the reading of an entry, and names are only logged.
  refine .bind (orderly_all htells _ ?_ ?_) fun values => .pure values.flatten
  · intro entry failure h
    refine ⟨attr, ?_⟩
    rcases hread : entry.read attr with other | names
    · rw [hread] at h
      exact congrArg _ (Except.error.inj h)
    · rw [hread] at h
      cases h
  · intro names
    induction names with
    | nil => rfl
    | cons name names ih => exact ih

theorem orderly_valuesBelowAll (htells : session.Tells view) (filter attr : String)
    (bases : List String) : session.Orderly view (session.valuesBelowAll filter attr bases) := by
  induction bases with
  | nil => exact .pure []
  | cons base bases ih =>
    exact .bind (orderly_valuesBelow htells filter attr base) fun names =>
      .bind ih fun more => .pure (names ++ more)

theorem orderly_collect (htells : session.Tells view) (bases : List String)
    (filter attr : String) : session.Orderly view (session.collect bases filter attr) :=
  .bind (.log _) fun _ => orderly_valuesBelowAll htells filter attr bases

theorem orderly_groupsOf (htells : session.Tells view) (config : Config)
    (dn : DistinguishedName) : session.Orderly view (session.groupsOf config dn) := by
  refine .bind (.ofExcept _) fun filter => ?_
  have hrest := orderly_collect htells config.groupBases filter config.groupNameAttribute
  split
  · exact .bind (.log _) fun _ => .bind (.log _) fun _ => hrest
  · exact .bind (.log _) fun _ => hrest

theorem orderly_groups (htells : session.Tells view) (config : Config) (username : String)
    {resolver : Resolver σ} (hquiet : resolver.Quiet) :
    session.Orderly view (session.groups config username resolver) := by
  refine .bind (.ofExcept _) fun _ => .bind (orderly_resolver htells config username hquiet) ?_
  intro found
  cases found with
  | none => exact .bind (.log _) fun _ => .pure []
  | some dn => exact orderly_groupsOf htells config dn

/-- **Lookups leave no cursor open.**

Let a session tell of its cursors, which may be lazy, closable or plain lists, and let
anything fail at any point: a search, a cursor, the reading of an entry, the closing of a
cursor.  Whatever is collected, resolved or looked up, the life of one cursor comes after
that of another: the search, the entries that were taken, and then, unless the search
failed or the cursor is a plain list, exactly one closing.  If something was raised
meanwhile, no other search follows, and that is what everything ends with; a failure of
closing takes the place of one before. -/
theorem lookups_are_orderly (session : Session σ κ) (view : κ → CursorView)
    (htells : session.Tells view) :
    (∀ bases filter attr, session.Orderly view (session.collect bases filter attr))
      ∧ (∀ config username, session.Orderly view (session.resolve config username))
      ∧ ∀ config username (resolver : Resolver σ), resolver.Quiet →
        session.Orderly view (session.groups config username resolver) :=
  ⟨orderly_collect htells, orderly_resolve htells, fun config username _ hquiet =>
    orderly_groups htells config username hquiet⟩

/-- The user comes from a lazy cursor that would fail later on.  Groups are read from a
plain list and from a closable cursor, whose second entry cannot be read and which fails
once more when it is closed; so the last base is not searched. -/
theorem lookups_are_orderly_over_table :
    let broken : Failure := .foreign "RuntimeError" "boom"
    let group : Entry := { dn := some "cn=g", attributes := some [("cn", .text "staff")] }
    let table : AnswerTable :=
      [("o=users", { entries := [{ dn := some "uid=ada,o=x" }], failure := some broken }),
        ("o=a", { form := .plain, entries := [group] }),
        ("o=b", { form := .closable, closeFailure := some broken,
                  entries := [group, { dn := none, unreadable := some broken }, group] })]
    let config : Config :=
      { groupBases := ["o=a", "o=b", "o=c"], groupFilter := "(objectClass=groupOfNames)",
        groupNameAttribute := "cn", membershipAttribute := some "member",
        userBases := ["o=none", "o=users"], userFilter := "(uid=?)" }
    let session := AnswerTable.session
    let done := session.groups config "ada" .search table
    let groupQuery (base : String) : Query :=
      { base, filter := "(&(objectClass=groupOfNames)(member=uid=ada,o=x))", attributes := ["cn"] }
    session.Tells TableCursor.view ∧ (Resolver.search : Resolver AnswerTable).Quiet
      ∧ session.Orderly TableCursor.view (session.collect ["o=b", "o=a"] "(cn=*)" "cn")
      ∧ session.Orderly TableCursor.view (session.resolve config "ada")
      ∧ session.Orderly TableCursor.view (session.groups config "ada" .search)
      ∧ cursorEvents done.trace
        = [.searched { base := "o=none", filter := "(uid=ada)" }, .session (.closed "o=none"),
            .searched { base := "o=users", filter := "(uid=ada)" }, .session (.gave "o=users"),
            .session (.closed "o=users"), .searched (groupQuery "o=a"),
            .searched (groupQuery "o=b"), .session (.gave "o=b"), .session (.gave "o=b"),
            .session (.closed "o=b")] := by
  intro broken group table config session done groupQuery
  have htells : session.Tells TableCursor.view := AnswerTable.tells
  obtain ⟨hcollect, hresolve, hgroups⟩ :=
    lookups_are_orderly session TableCursor.view htells
  exact ⟨htells, trivial, hcollect _ _ _, hresolve config "ada",
    hgroups config "ada" .search trivial, by decide +kernel⟩

end Session

end DirectoryGroups
