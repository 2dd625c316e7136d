/-
DirectoryGroups/Proofs/Lookup/Paged.lean

Lookups over a paged session.

Each stage of a lookup ends in one of a few ways, told apart by the pages that it
asked for: searching for a user (`UserSearch`), collecting values, and the lookup
as a whole (`GroupLookup`).  In all of them a page that fails is the last one and
its fault is what the stage fails with.

Main result: a lookup of groups ends in one of these ways (`reads_groups`).
-/
import DirectoryGroups.Proofs.Filter.Membership
import DirectoryGroups.Proofs.Name.Parsed
import DirectoryGroups.Proofs.Paging.Reading

namespace DirectoryGroups

/-! ### Values below a base -/

/-- The values of an attribute that a group's entry counts for. -/
def Entry.valueList (attr : String) (entry : Entry) : List String :=
  (entry.values attr).getD []

/-- How collecting the values of an attribute ends. -/
inductive Collecting (attr : String) (pages : List Page) : Except Failure (List String) → Prop
  | fault {base fault} :
      EndsIn fault pages → Collecting attr pages (.error (fault.failure base))
  | done :
      Faultless pages →
      Collecting attr pages (.ok ((entriesOf pages).flatMap (Entry.valueList attr)))

namespace Paging

/-- Collecting the values below one base asks for all pages of the search. -/
theorem reads_valuesBelow (paging : Paging) (filter attr base : String)
    (connection : Connection) :
    ∃ result after, (paging.session.valuesBelow filter attr base).Reads connection
      (searchPages connection.script) result after
        ∧ Collecting attr (searchPages connection.script) result := by
  have hread : ∀ entry : Entry, entry.unreadable = none →
      (entry.read attr).map (·.getD []) = .ok (entry.valueList attr) := by
    intro entry hentry
    simp [Entry.read, hentry, Except.map, Entry.valueList]
  have hreport : ∀ names : List String,
      requestsAmong (names.map fun name => .logged (.groupFound name base)) = [] := by
    intro names
    induction names with
    | nil => rfl
    | cons name names ih => exact ih
  obtain ⟨hserved, hscript, hresult⟩ := paging.forEach_spec hread hreport
    (.fresh { base, filter, attributes := [attr] }, connection) rfl
  obtain ⟨after, hreads⟩ := paging.reads_withCursor _ rfl hserved hscript
  rcases hresult with ⟨hpages, hvalues⟩ | ⟨fault, hpages, hfailure⟩
  · rw [hvalues] at hreads
    refine ⟨_, after, hreads.bind_last (.pure _), ?_⟩
    rw [PagedCursor.atHand_fresh, List.nil_append, ← List.flatMap_def]
    exact .done hpages
  · rw [hfailure] at hreads
    exact ⟨_, after, hreads.bind_error, .fault hpages⟩

theorem reads_valuesBelowAll (paging : Paging) (filter attr : String) (bases : List String)
    (connection : Connection) :
    ∃ pages result after, (paging.session.valuesBelowAll filter attr bases).Reads connection
      pages result after ∧ Collecting attr pages result := by
  induction bases generalizing connection with
  | nil => exact ⟨[], _, connection, .pure [], .done .nil⟩
  | cons base bases ih =>
    obtain ⟨_, middle, hreads, hfirst⟩ :=
      paging.reads_valuesBelow filter attr base connection
    cases hfirst with
    | fault hpages =>
      -- The bases behind a fault are never reached.
      exact ⟨_, _, middle, hreads.bind_error, .fault hpages⟩
    | done hpages =>
      obtain ⟨more, _, after, hreads', hrest⟩ := ih middle
      cases hrest with
      | fault hmore =>
        exact ⟨_, _, after, hreads.bind_ok hreads'.bind_error,
          .fault (hpages.append_endsIn hmore)⟩
      | done hmore =>
        refine ⟨_, _, after, hreads.bind_ok (hreads'.bind_last (.pure _)), ?_⟩
        rw [← List.flatMap_append, ← entriesOf_append]
        exact .done (hpages.append hmore)

end Paging

/-! ### Users -/

/-- How the search for a user ends. -/
inductive UserSearch (username : String) (pages : List Page) :
    Except Failure (Option DistinguishedName) → Prop
  | fault {base fault} :
      EndsIn fault pages → UserSearch username pages (.error (fault.failure base))
  | badName {entry error} :
      Faultless pages → (entriesOf pages).head? = some entry →
      DistinguishedName.parse entry.dn = .error error →
      UserSearch username pages (.error (.lookup (.badName username entry.dn error)))
  | found {entry dn} :
      Faultless pages → (entriesOf pages).head? = some entry →
      DistinguishedName.parse entry.dn = .ok dn →
      UserSearch username pages (.ok (some dn))
  | nobody :
      Faultless pages → entriesOf pages = [] → UserSearch username pages (.ok none)

namespace UserSearch

variable {username : String} {pages more : List Page}
  {result : Except Failure (Option DistinguishedName)}

/-- Pages without an entry, before those of a search for a user. -/
theorem after_none (hpages : Faultless pages) (hnone : entriesOf pages = [])
    (h : UserSearch username more result) : UserSearch username (pages ++ more) result := by
  have hentries : entriesOf (pages ++ more) = entriesOf more := by
    rw [entriesOf_append, hnone, List.nil_append]
  cases h with
  | fault hmore => exact .fault (hpages.append_endsIn hmore)
  | badName hmore hentry herror =>
    exact .badName (hpages.append hmore) (by rw [hentries, hentry]) herror
  | found hmore hentry hdn =>
    exact .found (hpages.append hmore) (by rw [hentries, hentry]) hdn
  | nobody hmore hempty =>
    exact .nobody (hpages.append hmore) (by rw [hentries, hempty])

end UserSearch

namespace Paging

theorem reads_findUser (paging : Paging) (username filter : String) (bases : List String)
    (connection : Connection) :
    ∃ pages result after, (paging.session.findUser username filter bases).Reads connection
      pages result after ∧ UserSearch username pages result := by
  induction bases generalizing connection with
  | nil => exact ⟨[], _, connection, .pure none, .nobody .nil rfl⟩
  | cons base bases ih =>
    obtain ⟨pages, _, middle, hreads, ⟨hpages, rfl⟩ | ⟨fault, hpages, rfl⟩⟩ :=
      paging.reads_first { base, filter } connection
    · rcases hentry : (entriesOf pages).head? with - | entry
      · obtain ⟨more, result, after, hreads', hrest⟩ := ih middle
        rw [hentry] at hreads
        exact ⟨pages ++ more, result, after, hreads.bind_ok hreads',
          hrest.after_none hpages (List.head?_eq_none_iff.mp hentry)⟩
      · rw [hentry] at hreads
        -- The first entry decides by its name, and the bases behind are not searched.
        rcases hdn : DistinguishedName.parse entry.dn with error | dn
        · have hstop : (Step.ofLookup (Session.entryName username entry)).Reads middle []
              (.error (.lookup (.badName username entry.dn error))) middle := by
            rw [Session.entryName_of_error hdn]
            exact .ofExcept _
          exact ⟨pages, _, middle, hreads.bind_last hstop.bind_error, .badName hpages hentry hdn⟩
        · have hgo : (Step.ofLookup (Session.entryName username entry)).Reads middle []
              (.ok dn) middle := by
            rw [Session.entryName_of_ok hdn]
            exact .ofExcept _
          exact ⟨pages, _, middle,
            hreads.bind_last (hgo.bind_silent (Step.Reads.bind_silent (.log _) (.pure (some dn)))),
            .found hpages hentry hdn⟩
    · exact ⟨pages, _, middle, hreads.bind_error, .fault hpages⟩

theorem reads_resolve (paging : Paging) (config : Config) (username : String)
    (connection : Connection) :
    ∃ pages result after, (paging.session.resolve config username).Reads connection
      pages result after ∧ UserSearch username pages result := by
  unfold Session.resolve
  split
  · exact ⟨[], _, connection, .pure none, .nobody .nil rfl⟩
  · obtain ⟨pages, _, after, hreads, hsearch⟩ :=
      paging.reads_findUser username (config.userFilterFor username) config.userBases connection
    cases hsearch with
    | fault hpages => exact ⟨pages, _, after, hreads.bind_error, .fault hpages⟩
    | badName hpages hentry herror =>
      exact ⟨pages, _, after, hreads.bind_error, .badName hpages hentry herror⟩
    | found hpages hentry hdn =>
      exact ⟨pages, _, after, hreads.bind_last (.pure _), .found hpages hentry hdn⟩
    | nobody hpages hempty =>
      exact ⟨pages, _, after, hreads.bind_last (Step.Reads.bind_silent (.log _) (.pure none)),
        .nobody hpages hempty⟩

end Paging

/-! ### Groups -/

/-- How a lookup of groups ends. -/
inductive GroupLookup (config : Config) (username : String) (pages : List Page) :
    Except Failure (List String) → Prop
  | unset :
      config.requiredMembership = .error .membershipUnset → pages = [] →
      GroupLookup config username pages (.error (.lookup .membershipUnset))
  | fault {attr base fault} :
      config.requiredMembership = .ok attr → EndsIn fault pages →
      GroupLookup config username pages (.error (fault.failure base))
  | badName {attr entry error} :
      config.requiredMembership = .ok attr → Faultless pages →
      (entriesOf pages).head? = some entry → DistinguishedName.parse entry.dn = .error error →
      GroupLookup config username pages (.error (.lookup (.badName username entry.dn error)))
  | done {attr names} :
      config.requiredMembership = .ok attr → Faultless pages →
      (∀ entry, (entriesOf pages).head? = some entry →
        ∃ dn, DistinguishedName.parse entry.dn = .ok dn) →
      GroupLookup config username pages (.ok names)

namespace Paging

theorem reads_groupsOf (paging : Paging) {config : Config} {attr : String}
    (hattr : config.requiredMembership = .ok attr) {dn : DistinguishedName}
    (hdn : dn.components ≠ []) (connection : Connection) :
    ∃ pages result after, (paging.session.groupsOf config dn).Reads connection pages result after
      ∧ Collecting config.groupNameAttribute pages result := by
  obtain ⟨filter, hfilter⟩ := Config.exists_membershipFilter hattr hdn
  obtain ⟨pages, result, after, hreads, hcollecting⟩ := paging.reads_valuesBelowAll filter
    config.groupNameAttribute config.groupBases connection
  refine ⟨pages, result, after, ?_, hcollecting⟩
  have hcollect : (paging.session.collect config.groupBases filter
      config.groupNameAttribute).Reads connection pages result after :=
    Step.Reads.bind_silent (.log _) hreads
  unfold Session.groupsOf
  rw [hfilter]
  refine Step.Reads.bind_silent (.ofExcept _) ?_
  split
  · exact Step.Reads.bind_silent (.log _) (Step.Reads.bind_silent (.log _) hcollect)
  · exact Step.Reads.bind_silent (.log _) hcollect

/-- **A lookup of groups** ends as the pages it asked for make it end. -/
theorem reads_groups (paging : Paging) (config : Config) (username : String)
    (connection : Connection) :
    ∃ pages result after, (paging.session.groups config username .search).Reads connection
      pages result after ∧ GroupLookup config username pages result := by
  unfold Session.groups
  rcases hattr : config.requiredMembership with error | attr
  · obtain rfl : error = .membershipUnset := by
      unfold Config.requiredMembership at hattr
      split at hattr
      · exact (Except.error.inj hattr).symm
      · split at hattr
        · exact (Except.error.inj hattr).symm
        · cases hattr
    exact ⟨[], _, connection, Step.Reads.bind_error (.ofExcept _), .unset hattr rfl⟩
  · obtain ⟨pages, _, middle, hreads, hsearch⟩ := paging.reads_resolve config username connection
    cases hsearch with
    | fault hpages =>
      exact ⟨pages, _, middle, Step.Reads.bind_silent (.ofExcept _) hreads.bind_error,
        .fault hattr hpages⟩
    | badName hpages hentry herror =>
      exact ⟨pages, _, middle, Step.Reads.bind_silent (.ofExcept _) hreads.bind_error,
        .badName hattr hpages hentry herror⟩
    | nobody hpages hempty =>
      refine ⟨pages, _, middle, Step.Reads.bind_silent (.ofExcept _) (hreads.bind_last
        (Step.Reads.bind_silent (.log _) (.pure []))), .done hattr hpages ?_⟩
      intro entry hentry
      -- There is no entry whose name could be read or not.
      rw [hempty] at hentry
      cases hentry
    | @found entry dn hpages hentry hdn =>
      -- The user's entry stays the first one, whatever the groups' pages hold.
      obtain ⟨more, _, after, hreads', hcollecting⟩ :=
        paging.reads_groupsOf hattr (DistinguishedName.components_ne_nil hdn) middle
      have hhead : (entriesOf (pages ++ more)).head? = some entry := by
        rw [entriesOf_append, List.head?_append, hentry, Option.some_or]
      cases hcollecting with
      | fault hmore =>
        exact ⟨pages ++ more, _, after, Step.Reads.bind_silent (.ofExcept _)
          (hreads.bind_ok hreads'), .fault hattr (hpages.append_endsIn hmore)⟩
      | done hmore =>
        refine ⟨pages ++ more, _, after, Step.Reads.bind_silent (.ofExcept _)
          (hreads.bind_ok hreads'), .done hattr (hpages.append hmore) ?_⟩
        intro other hother
        rw [hhead] at hother
        obtain rfl := Option.some.inj hother
        exact ⟨dn, hdn⟩

end Paging

end DirectoryGroups
