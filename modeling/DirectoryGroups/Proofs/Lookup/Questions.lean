/-
DirectoryGroups/Proofs/Lookup/Questions.lean

What a lookup asks, and in which order.

Every stage of a lookup asks a beginning of the questions that it has to ask, in their order,
and all of them if it succeeds.  For the bases that are gone through this follows from how the
search for a user and the collecting of values end (`questions_findUser`,
`questions_valuesBelowAll`).

The lookup itself first checks its configuration, then asks who the user is, then builds the
filter, and then searches for groups; what fails on the way ends it at that point
(`AskedInOrder`).  This holds of every session, every resolver and every failure.

Main result: `groups_asked_in_order`.
-/
import DirectoryGroups.Proofs.Filter.Membership
import DirectoryGroups.Proofs.Lookup.Aggregation
import DirectoryGroups.Proofs.Lookup.FirstMatch

namespace DirectoryGroups

namespace Session

variable {σ κ α : Type} (session : Session σ κ)

/-! ### Users -/

/-- Searching for a user asks the first bases, one by one. -/
theorem questions_findUser (username filter : String) (bases : List String) (s : σ) :
    ∃ front, front <+: bases
      ∧ questions (session.findUser username filter bases s).trace
        = front.map fun base => .searched { base, filter } := by
  obtain ⟨asked, hmatch, hasked⟩ := session.firstMatch_findUser username filter bases s
  exact ⟨asked, hmatch.asked_prefix, hasked⟩

/-- Resolving a username by search asks the first bases for users, one by one; the empty
username belongs to nobody, and nothing is asked. -/
theorem questions_resolve (config : Config) (username : String) (s : σ) :
    (∃ front, front <+: config.userBases
      ∧ questions (session.resolve config username s).trace
        = front.map fun base => .searched { base, filter := config.userFilterFor username })
      ∧ (username = "" → session.resolve config username s = ⟨.ok none, s, []⟩) := by
  by_cases hname : username = ""
  · have hnobody : session.resolve config username s = ⟨.ok none, s, []⟩ := by
      rw [resolve, if_pos (String.isEmpty_iff.mpr hname)]
      rfl
    rw [hnobody]
    exact ⟨⟨[], List.nil_prefix, rfl⟩, fun _ => rfl⟩
  · refine ⟨?_, fun h => absurd h hname⟩
    obtain ⟨front, hfront, hasked⟩ :=
      session.questions_findUser username (config.userFilterFor username) config.userBases s
    refine ⟨front, hfront, ?_⟩
    rw [← hasked, resolve, if_neg (by simpa using hname)]
    -- That nobody was found is logged, and logging is no question.
    refine questions_bind_silent ?_ s
    rintro (- | dn) s' <;> rfl

/-! ### Groups -/

/-- Collecting the values below several bases asks the first of them, one by one, and all of
them if it succeeds. -/
theorem questions_valuesBelowAll (filter attr : String) (bases : List String) (s : σ) :
    ∃ front, front <+: bases
      ∧ questions (session.valuesBelowAll filter attr bases s).trace
        = front.map (fun base => .searched { base, filter, attributes := [attr] })
      ∧ ∀ names, (session.valuesBelowAll filter attr bases s).result = .ok names →
        front = bases := by
  obtain ⟨asked, hcollects, hasked⟩ := session.collects_valuesBelowAll filter attr bases s
  exact ⟨asked, hcollects.asked_prefix, hasked, fun _ hnames => hcollects.asked_eq hnames⟩

/-- Once there is a filter, the groups of a name are the values that it finds, and only what
is logged comes before. -/
theorem groupsOf_of_filter {config : Config} {dn : DistinguishedName} {filter : String}
    (h : config.membershipFilter dn = .ok filter) (s : σ) :
    let found := session.valuesBelowAll filter config.groupNameAttribute config.groupBases s
    ∃ logs, session.groupsOf config dn s = ⟨found.result, found.state, logs ++ found.trace⟩
      ∧ questions logs = [] := by
  rw [groupsOf, h]
  cases config.listsIdentifiers with
  | true =>
    exact ⟨[.logged (.readingGroups config.membershipAttribute),
      .logged (.collecting config.groupBases filter config.groupNameAttribute)], rfl, rfl⟩
  | false =>
    exact ⟨[.logged (.nameEscaped dn.filterText),
      .logged (.readingGroups config.membershipAttribute),
      .logged (.collecting config.groupBases filter config.groupNameAttribute)], rfl, rfl⟩

/-! ### The lookup -/

section Lookup

variable {config : Config} {username : String} {resolver : Resolver σ} {s s' : σ}
  {trace : List Happening}

/-- Without a membership attribute the lookup fails at once. -/
theorem groups_of_unset (h : config.LacksMembership) :
    session.groups config username resolver s = ⟨.error (.lookup .membershipUnset), s, []⟩ := by
  rw [groups, (config.requiredMembership_eq_error_iff).mpr h]
  rfl

/-- Otherwise it asks who the user is, and goes on with the answer. -/
theorem groups_of_set (h : ¬ config.LacksMembership) :
    session.groups config username resolver
      = resolver.resolve session config username >>= fun found => found.elim
        (Step.log (.nobody username) >>= fun _ => pure []) (session.groupsOf config) := by
  obtain ⟨attr, hattr⟩ := Config.exists_requiredMembership h
  rw [groups, hattr]
  refine congrArg (resolver.resolve session config username >>= ·) ?_
  funext found
  cases found <;> rfl

theorem groups_of_failed (h : ¬ config.LacksMembership) {failure : Failure}
    (hasked : resolver.resolve session config username s = ⟨.error failure, s', trace⟩) :
    session.groups config username resolver s = ⟨.error failure, s', trace⟩ := by
  rw [session.groups_of_set h]
  exact Step.bind_of_error hasked

theorem groups_of_nobody (h : ¬ config.LacksMembership)
    (hasked : resolver.resolve session config username s = ⟨.ok none, s', trace⟩) :
    session.groups config username resolver s
      = ⟨.ok [], s', trace ++ [.logged (.nobody username)]⟩ := by
  rw [session.groups_of_set h]
  exact Step.bind_of_ok hasked

theorem groups_of_known (h : ¬ config.LacksMembership) {dn : DistinguishedName}
    (hasked : resolver.resolve session config username s = ⟨.ok (some dn), s', trace⟩) :
    session.groups config username resolver s
      = ⟨(session.groupsOf config dn s').result, (session.groupsOf config dn s').state,
          trace ++ (session.groupsOf config dn s').trace⟩ := by
  rw [session.groups_of_set h]
  exact Step.bind_of_ok hasked

end Lookup

/-- The order of a lookup of groups that began in `s` and was `done` in the end, where `asked`
is what became of the question who the user is. -/
structure AskedInOrder (config : Config) (username : String) (s : σ)
    (asked : Outcome σ Happening (Option DistinguishedName))
    (done : Outcome σ Happening (List String)) : Prop where
  /-- Without a membership attribute the lookup fails at once. -/
  unset : config.LacksMembership → done = ⟨.error (.lookup .membershipUnset), s, []⟩
  /-- Otherwise the first question is who the user is; if that fails, so does the lookup. -/
  failed : ¬ config.LacksMembership → ∀ failure, asked.result = .error failure →
    done = ⟨.error failure, asked.state, asked.trace⟩
  /-- Nobody belongs to no group, and no group is searched for. -/
  nobody : ¬ config.LacksMembership → asked.result = .ok none →
    done = ⟨.ok [], asked.state, asked.trace ++ [.logged (.nobody username)]⟩
  /-- Where groups list identifiers, a name without components has no filter, and the lookup
  fails before it searches for groups. -/
  noFilter : ¬ config.LacksMembership → ∀ dn, asked.result = .ok (some dn) →
    config.listsIdentifiers = true → dn.components = [] →
    done = ⟨.error (.name .noLeaf), asked.state, asked.trace⟩
  /-- For every other name there is a filter, and each further question is a search for the
  name attribute of groups with this filter.  The bases are the first ones, in order, and all
  of them if the lookup succeeds. -/
  searches : ¬ config.LacksMembership → ∀ dn, asked.result = .ok (some dn) →
    ¬ (config.listsIdentifiers = true ∧ dn.components = []) →
    ∃ filter later bases, config.membershipFilter dn = .ok filter
      ∧ done.trace = asked.trace ++ later
      ∧ questions later = bases.map (fun base =>
        .searched { base, filter, attributes := [config.groupNameAttribute] })
      ∧ bases <+: config.groupBases
      ∧ ∀ names, done.result = .ok names → bases = config.groupBases

/-- The lookup itself, after the question who the user is. -/
theorem askedInOrder_groups (config : Config) (username : String) (resolver : Resolver σ) (s : σ) :
    AskedInOrder config username s (resolver.resolve session config username s)
      (session.groups config username resolver s) := by
  rcases hasked : resolver.resolve session config username s with ⟨result, s', trace⟩
  constructor
  · exact session.groups_of_unset
  · rintro hset failure rfl
    exact session.groups_of_failed hset hasked
  · rintro hset rfl
    exact session.groups_of_nobody hset hasked
  · rintro hset dn rfl hlists hnone
    have hfilter : config.membershipFilter dn = .error (.name .noLeaf) :=
      (Config.membershipFilter_eq_error_iff hset).mpr ⟨hlists, hnone, rfl⟩
    have hgroups : session.groupsOf config dn s' = ⟨.error (.name .noLeaf), s', []⟩ := by
      rw [groupsOf, hfilter]
      rfl
    rw [session.groups_of_known hset hasked, hgroups, List.append_nil]
  · rintro hset dn rfl hsome
    -- The filter could be missing in just one case, which is excluded here.
    obtain ⟨filter, hfilter⟩ : ∃ filter, config.membershipFilter dn = .ok filter := by
      rcases hfilter : config.membershipFilter dn with failure | filter
      · obtain ⟨hlists, hnone, -⟩ := (Config.membershipFilter_eq_error_iff hset).mp hfilter
        exact absurd ⟨hlists, hnone⟩ hsome
      · exact ⟨filter, rfl⟩
    obtain ⟨logs, hgroups, hlogs⟩ := session.groupsOf_of_filter hfilter s'
    obtain ⟨bases, hbases, hquestions, hall⟩ := session.questions_valuesBelowAll filter
      config.groupNameAttribute config.groupBases s'
    -- What comes after the answer is what is logged and then the searches.
    rw [session.groups_of_known hset hasked, hgroups]
    refine ⟨filter, _, bases, hfilter, rfl, ?_, hbases, hall⟩
    rw [questions_append, hlogs, List.nil_append, hquestions]

/-- **A lookup asks in order**, whatever session, resolver and configuration it has and
wherever something fails.

Without a membership attribute it fails at once.  Otherwise it asks who the user is, exactly
once and before anything else: a supplied resolver is asked just that, and by search the first
of the bases for users are asked, one by one, or none at all for the empty username.  Then
come the searches for groups, if there are any, as `AskedInOrder` says. -/
theorem groups_asked_in_order (config : Config) (username : String) (resolver : Resolver σ)
    (s : σ) :
    let asked := resolver.resolve session config username s
    let done := session.groups config username resolver s
    AskedInOrder config username s asked done
      ∧ (∀ answer, resolver = .supplied answer → questions asked.trace = [.asked username])
      ∧ (resolver = .search →
        (∃ bases, bases <+: config.userBases
          ∧ questions asked.trace
            = bases.map fun base => .searched { base, filter := config.userFilterFor username })
        ∧ (username = "" → asked = ⟨.ok none, s, []⟩
          ∧ (¬ config.LacksMembership → done = ⟨.ok [], s, [.logged (.nobody username)]⟩))) := by
  intro asked done
  refine ⟨session.askedInOrder_groups config username resolver s, ?_, ?_⟩
  · rintro answer rfl
    exact congrArg (Happening.asked username :: ·) (questions_session _)
  · rintro rfl
    obtain ⟨hbases, hempty⟩ := session.questions_resolve config username s
    refine ⟨hbases, fun hname => ?_⟩
    have hnone : Resolver.search.resolve session config username s = ⟨.ok none, s, []⟩ :=
      hempty hname
    exact ⟨hnone, fun hset => session.groups_of_nobody hset hnone⟩

/-- The second base for users has an entry, and the second base for groups refuses its
search, so the third is not asked. -/
theorem groups_asked_in_order_over_table :
    let table : AnswerTable :=
      [("o=users", { entries := [{ dn := some "uid=ada,o=x" }] }),
        ("o=a", { entries := [{ dn := some "cn=g", attributes := some [("cn", .text "staff")] }] }),
        ("o=b", { refusal := some (.foreign "RuntimeError" "boom") })]
    let config : Config :=
      { groupBases := ["o=a", "o=b", "o=c"], groupFilter := "(objectClass=posixGroup)",
        groupNameAttribute := "cn", membershipAttribute := some "memberUid",
        userBases := ["o=none", "o=users", "o=more"], userFilter := "(uid=?)" }
    let session := AnswerTable.session
    let asked := Resolver.search.resolve session config "ada" table
    let done := session.groups config "ada" .search table
    let groupQuery (base : String) : Query :=
      { base, filter := "(&(objectClass=posixGroup)(memberUid=ada))", attributes := ["cn"] }
    AskedInOrder config "ada" table asked done
      ∧ ¬ config.LacksMembership
      ∧ questions done.trace
        = [.searched { base := "o=none", filter := "(uid=ada)" },
            .searched { base := "o=users", filter := "(uid=ada)" },
            .searched (groupQuery "o=a"), .searched (groupQuery "o=b")] := by
  intro table config session asked done groupQuery
  obtain ⟨horder, -, -⟩ := session.groups_asked_in_order config "ada" .search table
  have hset : ¬ config.LacksMembership := not_or.mpr ⟨by decide, by decide⟩
  exact ⟨horder, hset, by decide +kernel⟩

end Session

end DirectoryGroups
