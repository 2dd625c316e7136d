/-
DirectoryGroups/Proofs/Lookup/FirstMatch.lean

The first match for a username wins.

The bases for users are searched one after another, and of each search only the first
thing counts that its cursor gives.  If that is the end, the base has nobody, and the next
one is searched.  Anything else decides: an entry, by its name, or a failure, which may
also be one of the search itself or of closing the cursor (`Session.FirstMatch`).  So the
bases before the one that decides are read to their end, and those after it are not
searched at all.

What else the cursor would have given does not matter.  A session whose cursors end
behind the first thing that they give (`Session.curtailed`) resolves every username just
as the session itself does.

Main result: `Session.first_match_wins`.
-/
import DirectoryGroups.Lookup.Basic
import DirectoryGroups.Proofs.Session.Questions
import DirectoryGroups.Proofs.Session.Results

namespace DirectoryGroups

/-- What is decided for a username by what a search brought first: a failure is one of the
resolving too, and so is an entry with a bad name, as an error of the directory's
operation; any other entry is the user's. -/
inductive Decides (username : String) :
    Except Failure (Option Entry) → Except Failure (Option DistinguishedName) → Prop
  | failed {failure} : Decides username (.error failure) (.error failure)
  | badName {entry fault error} :
      DistinguishedName.parse entry.dn = .error fault →
      error = .badName username entry.dn fault → error.kind = .operation →
      Decides username (.ok (some entry)) (.error (.lookup error))
  | found {entry dn} :
      DistinguishedName.parse entry.dn = .ok dn →
      Decides username (.ok (some entry)) (.ok (some dn))

theorem Decides.ne_ok_none {username : String} {found : Except Failure (Option Entry)}
    {result : Except Failure (Option DistinguishedName)} (h : Decides username found result) :
    result ≠ .ok none := by
  cases h <;> simp

namespace Session

variable {σ κ : Type}

/-! ### The base that decides -/

/-- The cursors of these searches are at their end at once. -/
def BringsNothing (session : Session σ κ) (query : String → Query) (s : σ)
    (bases : List String) (s' : σ) : Prop :=
  session.BringsInTurn session.GivesFirst query s bases (bases.map fun _ => none) s'

/-- `session.FirstMatch username query bases s asked result s'`: the search for a user
below these bases asks the bases `asked` and ends with `result`.  Either nobody is found
below any base, or there is a first base that decides. -/
inductive FirstMatch (session : Session σ κ) (username : String) (query : String → Query)
    (bases : List String) (s : σ) :
    List String → Except Failure (Option DistinguishedName) → σ → Prop
  | nobody {s'} :
      session.BringsNothing query s bases s' →
      FirstMatch session username query bases s bases (.ok none) s'
  | decided {before base after s₁ found s₂ result} :
      bases = before ++ base :: after → session.BringsNothing query s before s₁ →
      session.Brings session.GivesFirst (query base) s₁ found s₂ →
      Decides username found result →
      FirstMatch session username query bases s (before ++ [base]) result s₂

variable {session : Session σ κ} {username : String} {query : String → Query}
  {bases asked : List String} {base : String} {s s₁ s' : σ}
  {result : Except Failure (Option DistinguishedName)}

theorem FirstMatch.cons (hfirst : session.Brings session.GivesFirst (query base) s (.ok none) s₁)
    (h : session.FirstMatch username query bases s₁ asked result s') :
    session.FirstMatch username query (base :: bases) s (base :: asked) result s' := by
  cases h with
  | nobody hnothing => exact .nobody (.cons hfirst hnothing)
  | @decided before deciding _ _ _ _ _ hbases hnothing hfound hdecides =>
    rw [hbases]
    show session.FirstMatch username query _ s ((base :: before) ++ [deciding]) _ s'
    exact .decided rfl (.cons hfirst hnothing) hfound hdecides

theorem FirstMatch.head {found : Except Failure (Option Entry)}
    (hfound : session.Brings session.GivesFirst (query base) s found s')
    (hdecides : Decides username found result) :
    session.FirstMatch username query (base :: bases) s [base] result s' := by
  show session.FirstMatch username query _ s ([] ++ [base]) _ s'
  exact .decided rfl .nil hfound hdecides

/-- The bases that are asked are the first ones. -/
theorem FirstMatch.asked_prefix (h : session.FirstMatch username query bases s asked result s') :
    asked <+: bases := by
  cases h with
  | nobody _ => exact List.prefix_rfl
  | @decided before deciding after _ _ _ _ hbases _ _ _ =>
    rw [hbases, List.prefix_append_right_inj]
    exact List.prefix_append [deciding] after

/-! ### Searching below the bases -/

section Below

variable {filter : String} {trace : List Happening}

theorem findUser_of_failed {failure : Failure}
    (h : session.first { base, filter } s = ⟨.error failure, s', trace⟩) :
    session.findUser username filter (base :: bases) s = ⟨.error failure, s', trace⟩ := by
  rw [findUser]
  exact Step.bind_of_error h

theorem findUser_of_nobody (h : session.first { base, filter } s = ⟨.ok none, s', trace⟩) :
    session.findUser username filter (base :: bases) s
      = ⟨(session.findUser username filter bases s').result,
          (session.findUser username filter bases s').state,
          trace ++ (session.findUser username filter bases s').trace⟩ := by
  rw [findUser]
  exact Step.bind_of_ok h

/-- The first base has an entry, which decides by its name. -/
theorem findUser_of_entry {entry : Entry}
    (h : session.first { base, filter } s = ⟨.ok (some entry), s', trace⟩) :
    ∃ result logs, session.findUser username filter (base :: bases) s
        = ⟨result, s', trace ++ logs⟩
      ∧ Decides username (.ok (some entry)) result ∧ questions logs = [] := by
  rw [findUser, Step.bind_of_ok h]
  rcases hdn : DistinguishedName.parse entry.dn with fault | dn
  · refine ⟨.error (.lookup (.badName username entry.dn fault)), [], ?_, .badName hdn rfl rfl, rfl⟩
    simp only [entryName_of_error hdn]
    rfl
  · refine ⟨.ok (some dn), [.logged (.userResolved username (toString dn))], ?_, .found hdn, rfl⟩
    simp only [entryName_of_ok hdn]
    rfl

end Below

/-- **The search for a user below some bases is decided by the first match**, and asks no
other base than those up to it. -/
theorem firstMatch_findUser (session : Session σ κ) (username filter : String)
    (bases : List String) (s : σ) :
    ∃ asked, session.FirstMatch username ({ base := ·, filter }) bases s asked
        (session.findUser username filter bases s).result
        (session.findUser username filter bases s).state
      ∧ questions (session.findUser username filter bases s).trace
        = asked.map fun base => .searched { base, filter } := by
  induction bases generalizing s with
  | nil => exact ⟨[], .nobody .nil, rfl⟩
  | cons base bases ih =>
    obtain ⟨found, s₁, hbrings⟩ :=
      exists_brings session.exists_givesFirst { base, filter } s
    obtain ⟨trace, hfirst⟩ := first_of_brings hbrings
    have hasked := session.questions_first { base, filter } s
    rw [hfirst] at hasked
    -- A failure decides, and so does an entry; only a cursor at its end leaves it to the next base.
    rcases found with failure | - | entry
    · rw [findUser_of_failed hfirst]
      exact ⟨[base], .head hbrings .failed, hasked⟩
    · obtain ⟨asked, hmatch, hmore⟩ := ih s₁
      rw [findUser_of_nobody hfirst]
      refine ⟨base :: asked, hmatch.cons hbrings, ?_⟩
      rw [questions_append, hasked, hmore]
      rfl
    · obtain ⟨result, logs, hdone, hdecides, hlogs⟩ := findUser_of_entry hfirst
      rw [hdone]
      refine ⟨[base], .head hbrings hdecides, ?_⟩
      rw [questions_append, hasked, hlogs]
      rfl

/-- Where no search brings anything, nobody is found. -/
theorem findUser_of_bringsNothing {filter : String}
    (h : session.BringsNothing ({ base := ·, filter }) s bases s') :
    (session.findUser username filter bases s).result = .ok none := by
  induction bases generalizing s with
  | nil => rfl
  | cons base bases ih =>
    cases h with
    | cons hbrings hrest =>
      obtain ⟨trace, hfirst⟩ := first_of_brings hbrings
      rw [findUser_of_nobody hfirst]
      exact ih hrest

/-- Resolving a username comes to the search for the user; that nobody was found is only
logged. -/
theorem resolve_of_findUser {config : Config} (hname : username ≠ "")
    {result : Except Failure (Option DistinguishedName)} {trace : List Happening}
    (h : session.findUser username (config.userFilterFor username) config.userBases s
      = ⟨result, s', trace⟩) :
    ∃ logs, session.resolve config username s = ⟨result, s', trace ++ logs⟩
      ∧ questions logs = [] := by
  rw [resolve, if_neg (by simpa using hname)]
  rcases result with failure | - | dn
  · refine ⟨[], ?_, rfl⟩
    rw [Step.bind_of_error h, List.append_nil]
  · refine ⟨[.logged (.userNotFound username config.userBases)], ?_, rfl⟩
    rw [Step.bind_of_ok h]
    rfl
  · refine ⟨[], ?_, rfl⟩
    rw [Step.bind_of_ok h]
    rfl

/-! ### Nothing behind the first entry -/

/-- The session whose cursors end behind the first thing that they give. -/
def curtailed (session : Session σ κ) : Session σ (κ × Bool) where
  search query s :=
    let done := session.search query s
    ⟨done.result.map fun cursor => (cursor, false), done.state, done.trace⟩
  next w :=
    if w.1.2 then ⟨.ok none, w, []⟩
    else
      let done := session.next (w.1.1, w.2)
      ⟨done.result, ((done.state.1, true), done.state.2), done.trace⟩
  close w :=
    let done := session.close (w.1.1, w.2)
    ⟨done.result, ((done.state.1, true), done.state.2), done.trace⟩
  release w :=
    let done := session.release (w.1.1, w.2)
    ⟨done.result, ((done.state.1, true), done.state.2), done.trace⟩
  remaining w := if w.1.2 then 0 else session.remaining (w.1.1, w.2)
  remaining_next := by
    rintro ⟨⟨cursor, given⟩, s⟩ entry h
    cases given with
    | true => simp at h
    | false =>
      have hfewer := session.remaining_next (cursor, s) entry (by simpa using h)
      simp
      omega

/-- Looking at the first entry of a search finds the same. -/
theorem curtailed_first (session : Session σ κ) (query : Query) :
    session.curtailed.first query = session.first query := by
  funext s
  rcases hsearch : session.search query s with ⟨failure | cursor, s₁, trace⟩
  · have hsearch' : session.curtailed.search query s = ⟨.error failure, s₁, trace⟩ := by
      simp [curtailed, hsearch, Except.map]
    rw [first, first, withCursor_of_error hsearch, withCursor_of_error hsearch']
  · have hsearch' : session.curtailed.search query s = ⟨.ok (cursor, false), s₁, trace⟩ := by
      simp [curtailed, hsearch, Except.map]
    rw [first, first, withCursor_of_ok hsearch rfl rfl, withCursor_of_ok hsearch' rfl rfl]
    rfl

/-- **Nothing behind the first entry of a search matters to resolving.** -/
theorem curtailed_resolve (session : Session σ κ) (config : Config) (username : String) :
    session.curtailed.resolve config username = session.resolve config username := by
  -- A search for a user looks at first entries only, so it goes alike at every base.
  have hfind : ∀ filter bases, session.curtailed.findUser username filter bases
      = session.findUser username filter bases := by
    intro filter bases
    induction bases with
    | nil => rfl
    | cons base bases ih => simp only [findUser, curtailed_first, ih]
  simp only [resolve, hfind]

/-! ### The main result -/

/-- **The first match for a username wins.**

The bases for users are searched in order, with the filter for the username and for no
attributes, and each cursor is advanced once.  As long as that finds it at its end, and it can
be closed, the next base is searched.  The first base where it is otherwise decides, and no base
after it is searched: the name of the entry that was given is the user's, or makes an error of
the operation if it is bad, and a failure of the search, of the cursor or of closing is one of
the resolving.  Nobody is found just if all bases are searched and have nobody.  In no case does
it matter what a cursor would give behind its first entry, be it more entries or a failure. -/
theorem first_match_wins (session : Session σ κ) (config : Config) {username : String}
    (hname : username ≠ "") (s : σ) :
    let query (base : String) : Query :=
      { base, filter := config.userFilterFor username, attributes := [] }
    let done := session.resolve config username s
    (∃ asked, session.FirstMatch username query config.userBases s asked done.result done.state
        ∧ questions done.trace = asked.map fun base => .searched (query base))
      ∧ (done.result = .ok none ↔ ∃ s', session.BringsNothing query s config.userBases s')
      ∧ session.curtailed.resolve config username s = done := by
  intro query done
  obtain ⟨asked, hmatch, hasked⟩ :=
    session.firstMatch_findUser username (config.userFilterFor username) config.userBases s
  rcases hsought : session.findUser username (config.userFilterFor username) config.userBases s
    with ⟨result, s', trace⟩
  obtain ⟨logs, hdone, hlogs⟩ := resolve_of_findUser hname hsought
  rw [hsought] at hmatch hasked
  refine ⟨⟨asked, ?_, ?_⟩, ?_, ?_⟩
  · simp only [done, hdone]
    exact hmatch
  · simp only [done, hdone]
    rw [questions_append, hlogs, List.append_nil, hasked]
  · simp only [done, hdone]
    -- What decides never says that there is nobody.
    constructor
    · rintro rfl
      cases hmatch with
      | nobody hnothing => exact ⟨_, hnothing⟩
      | decided _ _ _ hdecides => exact absurd rfl hdecides.ne_ok_none
    · rintro ⟨t, hnothing⟩
      have hnobody : (session.findUser username (config.userFilterFor username)
          config.userBases s).result = .ok none :=
        findUser_of_bringsNothing hnothing
      rwa [hsought] at hnobody
  · rw [session.curtailed_resolve]

/-- Two bases have nobody, one by a lazy cursor and one by a plain list.  The third has an entry,
with another one and a failure behind it, and the fourth would refuse its search. -/
theorem first_match_wins_over_table :
    let broken : Failure := .foreign "RuntimeError" "boom"
    let table : AnswerTable :=
      [("o=list", { form := .plain, failure := some broken }),
        ("o=users", { form := .closable, failure := some broken,
                      entries := [{ dn := some "uid=ada,o=x" }, { dn := some "uid=eve,o=x" }] }),
        ("o=more", { refusal := some broken })]
    let config : Config :=
      { groupBases := [], groupFilter := "(objectClass=groupOfNames)", groupNameAttribute := "cn",
        membershipAttribute := some "member",
        userBases := ["o=none", "o=list", "o=users", "o=more"], userFilter := "(uid=?)" }
    let session := AnswerTable.session
    let query (base : String) : Query := { base, filter := "(uid=ada)", attributes := [] }
    let done := session.resolve config "ada" table
    "ada" ≠ "" ∧ config.userFilterFor "ada" = "(uid=ada)"
      ∧ (∃ asked, session.FirstMatch "ada" query config.userBases table asked done.result done.state
        ∧ asked = ["o=none", "o=list", "o=users"])
      ∧ (¬ ∃ s', session.BringsNothing query table config.userBases s')
      ∧ session.curtailed.resolve config "ada" table = done
      ∧ done.result.toOption.map (·.map toString) = some (some "uid=ada,o=x") := by
  intro broken table config session query done
  have hfilter : config.userFilterFor "ada" = "(uid=ada)" := by decide +kernel
  have hname : done.result.toOption.map (·.map toString) = some (some "uid=ada,o=x") := by
    decide +kernel
  have hasked : questions done.trace
      = ["o=none", "o=list", "o=users"].map fun base => .searched (query base) := by
    decide +kernel
  obtain ⟨⟨asked, hmatch, hquestions⟩, hnobody, hsame⟩ :=
    session.first_match_wins config (by decide : "ada" ≠ "") table
  rw [hfilter] at hmatch hquestions hnobody
  refine ⟨by decide, hfilter, ⟨asked, hmatch, ?_⟩, ?_, hsame, hname⟩
  · have hbases := hquestions.symm.trans hasked
    refine (List.map_inj_right ?_).mp hbases
    intro base base' h
    exact congrArg Query.base (Happening.searched.inj h)
  · intro h
    have hnone : done.result = .ok none := hnobody.mpr h
    rw [hnone] at hname
    cases hname

end Session

end DirectoryGroups
