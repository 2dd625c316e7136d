/-
DirectoryGroups/Proofs/Lookup/Report.lean

What a service is told of a lookup over a paged session.

As long as the connection raises protocol errors only, nothing gets out of a
lookup: every failure on the way, in whichever layer and on whichever page, ends
up in the report, and the report names the layer by its kind and the failing page
by its code.

Main result: `report_of_paged_lookup`.
-/
import DirectoryGroups.Lookup.Service
import DirectoryGroups.Proofs.Lookup.Paged

namespace DirectoryGroups

/-! ### Faults as errors -/

/-- A page that is served is one of the script, or the empty one past its end. -/
theorem mem_firstPages {n : Nat} {script : List Page} {page : Page}
    (h : page ∈ firstPages n script) : page ∈ script ∨ page = {} := by
  induction n generalizing script with
  | zero => cases h
  | succ n ih =>
    rcases script with - | ⟨next, script⟩
    · rcases List.mem_cons.mp h with rfl | hmem
      · exact .inr rfl
      · exact ih hmem
    · rcases List.mem_cons.mp h with rfl | hmem
      · exact .inl List.mem_cons_self
      · rcases ih hmem with hpage | hpage
        · exact .inl (List.mem_cons_of_mem _ hpage)
        · exact .inr hpage

/-- Whether the connection raises nothing but protocol errors for the page. -/
def Page.Civil (page : Page) : Prop :=
  ∀ failure, page.raised? = some failure → ∃ error, failure = .protocol error

/-- The fault of a page that raises protocol errors only is an error of a lookup,
and keeps its code. -/
theorem Page.Civil.failure_eq_lookup {page : Page} (h : page.Civil) {fault : PageFault}
    (hfault : page.fault? = some fault) (base : String) :
    ∃ error, fault.failure base = .lookup error ∧ error.kind = .operation
      ∧ error.code = fault.code := by
  unfold Page.fault? at hfault
  split at hfault
  · rename_i failure hraised
    obtain ⟨error, rfl⟩ := h failure hraised
    obtain rfl := Option.some.inj hfault
    exact ⟨.interrupted base error, rfl, rfl, rfl⟩
  · split at hfault
    · cases hfault
    · obtain rfl := Option.some.inj hfault
      exact ⟨.refused base _ _, rfl, rfl, rfl⟩
  · cases hfault

/-! ### Reports -/

/-- The requests that events tell of. -/
def requestsTold (trace : List Event) : List Request :=
  trace.filterMap fun event => event.what.request?

/-- Whether one of the pages fails. -/
def SomeFails (pages : List Page) : Prop :=
  ∃ page ∈ pages, page.fault? ≠ none

/-- Whether the first entry of the pages, which is the user's, has a name that
cannot be read. -/
def UserMisnamed (pages : List Page) : Prop :=
  ∃ entry error, (entriesOf pages).head? = some entry
    ∧ DistinguishedName.parse entry.dn = .error error

/-- What a report says of a lookup that asked for `pages`. -/
structure ReportedOn (config : Config) (pages : List Page) (report : Report) : Prop where
  /-- A configuration error is reported just if the membership attribute is missing. -/
  configuration : (∃ error, report = .error error ∧ error.kind = .configuration)
    ↔ config.LacksMembership
  /-- Otherwise an operation error is reported just if a page fails or the user's
  entry has no readable name. -/
  operation : (∃ error, report = .error error ∧ error.kind = .operation)
    ↔ ¬ config.LacksMembership ∧ (SomeFails pages ∨ UserMisnamed pages)
  /-- In every other case the lookup succeeds. -/
  success : (∃ names, report = .ok names)
    ↔ ¬ config.LacksMembership ∧ ¬ (SomeFails pages ∨ UserMisnamed pages)
  /-- An operation error has the code of the page that failed, and none if the
  user's name was at fault. -/
  code : ∀ error, report = .error error → error.kind = .operation →
    (∀ page ∈ pages, ∀ fault, page.fault? = some fault → error.code = fault.code)
      ∧ (¬ SomeFails pages → error.code = none)

theorem Faultless.not_someFails {pages : List Page} (h : Faultless pages) :
    ¬ SomeFails pages := by
  rintro ⟨page, hpage, hfault⟩
  exact hfault (h page hpage)

theorem EndsIn.exists_mem {pages : List Page} {fault : PageFault} (h : EndsIn fault pages) :
    ∃ page ∈ pages, page.fault? = some fault := by
  obtain ⟨front, last, rfl, -, hlast⟩ := h
  exact ⟨last, List.mem_append_right _ List.mem_cons_self, hlast⟩

theorem EndsIn.eq_of_mem {pages : List Page} {fault other : PageFault} (h : EndsIn fault pages)
    {page : Page} (hpage : page ∈ pages) (hother : page.fault? = some other) :
    other = fault := by
  obtain ⟨front, last, rfl, hfront, hlast⟩ := h
  rcases List.mem_append.mp hpage with hmem | hmem
  · rw [hfront page hmem] at hother
    cases hother
  · obtain rfl := List.mem_singleton.mp hmem
    exact Option.some.inj (hother.symm.trans hlast)

namespace ReportedOn

variable {config : Config} {pages : List Page}

theorem ofUnset (h : config.LacksMembership) :
    ReportedOn config pages (.error .membershipUnset) where
  configuration := ⟨fun _ => h, fun _ => ⟨_, rfl, rfl⟩⟩
  operation := by
    refine ⟨?_, fun hset => absurd h hset.1⟩
    rintro ⟨error, herror, hkind⟩
    obtain rfl := Except.error.inj herror
    cases hkind
  success := by
    refine ⟨?_, fun hset => absurd h hset.1⟩
    rintro ⟨names, hnames⟩
    cases hnames
  code := by
    intro error herror hkind
    obtain rfl := Except.error.inj herror
    cases hkind

theorem ofError {error : LookupError} (hkind : error.kind = .operation)
    (hset : ¬ config.LacksMembership) (htrouble : SomeFails pages ∨ UserMisnamed pages)
    (hcode : (∀ page ∈ pages, ∀ fault, page.fault? = some fault → error.code = fault.code)
      ∧ (¬ SomeFails pages → error.code = none)) :
    ReportedOn config pages (.error error) where
  configuration := by
    refine ⟨?_, fun h => absurd h hset⟩
    rintro ⟨other, hother, hkind'⟩
    obtain rfl := Except.error.inj hother
    rw [hkind] at hkind'
    cases hkind'
  operation := ⟨fun _ => ⟨hset, htrouble⟩, fun _ => ⟨error, rfl, hkind⟩⟩
  success := by
    refine ⟨?_, fun h => absurd htrouble h.2⟩
    rintro ⟨names, hnames⟩
    cases hnames
  code := by
    intro other hother _
    obtain rfl := Except.error.inj hother
    exact hcode

theorem ofNames {names : Option (List String)} (hset : ¬ config.LacksMembership)
    (hfine : ¬ (SomeFails pages ∨ UserMisnamed pages)) :
    ReportedOn config pages (.ok names) where
  configuration := by
    refine ⟨?_, fun h => absurd h hset⟩
    rintro ⟨error, herror, -⟩
    cases herror
  operation := by
    refine ⟨?_, fun h => absurd h.2 hfine⟩
    rintro ⟨error, herror, -⟩
    cases herror
  success := ⟨fun _ => ⟨hset, hfine⟩, fun _ => ⟨names, rfl⟩⟩
  code := by
    intro error herror
    cases herror

end ReportedOn

/-- A report by the way in which its lookup ended. -/
theorem GroupLookup.report {config : Config} {username : String} {pages : List Page}
    {result : Except Failure (List String)} (h : GroupLookup config username pages result)
    (hcivil : ∀ page ∈ pages, page.Civil) {σ : Type} (s : σ) :
    ∃ report, (reportLookup username result s).result = .ok report
      ∧ ReportedOn config pages report := by
  have hlacks := config.requiredMembership_eq_error_iff
  have hset : ∀ {attr}, config.requiredMembership = .ok attr → ¬ config.LacksMembership := by
    intro attr hattr hmissing
    rw [hlacks.mpr hmissing] at hattr
    cases hattr
  cases h with
  | unset hmissing _ => exact ⟨_, rfl, .ofUnset (hlacks.mp hmissing)⟩
  | @fault attr base fault hattr hpages =>
    -- The last page is the only one with a fault, so its code is that of every fault.
    obtain ⟨last, hmem, hlast⟩ := hpages.exists_mem
    obtain ⟨error, herror, hkind, hcode⟩ := (hcivil last hmem).failure_eq_lookup hlast base
    have hfails : SomeFails pages := ⟨last, hmem, by rw [hlast]; exact Option.some_ne_none _⟩
    rw [herror]
    refine ⟨.error error, rfl, ?_⟩
    apply ReportedOn.ofError hkind (hset hattr) (.inl hfails)
    refine ⟨?_, fun hnone => absurd hfails hnone⟩
    intro page hpage other hother
    rw [hcode, hpages.eq_of_mem hpage hother]
  | @badName attr entry error hattr hpages hentry herror =>
    refine ⟨.error (.badName username entry.dn error), rfl, ?_⟩
    apply ReportedOn.ofError rfl (hset hattr) (.inr ⟨entry, error, hentry, herror⟩)
    refine ⟨?_, fun _ => rfl⟩
    intro page hpage fault hfault
    rw [hpages page hpage] at hfault
    cases hfault
  | @done attr names hattr hpages hnamed =>
    refine ⟨_, rfl, .ofNames (hset hattr) ?_⟩
    -- No page failed, and the name of the first entry could be read.
    rintro (hfails | ⟨entry, error, hentry, herror⟩)
    · exact hpages.not_someFails hfails
    · obtain ⟨dn, hdn⟩ := hnamed entry hentry
      rw [hdn] at herror
      cases herror

/-- What a service is told, by the lookup it asked for. -/
theorem Endpoint.groups_apply {σ κ : Type} (endpoint : Endpoint σ κ) (username : String)
    (resolver : Resolver σ) (world : World σ) :
    let lookup := endpoint.session.groups endpoint.config username resolver world.directory
    let done := endpoint.groups username resolver world
    done.result = (reportLookup username lookup.result lookup.state).result
      ∧ requestsTold done.trace = requestsAmong lookup.trace := by
  intro lookup done
  refine ⟨rfl, ?_⟩
  have htrace : done.trace = (lookup.trace
      ++ (reportLookup username lookup.result lookup.state).trace).map
        (Event.mk (some endpoint.service)) := rfl
  have hlogs : requestsAmong (reportLookup username lookup.result lookup.state).trace = [] := by
    rcases lookup.result with (error | error | error | error | ⟨name, message⟩) | names <;> rfl
  rw [htrace, requestsTold, List.filterMap_map, List.filterMap_append]
  exact (congrArg (_ ++ ·) hlogs).trans (List.append_nil _)

/-- **What is reported of a lookup over a paged session.**

If the connection raises protocol errors only, a lookup always ends with a report.
Let `pages` be the pages that it asked for.  The report is a configuration error
just if there is no membership attribute.  Otherwise it is an operation error just
if one of `pages` fails or the first entry on them, the user's, has a name that
cannot be read, and its code is that of the page that failed, or none.  In every
other case the report is a success. -/
theorem report_of_paged_lookup (paging : Paging) (config : Config) (service username : String)
    (world : World Connection) (hcivil : ∀ page ∈ world.directory.script, page.Civil) :
    let endpoint : Endpoint Connection PagedCursor := { session := paging.session, config, service }
    let done := endpoint.groups username .search world
    let pages := firstPages (requestsTold done.trace).length world.directory.script
    ∃ report, done.result = .ok report ∧ ReportedOn config pages report := by
  intro endpoint done pages
  obtain ⟨hresult, hrequests⟩ := endpoint.groups_apply username .search world
  obtain ⟨asked, result, after, hreads, hend⟩ :=
    paging.reads_groups config username world.directory
  have hpages : pages = asked := by
    rw [hreads.served]
    exact congrArg (fun requests => firstPages requests.length world.directory.script) hrequests
  have hserved : ∀ page ∈ asked, page.Civil := by
    intro page hpage
    rw [hreads.served] at hpage
    -- Past the end of the script the pages are empty, and nothing is raised for those.
    rcases mem_firstPages hpage with hmem | rfl
    · exact hcivil page hmem
    · intro failure hfailure
      cases hfailure
  obtain ⟨report, hreport, hon⟩ :=
    hend.report hserved (paging.session.groups config username .search world.directory).state
  rw [← hreads.result] at hreport
  refine ⟨report, hresult.trans hreport, ?_⟩
  rw [hpages]
  exact hon

/-- **The user is found on the first page, and the directory is busy when the groups are asked
for**: the lookup makes two requests, and its report is an operation error with the code that came
with the refusal of the second. -/
theorem report_of_interrupted_lookup :
    let user : Page :=
      { answer := { items := some [{ kind := some "searchResEntry", dn := some "uid=ada,o=x" }] } }
    let busy : Page := { refusal := some (.protocol (.operation { code := some 51 })) }
    let world : World Connection := { service := none, directory := { script := [user, busy] } }
    let config : Config :=
      { groupBases := ["ou=groups,o=x"], groupFilter := "(objectClass=groupOfNames)",
        groupNameAttribute := "cn", membershipAttribute := some "member",
        userBases := ["o=x"], userFilter := "(uid=?)" }
    (∀ page ∈ world.directory.script, page.Civil) ∧
      let endpoint : Endpoint Connection PagedCursor :=
        { session := Paging.session {}, config, service := "wiki" }
      let done := endpoint.groups "ada" .search world
      let pages := firstPages (requestsTold done.trace).length world.directory.script
      let error : LookupError := .interrupted "ou=groups,o=x" (.operation { code := some 51 })
      done.result = .ok (.error error) ∧ ReportedOn config pages (.error error)
        ∧ error.kind = .operation ∧ error.code = some 51
        ∧ requestsTold done.trace =
          [{ base := "o=x", filter := "(uid=ada)", scope := "SUBTREE", attributes := ["1.1"],
             sizeLimit := 0, timeLimit := 0, pageSize := some 500, cookie := none },
           { base := "ou=groups,o=x",
             filter := "(&(objectClass=groupOfNames)(member=uid=ada,o=x))", scope := "SUBTREE",
             attributes := ["cn"], sizeLimit := 0, timeLimit := 0, pageSize := some 500,
             cookie := none }] := by
  intro user busy world config
  have hcivil : ∀ page ∈ world.directory.script, page.Civil := by
    intro page hpage failure hfailure
    rcases List.mem_pair.mp hpage with rfl | rfl
    · cases hfailure
    · exact ⟨_, (Option.some.inj hfailure).symm⟩
  refine ⟨hcivil, ?_⟩
  intro endpoint done pages error
  -- The theorem says what kind of report there is; the run, which one, and with what requests.
  obtain ⟨report, hreport, hon⟩ := report_of_paged_lookup {} config "wiki" "ada" world hcivil
  have hdone : done.result.toOption = some (.error error) := by decide +kernel
  rw [show done.result = .ok report from hreport] at hdone
  obtain rfl : report = .error error := Option.some.inj hdone
  exact ⟨hreport, hon, rfl, rfl, by decide +kernel⟩

end DirectoryGroups
