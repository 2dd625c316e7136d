/-
DirectoryGroups/Proofs/Lookup/Account.lean

What the log tells of a lookup, and what the lookup reports.

Each group is logged at the moment it is found, within two loops: over the bases, and over the
entries below each of them.  The names that are reported are put together beside that, and whatever
fails later on throws them away.  So the two are tied step by step: a step accounts for names if it
has logged, together with what was logged `before`, just the names of the value it ends with
(`Step.Accounts`).  A step that fails has no value, and may have logged whatever was found so far.
Such steps can be put one after another, and a cursor that is read to its end accounts for all that
was read, by induction on its entries (`accounts_forEach`).

No stage of a lookup logs how the lookup ended.  That is left to its report, which does it once and
last, and not at all if a failure gets out.

Main result: `Endpoint.log_tells_report`.
-/
import DirectoryGroups.Lookup.Service
import DirectoryGroups.Proofs.Session.Visits
import DirectoryGroups.Session.Table
import Mathlib.Data.List.Basic

namespace DirectoryGroups

/-! ### Records -/

/-- The record that a happening logs. -/
def Happening.record? : Happening → Option LogRecord
  | session (.logged event) => some event.record
  | logged event => some event.record
  | _ => none

/-- All that is logged among happenings. -/
def recordsAmong (trace : List Happening) : List LogRecord :=
  trace.filterMap Happening.record?

theorem recordsAmong_append (trace more : List Happening) :
    recordsAmong (trace ++ more) = recordsAmong trace ++ recordsAmong more :=
  List.filterMap_append

/-- All that is logged among events. -/
def recordsTold (trace : List Event) : List LogRecord :=
  recordsAmong (trace.map Event.what)

/-- Whether a record says how a lookup ended. -/
def LogRecord.EndsLookup (record : LogRecord) : Prop :=
  record.name = "get_groups_complete" ∨ record.name = "get_groups_failed"

/-- Whether this record comes last, and no other one says how a lookup ended. -/
def EndsOnceWith (last : LogRecord) (records : List LogRecord) : Prop :=
  ∃ front, records = front ++ [last] ∧ ∀ record ∈ front, ¬ record.EndsLookup

/-- What the records of groups that were found say of the group. -/
def groupFields (records : List LogRecord) : List (Option LogValue) :=
  (records.filter fun record => record.name = "group_found").map (·.fields.lookup "group")

/-- There is no such record just if none of the records has that name. -/
theorem groupFields_eq_nil_iff {records : List LogRecord} :
    groupFields records = [] ↔ ∀ record ∈ records, record.name ≠ "group_found" := by
  rw [groupFields, List.map_eq_nil_iff, List.filter_eq_nil_iff]
  simp only [decide_eq_true_eq, ne_eq]

/-! ### What happenings log -/

/-- The group that a happening logs as found. -/
def Happening.group? : Happening → Option String
  | logged (.groupFound group _) => some group
  | _ => none

/-- The groups that are logged as found, in order. -/
def groupsFound (trace : List Happening) : List String :=
  trace.filterMap Happening.group?

/-- Whether a happening logs how a lookup ended. -/
def Happening.isEnding : Happening → Bool
  | logged (.complete ..) => true
  | logged (.failed ..) => true
  | _ => false

/-- What is logged of how a lookup ended. -/
def endings (trace : List Happening) : List Happening :=
  trace.filter Happening.isEnding

@[simp] theorem groupsFound_append (trace more : List Happening) :
    groupsFound (trace ++ more) = groupsFound trace ++ groupsFound more :=
  List.filterMap_append

@[simp] theorem endings_append (trace more : List Happening) :
    endings (trace ++ more) = endings trace ++ endings more :=
  List.filter_append trace more

@[simp] theorem groupsFound_searched (query : Query) (trace : List Happening) :
    groupsFound (.searched query :: trace) = groupsFound trace := rfl

@[simp] theorem endings_searched (query : Query) (trace : List Happening) :
    endings (.searched query :: trace) = endings trace := rfl

@[simp] theorem groupsFound_session (trace : List SessionEvent) :
    groupsFound (trace.map .session) = [] := by
  induction trace with
  | nil => rfl
  | cons event trace ih => exact ih

@[simp] theorem endings_session (trace : List SessionEvent) :
    endings (trace.map .session) = [] := by
  induction trace with
  | nil => rfl
  | cons event trace ih => exact ih

/-- The records of groups name the groups that were found. -/
theorem groupFields_recordsAmong (trace : List Happening) :
    groupFields (recordsAmong trace)
      = (groupsFound trace).map fun group => some (.text group) := by
  induction trace with
  | nil => rfl
  | cons happening trace ih =>
    -- Only a lookup logs groups; what is logged within a session has other names.
    rcases happening with query | event | username | event
    · exact ih
    · rcases event with base | base | request | id | event
      · exact ih
      · exact ih
      · exact ih
      · exact ih
      · cases event <;> exact ih
    · exact ih
    · cases event with
      | groupFound group base => exact congrArg (some (LogValue.text group) :: ·) ih
      | _ => exact ih

/-- Where nothing is logged of how a lookup ended, no record says so. -/
theorem not_endsLookup_of_mem {trace : List Happening} (h : endings trace = [])
    {record : LogRecord} (hrecord : record ∈ recordsAmong trace) : ¬ record.EndsLookup := by
  obtain ⟨happening, hmem, hlogged⟩ := List.mem_filterMap.mp hrecord
  have hquiet : ¬ happening.isEnding = true := List.filter_eq_nil_iff.mp h happening hmem
  -- Just two records have these names, and both are excluded.
  rcases happening with query | event | username | event
  · cases hlogged
  · rcases event with base | base | request | id | event
    · cases hlogged
    · cases hlogged
    · cases hlogged
    · cases hlogged
    · obtain rfl := Option.some.inj hlogged
      cases event <;> simp [LogRecord.EndsLookup, SessionLog.record]
  · cases hlogged
  · obtain rfl := Option.some.inj hlogged
    cases event with
    | failed username error => exact absurd rfl hquiet
    | complete username count => exact absurd rfl hquiet
    | _ => simp [LogRecord.EndsLookup, LookupLog.record]

/-! ### Steps that account for names -/

section Steps

variable {σ α β : Type}

/-- An outcome that accounts for names, after `before` was logged as found. -/
structure Outcome.Accounts (before : List String) (done : Outcome σ Happening α)
    (names : α → List String) : Prop where
  /-- Nothing is logged of how a lookup ended. -/
  unended : endings done.trace = []
  /-- If there is a value, just its names have been logged in the end. -/
  found : ∀ a, done.result = .ok a → before ++ groupsFound done.trace = names a

/-- A step that accounts for the names of its value, once `before` was logged as found. -/
def Step.Accounts (before : List String) (x : Step σ Happening α) (names : α → List String) :
    Prop :=
  ∀ s, (x s).Accounts before names

namespace Step.Accounts

variable {before : List String}

theorem pure (a : α) (names : α → List String) :
    Step.Accounts (names a) (pure a : Step σ Happening α) names := by
  intro s
  refine ⟨rfl, fun other hother => ?_⟩
  obtain rfl := Except.ok.inj hother
  exact List.append_nil _

/-- A step that logs neither a group nor how a lookup ended leaves the account as it is. -/
theorem silent {x : Step σ Happening α} (hends : ∀ s, endings (x s).trace = [])
    (hfound : ∀ s, groupsFound (x s).trace = []) :
    Step.Accounts before x fun _ => before := by
  intro s
  refine ⟨hends s, fun a _ => ?_⟩
  rw [hfound, List.append_nil]

theorem ofExcept (result : Except Failure α) :
    Step.Accounts before (Step.ofExcept result : Step σ Happening α) fun _ => before :=
  .silent (fun _ => rfl) fun _ => rfl

theorem log {event : LookupLog} (hends : (Happening.logged event).isEnding = false)
    (hgroup : (Happening.logged event).group? = none) :
    Step.Accounts before (Step.log event : Step σ Happening Unit) fun _ => before := by
  refine .silent (fun _ => ?_) fun _ => ?_
  · exact List.filter_cons_of_neg (Bool.not_eq_true _ ▸ hends)
  · exact List.filterMap_cons_none hgroup

theorem relay (x : Step σ SessionEvent α) :
    Step.Accounts before (x.relay .session) fun _ => before :=
  .silent (fun s => endings_session (x s).trace) fun s => groupsFound_session (x s).trace

/-- One step and then, unless it failed, the next, which goes on with the account. -/
theorem bind {middle : α → List String} {names : β → List String} {x : Step σ Happening α}
    {f : α → Step σ Happening β} (hx : Step.Accounts before x middle)
    (hf : ∀ a, Step.Accounts (middle a) (f a) names) : Step.Accounts before (x >>= f) names := by
  intro s
  obtain ⟨hends, hfound⟩ := hx s
  rcases hdone : x s with ⟨failure | a, s', trace⟩
  · rw [hdone] at hends
    rw [Step.bind_of_error hdone]
    exact ⟨hends, fun b hb => by cases hb⟩
  · obtain ⟨hends', hfound'⟩ := hf a s'
    rw [hdone] at hends hfound
    rw [Step.bind_of_ok hdone]
    refine ⟨?_, fun b hb => ?_⟩
    · rw [endings_append, hends, hends', List.append_nil]
    · rw [groupsFound_append, ← List.append_assoc, hfound a rfl]
      exact hfound' b hb

end Step.Accounts

end Steps

/-! ### Stages of a lookup -/

namespace Session

variable {σ κ α : Type} (session : Session σ κ) (before : List String)

/-- Using a cursor: the search and the closing log nothing of a lookup, and a failure of closing
leaves no value. -/
theorem accounts_withCursor (query : Query) {x : Step (κ × σ) Happening α}
    {names : α → List String} (hx : Step.Accounts before x names) :
    Step.Accounts before (session.withCursor query x) names := by
  intro s
  rcases hsearch : session.search query s with ⟨failure | cursor, s', trace⟩
  · rw [withCursor_of_error hsearch]
    exact ⟨endings_session trace, fun a ha => by cases ha⟩
  · rw [withCursor_of_ok hsearch rfl rfl]
    obtain ⟨hends, hfound⟩ := hx (cursor, s')
    refine ⟨?_, fun a ha => ?_⟩
    · simp only [endings_searched, endings_append, endings_session, hends, List.append_nil]
    · -- A value is left only if the cursor could be closed.
      have hvalue : (x (cursor, s')).result = .ok a := by
        rcases hclose : (session.close (x (cursor, s')).state).result with failure | _
        · rw [hclose] at ha
          cases ha
        · rw [hclose] at ha
          exact ha
      rw [← hfound a hvalue]
      simp only [groupsFound_searched, groupsFound_append, groupsFound_session, List.nil_append,
        List.append_nil]

/-- Reading a cursor to its end, where what is read of an entry is a list of names and each of
them is logged. -/
theorem accounts_forEach {read : Entry → Except Failure (List String)}
    {report : List String → List Happening} (hends : ∀ names, endings (report names) = [])
    (hfound : ∀ names, groupsFound (report names) = names) :
    Step.Accounts before (session.forEach read report) fun lists => before ++ lists.flatten := by
  intro w
  fun_induction Session.forEach session read report w generalizing before with
  | case1 w failure w' trace _ => exact ⟨endings_session trace, fun lists h => by cases h⟩
  | case2 w w' trace _ =>
    refine ⟨endings_session trace, fun lists h => ?_⟩
    obtain rfl := Except.ok.inj h
    exact congrArg (before ++ ·) (groupsFound_session trace)
  | case3 w entry w' trace _ failure _ =>
    exact ⟨endings_session trace, fun lists h => by cases h⟩
  | case4 w entry w' trace _ names _ rest ih =>
    obtain ⟨hends', hfound'⟩ := ih (before ++ names)
    refine ⟨?_, fun lists h => ?_⟩
    · simp only [endings_append, endings_session, hends, hends', rest, List.append_nil]
    · -- The names of this entry come first, and then those of the rest.
      rcases hrest : rest.result with failure | more
      · rw [hrest] at h
        cases h
      · rw [hrest] at h
        obtain rfl := Except.ok.inj h
        have hmore := hfound' more hrest
        simp only [groupsFound_append, groupsFound_session, hfound, List.nil_append]
        rw [← List.append_assoc, hmore, List.append_assoc]
        rfl

/-! ### Users -/

theorem accounts_findUser (username filter : String) (bases : List String) :
    Step.Accounts before (session.findUser username filter bases) fun _ => before := by
  induction bases with
  | nil => exact .pure none fun _ => before
  | cons base bases ih =>
    refine .bind (session.accounts_withCursor before _ (.relay _)) fun found => ?_
    cases found with
    | none => exact ih
    | some entry =>
      exact .bind (.ofExcept _) fun dn => .bind (.log rfl rfl) fun _ =>
        .pure (some dn) fun _ => before

theorem accounts_resolve (config : Config) (username : String) :
    Step.Accounts before (session.resolve config username) fun _ => before := by
  unfold resolve
  split
  · exact .pure none fun _ => before
  · refine .bind (session.accounts_findUser before _ _ _) fun found => ?_
    cases found with
    | none => exact .bind (.log rfl rfl) fun _ => .pure none fun _ => before
    | some dn => exact .pure (some dn) fun _ => before

theorem accounts_resolver (config : Config) (username : String) (resolver : Resolver σ) :
    Step.Accounts before (resolver.resolve session config username) fun _ => before := by
  cases resolver with
  | search => exact session.accounts_resolve before config username
  | supplied answer => exact .bind (.silent (fun _ => rfl) fun _ => rfl) fun _ => .relay _

/-! ### Groups -/

theorem accounts_valuesBelow (filter attr base : String) :
    Step.Accounts before (session.valuesBelow filter attr base) fun names => before ++ names := by
  refine .bind (session.accounts_withCursor before _ (session.accounts_forEach before ?_ ?_))
    fun lists => .pure lists.flatten (before ++ ·)
  · intro names
    induction names with
    | nil => rfl
    | cons name names ih => exact ih
  · intro names
    induction names with
    | nil => rfl
    | cons name names ih => exact congrArg (name :: ·) ih

theorem accounts_valuesBelowAll (filter attr : String) (bases : List String) :
    Step.Accounts before (session.valuesBelowAll filter attr bases)
      fun names => before ++ names := by
  induction bases generalizing before with
  | nil =>
    have h := Step.Accounts.pure (σ := σ) [] (before ++ ·)
    rwa [List.append_nil] at h
  | cons base bases ih =>
    -- What was found below the first base is part of what the others find logged.
    refine .bind (session.accounts_valuesBelow before filter attr base) fun names =>
      .bind (ih (before ++ names)) fun more => ?_
    rw [List.append_assoc]
    exact .pure (names ++ more) (before ++ ·)

theorem accounts_collect (bases : List String) (filter attr : String) :
    Step.Accounts before (session.collect bases filter attr) fun names => before ++ names :=
  .bind (.log rfl rfl) fun _ => session.accounts_valuesBelowAll before filter attr bases

theorem accounts_groupsOf (config : Config) (dn : DistinguishedName) :
    Step.Accounts before (session.groupsOf config dn) fun names => before ++ names := by
  refine .bind (.ofExcept _) fun filter => ?_
  have hrest := session.accounts_collect before config.groupBases filter config.groupNameAttribute
  split
  · exact .bind (.log rfl rfl) fun _ => .bind (.log rfl rfl) fun _ => hrest
  · exact .bind (.log rfl rfl) fun _ => hrest

/-- **A lookup accounts for its names**: if it comes to an end, then just those groups were logged
as found, and however it ends, nothing was logged of that. -/
theorem accounts_groups (config : Config) (username : String) (resolver : Resolver σ) :
    Step.Accounts [] (session.groups config username resolver) fun names => names := by
  refine .bind (.ofExcept _) fun _ =>
    .bind (session.accounts_resolver [] config username resolver) fun found => ?_
  cases found with
  | none => exact .bind (.log rfl rfl) fun _ => .pure [] fun names => names
  | some dn => exact session.accounts_groupsOf [] config dn

end Session

/-! ### Reports -/

/-- The names that a report carries. -/
def Report.names : Report → List String
  | .ok (some names) => names
  | .ok none => []
  | .error _ => []

section Reports

variable {σ κ : Type}

/-- What is reported of names: themselves, unless there is none. -/
theorem names_report (names : List String) :
    Report.names (.ok (if names.isEmpty then none else some names)) = names := by
  cases names <;> rfl

/-- The three ways in which a lookup is reported: its names, its error, or not at all. -/
theorem reportLookup_cases (username : String) (result : Except Failure (List String)) (s : σ) :
    (∃ names, result = .ok names ∧ reportLookup username result s
        = ⟨.ok (.ok (if names.isEmpty then none else some names)), s,
            [.logged (.complete username names.length)]⟩)
      ∨ (∃ error, reportLookup username result s
        = ⟨.ok (.error error), s, [.logged (.failed username error)]⟩)
      ∨ ∃ failure, reportLookup username result s = ⟨.error failure, s, []⟩ := by
  rcases result with (error | error | error | error | ⟨name, message⟩) | names
  · exact .inr (.inl ⟨error, rfl⟩)
  · exact .inr (.inr ⟨.protocol error, rfl⟩)
  · exact .inr (.inr ⟨.name error, rfl⟩)
  · exact .inr (.inr ⟨.config error, rfl⟩)
  · exact .inr (.inr ⟨.foreign name message, rfl⟩)
  · exact .inl ⟨names, rfl, rfl⟩

/-- What is told on behalf of a service is what its lookup logs, and then its report. -/
theorem Endpoint.recordsTold_groups (endpoint : Endpoint σ κ) (username : String)
    (resolver : Resolver σ) (world : World σ) :
    let lookup := endpoint.session.groups endpoint.config username resolver world.directory
    recordsTold (endpoint.groups username resolver world).trace
      = recordsAmong (lookup.trace ++ (reportLookup username lookup.result lookup.state).trace) := by
  intro lookup
  have htrace : (endpoint.groups username resolver world).trace = (lookup.trace
      ++ (reportLookup username lookup.result lookup.state).trace).map
        (Event.mk (some endpoint.service)) := rfl
  rw [recordsTold, htrace, List.map_map]
  exact congrArg recordsAmong (List.map_id _)

/-- **The log tells what a lookup reports**, whatever session, configuration and resolver it has and
wherever something fails.

If there is a report, then the last that is logged says so, and nothing else does: that the lookup
is complete, with the number of names, or that it failed, with the kind of the error, its message
and its code.  If a failure gets out instead, nothing says how the lookup ended.

In a success the groups that were logged as found are the names that are reported, in the same
order.  There is never an empty list of names: none is reported just if no group was logged.  An
error comes without names, whatever groups were logged before it. -/
theorem Endpoint.log_tells_report (endpoint : Endpoint σ κ) (username : String)
    (resolver : Resolver σ) (world : World σ) :
    let done := endpoint.groups username resolver world
    let records := recordsTold done.trace
    (∀ found, done.result = .ok (.ok found) →
        let names := Report.names (.ok found)
        EndsOnceWith ⟨.info, "get_groups_complete",
            [("username", .text username), ("group_count", .int names.length)]⟩ records
          ∧ groupFields records = names.map (fun name => some (.text name))
          ∧ found ≠ some []
          ∧ (found = none ↔ ∀ record ∈ records, record.name ≠ "group_found"))
      ∧ (∀ error, done.result = .ok (.error error) →
        Report.names (.error error) = []
          ∧ EndsOnceWith ⟨.warning, "get_groups_failed",
            [("username", .text username), ("error_type", .text error.kind.name),
              ("error", .text error.message), ("code", .ofInt? error.code)]⟩ records)
      ∧ ∀ failure, done.result = .error failure → ∀ record ∈ records, ¬ record.EndsLookup := by
  intro done records
  obtain ⟨hends, hfound⟩ :=
    endpoint.session.accounts_groups endpoint.config username resolver world.directory
  have hrecords : records = _ := endpoint.recordsTold_groups username resolver world
  have hdone : done.result = (reportLookup username
      (endpoint.session.groups endpoint.config username resolver world.directory).result
      (endpoint.session.groups endpoint.config username resolver world.directory).state).result :=
    rfl
  -- From here on it does not matter how the lookup came to its result.
  generalize endpoint.session.groups endpoint.config username resolver world.directory = lookup
    at hends hfound hrecords hdone
  have hfront : ∀ record ∈ recordsAmong lookup.trace, ¬ record.EndsLookup :=
    fun record hrecord => not_endsLookup_of_mem hends hrecord
  rcases reportLookup_cases username lookup.result lookup.state
    with ⟨names, hnames, hreport⟩ | ⟨error, hreport⟩ | ⟨failure, hreport⟩
  · -- The lookup came to its end, and the groups logged as found are its names.
    rw [hreport] at hrecords hdone
    have hfields : groupFields records = names.map fun name => some (.text name) := by
      rw [hrecords, groupFields_recordsAmong, groupsFound_append]
      exact congrArg _ ((List.append_nil _).trans (hfound names hnames))
    rw [hdone]
    refine ⟨?_, fun error h => ?_, fun failure h => ?_⟩
    · rintro found ⟨⟩
      rw [names_report]
      refine ⟨⟨_, hrecords.trans (recordsAmong_append _ _), hfront⟩, hfields, ?_, ?_⟩
      · cases names <;> simp
      · rw [← groupFields_eq_nil_iff, hfields]
        cases names <;> simp
    · cases h
    · cases h
  · -- It failed with an error, which is all that is reported.
    rw [hreport] at hrecords hdone
    rw [hdone]
    refine ⟨fun found h => ?_, ?_, fun failure h => ?_⟩
    · cases h
    · rintro other ⟨⟩
      exact ⟨rfl, _, hrecords.trans (recordsAmong_append _ _), hfront⟩
    · cases h
  · -- A failure got out, and nothing was logged after the lookup.
    rw [hreport, List.append_nil] at hrecords
    rw [hreport] at hdone
    rw [hdone, hrecords]
    refine ⟨fun found h => ?_, fun error h => ?_, fun failure _ => hfront⟩
    · cases h
    · cases h

/-- Two groups are found below the first base and one more below the second, whose cursor fails
then; and a resolver breaks down. -/
theorem Endpoint.log_tells_report_over_table :
    let busy : LookupError := .refused "o=b" (some 51) (some "busy")
    let broken : Failure := .foreign "RuntimeError" "bug"
    let group (name : String) : Entry :=
      { dn := some "cn=g", attributes := some [("cn", .text name)] }
    let table : AnswerTable :=
      [("o=users", { entries := [{ dn := some "uid=ada,o=x" }] }),
        ("o=a", { entries := [group "staff", group "admins"] }),
        ("o=b", { entries := [group "ops"], failure := some (.lookup busy) })]
    let config : Config :=
      { groupBases := ["o=a"], groupFilter := "(objectClass=groupOfNames)",
        groupNameAttribute := "cn", membershipAttribute := some "member",
        userBases := ["o=users"], userFilter := "(uid=?)" }
    let report (config : Config) (resolver : Resolver AnswerTable) :=
      Endpoint.groups { session := AnswerTable.session, config } "ada" resolver ⟨none, table⟩
    let complete := report config .search
    let failed := report { config with groupBases := ["o=a", "o=b"] } .search
    let escaped := report config (.supplied fun _ _ => Step.fail broken)
    (complete.result = .ok (.ok (some ["staff", "admins"]))
        ∧ groupFields (recordsTold complete.trace) = [some (.text "staff"), some (.text "admins")]
        ∧ EndsOnceWith ⟨.info, "get_groups_complete",
          [("username", .text "ada"), ("group_count", .int 2)]⟩ (recordsTold complete.trace))
      ∧ (failed.result = .ok (.error busy)
        ∧ groupFields (recordsTold failed.trace)
          = [some (.text "staff"), some (.text "admins"), some (.text "ops")]
        ∧ EndsOnceWith ⟨.warning, "get_groups_failed",
          [("username", .text "ada"), ("error_type", .text "DirectoryOperationError"),
            ("error", .text "Search under 'o=b' failed: busy"), ("code", .int 51)]⟩
          (recordsTold failed.trace))
      ∧ escaped.result = .error broken
      ∧ ∀ record ∈ recordsTold escaped.trace, ¬ record.EndsLookup := by
  intro busy broken group table config report complete failed escaped
  have hvalue : ∀ {result : Except Failure Report} {value : Report},
      result.toOption = some value → result = .ok value := by
    rintro (failure | other) value h
    · cases h
    · exact congrArg _ (Option.some.inj h)
  have hcomplete : complete.result = .ok (.ok (some ["staff", "admins"])) :=
    hvalue (by decide +kernel)
  have hfailed : failed.result = .ok (.error busy) := hvalue (by decide +kernel)
  have hescaped : escaped.result = .error broken := rfl
  obtain ⟨hlast, hfields, -, -⟩ := (Endpoint.log_tells_report _ _ _ _).1 _ hcomplete
  obtain ⟨-, hlast'⟩ := (Endpoint.log_tells_report _ _ _ _).2.1 _ hfailed
  exact ⟨⟨hcomplete, hfields, hlast⟩, ⟨hfailed, by decide +kernel, hlast'⟩, hescaped,
    (Endpoint.log_tells_report _ _ _ _).2.2 _ hescaped⟩

end Reports

end DirectoryGroups
