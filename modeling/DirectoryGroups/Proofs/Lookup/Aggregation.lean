/-
DirectoryGroups/Proofs/Lookup/Aggregation.lean

Collecting values is exact, and all or nothing.

The values of an attribute are collected base by base, and of each base entry by entry.
Either every search brings all of its entries, and then the values of all of them are
collected, in order and as often as they come up; or there is a first search that fails
somewhere, and then nothing is collected and no base after it is searched
(`Session.Collects`).  Which calls of the session stand behind a search is left to
`Session.Brings`, so this holds of every kind of cursor.

If a session brings the same of a base each time that it is searched (`Session.Steady`),
then bases can be collected in parts.  This is so at any rate for a session that never
changes its directory (`Session.Still`), such as one over a table.

Main result: `Session.collect_all_or_nothing`.
-/
import DirectoryGroups.Proofs.Lookup.Paged
import DirectoryGroups.Proofs.Session.Questions
import DirectoryGroups.Proofs.Session.Results

namespace DirectoryGroups

namespace Session

variable {σ κ : Type}

/-! ### How collecting ends -/

/-- `session.Collects attr query bases s asked result s'`: the bases `asked` are searched, and
`result` is collected.  Either all bases are, and the values of all their entries count, or
there is a first base whose search fails. -/
inductive Collects (session : Session σ κ) (attr : String) (query : String → Query)
    (bases : List String) (s : σ) : List String → Except Failure (List String) → σ → Prop
  | returns {lists s'} :
      session.BringsInTurn session.GivesAll query s bases lists s' →
      Collects session attr query bases s bases
        (.ok (lists.flatMap fun entries => entries.flatMap (Entry.valueList attr))) s'
  | raises {before base after lists s₁ failure s'} :
      bases = before ++ base :: after →
      session.BringsInTurn session.GivesAll query s before lists s₁ →
      session.Brings session.GivesAll (query base) s₁ (.error failure) s' →
      Collects session attr query bases s (before ++ [base]) (.error failure) s'

variable {session : Session σ κ} {attr filter base : String} {bases : List String}

section Ends

variable {query : String → Query} {s s₁ s' : σ}

theorem Collects.cons {entries : List Entry} {asked : List String}
    {result : Except Failure (List String)}
    (hfirst : session.Brings session.GivesAll (query base) s (.ok entries) s₁)
    (h : session.Collects attr query bases s₁ asked result s') :
    session.Collects attr query (base :: bases) s (base :: asked)
      (result.map (entries.flatMap (Entry.valueList attr) ++ ·)) s' := by
  cases h with
  | returns hlists => exact .returns (.cons hfirst hlists)
  | @raises before failing _ _ _ _ _ hbases hlists hfailure =>
    rw [hbases]
    show session.Collects attr query _ s ((base :: before) ++ [failing]) _ s'
    exact .raises rfl (.cons hfirst hlists) hfailure

theorem Collects.head {failure : Failure}
    (h : session.Brings session.GivesAll (query base) s (.error failure) s') :
    session.Collects attr query (base :: bases) s [base] (.error failure) s' := by
  show session.Collects attr query _ s ([] ++ [base]) _ s'
  exact .raises rfl .nil h

/-- The bases that are searched are the first ones. -/
theorem Collects.asked_prefix {asked : List String} {result : Except Failure (List String)}
    (h : session.Collects attr query bases s asked result s') : asked <+: bases := by
  cases h with
  | returns _ => exact List.prefix_rfl
  | @raises before failing after _ _ _ _ hbases _ _ =>
    rw [hbases, List.prefix_append_right_inj]
    exact List.prefix_append [failing] after

/-- If names are collected, then all bases have been searched. -/
theorem Collects.asked_eq {asked names : List String} {result : Except Failure (List String)}
    (h : session.Collects attr query bases s asked result s') (hnames : result = .ok names) :
    asked = bases := by
  cases h with
  | returns _ => rfl
  | raises _ _ _ => cases hnames

end Ends

/-! ### Collecting below the bases -/

section Below

variable {s s' : σ} {trace : List Happening}

/-- Collecting the values below one base is one search, for just their attribute. -/
theorem questions_valuesBelow (session : Session σ κ) (filter attr base : String) (s : σ) :
    questions (session.valuesBelow filter attr base s).trace
      = [.searched { base, filter, attributes := [attr] }] := by
  -- The names that are found are logged, which is no question.
  have hreport : ∀ names : List String,
      questions (names.map fun name => .logged (.groupFound name base)) = [] := by
    intro names
    induction names with
    | nil => rfl
    | cons name names ih => exact ih
  rw [valuesBelow, questions_bind_silent fun _ _ => rfl]
  exact session.questions_withCursor _ (session.questions_forEach hreport) s

theorem valuesBelow_of_brings {given : Except Failure (List Entry)}
    (h : session.Brings session.GivesAll { base, filter, attributes := [attr] } s given s') :
    ∃ trace, session.valuesBelow filter attr base s
      = ⟨given.map (List.flatMap (Entry.valueList attr)), s', trace⟩ := by
  have hread : ReadsAs (fun entry => (entry.read attr).map (·.getD [])) (Entry.valueList attr) := by
    intro entry
    rcases hentry : entry.unreadable with - | failure <;>
      simp [Entry.read, hentry, Except.map, Entry.valueList]
  obtain ⟨trace, hall⟩ :=
    all_of_brings hread (fun names => names.map fun name => .logged (.groupFound name base)) h
  rcases given with failure | entries
  · rw [valuesBelow, Step.bind_of_error hall]
    exact ⟨_, rfl⟩
  · rw [valuesBelow, Step.bind_of_ok hall, ← List.flatMap_def]
    exact ⟨_, rfl⟩

/-- If the first base fails, the others are not reached. -/
theorem valuesBelowAll_of_failed {failure : Failure}
    (h : session.valuesBelow filter attr base s = ⟨.error failure, s', trace⟩) :
    session.valuesBelowAll filter attr (base :: bases) s = ⟨.error failure, s', trace⟩ := by
  rw [valuesBelowAll]
  exact Step.bind_of_error h

theorem valuesBelowAll_of_values {names : List String}
    (h : session.valuesBelow filter attr base s = ⟨.ok names, s', trace⟩) :
    let rest := session.valuesBelowAll filter attr bases s'
    session.valuesBelowAll filter attr (base :: bases) s
      = ⟨rest.result.map (names ++ ·), rest.state, trace ++ rest.trace⟩ := by
  intro rest
  rw [valuesBelowAll, Step.bind_of_ok h]
  rcases hrest : session.valuesBelowAll filter attr bases s' with ⟨failure | more, s'', trace'⟩
  · rw [Step.bind_of_error hrest, show rest = _ from hrest]
    rfl
  · rw [Step.bind_of_ok hrest, show rest = _ from hrest, Step.pure_apply, List.append_nil]
    rfl

theorem valuesBelowAll_of_brings {lists : List (List Entry)}
    (h : session.BringsInTurn session.GivesAll ({ base := ·, filter, attributes := [attr] })
      s bases lists s') :
    (session.valuesBelowAll filter attr bases s).result
      = .ok (lists.flatMap fun entries => entries.flatMap (Entry.valueList attr)) := by
  induction h with
  | nil => rfl
  | @cons s base entries _ _ _ _ hbrings _ ih =>
    obtain ⟨trace, hvalues⟩ := valuesBelow_of_brings hbrings
    rw [valuesBelowAll_of_values hvalues, ih]
    rfl

/-- If a search fails after others that bring their entries, so does the whole. -/
theorem valuesBelowAll_of_brings_error {base : String} {before after : List String}
    {lists : List (List Entry)} {s₁ : σ} {failure : Failure}
    (hbefore : session.BringsInTurn session.GivesAll
      ({ base := ·, filter, attributes := [attr] }) s before lists s₁)
    (hfails : session.Brings session.GivesAll { base, filter, attributes := [attr] } s₁
      (.error failure) s') :
    (session.valuesBelowAll filter attr (before ++ base :: after) s).result = .error failure := by
  induction hbefore with
  | nil =>
    obtain ⟨trace, hvalues⟩ := valuesBelow_of_brings hfails
    rw [List.nil_append, valuesBelowAll_of_failed hvalues]
  | cons hbrings _ ih =>
    obtain ⟨trace, hvalues⟩ := valuesBelow_of_brings hbrings
    rw [List.cons_append, valuesBelowAll_of_values hvalues, ih hfails]
    rfl

/-- What is collected below some bases hangs on what the searches bring. -/
theorem valuesBelowAll_of_collects {asked : List String} {result : Except Failure (List String)}
    (h : session.Collects attr ({ base := ·, filter, attributes := [attr] }) bases s asked result
      s') : (session.valuesBelowAll filter attr bases s).result = result := by
  cases h with
  | returns hbrings => exact valuesBelowAll_of_brings hbrings
  | raises hbases hbefore hfails =>
    rw [hbases]
    exact valuesBelowAll_of_brings_error hbefore hfails

end Below

/-- **Collecting below some bases ends in one of the two ways**, and asks no other base than
those up to a failing one. -/
theorem collects_valuesBelowAll (session : Session σ κ) (filter attr : String)
    (bases : List String) (s : σ) :
    let query (base : String) : Query := { base, filter, attributes := [attr] }
    let done := session.valuesBelowAll filter attr bases s
    ∃ asked, session.Collects attr query bases s asked done.result done.state
      ∧ questions done.trace = asked.map fun base => .searched (query base) := by
  intro query
  induction bases generalizing s with
  | nil => exact ⟨[], .returns .nil, rfl⟩
  | cons base bases ih =>
    -- The first base decides: if its search fails, the others are not reached.
    obtain ⟨given, s₁, hbrings⟩ := exists_brings session.exists_givesAll (query base) s
    obtain ⟨trace, hvalues⟩ := valuesBelow_of_brings hbrings
    have hasked := session.questions_valuesBelow filter attr base s
    rw [hvalues] at hasked
    rcases given with failure | entries
    · rw [valuesBelowAll_of_failed hvalues]
      exact ⟨[base], .head hbrings, hasked⟩
    · obtain ⟨asked, hcollects, hmore⟩ := ih s₁
      rw [valuesBelowAll_of_values hvalues]
      refine ⟨base :: asked, hcollects.cons hbrings, ?_⟩
      rw [questions_append, hasked, hmore]
      rfl

/-- Before anything is collected, it is only logged. -/
theorem collect_eq (session : Session σ κ) (bases : List String) (filter attr : String) (s : σ) :
    let found := session.valuesBelowAll filter attr bases s
    session.collect bases filter attr s
      = ⟨found.result, found.state, .logged (.collecting bases filter attr) :: found.trace⟩ :=
  rfl

/-! ### The same answers each time -/

/-- In these states the session answers each base the same way each time: what its search
brings, entries or a failure, is the same in all of them, and it leads to another one. -/
def Steady (session : Session σ κ) (query : String → Query) (states : σ → Prop) : Prop :=
  ∀ base, ∃ answer, ∀ s, states s →
    ∃ s', session.Brings session.GivesAll (query base) s answer s' ∧ states s'

/-- The session never changes its directory. -/
structure Still (session : Session σ κ) : Prop where
  search : ∀ {query s result s' trace}, session.search query s = ⟨result, s', trace⟩ → s' = s
  next : ∀ {w result w' trace}, session.next w = ⟨result, w', trace⟩ → w'.2 = w.2
  close : ∀ {w result w' trace}, session.close w = ⟨result, w', trace⟩ → w'.2 = w.2

namespace Still

theorem givesAll (h : session.Still) {w w' : κ × σ} {given : Except Failure (List Entry)}
    (hgives : session.GivesAll w given w') : w'.2 = w.2 := by
  induction hgives with
  | ends hnext => exact h.next hnext
  | fails hnext => exact h.next hnext
  | unreadable hnext _ => exact h.next hnext
  | gives hnext _ _ ih => exact ih.trans (h.next hnext)

theorem brings (h : session.Still) {query : Query} {s s' : σ}
    {given : Except Failure (List Entry)}
    (hbrings : session.Brings session.GivesAll query s given s') : s' = s := by
  cases hbrings with
  | refused hsearch => exact h.search hsearch
  | read hsearch hgives hclose | unclosed hsearch hgives hclose =>
    exact (h.close hclose).trans ((h.givesAll hgives).trans (h.search hsearch))

/-- **A directory that does not change is searched with the same result each time.** -/
theorem steady (h : session.Still) (query : String → Query) (s : σ) :
    session.Steady query (· = s) := by
  intro base
  obtain ⟨answer, s', hbrings⟩ := exists_brings session.exists_givesAll (query base) s
  refine ⟨answer, ?_⟩
  rintro t rfl
  exact ⟨s', hbrings, h.brings hbrings⟩

end Still

/-- What is collected is put together from what is collected below each base, if this is the
same each time. -/
theorem Steady.exists_answer {states : σ → Prop}
    (h : session.Steady ({ base := ·, filter, attributes := [attr] }) states) :
    ∃ answer : String → Except Failure (List String), ∀ bases s, states s →
      (session.valuesBelowAll filter attr bases s).result
        = (bases.mapM answer).map List.flatten := by
  choose given hgiven using h
  refine ⟨fun base => (given base).map (List.flatMap (Entry.valueList attr)), ?_⟩
  intro bases
  induction bases with
  | nil => exact fun s _ => rfl
  | cons base bases ih =>
    intro s hs
    -- Behind each base the session is in one of these states again.
    obtain ⟨s₁, hbrings, hs₁⟩ := hgiven base s hs
    obtain ⟨trace, hvalues⟩ := valuesBelow_of_brings hbrings
    rw [List.mapM_cons]
    rcases hbase : given base with failure | entries
    · rw [hbase] at hvalues
      rw [valuesBelowAll_of_failed hvalues]
      rfl
    · rw [hbase] at hvalues
      rw [valuesBelowAll_of_values hvalues, ih s₁ hs₁]
      generalize bases.mapM (m := Except Failure) _ = lists
      cases lists <;> rfl

/-- **Bases can be collected in parts**, if each brings the same each time. -/
theorem Steady.collect_append {states : σ → Prop}
    (h : session.Steady ({ base := ·, filter, attributes := [attr] }) states)
    (bases more : List String) {s s₁ s₂ : σ} (hs : states s) (hs₁ : states s₁)
    (hs₂ : states s₂) :
    (session.collect (bases ++ more) filter attr s).result
      = (session.collect bases filter attr s₁).result >>= fun names =>
        (session.collect more filter attr s₂).result.map (names ++ ·) := by
  obtain ⟨answer, hanswer⟩ := h.exists_answer
  simp only [collect_eq, hanswer _ _ hs, hanswer _ _ hs₁, hanswer _ _ hs₂, List.mapM_append]
  rcases bases.mapM answer with failure | lists
  · rfl
  · rcases more.mapM answer with failure | lists'
    · rfl
    · show Except.ok (lists ++ lists').flatten = .ok (lists.flatten ++ lists'.flatten)
      rw [List.flatten_append]

/-! ### The main result -/

/-- **Collecting is exact, and all or nothing.**

Below each base all entries are read that its search brings, and what is collected are the
values of the attribute, base by base, entry by entry and value by value, with those that come
up more than once; an entry without the attribute has none.  If a search, a cursor, an entry or
the closing of a cursor fails, then so does the whole, no names are left of it, and the bases up
to the failing one have been searched and no others.

If a session answers each base the same way each time, then collecting below some bases and
below more of them makes the names of the first in front of those of the others, and what is
raised is what the first raise, or else what the others do. -/
theorem collect_all_or_nothing (session : Session σ κ) (filter attr : String) :
    let query (base : String) : Query := { base, filter, attributes := [attr] }
    (∀ bases s,
      let done := session.collect bases filter attr s
      ∃ asked, session.Collects attr query bases s asked done.result done.state
        ∧ questions done.trace = asked.map fun base => .searched (query base))
      ∧ ∀ states, session.Steady query states → ∀ bases more s s₁ s₂,
        states s → states s₁ → states s₂ →
        let done := session.collect (bases ++ more) filter attr s
        let first := session.collect bases filter attr s₁
        let second := session.collect more filter attr s₂
        (∀ names names', first.result = .ok names → second.result = .ok names' →
            done.result = .ok (names ++ names'))
          ∧ raisedBy done.result = (raisedBy first.result).or (raisedBy second.result) := by
  intro query
  refine ⟨?_, ?_⟩
  · intro bases s done
    obtain ⟨asked, hcollects, hasked⟩ := session.collects_valuesBelowAll filter attr bases s
    exact ⟨asked, hcollects, hasked⟩
  · intro states hsteady bases more s s₁ s₂ hs hs₁ hs₂ done first second
    have hdone : done.result = first.result >>= fun names => second.result.map (names ++ ·) :=
      hsteady.collect_append bases more hs hs₁ hs₂
    rw [hdone]
    refine ⟨?_, ?_⟩
    · intro names names' hfirst hsecond
      rw [hfirst, hsecond]
      rfl
    · rcases first.result with failure | names
      · rfl
      · cases second.result <;> rfl

end Session

/-! ### Tables -/

/-- A directory given by a table never changes. -/
theorem AnswerTable.still : AnswerTable.session.Still where
  search := by
    intro query table result table' trace h
    -- All calls hand the table on; only cursors move.
    unfold AnswerTable.session AnswerTable.search at h
    simp only at h
    split at h <;> exact (Outcome.mk.inj h).2.1.symm
  next := by
    rintro ⟨cursor, table⟩ result w' trace h
    have hstate : (TableCursor.next (cursor, table)).state.2 = table := by
      simp only [TableCursor.next]
      split <;> rfl
    rwa [show TableCursor.next (cursor, table) = _ from h] at hstate
  close := by
    rintro ⟨cursor, table⟩ result w' trace h
    have hstate : (TableCursor.close (cursor, table)).state.2 = table := by
      simp only [TableCursor.close]
      split <;> rfl
    rwa [show TableCursor.close (cursor, table) = _ from h] at hstate

/-- A lazy cursor, a plain list and a closable cursor, with an entry that lacks the attribute and
a name that comes up twice; the search below the last base but one is refused. -/
theorem Session.collect_all_or_nothing_over_table :
    let table : AnswerTable :=
      [("o=lazy", { entries := [{ dn := some "cn=a", attributes := some [("cn", .text "staff")] },
                                { dn := some "cn=b" }] }),
        ("o=list", { form := .plain, entries :=
          [{ dn := some "cn=c",
             attributes := some [("CN", .list [.text "ops", .text "staff"])] }] }),
        ("o=open", { form := .closable, entries :=
          [{ dn := some "cn=d", attributes := some [("cn", .octets [97, 98])] }] }),
        ("o=shut", { refusal := some (.foreign "RuntimeError" "boom") })]
    let session := AnswerTable.session
    let query (base : String) : Query := { base, filter := "(x=y)", attributes := ["cn"] }
    let collected (bases : List String) := session.collect bases "(x=y)" "cn" table
    let bases := ["o=lazy", "o=list"]
    let done := collected (bases ++ ["o=open", "o=shut", "o=more"])
    session.Steady query (· = table)
      ∧ (collected bases).result = .ok ["staff", "ops", "staff"]
      ∧ (collected ["o=open"]).result = .ok ["ab"]
      ∧ (collected (bases ++ ["o=open"])).result = .ok (["staff", "ops", "staff"] ++ ["ab"])
      ∧ (raisedBy done.result).map Failure.message = some "boom"
      ∧ ∃ asked, session.Collects "cn" query (bases ++ ["o=open", "o=shut", "o=more"]) table asked
          done.result done.state
        ∧ asked.map (fun base => Happening.searched (query base))
          = (bases ++ ["o=open", "o=shut"]).map fun base => .searched (query base) := by
  intro table session query collected bases done
  have hsteady : session.Steady query (· = table) := AnswerTable.still.steady query table
  have hfirst : (collected bases).result = .ok ["staff", "ops", "staff"] :=
    eq_ok_of_toOption (by decide +kernel)
  have hsecond : (collected ["o=open"]).result = .ok ["ab"] := eq_ok_of_toOption (by decide +kernel)
  have hrest : (raisedBy (collected ["o=open", "o=shut", "o=more"]).result).map Failure.message
      = some "boom" := by decide +kernel
  have hquestions : questions done.trace
      = (bases ++ ["o=open", "o=shut"]).map fun base => .searched (query base) := by
    decide +kernel
  -- The bases in two parts, once with a second part that is fine and once with one that fails.
  obtain ⟨hends, hparts⟩ := session.collect_all_or_nothing "(x=y)" "cn"
  have hparts := hparts (· = table) hsteady bases
  obtain ⟨hnames, -⟩ := hparts ["o=open"] table table table rfl rfl rfl
  obtain ⟨-, hraised⟩ := hparts ["o=open", "o=shut", "o=more"] table table table rfl rfl rfl
  obtain ⟨asked, hcollects, hasked⟩ := hends (bases ++ ["o=open", "o=shut", "o=more"]) table
  refine ⟨hsteady, hfirst, hsecond, hnames _ _ hfirst hsecond, ?_, asked, hcollects, ?_⟩
  · rw [hfirst] at hraised
    exact (congrArg (Option.map Failure.message) hraised).trans hrest
  · exact hasked.symm.trans hquestions

end DirectoryGroups
