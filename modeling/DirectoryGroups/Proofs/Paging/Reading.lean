/-
DirectoryGroups/Proofs/Paging/Reading.lean

Searches over a paged session, from the outside.

A step that reads a connection asks for some pages and ends with some result
(`Step.Reads`).  Such steps are put together piece by piece: a step and the one
that follows it read the pages of the first and then those of the second
(`Reads.bind_ok`), and after a failure nothing more is read (`Reads.bind_error`).

Main results: looking at the first entry of a search (`reads_first`) and reading a
search to its end (`forEach_spec`) fail just if the last page they ask for does, and
otherwise give what the entries of their pages amount to.
-/
import DirectoryGroups.Lookup.Basic
import DirectoryGroups.Proofs.Paging.Advance

namespace DirectoryGroups

/-! ### Reading a connection -/

/-- The request that a happening tells of. -/
def Happening.request? : Happening → Option Request
  | session event => event.request?
  | _ => none

/-- The requests that happenings tell of. -/
def requestsAmong (trace : List Happening) : List Request :=
  trace.filterMap Happening.request?

@[simp] theorem requestsAmong_nil : requestsAmong [] = [] := rfl

@[simp] theorem requestsAmong_append (trace more : List Happening) :
    requestsAmong (trace ++ more) = requestsAmong trace ++ requestsAmong more :=
  List.filterMap_append

@[simp] theorem requestsAmong_searched (query : Query) (trace : List Happening) :
    requestsAmong (.searched query :: trace) = requestsAmong trace := rfl

@[simp] theorem requestsAmong_session (trace : List SessionEvent) :
    requestsAmong (trace.map .session) = requestsOf trace :=
  List.filterMap_map

namespace Step

variable {α β : Type}

/-- `x.Reads connection pages result after`: begun with this connection, the step
asks for just these pages, which are up next, and leaves the connection `after`. -/
structure Reads (x : Step Connection Happening α) (connection : Connection)
    (pages : List Page) (result : Except Failure α) (after : Connection) : Prop where
  result : (x connection).result = result
  state : (x connection).state = after
  served : pages = firstPages (requestsAmong (x connection).trace).length connection.script
  script : after.script = connection.script.drop pages.length

namespace Reads

variable {x : Step Connection Happening α} {f : α → Step Connection Happening β}
  {connection middle after : Connection} {pages more : List Page}

/-- A step that asks for nothing. -/
theorem silent {result : Except Failure α} (hresult : (x connection).result = result)
    (hstate : (x connection).state = connection)
    (htrace : requestsAmong (x connection).trace = []) :
    x.Reads connection [] result connection where
  result := hresult
  state := hstate
  served := by rw [htrace]; rfl
  script := rfl

theorem pure (a : α) :
    (pure a : Step Connection Happening α).Reads connection [] (.ok a) connection :=
  silent rfl rfl rfl

theorem log (event : LookupLog) : (Step.log event).Reads connection [] (.ok ()) connection :=
  silent rfl rfl rfl

theorem ofExcept (result : Except Failure α) :
    (Step.ofExcept result).Reads connection [] result connection :=
  silent rfl rfl rfl

theorem bind_ok {a : α} {result : Except Failure β} (h : x.Reads connection pages (.ok a) middle)
    (h' : (f a).Reads middle more result after) :
    (x >>= f).Reads connection (pages ++ more) result after := by
  rcases hx : x connection with ⟨result', state', trace⟩
  obtain ⟨hresult, hstate, hserved, hscript⟩ := h
  rw [hx] at hresult hstate hserved
  simp only at hresult hstate hserved
  subst hresult hstate
  have hlength : pages.length = (requestsAmong trace).length := by
    rw [hserved, length_firstPages]
  have hbind := Step.bind_of_ok (f := f) hx
  constructor
  · rw [hbind]
    exact h'.result
  · rw [hbind]
    exact h'.state
  · -- The pages of the second step begin where the first one left the script.
    rw [hbind, requestsAmong_append, List.length_append, firstPages_add, ← hserved, ← hlength,
      ← hscript, ← h'.served]
  · rw [h'.script, hscript, List.drop_drop, List.length_append]

/-- A step that asks for nothing, before another. -/
theorem bind_silent {a : α} {result : Except Failure β}
    (h : x.Reads connection [] (.ok a) middle) (h' : (f a).Reads middle pages result after) :
    (x >>= f).Reads connection pages result after :=
  h.bind_ok h'

theorem bind_last {a : α} {result : Except Failure β}
    (h : x.Reads connection pages (.ok a) middle) (h' : (f a).Reads middle [] result after) :
    (x >>= f).Reads connection pages result after := by
  rw [← List.append_nil pages]
  exact h.bind_ok h'

theorem bind_error {failure : Failure} (h : x.Reads connection pages (.error failure) after) :
    (x >>= f).Reads connection pages (.error failure) after := by
  rcases hx : x connection with ⟨result', state', trace⟩
  obtain ⟨hresult, hstate, hserved, hscript⟩ := h
  rw [hx] at hresult hstate hserved
  simp only at hresult hstate hserved
  subst hresult hstate
  have hbind := Step.bind_of_error (f := f) hx
  constructor
  · rw [hbind]
  · rw [hbind]
  · rw [hbind]
    exact hserved
  · exact hscript

end Reads

end Step

namespace Paging

variable {α : Type}

/-! ### Cursors in use -/

/-- Using a cursor of a paged session: closing it afterwards changes nothing. -/
theorem withCursor_apply (paging : Paging) (query : Query)
    (x : Step (PagedCursor × Connection) Happening α) (connection : Connection) :
    paging.session.withCursor query x connection
      = ⟨(x (.fresh query, connection)).result, (x (.fresh query, connection)).state.2,
          .searched query :: (x (.fresh query, connection)).trace⟩ := by
  simp [Session.withCursor, Session.ask, session, bind, Step.bind, Step.tell, Step.relay,
    Step.holding, Step.ensuring, Step.attempt, Step.ofExcept, pure, Step.pure]

theorem reads_withCursor (paging : Paging) {query : Query}
    (x : Step (PagedCursor × Connection) Happening α) {connection : Connection}
    {pages : List Page} {result : Except Failure α}
    (hresult : (x (.fresh query, connection)).result = result)
    (hserved : pages = firstPages
      (requestsAmong (x (.fresh query, connection)).trace).length connection.script)
    (hscript : (x (.fresh query, connection)).state.2.script
      = connection.script.drop pages.length) :
    ∃ after, (paging.session.withCursor query x).Reads connection pages result after := by
  refine ⟨(x (.fresh query, connection)).state.2, ?_, ?_, ?_, hscript⟩
  · rw [withCursor_apply, hresult]
  · rw [withCursor_apply]
  · rw [withCursor_apply, requestsAmong_searched]
    exact hserved

/-- **The first entry of a search** is the first of its pages; or the last of them
fails. -/
theorem reads_first (paging : Paging) (query : Query) (connection : Connection) :
    ∃ pages result after, (paging.session.first query).Reads connection pages result after
      ∧ ((Faultless pages ∧ result = .ok (entriesOf pages).head?)
        ∨ ∃ fault, EndsIn fault pages ∧ result = .error (fault.failure query.base)) := by
  rcases hnext : paging.next (.fresh query, connection) with ⟨result, state, trace⟩
  obtain ⟨hadvance, hscript, -⟩ :=
    next_spec hnext (show (PagedCursor.fresh query).serves query from rfl)
  have hrelay : Step.relay Happening.session paging.next (.fresh query, connection)
      = ⟨result, state, trace.map .session⟩ := by
    rw [Step.relay, hnext]
  obtain ⟨after, hreads⟩ : ∃ after, (paging.session.first query).Reads connection
      (firstPages (requestsOf trace).length connection.script) result after := by
    refine paging.reads_withCursor (Step.relay Happening.session paging.next) ?_ ?_ ?_
    · rw [hrelay]
    · rw [hrelay, requestsAmong_session]
    · rw [hrelay, length_firstPages]
      exact hscript
  refine ⟨_, _, after, hreads, ?_⟩
  have hentries := hadvance.entries
  rw [PagedCursor.atHand_fresh, List.nil_append] at hentries
  -- A new cursor has nothing at hand, so what the call gives heads its pages.
  rcases hadvance.ends with ⟨entry, rfl, hpages⟩ | ⟨hafter, rfl, hpages⟩ |
    ⟨-, fault, rfl, hpages⟩
  · refine .inl ⟨hpages, ?_⟩
    rw [hentries]
    rfl
  · refine .inl ⟨hpages, ?_⟩
    rw [hentries, hafter]
    rfl
  · exact .inr ⟨fault, hpages, rfl⟩

theorem unreadable_of_entry? {item : Item} {entry : Entry} (h : item.entry? = some entry) :
    entry.unreadable = none := by
  unfold Item.entry? at h
  split at h
  · rw [← Option.some.inj h]
  · cases h

theorem unreadable_of_mem {cursor : PagedCursor} {pages : List Page} {entry : Entry}
    (h : entry ∈ cursor.atHand ++ entriesOf pages) : entry.unreadable = none := by
  have hitem : ∃ item : Item, item.entry? = some entry := by
    rcases List.mem_append.mp h with hmem | hmem
    · rcases cursor with query | ⟨query, items, cookie⟩ | -
      · cases hmem
      · obtain ⟨item, -, hitem⟩ := List.mem_filterMap.mp hmem
        exact ⟨item, hitem⟩
      · cases hmem
    · obtain ⟨page, -, hpage⟩ := List.mem_flatMap.mp hmem
      -- A page that fails has no entries at all.
      rcases hfault : page.fault? with - | fault
      · rw [Page.entries_of_sound hfault] at hpage
        obtain ⟨item, -, hitem⟩ := List.mem_filterMap.mp hpage
        exact ⟨item, hitem⟩
      · rw [Page.entries_of_fault hfault] at hpage
        cases hpage
  obtain ⟨item, hitem⟩ := hitem
  exact unreadable_of_entry? hitem

/-- An entry that a cursor gives can be read. -/
theorem unreadable_of_given {paging : Paging} {query : Query} {before after : PagedCursor}
    {pages : List Page} {requests : List Request} {entry : Entry}
    (h : Advance paging query before pages requests (.ok (some entry)) after) :
    entry.unreadable = none := by
  have hmem : entry ∈ before.atHand ++ entriesOf pages := by
    rw [h.entries]
    exact List.mem_cons_self
  exact unreadable_of_mem hmem

/-- What reading a cursor to its end comes to, by the pages it asked for. -/
structure ReadsToEnd (query : Query) (value : Entry → α) (w : PagedCursor × Connection)
    (pages : List Page) (done : Outcome (PagedCursor × Connection) Happening (List α)) : Prop where
  served : pages = firstPages (requestsAmong done.trace).length w.2.script
  script : done.state.2.script = w.2.script.drop pages.length
  result : (Faultless pages ∧ done.result = .ok ((w.1.atHand ++ entriesOf pages).map value))
    ∨ ∃ fault, EndsIn fault pages ∧ done.result = .error (fault.failure query.base)

/-- **Reading a cursor to its end** asks for all pages ahead of it and gives their
entries, each read; or the last of them fails. -/
theorem forEach_spec (paging : Paging) {query : Query} {read : Entry → Except Failure α}
    {value : Entry → α} (hread : ∀ entry, entry.unreadable = none → read entry = .ok (value entry))
    {report : α → List Happening} (hreport : ∀ a, requestsAmong (report a) = [])
    (w : PagedCursor × Connection) (hserves : w.1.serves query) :
    ReadsToEnd query value w (w.1.ahead w.2.script) (paging.session.forEach read report w) := by
  -- The cases are those of the loop: the next call fails, ends the cursor, gives an
  -- entry that cannot be read, or gives one that can.
  fun_induction Session.forEach paging.session read report w with
  | case1 w failure w' trace hnext =>
    obtain ⟨hadvance, hscript, -⟩ := next_spec hnext hserves
    have hahead := hadvance.ahead_script hscript
    rcases hadvance.ends with ⟨_, h, -⟩ | ⟨-, h, -⟩ | ⟨hafter, fault, h, hpages⟩
    · cases h
    · cases h
    · cases h
      rw [hafter, PagedCursor.ahead_ended, List.append_nil] at hahead
      rw [hahead]
      exact ⟨by simp, by simpa using hscript, .inr ⟨fault, hpages, rfl⟩⟩
  | case2 w w' trace hnext =>
    obtain ⟨hadvance, hscript, -⟩ := next_spec hnext hserves
    have hahead := hadvance.ahead_script hscript
    rcases hadvance.ends with ⟨_, h, -⟩ | ⟨hafter, -, hpages⟩ | ⟨-, fault, h, -⟩
    · cases h
    · rw [hafter, PagedCursor.ahead_ended, List.append_nil] at hahead
      rw [hahead]
      refine ⟨by simp, by simpa using hscript, .inl ⟨hpages, ?_⟩⟩
      rw [hadvance.entries, hafter]
      rfl
    · cases h
  | case3 w entry w' trace hnext failure hfailure =>
    obtain ⟨hadvance, -, -⟩ := next_spec hnext hserves
    -- An entry that a connection gives can always be read.
    rw [hread entry (unreadable_of_given hadvance)] at hfailure
    cases hfailure
  | case4 w entry w' trace hnext a ha rest ih =>
    obtain ⟨hadvance, hscript, hserves'⟩ := next_spec hnext hserves
    obtain ⟨hserved, hscript', hresult⟩ := ih hserves'
    rw [hread entry (unreadable_of_given hadvance)] at ha
    cases ha
    rw [hadvance.ahead_script hscript]
    refine ⟨?_, ?_, ?_⟩
    · rw [requestsAmong_append, requestsAmong_append, requestsAmong_session, hreport,
        List.append_nil, List.length_append, firstPages_add, ← hscript, ← hserved]
    · rw [hscript', hscript, List.drop_drop, List.length_append, length_firstPages]
    · rcases hadvance.ends with ⟨_, -, hpages⟩ | ⟨-, h, -⟩ | ⟨-, fault, h, -⟩
      · -- This call gave an entry, so only the calls after it can fail.
        rcases hresult with ⟨hmore, hvalues⟩ | ⟨fault, hmore, hfailure⟩
        · refine .inl ⟨hpages.append hmore, ?_⟩
          rw [entriesOf_append, ← List.append_assoc, hadvance.entries, hvalues]
          rfl
        · refine .inr ⟨fault, hpages.append_endsIn hmore, ?_⟩
          rw [hfailure]
          rfl
      · cases h
      · cases h

end Paging

end DirectoryGroups
