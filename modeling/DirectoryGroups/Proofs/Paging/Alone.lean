/-
DirectoryGroups/Proofs/Paging/Alone.lean

A paged cursor hangs on the pages it is served, and on nothing else.

The connection is shared: whoever sends a request takes the next page of its script and
overwrites the answer it holds.  But a cursor takes its answer at once and keeps the rest
of its page to itself.  So what is done with a cursor has the same result on any other
connection that serves it the same pages, whatever that connection holds besides
(`PageUse.alone`).

Main results: this holds of a call for the next entry (`pageUse_next`), of reading a
cursor to its end (`pageUse_forEach`), and of closing it (`pageUse_close`).
-/
import DirectoryGroups.Proofs.Paging.Reading

namespace DirectoryGroups

/-! ### Pages served -/

/-- Past the end of a script come empty pages. -/
theorem firstPages_append_drop (n : Nat) (script : List Page) :
    firstPages n script ++ script.drop n
      = script ++ List.replicate (n - script.length) ({} : Page) := by
  induction n generalizing script with
  | zero => simp [firstPages]
  | succ n ih =>
    rcases script with - | ⟨page, script⟩
    · simpa [firstPages, List.replicate_succ] using ih []
    · simpa [firstPages] using ih script

namespace Paging

variable {α : Type} {paging : Paging} {query : Query}

/-- A call is determined by the pages that are there to answer it. -/
theorem Advance.unique {before after after' : PagedCursor} {pages pages' later later' : List Page}
    {requests requests' : List Request} {result result' : Except Failure (Option Entry)}
    (h : Advance paging query before pages requests result after)
    (h' : Advance paging query before pages' requests' result' after')
    (hsupply : pages ++ later = pages' ++ later') :
    pages = pages' ∧ requests = requests' ∧ result = result' ∧ after = after' := by
  -- Which rule applies is settled by the cursor and the first page of the supply.
  induction h generalizing pages' requests' result' after' with
  | give hnext =>
    cases h' with
    | give hnext' =>
      obtain ⟨rfl, rfl⟩ := Prod.mk.inj (Option.some.inj (hnext.symm.trans hnext'))
      exact ⟨rfl, rfl, rfl, rfl⟩
    | finish hnone => cases hnext.symm.trans hnone
    | breakOff hnone => simp [filterMap_of_nextEntry hnext] at hnone
    | turn hnone => simp [filterMap_of_nextEntry hnext] at hnone
  | finish hnone =>
    cases h' with
    | give hnext => cases hnone.symm.trans hnext
    | finish => exact ⟨rfl, rfl, rfl, rfl⟩
    | breakOff _ hplace => cases hplace
    | turn _ hplace => cases hplace
  | stay =>
    cases h' with
    | stay => exact ⟨rfl, rfl, rfl, rfl⟩
    | breakOff _ hplace => cases hplace
    | turn _ hplace => cases hplace
  | breakOff hnone hplace hfault =>
    cases h' with
    | give hnext => simp [filterMap_of_nextEntry hnext] at hnone
    | finish => cases hplace
    | stay => cases hplace
    | breakOff _ hplace' hfault' =>
      obtain rfl := Option.some.inj (hplace.symm.trans hplace')
      obtain ⟨rfl, -⟩ := List.cons.inj hsupply
      obtain rfl := Option.some.inj (hfault.symm.trans hfault')
      exact ⟨rfl, rfl, rfl, rfl⟩
    | turn _ _ hsound =>
      obtain ⟨rfl, -⟩ := List.cons.inj hsupply
      cases hfault.symm.trans hsound
  | turn hnone hplace hsound _ ih =>
    cases h' with
    | give hnext => simp [filterMap_of_nextEntry hnext] at hnone
    | finish => cases hplace
    | stay => cases hplace
    | breakOff _ _ hfault =>
      obtain ⟨rfl, -⟩ := List.cons.inj hsupply
      cases hfault.symm.trans hsound
    | turn _ hplace' _ hinner =>
      obtain rfl := Option.some.inj (hplace.symm.trans hplace')
      obtain ⟨rfl, hrest⟩ := List.cons.inj hsupply
      obtain ⟨rfl, rfl, rfl, rfl⟩ := ih hinner hrest
      exact ⟨rfl, rfl, rfl, rfl⟩

/-! ### Moving on -/

/-- A cursor that moves from `before` to `after` over some pages: they are the first of
those that it had ahead of it, asked for by the first of its requests, and what is ahead
of it afterwards comes next.  A cursor that is closed gives up the rest. -/
structure Moves (paging : Paging) (query : Query) (before : PagedCursor) (pages : List Page)
    (requests : List Request) (after : PagedCursor) : Prop where
  pages_ahead : ∀ later, pages ++ after.ahead later <+: before.ahead (pages ++ later)
  requests_ahead : ∀ later, requests ++ paging.requestsAhead query after later
    <+: paging.requestsAhead query before (pages ++ later)

theorem Advance.moves {before after : PagedCursor} {pages : List Page} {requests : List Request}
    {result : Except Failure (Option Entry)}
    (h : Advance paging query before pages requests result after) :
    Moves paging query before pages requests after where
  pages_ahead later := ⟨[], by rw [h.pages_ahead, List.append_nil]⟩
  requests_ahead later := ⟨[], by rw [h.requests_ahead, List.append_nil]⟩

namespace Moves

variable {before middle after : PagedCursor} {pages more : List Page}
  {requests further : List Request}

theorem refl (cursor : PagedCursor) : Moves paging query cursor [] [] cursor :=
  ⟨fun _ => List.prefix_rfl, fun _ => List.prefix_rfl⟩

/-- A cursor that is closed asks for nothing any more. -/
theorem close (cursor : PagedCursor) : Moves paging query cursor [] [] .ended :=
  ⟨fun _ => List.nil_prefix, fun _ => List.nil_prefix⟩

theorem trans (h : Moves paging query before pages requests middle)
    (h' : Moves paging query middle more further after) :
    Moves paging query before (pages ++ more) (requests ++ further) after := by
  constructor
  · intro later
    have hmore := (List.prefix_append_right_inj pages).mpr (h'.pages_ahead later)
    rw [List.append_assoc, List.append_assoc]
    exact hmore.trans (h.pages_ahead _)
  · intro later
    have hfurther := (List.prefix_append_right_inj requests).mpr (h'.requests_ahead later)
    rw [List.append_assoc, List.append_assoc]
    exact hfurther.trans (h.requests_ahead _)

/-- Each request of a new cursor but the first carries the cookie of the page before. -/
theorem requests_eq (h : Moves paging query (.fresh query) pages requests after)
    (hlength : requests.length = pages.length) :
    requests = ((none :: pages.map Page.cookie).take pages.length).map (paging.request query) := by
  obtain ⟨rest, hrest⟩ : pages <+: searchPages (pages ++ []) :=
    (List.prefix_append _ _).trans (h.pages_ahead [])
  have hrequests : requests <+: paging.requestsFrom query none (searchPages (pages ++ [])) :=
    (List.prefix_append _ _).trans (h.requests_ahead [])
  have hle : pages.length ≤ (none :: pages.map Page.cookie).length := by simp
  have hfirst := eq_of_prefix_requestsFrom hrequests
  rw [← hrest, hlength, List.map_append, ← List.cons_append,
    List.take_append_of_le_length hle] at hfirst
  exact hfirst

end Moves

/-! ### Using a cursor -/

/-- `PageUse paging query x w`: what `x` does with a cursor for this search.  It takes the
pages that are up next, the cursor moves on over them, and on another connection that
serves the same pages the same comes of it. -/
structure PageUse (paging : Paging) (query : Query)
    (x : Step (PagedCursor × Connection) Happening α) (w : PagedCursor × Connection) : Prop where
  serves : (x w).state.1.serves query
  script : (x w).state.2.script = w.2.script.drop (requestsAmong (x w).trace).length
  moves : Moves paging query w.1
    (firstPages (requestsAmong (x w).trace).length w.2.script) (requestsAmong (x w).trace)
    (x w).state.1
  alone : ∀ {other later},
    other.script = firstPages (requestsAmong (x w).trace).length w.2.script ++ later →
    (x (w.1, other)).result = (x w).result
      ∧ requestsAmong (x (w.1, other)).trace = requestsAmong (x w).trace
      ∧ (x (w.1, other)).state.1 = (x w).state.1
      ∧ (x (w.1, other)).state.2.script = later

/-- A call is the same on another connection that serves the same pages. -/
theorem next_alone {w w' : PagedCursor × Connection} {result : Except Failure (Option Entry)}
    {trace : List SessionEvent} (hnext : paging.session.next w = ⟨result, w', trace⟩)
    (hserves : w.1.serves query) {other : Connection} {later : List Page}
    (hother : other.script = firstPages (requestsOf trace).length w.2.script ++ later) :
    ∃ other' trace', paging.session.next (w.1, other) = ⟨result, (w'.1, other'), trace'⟩
      ∧ requestsOf trace' = requestsOf trace ∧ other'.script = later := by
  obtain ⟨hadvance, -, -⟩ := next_spec hnext hserves
  rcases hnext' : paging.session.next (w.1, other) with ⟨result', ⟨cursor', other'⟩, trace'⟩
  obtain ⟨hadvance', hscript', -⟩ := next_spec hnext' hserves
  -- Both calls have the pages of the first before them; what comes after those differs.
  have hsupply := firstPages_append_drop (requestsOf trace').length other.script
  rw [hother, List.append_assoc] at hsupply
  simp only at hadvance' hscript'
  rw [hother] at hadvance'
  obtain ⟨hpages, hrequests, rfl, rfl⟩ := hadvance.unique hadvance' hsupply.symm
  refine ⟨other', trace', rfl, hrequests.symm, ?_⟩
  rw [hscript', hother, ← hrequests]
  exact List.drop_left' (length_firstPages _ _)

theorem pageUse_of_call {x : Step (PagedCursor × Connection) Happening α}
    {w w' : PagedCursor × Connection} {result : Except Failure (Option Entry)}
    {trace : List SessionEvent} (outcome : Except Failure α)
    (hserves : w.1.serves query) (hnext : paging.session.next w = ⟨result, w', trace⟩)
    (hx : ∀ {other w' trace}, paging.session.next (w.1, other) = ⟨result, w', trace⟩ →
      x (w.1, other) = ⟨outcome, w', trace.map .session⟩) :
    PageUse paging query x w := by
  obtain ⟨hadvance, hscript, hserves'⟩ := next_spec hnext hserves
  have hhere : x w = ⟨outcome, w', trace.map .session⟩ := hx hnext
  constructor
  · rw [hhere]
    exact hserves'
  · rw [hhere, requestsAmong_session]
    exact hscript
  · rw [hhere, requestsAmong_session]
    exact hadvance.moves
  · intro other later hother
    rw [hhere, requestsAmong_session] at hother
    obtain ⟨other', trace', hnext', hrequests, hlater⟩ := next_alone hnext hserves hother
    rw [hhere, hx hnext', requestsAmong_session, requestsAmong_session]
    exact ⟨rfl, hrequests, rfl, hlater⟩

theorem pageUse_next {w : PagedCursor × Connection} (hserves : w.1.serves query) :
    PageUse paging query (paging.session.next.relay .session) w := by
  rcases hnext : paging.session.next w with ⟨result, w', trace⟩
  refine pageUse_of_call result hserves hnext ?_
  intro other w' trace hnext
  rw [Step.relay, hnext]

theorem pageUse_close (w : PagedCursor × Connection) :
    PageUse paging query (paging.session.close.relay .session) w where
  serves := trivial
  script := rfl
  moves := .close w.1
  alone hother := ⟨rfl, rfl, rfl, hother⟩

theorem pageUse_forEach {read : Entry → Except Failure α} {report : α → List Happening}
    (hreport : ∀ a, requestsAmong (report a) = []) {w : PagedCursor × Connection}
    (hserves : w.1.serves query) :
    PageUse paging query (paging.session.forEach read report) w := by
  -- The cases are those of the loop; in the first three this call is the last.
  induction w using Session.forEach.induct paging.session read report with
  | case1 w failure w' trace hnext =>
    exact pageUse_of_call (.error failure) hserves hnext Session.forEach_of_error
  | case2 w w' trace hnext =>
    exact pageUse_of_call (.ok []) hserves hnext Session.forEach_of_none
  | case3 w entry w' trace hnext failure hread =>
    exact pageUse_of_call (.error failure) hserves hnext
      (Session.forEach_of_unreadable · hread)
  | case4 w entry w' trace hnext a hread ih =>
    obtain ⟨hadvance, hscript, hserves'⟩ := next_spec hnext hserves
    obtain ⟨hserves'', hscript', hmoves, halone⟩ := ih hserves'
    have hhere : paging.session.forEach read report w = _ := Session.forEach_of_some hnext hread
    have hrequests : requestsAmong (paging.session.forEach read report w).trace
        = requestsOf trace ++ requestsAmong (paging.session.forEach read report w').trace := by
      simp [hhere, hreport]
    -- The pages of this call, and then those of the rest of the loop.
    have hpages : firstPages (requestsAmong (paging.session.forEach read report w).trace).length
        w.2.script = firstPages (requestsOf trace).length w.2.script
          ++ firstPages (requestsAmong (paging.session.forEach read report w').trace).length
            w'.2.script := by
      rw [hrequests, List.length_append, firstPages_add, ← hscript]
    constructor
    · rw [hhere]
      exact hserves''
    · rw [hrequests, hhere, List.length_append, ← List.drop_drop, ← hscript]
      exact hscript'
    · rw [hpages, hrequests, hhere]
      exact hadvance.moves.trans hmoves
    · intro other later hother
      rw [hpages, List.append_assoc] at hother
      -- Elsewhere this call is served the same pages, and so is the rest of the loop.
      obtain ⟨other', trace', hnext', hsame, hlater⟩ := next_alone hnext hserves hother
      obtain ⟨hresult, hrest, hstate, hlater'⟩ := halone hlater
      have hthere : paging.session.forEach read report (w.1, other) = _ :=
        Session.forEach_of_some hnext' hread
      rw [hrequests, hhere, hthere, hresult]
      refine ⟨rfl, ?_, hstate, hlater'⟩
      simp [hreport, hsame, hrest]

end Paging

end DirectoryGroups
