/-
DirectoryGroups/Proofs/Paging/Unpaged.lean

Sessions that do not ask for pages.

With page size zero the requests name no page size (`Paging.unpaged`).  One would expect that
there is then one request for a search, but this is up to the directory: a cursor goes on as
long as the answers say where a next page begins, and it does not ask whether there should be
pages at all.  An answer with a cookie therefore leads to a second request, as
`cookie_followed_unpaged` shows.

We say exactly what page size zero changes.  A request leaves the connection as any other request
does (`state_exchange`), and so a call of the cursor differs in what it sends and in nothing else
(`next_unpaged`), and by induction so does a run of uses (`useAll_unpaged`).

Main result: `unpaged_follows_cookies`.
-/
import DirectoryGroups.Proofs.Paging.Cursor
import DirectoryGroups.Proofs.Paging.InStep

namespace DirectoryGroups

open CursorUse

/-! ### Without page sizes -/

/-- The request with no page size. -/
def Request.unpaged (request : Request) : Request :=
  { request with pageSize := none }

/-- The session that asks for no pages. -/
def Paging.unpaged (paging : Paging) : Paging :=
  { paging with pageSize := 0 }

/-- The run with no page sizes in its requests. -/
def CursorRun.unpaged (run : CursorRun) : CursorRun :=
  { run with requests := run.requests.map Request.unpaged }

theorem CursorRun.unpaged_andThen (run : CursorRun) (rest : PagedCursor × Connection → CursorRun) :
    (run.andThen rest).unpaged = run.unpaged.andThen fun w => (rest w).unpaged := by
  simp only [andThen, unpaged, List.map_append]

/-- How a request leaves the connection does not hang on what was asked for. -/
theorem Connection.state_exchange (request request' : Request) (connection : Connection) :
    (exchange request connection).state = (exchange request' connection).state := by
  rcases hpage : connection.upcoming with ⟨refusal, delivery, late, answer⟩
  -- Errors and late answers bear on what comes back, not on what was asked.
  cases refusal <;> cases delivery <;> cases late <;>
    simp [exchange, send, fetch, read, bind, Step.bind, hpage]

namespace Paging

variable {paging : Paging} {query : Query}

/-! ### Calls -/

theorem state_take (paging : Paging) (query : Query) (cookie : Option (List UInt8))
    (connection : Connection) :
    (paging.take query cookie connection).state
      = (Connection.exchange (paging.request query cookie) connection).state := by
  cases hr : (Connection.exchange (paging.request query cookie) connection).result <;>
    simp [take, bind, Step.bind, Step.attempt, Step.ofExcept, Step.fail, hr]

/-- The two sessions go in step: the page that is up next is taken, whether pages are asked for
or not. -/
theorem inStep_unpaged (paging : Paging) :
    InStep paging paging.unpaged Eq Eq Eq Eq Request.unpaged where
  take query cookie connection connection' hconnection := by
    subst hconnection
    obtain ⟨hresult, -, hrequests⟩ := take_spec paging query cookie connection
    obtain ⟨hresult', -, hrequests'⟩ := take_spec paging.unpaged query cookie connection
    refine ⟨?_, ?_, ?_⟩
    · rw [hresult', ← hresult]
      exact .of_forall Answer.Related.refl _
    · rw [state_take, state_take]
      exact Connection.state_exchange _ _ connection
    · rw [hrequests, hrequests']
      rfl
  entry hitem := optionRel_of_eq (congrArg _ hitem)

/-- **A call is the same but for what it sends**, wherever the cursor stands. -/
theorem next_unpaged (paging : Paging) (w : PagedCursor × Connection) :
    (paging.unpaged.next w).result = (paging.next w).result
      ∧ (paging.unpaged.next w).state = (paging.next w).state
      ∧ requestsOf (paging.unpaged.next w).trace
        = (requestsOf (paging.next w).trace).map Request.unpaged := by
  have hw : Held Eq w w := ⟨rfl, rfl⟩
  obtain ⟨hresult, hstate, hrequests⟩ := paging.inStep_unpaged.next_of_eq hw
  exact ⟨(hresult.eq fun _ _ => id).symm, (Prod.ext hstate.1 hstate.2).symm, hrequests⟩

/-! ### Runs -/

theorem useOnce_unpaged (paging : Paging) (use : CursorUse) (w : PagedCursor × Connection) :
    paging.unpaged.useOnce use w = (paging.useOnce use w).unpaged := by
  cases use with
  | next =>
    obtain ⟨hresult, hstate, hrequests⟩ := paging.next_unpaged w
    simp only [useOnce, session, CursorRun.unpaged, hresult, hstate, hrequests, List.length_map]
  | close => rfl
  | elsewhere f => rfl

/-- **A run is the same but for what is sent.** -/
theorem useAll_unpaged (paging : Paging) (uses : List CursorUse) (w : PagedCursor × Connection) :
    paging.unpaged.useAll uses w = (paging.useAll uses w).unpaged := by
  induction uses generalizing w with
  | nil => rfl
  | cons use uses ih =>
    rw [useAll, useAll, useOnce_unpaged, CursorRun.unpaged_andThen]
    exact congrArg _ (funext ih)

/-! ### Second requests -/

namespace Keeps

variable {n : Nat} {run : CursorRun} {page : Page} {rest : List Page}

/-- If an open cursor was served more than a page, then the first one did not end the search and
had too few entries. -/
theorem first_of_many (h : Keeps paging query n (.fresh query) run)
    (hpages : run.pages = page :: rest) (hrest : rest ≠ []) :
    page.isLast = false ∧ page.entries.length < n := by
  constructor
  · -- A last page would have been the only one.
    have hahead := h.pages_ahead []
    rw [PagedCursor.ahead_fresh, hpages, List.append_nil, searchPages, List.cons_append] at hahead
    by_contra hlast
    rw [if_pos (Bool.eq_true_of_not_eq_false hlast), List.cons.injEq] at hahead
    exact hrest (List.append_eq_nil_iff.mp hahead.2.symm).1
  · -- The second page was asked for, so the first did not suffice.
    have hneeded := h.needed (hpages ▸ List.cons_ne_nil _ _)
    rw [hpages, List.dropLast_cons_of_ne_nil hrest, entriesOf_cons, List.length_append] at hneeded
    omega

theorem only_page (h : Keeps paging query n (.fresh query) run) (hpages : run.pages = [page]) :
    page.isLast = true ∨ n ≤ page.entries.length := by
  rcases h.enough with henough | hnone
  · rw [hpages, entriesOf_cons, entriesOf_nil, List.append_nil, PagedCursor.atHand_fresh,
      List.length_nil, Nat.zero_add] at henough
    exact .inr henough
  · -- Nothing is ahead any more, so the search is over.
    have hahead := h.pages_ahead []
    rw [PagedCursor.ahead_fresh, hpages, hnone, List.append_nil, searchPages] at hahead
    by_contra hmore
    rw [if_neg fun hlast => hmore (.inl hlast)] at hahead
    simp [searchPages] at hahead

/-- An open cursor asks for a second page just if the first one does not end the search and has
too few entries. -/
theorem second_page_iff (h : Keeps paging query n (.fresh query) run) :
    1 < run.pages.length ↔ ∃ page, run.pages.head? = some page
      ∧ page.isLast = false ∧ page.entries.length < n := by
  -- No page, one page, or more than one.
  rcases hpages : run.pages with - | ⟨page, - | ⟨page', rest⟩⟩
  · simp
  · have honly := h.only_page hpages
    simp only [List.length_singleton, lt_irrefl, List.head?_cons, Option.some.injEq,
      exists_eq_left', false_iff, not_and, not_lt]
    intro hlast
    exact honly.resolve_left (by simp [hlast])
  · have hfirst := h.first_of_many hpages (List.cons_ne_nil _ _)
    simpa using hfirst

end Keeps

/-- **A cursor asks for a second page** just if the first one does not end the search and the
cursor is asked for more entries than that one has before it is closed. -/
theorem second_request_iff (paging : Paging) (query : Query) (connection : Connection)
    (uses : List CursorUse) :
    let run := paging.useAll uses (.fresh query, connection)
    1 < run.requests.length ↔ ∃ page, run.pages.head? = some page
      ∧ page.isLast = false ∧ page.entries.length < calls (openPart uses) := by
  intro run
  obtain ⟨-, hrequests, hpages⟩ := paging.useAll_openPart uses (.fresh query, connection)
  have hopen : ∀ use ∈ openPart uses, use.isClose = false := by
    intro use huse
    simpa using List.mem_takeWhile_imp huse
  have hkeeps := paging.useAll_keeps hopen (show (PagedCursor.fresh query).serves query from rfl)
    connection
  rw [show run.requests = _ from hrequests, show run.pages = _ from hpages,
    hkeeps.length_requests]
  exact hkeeps.second_page_iff

/-- **Page size zero does not keep a cursor from following cookies.**

A session that does not ask for pages does what it does with any other page size: put to the same
uses, its cursor answers the same from the same pages, and leaves everything in the same state;
its requests are the same, too, but for the page size, which they do not name.  So there is a
second request just if the first page served does not fail and says where the next one begins,
and more calls come before the cursor is closed than that page has entries. -/
theorem unpaged_follows_cookies (paging : Paging) (query : Query) (connection : Connection)
    (uses : List CursorUse) :
    let run := paging.useAll uses (.fresh query, connection)
    let run' := paging.unpaged.useAll uses (.fresh query, connection)
    run'.answers = run.answers ∧ run'.pages = run.pages ∧ run'.state = run.state
      ∧ run'.requests = run.requests.map Request.unpaged
      ∧ (1 < run'.requests.length ↔ ∃ page, run'.pages.head? = some page
          ∧ (page.fault? = none ∧ page.cookie ≠ none)
          ∧ page.entries.length < calls (openPart uses)) := by
  intro run run'
  have hrun : run' = run.unpaged := paging.useAll_unpaged uses _
  have hlast : ∀ page : Page, page.isLast = false ↔ page.fault? = none ∧ page.cookie ≠ none := by
    intro page
    simp [Page.isLast, Option.isSome_iff_ne_none]
  simp only [← hlast]
  refine ⟨?_, ?_, ?_, ?_, paging.unpaged.second_request_iff query connection uses⟩
  -- The rest is said of the run without page sizes, field by field.
  all_goals
    rw [hrun]
    rfl

/-- **There is more than one request without paging**: the first answer brings a cookie, and the
second call sends it. -/
theorem cookie_followed_unpaged :
    let query : Query := { base := "o=x", filter := "(x=y)", attributes := ["cn"] }
    let item (dn : String) : Item := { kind := some "searchResEntry", dn := some dn }
    let more : SearchResult := { controls := [(SearchResult.pagedControl, some [1])] }
    let connection : Connection :=
      { script := [{ answer := { items := some [item "cn=a"], result := some more } },
                   { answer := { items := some [item "cn=a"] } }] }
    let run := Paging.useAll { pageSize := 0 } [.next, .next] (.fresh query, connection)
    run.requests.map (fun request => (request.pageSize, request.cookie))
      = [(none, none), (none, some [1])] := by
  decide +kernel

end Paging

end DirectoryGroups
