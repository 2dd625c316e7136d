/-
DirectoryGroups/Proofs/Paging/Cursor.lean

A paged cursor over its whole life.

A cursor is read, at some point perhaps closed, and between any two of its calls
others may do whatever they like to the connection (`CursorUse`).  Of a run of
uses we keep what the calls answered, the requests that were sent, and the pages
that answered them (`CursorRun`).

What a cursor gives hangs on the pages it is served and on nothing else.  While it
is open, a run keeps what each of its calls keeps (`Keeps`, by induction from the
step lemma `Keeps.call`), and a cursor that has ended stays as it is.

Main result: `cursor_gives_pages_in_order`.
-/
import DirectoryGroups.Proofs.Paging.Advance
import Mathlib.Data.List.TakeWhile
import Mathlib.Order.Bounds.Basic

namespace DirectoryGroups

/-! ### Uses and runs -/

/-- Something that happens to a cursor or around it. -/
inductive CursorUse where
  /-- The next entry is asked for. -/
  | next
  | close
  /-- Someone else uses the connection. -/
  | elsewhere (f : Connection → Connection)

namespace CursorUse

/-- Whether the use is a call for the next entry. -/
def isCall : CursorUse → Bool
  | next => true
  | _ => false

/-- Whether the use closes the cursor. -/
def isClose : CursorUse → Bool
  | close => true
  | _ => false

/-- Whether the use is one of the connection by someone else. -/
def isElsewhere : CursorUse → Bool
  | elsewhere _ => true
  | _ => false

/-- How many calls there are among some uses. -/
def calls (uses : List CursorUse) : Nat :=
  uses.countP isCall

/-- The uses before the first that closes the cursor. -/
def openPart (uses : List CursorUse) : List CursorUse :=
  uses.takeWhile (!·.isClose)

end CursorUse

open CursorUse

/-- What came of some uses of a cursor. -/
structure CursorRun where
  /-- The answers to the calls. -/
  answers : List (Except Failure (Option Entry))
  /-- The requests that the cursor sent. -/
  requests : List Request
  /-- The pages that its requests were answered with. -/
  pages : List Page
  state : PagedCursor × Connection

/-- One run and then another. -/
def CursorRun.andThen (run : CursorRun) (rest : PagedCursor × Connection → CursorRun) :
    CursorRun where
  answers := run.answers ++ (rest run.state).answers
  requests := run.requests ++ (rest run.state).requests
  pages := run.pages ++ (rest run.state).pages
  state := (rest run.state).state

namespace Paging

/-- One use of a cursor. -/
def useOnce (paging : Paging) (use : CursorUse) (w : PagedCursor × Connection) : CursorRun :=
  match use with
  | .next =>
    let done := paging.session.next w
    { answers := [done.result]
      requests := requestsOf done.trace
      pages := firstPages (requestsOf done.trace).length w.2.script
      state := done.state }
  | .close =>
    let done := paging.session.close w
    { answers := []
      requests := requestsOf done.trace
      pages := firstPages (requestsOf done.trace).length w.2.script
      state := done.state }
  | .elsewhere f => { answers := [], requests := [], pages := [], state := (w.1, f w.2) }

/-- Some uses of a cursor, one after another. -/
def useAll (paging : Paging) : List CursorUse → PagedCursor × Connection → CursorRun
  | [], w => { answers := [], requests := [], pages := [], state := w }
  | use :: uses, w => (paging.useOnce use w).andThen (paging.useAll uses)

/-! ### Ended cursors -/

/-- A cursor that has ended sends nothing and gives nothing. -/
theorem useAll_ended (paging : Paging) (uses : List CursorUse) (connection : Connection) :
    (paging.useAll uses (.ended, connection)).answers = List.replicate (calls uses) (.ok none)
      ∧ (paging.useAll uses (.ended, connection)).requests = []
      ∧ (paging.useAll uses (.ended, connection)).pages = [] := by
  induction uses generalizing connection with
  | nil => exact ⟨rfl, rfl, rfl⟩
  | cons use uses ih =>
    cases use with
    | next =>
      -- One call more, answered with nothing and sending nothing.
      obtain ⟨hanswers, hrequests, hpages⟩ := ih connection
      refine ⟨?_, hrequests, hpages⟩
      rw [calls, List.countP_cons_of_pos rfl, List.replicate_succ]
      exact congrArg _ hanswers
    | close => exact ih connection
    | elsewhere f => exact ih (f connection)

/-- Whatever is done from the closing of a cursor on sends nothing and gives
nothing. -/
theorem useAll_close (paging : Paging) (uses : List CursorUse) (w : PagedCursor × Connection) :
    (paging.useAll (.close :: uses) w).answers = List.replicate (calls uses) (.ok none)
      ∧ (paging.useAll (.close :: uses) w).requests = []
      ∧ (paging.useAll (.close :: uses) w).pages = [] :=
  useAll_ended paging uses w.2

/-! ### Answers -/

/-- The answers to `n` calls of a cursor that has some entries to give and then
ends: an entry each as long as there are any, then once how it ended, and nothing
any more. -/
def answersTo (entries : List Entry) (ending : Except Failure (Option Entry)) (n : Nat) :
    List (Except Failure (Option Entry)) :=
  (entries.take n).map (fun entry => .ok (some entry))
    ++ if entries.length < n then ending :: List.replicate (n - entries.length - 1) (.ok none)
      else []

theorem answersTo_zero (entries : List Entry) (ending : Except Failure (Option Entry)) :
    answersTo entries ending 0 = [] := by
  simp [answersTo]

theorem answersTo_cons (entry : Entry) (entries : List Entry)
    (ending : Except Failure (Option Entry)) (n : Nat) :
    answersTo (entry :: entries) ending (n + 1)
      = .ok (some entry) :: answersTo entries ending n := by
  simp [answersTo, Nat.add_sub_add_right]

theorem answersTo_nil (ending : Except Failure (Option Entry)) (n : Nat) :
    answersTo [] ending (n + 1) = ending :: List.replicate n (.ok none) := by
  simp [answersTo]

/-! ### Open cursors -/

/-- What a run of `n` calls keeps, as long as nobody closes the cursor: pages and
requests are as the cursor had them ahead, the entries are given in order, and no
page is asked for before the entries of the ones before it are used up. -/
structure Keeps (paging : Paging) (query : Query) (n : Nat) (cursor : PagedCursor)
    (run : CursorRun) : Prop where
  pages_ahead : ∀ later, cursor.ahead (run.pages ++ later) = run.pages ++ run.state.1.ahead later
  requests_ahead : ∀ later, paging.requestsAhead query cursor (run.pages ++ later)
    = run.requests ++ paging.requestsAhead query run.state.1 later
  length_requests : run.requests.length = run.pages.length
  answers : ∀ later, run.answers
    = answersTo (cursor.atHand ++ entriesOf (cursor.ahead (run.pages ++ later)))
        (endingOf query.base (faultOf (cursor.ahead (run.pages ++ later)))) n
  needed : run.pages ≠ [] →
    cursor.atHand.length + (entriesOf run.pages.dropLast).length < n
  enough : n ≤ cursor.atHand.length + (entriesOf run.pages).length
    ∨ ∀ later, run.state.1.ahead later = []

namespace Keeps

variable {paging : Paging} {query : Query} {n : Nat} {cursor after : PagedCursor}
  {pages : List Page} {requests : List Request} {result : Except Failure (Option Entry)}

theorem idle (w : PagedCursor × Connection) :
    Keeps paging query 0 w.1 { answers := [], requests := [], pages := [], state := w } where
  pages_ahead _ := rfl
  requests_ahead _ := rfl
  length_requests := rfl
  answers _ := (answersTo_zero _ _).symm
  needed h := absurd rfl h
  enough := .inl (Nat.zero_le _)

/-- The answers from a call on: its own, and those that the cursor it leaves has for
the calls after it. -/
theorem answersTo_call (h : Advance paging query cursor pages requests result after)
    (later : List Page) (n : Nat) :
    answersTo (cursor.atHand ++ entriesOf (pages ++ after.ahead later))
        (endingOf query.base (faultOf (pages ++ after.ahead later))) (n + 1)
      = result :: answersTo (after.atHand ++ entriesOf (after.ahead later))
          (endingOf query.base (faultOf (after.ahead later))) n := by
  rw [entriesOf_append, ← List.append_assoc, h.entries]
  rcases h.result_eq_endingOf with ⟨entry, rfl, hsound⟩ | ⟨rfl, hresult⟩
  · rw [hsound.faultOf_append, given_some, List.singleton_append, List.cons_append,
      answersTo_cons]
  · -- The last call: nothing is ahead of the cursor, and what it answers is the ending.
    have hgiven : given result = [] := by
      rw [hresult]
      cases faultOf pages <;> rfl
    simp only [hgiven, PagedCursor.atHand_ended, PagedCursor.ahead_ended, entriesOf_nil,
      List.append_nil, answersTo_nil, ← hresult]
    rcases n with - | n
    · rw [answersTo_zero]
      rfl
    · rw [answersTo_nil]
      rfl

/-- The last page of a call and the run after it was asked for because the entries
before it did not suffice. -/
theorem needed_call {run : CursorRun}
    (h : Advance paging query cursor pages requests result after)
    (hrest : Keeps paging query n after run) (hpages : pages ++ run.pages ≠ []) :
    cursor.atHand.length + (entriesOf (pages ++ run.pages).dropLast).length < n + 1 := by
  rcases hmore : run.pages with - | ⟨page, more⟩
  · rw [hmore, List.append_nil] at hpages
    obtain ⟨hnone, hdry⟩ := h.needed hpages
    rw [hnone, List.append_nil, hdry]
    exact Nat.succ_pos n
  · -- The call gives one entry at most, so the run after it has nearly all to give.
    have hneeded := hrest.needed (by rw [hmore]; exact List.cons_ne_nil _ _)
    have hlength := congrArg List.length h.entries
    have hgiven : (given result).length ≤ 1 := by
      rcases result with failure | - | entry <;> simp
    rw [hmore] at hneeded
    rw [List.dropLast_append_of_ne_nil (List.cons_ne_nil _ _), entriesOf_append,
      List.length_append]
    simp only [List.length_append] at hlength
    omega

theorem enough_call {run : CursorRun}
    (h : Advance paging query cursor pages requests result after)
    (hrest : Keeps paging query n after run) :
    n + 1 ≤ cursor.atHand.length + (entriesOf (pages ++ run.pages)).length
      ∨ ∀ later, run.state.1.ahead later = [] := by
  rcases h.result_eq_endingOf with ⟨entry, rfl, -⟩ | ⟨rfl, -⟩
  · -- The call gave an entry, which counts for one of the calls.
    rcases hrest.enough with henough | hahead
    · have hlength := congrArg List.length h.entries
      simp only [List.length_append, given_some, List.length_singleton] at hlength
      rw [entriesOf_append, List.length_append]
      exact .inl (by omega)
    · exact .inr hahead
  · -- The cursor has ended, and nothing comes after that.
    refine .inr fun later => ?_
    have hnone := hrest.pages_ahead later
    rw [PagedCursor.ahead_ended] at hnone
    exact (List.append_eq_nil_iff.mp hnone.symm).2

theorem call {connection : Connection} {rest : PagedCursor × Connection → CursorRun}
    (h : Advance paging query cursor pages requests result after)
    (hrest : Keeps paging query n after (rest (after, connection))) :
    Keeps paging query (n + 1) cursor
      (CursorRun.andThen
        { answers := [result], requests := requests, pages := pages, state := (after, connection) }
        rest) where
  pages_ahead later := by
    simp only [CursorRun.andThen, List.append_assoc]
    rw [h.pages_ahead, hrest.pages_ahead]
  requests_ahead later := by
    simp only [CursorRun.andThen, List.append_assoc]
    rw [h.requests_ahead, hrest.requests_ahead]
  length_requests := by
    simp only [CursorRun.andThen, List.length_append, h.length_requests, hrest.length_requests]
  answers later := by
    simp only [CursorRun.andThen, List.append_assoc, List.singleton_append]
    rw [h.pages_ahead, answersTo_call h, ← hrest.answers]
  needed hpages := needed_call h hrest hpages
  enough := enough_call h hrest

end Keeps

/-- **What an open cursor's run keeps.** -/
theorem useAll_keeps (paging : Paging) {query : Query} {uses : List CursorUse}
    (hopen : ∀ use ∈ uses, use.isClose = false) {cursor : PagedCursor}
    (hserves : cursor.serves query) (connection : Connection) :
    Keeps paging query (calls uses) cursor (paging.useAll uses (cursor, connection)) := by
  induction uses generalizing cursor connection with
  | nil => exact .idle (cursor, connection)
  | cons use uses ih =>
    have hrest : ∀ use ∈ uses, use.isClose = false :=
      fun use huse => hopen use (List.mem_cons_of_mem _ huse)
    cases use with
    | next =>
      have hcall := paging.advance_next hserves connection
      rw [calls, List.countP_cons_of_pos rfl]
      -- The uses that follow are those of the cursor as the call left it, wherever that is.
      exact Keeps.call hcall.advance (ih hrest hcall.serves _)
    | close => exact absurd (hopen .close List.mem_cons_self) (by decide)
    | elsewhere f => exact ih hrest hserves (f connection)

/-- A cursor that nobody disturbs is served the pages of the script, one after
another. -/
theorem useAll_alone (paging : Paging) {query : Query} {uses : List CursorUse}
    (halone : ∀ use ∈ uses, use.isElsewhere = false) {cursor : PagedCursor}
    (hserves : cursor.serves query) (connection : Connection) :
    (paging.useAll uses (cursor, connection)).pages
        = firstPages (paging.useAll uses (cursor, connection)).pages.length connection.script
      ∧ (paging.useAll uses (cursor, connection)).state.2.script
        = connection.script.drop (paging.useAll uses (cursor, connection)).pages.length := by
  induction uses generalizing cursor connection with
  | nil => exact ⟨rfl, rfl⟩
  | cons use uses ih =>
    have hrest : ∀ use ∈ uses, use.isElsewhere = false :=
      fun use huse => halone use (List.mem_cons_of_mem _ huse)
    cases use with
    | next =>
      have hcall := paging.advance_next hserves connection
      obtain ⟨hpages, hscript⟩ := ih hrest hcall.serves (paging.next (cursor, connection)).state.2
      rw [hcall.script] at hpages hscript
      simp only [useAll, useOnce, CursorRun.andThen, List.length_append, length_firstPages,
        firstPages_add]
      refine ⟨congrArg _ hpages, ?_⟩
      -- The call used up the pages in front, and the rest of the run those behind them.
      rw [← List.drop_drop]
      exact hscript
    | close =>
      have hended : PagedCursor.ended.serves query := trivial
      exact ih hrest hended connection
    | elsewhere f => exact absurd (halone (.elsewhere f) List.mem_cons_self) Bool.noConfusion

/-- Only the calls before the closing of a cursor give anything or send anything. -/
theorem useAll_openPart (paging : Paging) (uses : List CursorUse)
    (w : PagedCursor × Connection) :
    (paging.useAll uses w).answers
        = (paging.useAll (openPart uses) w).answers
          ++ List.replicate (calls uses - calls (openPart uses)) (.ok none)
      ∧ (paging.useAll uses w).requests = (paging.useAll (openPart uses) w).requests
      ∧ (paging.useAll uses w).pages = (paging.useAll (openPart uses) w).pages := by
  induction uses generalizing w with
  | nil => exact ⟨rfl, rfl, rfl⟩
  | cons use uses ih =>
    cases use with
    | next =>
      obtain ⟨hanswers, hrequests, hpages⟩ := ih (paging.next w).state
      rw [openPart, List.takeWhile_cons_of_pos rfl, ← openPart, calls, calls,
        List.countP_cons_of_pos rfl, List.countP_cons_of_pos rfl, Nat.add_sub_add_right]
      exact ⟨congrArg (_ :: ·) hanswers, congrArg (_ ++ ·) hrequests, congrArg (_ ++ ·) hpages⟩
    | close => exact paging.useAll_close uses w
    | elsewhere f => exact ih (w.1, f w.2)

/-! ### The whole life of a cursor -/

theorem length_entriesOf_take (pages : List Page) {i j : Nat} (h : i ≤ j) :
    (entriesOf (pages.take i)).length ≤ (entriesOf (pages.take j)).length := by
  obtain ⟨rest, hrest⟩ := List.take_prefix_take_left (l := pages) h
  rw [← hrest, entriesOf_append, List.length_append]
  exact Nat.le_add_right _ _

/-- The pages of an open run of a new cursor are the first that are there. -/
theorem Keeps.pages_eq {paging : Paging} {query : Query} {n : Nat} {run : CursorRun}
    (h : Keeps paging query n (.fresh query) run) (later : List Page) :
    run.pages = (searchPages (run.pages ++ later)).take run.requests.length := by
  have hahead := h.pages_ahead later
  rw [PagedCursor.ahead_fresh] at hahead
  rw [hahead, h.length_requests, List.take_left]

/-- Its requests go through them, each from where the page before says. -/
theorem Keeps.requests_eq {paging : Paging} {query : Query} {n : Nat} {run : CursorRun}
    (h : Keeps paging query n (.fresh query) run) (later : List Page) :
    run.requests = ((none :: (searchPages (run.pages ++ later)).map Page.cookie).take
      run.requests.length).map (paging.request query) := by
  have hprefix : run.requests
      <+: paging.requestsFrom query none (searchPages (run.pages ++ later)) :=
    ⟨_, (h.requests_ahead later).symm⟩
  exact eq_of_prefix_requestsFrom hprefix

/-- How many pages an open run of a new cursor asks for: none without a call, and
otherwise as many as it takes to have an entry for each call, or all there are. -/
theorem Keeps.count {paging : Paging} {query : Query} {n : Nat} {run : CursorRun}
    (h : Keeps paging query n (.fresh query) run) (later : List Page) :
    let pages := searchPages (run.pages ++ later)
    (n = 0 → run.pages = [])
      ∧ (0 < n → n ≤ (entriesOf pages).length →
          IsLeast {k | 1 ≤ k ∧ n ≤ (entriesOf (pages.take k)).length} run.pages.length)
      ∧ ((entriesOf pages).length < n → run.pages.length = pages.length) := by
  intro pages
  have hpages : pages = run.pages ++ run.state.1.ahead later := h.pages_ahead later
  have htake : pages.take run.pages.length = run.pages := by
    rw [← h.length_requests]
    exact (h.pages_eq later).symm
  have hall : (∀ later, run.state.1.ahead later = []) → run.pages = pages := by
    intro hahead
    rw [hpages, hahead, List.append_nil]
  have henough := h.enough
  simp only [PagedCursor.atHand, List.length_nil, Nat.zero_add] at henough
  -- No call, calls for which the entries suffice, and calls for which they do not.
  refine ⟨?_, ?_, ?_⟩
  · intro hzero
    by_contra hne
    exact absurd (h.needed hne) (by omega)
  · intro hpos hle
    have hfull : n ≤ (entriesOf run.pages).length := by
      rcases henough with hle' | hahead
      · exact hle'
      · rwa [hall hahead]
    refine ⟨⟨?_, by rwa [htake]⟩, ?_⟩
    · by_contra hnone
      have hnil : run.pages = [] := List.length_eq_zero_iff.mp (by omega)
      rw [hnil] at hfull
      exact absurd hpos (Nat.not_lt.mpr hfull)
    · -- With fewer pages there were not enough entries, or the last was not asked for.
      rintro k ⟨-, hk⟩
      by_contra hlt
      have hne : run.pages ≠ [] := by
        intro hnil
        rw [hnil] at hlt
        exact hlt (Nat.zero_le k)
      have hneeded := h.needed hne
      have hfewer := length_entriesOf_take pages (show k ≤ run.pages.length - 1 by omega)
      have hdrop : pages.take (run.pages.length - 1) = run.pages.dropLast := by
        rw [hpages, List.take_append_of_le_length (Nat.sub_le _ _), List.dropLast_eq_take]
      rw [hdrop] at hfewer
      simp only [PagedCursor.atHand, List.length_nil, Nat.zero_add] at hneeded
      omega
  · intro hlt
    rcases henough with hle | hahead
    · have hmore : (entriesOf run.pages).length ≤ (entriesOf pages).length := by
        rw [hpages, entriesOf_append, List.length_append]
        exact Nat.le_add_right _ _
      omega
    · rw [hall hahead]

/-- A request of a search, spelled out. -/
theorem request_eq (paging : Paging) (query : Query) (cookie : Option (List UInt8)) :
    paging.request query cookie
      = { base := query.base
          filter := query.filter
          scope := "SUBTREE"
          attributes := if query.attributes = [] then ["1.1"] else query.attributes
          sizeLimit := paging.sizeLimit
          timeLimit := paging.timeLimit
          pageSize := if paging.pageSize = 0 then none else some paging.pageSize
          cookie := cookie } := by
  simp only [request, requested, List.isEmpty_iff]

/-- **A cursor gives the entries of its pages in order, and asks for no page before
it is needed.**

A search gives a new cursor and sends nothing.  The cursor is put to some uses,
among them `n` calls before the first that closes it.  Let `pages` be the pages it
was served, and after those whatever pages would have come `later`, up to the first
that fails or does not say where the next one begins.  The `n` calls give the
entries of `pages` one by one, and if that is not enough, then once how the last
page ended, and nothing any more; after the closing there is nothing either.  The
pages asked for are the first of `pages`.  Each request is for the query over the
whole tree below its base, under the limits of the session; the first carries no
cookie, any other that of the page before, and otherwise they are all the same.
There is no request without a call, and otherwise there are as many as it takes to
have `n` entries, or one for each of the pages.
If nobody else used the connection, the pages are those of its script. -/
theorem cursor_gives_pages_in_order (paging : Paging) (query : Query)
    (connection : Connection) (uses : List CursorUse) (later : List Page) :
    let run := paging.useAll uses (.fresh query, connection)
    let pages := searchPages (run.pages ++ later)
    let entries := entriesOf pages
    let n := calls (openPart uses)
    paging.session.search query connection = ⟨.ok (.fresh query), connection, []⟩
      ∧ run.answers
        = (entries.take n).map (fun entry => .ok (some entry))
          ++ (if entries.length < n then
                endingOf query.base (faultOf pages)
                  :: List.replicate (n - entries.length - 1) (.ok none)
              else [])
          ++ List.replicate (calls uses - n) (.ok none)
      ∧ run.pages = pages.take run.requests.length
      ∧ run.requests
        = ((none :: pages.map Page.cookie).take run.requests.length).map (fun cookie =>
            { base := query.base
              filter := query.filter
              scope := "SUBTREE"
              attributes := if query.attributes = [] then ["1.1"] else query.attributes
              sizeLimit := paging.sizeLimit
              timeLimit := paging.timeLimit
              pageSize := if paging.pageSize = 0 then none else some paging.pageSize
              cookie := cookie })
      ∧ (n = 0 → run.requests.length = 0)
      ∧ (0 < n → n ≤ entries.length →
          IsLeast {k | 1 ≤ k ∧ n ≤ (entriesOf (pages.take k)).length} run.requests.length)
      ∧ (entries.length < n → run.requests.length = pages.length)
      ∧ ((∀ use ∈ uses, use.isElsewhere = false) →
          run.pages = firstPages run.requests.length connection.script
            ∧ searchPages (run.pages ++ connection.script.drop run.requests.length)
              = searchPages connection.script) := by
  intro run pages entries n
  obtain ⟨hanswers, hrequests, hpages⟩ :=
    paging.useAll_openPart uses (.fresh query, connection)
  have hopen : ∀ use ∈ openPart uses, use.isClose = false := by
    intro use huse
    simpa using List.mem_takeWhile_imp huse
  have hkeeps := paging.useAll_keeps hopen (show (PagedCursor.fresh query).serves query from rfl)
    connection
  -- From here on everything is said of the whole run, as nothing is sent after the closing.
  have hcount := hkeeps.count later
  have hgiven := hkeeps.answers later
  have hlength := hkeeps.length_requests
  have hserved := hkeeps.pages_eq later
  have hsent := hkeeps.requests_eq later
  rw [← hpages] at hcount hgiven hlength hserved hsent
  rw [← hrequests] at hlength hserved hsent
  rw [← hlength] at hcount
  -- Answers, pages and requests in turn; then how many requests there are, and the script.
  refine ⟨rfl, ?_, hserved, ?_, ?_, hcount.2.1, hcount.2.2, ?_⟩
  · rw [show run.answers = _ from hanswers, hgiven]
    rfl
  · rw [funext (paging.request_eq query)] at hsent
    exact hsent
  · intro hzero
    rw [hlength, hcount.1 hzero, List.length_nil]
  · intro halone
    obtain ⟨hfirst, -⟩ :=
      paging.useAll_alone halone (show (PagedCursor.fresh query).serves query from rfl) connection
    rw [← hlength] at hfirst
    refine ⟨hfirst, ?_⟩
    rw [hfirst, searchPages_firstPages]

/-- **A cursor over three pages**, the second without an entry and the third refused although
it holds one.  Four calls and one after the closing get the two entries of the first page, the
refusal and twice nothing, for three requests; two calls get the two entries for one request. -/
theorem cursor_over_three_pages :
    let paging : Paging := { pageSize := 2, timeLimit := 5 }
    let query : Query := { base := "ou=groups,o=x", filter := "(member=cn=u)", attributes := ["cn"] }
    let item (dn : String) : Item := { kind := some "searchResEntry", dn := some dn }
    let reference : Item := { kind := some "searchResRef" }
    let goesOn (cookie : List UInt8) : SearchResult :=
      { controls := [("1.2.840.113556.1.4.319", some cookie)] }
    let script : List Page :=
      [{ answer := { items := some [item "cn=a", reference, item "cn=b"],
                     result := some (goesOn [1]) } },
       { delivery := .deferred 7,
         answer := { items := some [reference], result := some (goesOn [2]) } },
       { answer := { items := some [item "cn=c"],
                     result := some { code := some 51, description := some "busy" } } }]
    let request (cookie : Option (List UInt8)) : Request :=
      { base := "ou=groups,o=x", filter := "(member=cn=u)", scope := "SUBTREE",
        attributes := ["cn"], sizeLimit := 0, timeLimit := 5, pageSize := some 2,
        cookie := cookie }
    let run := paging.useAll [.next, .next, .next, .next, .close, .next]
      (.fresh query, { script := script })
    let short := paging.useAll [.next, .next, .close, .next] (.fresh query, { script := script })
    run.answers = [.ok (some { dn := some "cn=a" }), .ok (some { dn := some "cn=b" }),
        .error (.lookup (.refused "ou=groups,o=x" (some 51) (some "busy"))), .ok none, .ok none]
      ∧ run.requests = [request none, request (some [1]), request (some [2])]
      ∧ short.answers = [.ok (some { dn := some "cn=a" }), .ok (some { dn := some "cn=b" }),
        .ok none]
      ∧ short.requests = [request none] := by
  intro paging query item reference goesOn script request run short
  have hcount : run.requests.length = 3 := by decide +kernel
  have hcount' : short.requests.length = 1 := by decide +kernel
  obtain ⟨-, hanswers, -, hrequests, -, -, -, halone⟩ := paging.cursor_gives_pages_in_order query
    { script := script } [.next, .next, .next, .next, .close, .next] (script.drop 3)
  obtain ⟨-, hanswers', -, hrequests', -, -, -, halone'⟩ := paging.cursor_gives_pages_in_order query
    { script := script } [.next, .next, .close, .next] (script.drop 1)
  -- Nobody else uses the connection, so the pages of both runs are those of the script.
  have hsearch : searchPages (run.pages ++ script.drop 3) = script := by
    rw [← hcount, (halone (by decide)).2]
    rfl
  have hsearch' : searchPages (short.pages ++ script.drop 1) = script := by
    rw [← hcount', (halone' (by decide)).2]
    rfl
  change run.requests = _ at hrequests
  rw [hcount, hsearch] at hrequests
  rw [hsearch] at hanswers
  rw [hcount', hsearch'] at hrequests'
  rw [hsearch'] at hanswers'
  exact ⟨hanswers, hrequests, hanswers', hrequests'⟩

end Paging

end DirectoryGroups
