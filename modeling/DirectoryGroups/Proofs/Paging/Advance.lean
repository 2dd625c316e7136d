/-
DirectoryGroups/Proofs/Paging/Advance.lean

What one call of a paged cursor does.

A cursor has some entries at hand (`atHand`) and, unless it has come to its end,
knows the place of the page it will ask for next (`place`).  A call gives an
entry that is at hand, or asks for pages until one of them has an entry, fails,
or is the last (`Advance`).  The relation says nothing of the connection but the
pages it served, so a cursor may be advanced on a connection that others use in
between.

Main results: a call is an `Advance` over the pages that are up next and uses up
no others (`advance_next`); it neither loses nor adds pages (`pages_ahead`),
requests (`requests_ahead`) or entries (`Advance.entries`), and it asks for a page
only when there is nothing at hand (`Advance.needed`).
-/
import DirectoryGroups.Proofs.Paging.Pages

namespace DirectoryGroups

/-! ### Views of a cursor -/

namespace PagedCursor

/-- The entries that the cursor can give without a request. -/
def atHand : PagedCursor → List Entry
  | reading _ items _ => items.filterMap Item.entry?
  | _ => []

/-- The cookie of the next request, if the cursor will ever send one. -/
def place : PagedCursor → Option (Option (List UInt8))
  | fresh _ => some none
  | reading _ _ (some cookie) => some (some cookie)
  | _ => none

/-- The pages that the cursor will still ask for, out of a supply. -/
def ahead (cursor : PagedCursor) (supply : List Page) : List Page :=
  if cursor.place.isSome then searchPages supply else []

/-- Whether the cursor serves this search, or none any more. -/
def serves (query : Query) : PagedCursor → Prop
  | fresh other => other = query
  | reading other _ _ => other = query
  | ended => True

@[simp] theorem ahead_ended (supply : List Page) : ended.ahead supply = [] := rfl

@[simp] theorem ahead_fresh (query : Query) (supply : List Page) :
    (fresh query).ahead supply = searchPages supply := rfl

@[simp] theorem atHand_fresh (query : Query) : (fresh query).atHand = [] := rfl

@[simp] theorem atHand_ended : ended.atHand = [] := rfl

@[simp] theorem atHand_reading (query : Query) (items : List Item)
    (cookie : Option (List UInt8)) :
    (reading query items cookie).atHand = items.filterMap Item.entry? := rfl

theorem place_reading (query : Query) (items : List Item) (cookie : Option (List UInt8)) :
    (reading query items cookie).place = cookie.map some := by
  cases cookie <;> rfl

theorem ahead_of_place {cursor : PagedCursor} {cookie : Option (List UInt8)}
    (h : cursor.place = some cookie) (supply : List Page) :
    cursor.ahead supply = searchPages supply := by
  simp [ahead, h]

/-- A cursor that is served the pages of a script one after another has the script
ahead of it. -/
theorem ahead_firstPages (cursor : PagedCursor) (n : Nat) (script : List Page) :
    cursor.ahead (firstPages n script ++ script.drop n) = cursor.ahead script := by
  unfold ahead
  split
  · exact searchPages_firstPages n script
  · rfl

end PagedCursor

namespace Paging

/-- The requests for some pages in a row, the first of which begins at `cookie`. -/
def requestsFrom (paging : Paging) (query : Query) :
    Option (List UInt8) → List Page → List Request
  | _, [] => []
  | cookie, page :: pages =>
    paging.request query cookie :: paging.requestsFrom query page.cookie pages

/-- The requests that a cursor will still send, out of a supply. -/
def requestsAhead (paging : Paging) (query : Query) (cursor : PagedCursor)
    (supply : List Page) : List Request :=
  match cursor.place with
  | some cookie => paging.requestsFrom query cookie (searchPages supply)
  | none => []

/-- Every request but the first carries the cookie of the page before. -/
theorem requestsFrom_eq_map (paging : Paging) (query : Query) (cookie : Option (List UInt8))
    (pages : List Page) :
    paging.requestsFrom query cookie pages
      = ((cookie :: pages.map Page.cookie).take pages.length).map (paging.request query) := by
  induction pages generalizing cookie with
  | nil => rfl
  | cons page pages ih =>
    rw [requestsFrom, ih, List.length_cons, List.take_succ_cons, List.map_cons, List.map_cons]

/-- The same of the first of these requests, however many they are. -/
theorem eq_of_prefix_requestsFrom {paging : Paging} {query : Query} {cookie : Option (List UInt8)}
    {pages : List Page} {requests : List Request}
    (h : requests <+: paging.requestsFrom query cookie pages) :
    requests = ((cookie :: pages.map Page.cookie).take requests.length).map
      (paging.request query) := by
  rw [requestsFrom_eq_map] at h
  have hle : requests.length ≤ pages.length := by
    simpa using h.length_le
  rw [List.prefix_iff_eq_take, ← List.map_take, List.take_take, Nat.min_eq_left hle] at h
  exact h

/-! ### Entries among items -/

theorem filterMap_of_nextEntry {items rest : List Item} {entry : Entry}
    (h : nextEntry items = some (entry, rest)) :
    items.filterMap Item.entry? = entry :: rest.filterMap Item.entry? := by
  induction items with
  | nil => cases h
  | cons item items ih =>
    rcases hitem : item.entry? with - | found
    · simp only [nextEntry, hitem] at h
      rw [List.filterMap_cons_none hitem, ih h]
    · simp only [nextEntry, hitem, Option.some.injEq, Prod.mk.injEq] at h
      obtain ⟨rfl, rfl⟩ := h
      rw [List.filterMap_cons_some hitem]

theorem filterMap_of_nextEntry_none {items : List Item} (h : nextEntry items = none) :
    items.filterMap Item.entry? = [] := by
  induction items with
  | nil => rfl
  | cons item items ih =>
    rcases hitem : item.entry? with - | found
    · simp only [nextEntry, hitem] at h
      rw [List.filterMap_cons_none hitem, ih h]
    · -- An entry at the head would be the next one.
      simp [nextEntry, hitem] at h

/-! ### Calls -/

/-- `Advance paging query before pages requests result after`: a call of the
cursor `before`, which is served `pages` for its `requests`, ends with `result`
and leaves the cursor `after`. -/
inductive Advance (paging : Paging) (query : Query) :
    PagedCursor → List Page → List Request → Except Failure (Option Entry) → PagedCursor → Prop
  | give {items rest cookie entry} :
      nextEntry items = some (entry, rest) →
      Advance paging query (.reading query items cookie) [] [] (.ok (some entry))
        (.reading query rest cookie)
  | finish {items} :
      nextEntry items = none →
      Advance paging query (.reading query items none) [] [] (.ok none) .ended
  | stay :
      Advance paging query .ended [] [] (.ok none) .ended
  | breakOff {before cookie page fault} :
      before.atHand = [] → before.place = some cookie → page.fault? = some fault →
      Advance paging query before [page] [paging.request query cookie]
        (.error (fault.failure query.base)) .ended
  | turn {before cookie page pages requests result after} :
      before.atHand = [] → before.place = some cookie → page.fault? = none →
      Advance paging query (.reading query page.answer.itemList page.cookie) pages requests
        result after →
      Advance paging query before (page :: pages) (paging.request query cookie :: requests)
        result after

/-- A call on a connection: an `Advance` over the pages that are up next, which it
uses up. -/
structure AdvanceOn (paging : Paging) (query : Query) (before : PagedCursor)
    (connection : Connection)
    (done : Outcome (PagedCursor × Connection) SessionEvent (Option Entry)) : Prop where
  advance : Advance paging query before
    (firstPages (requestsOf done.trace).length connection.script) (requestsOf done.trace)
    done.result done.state.1
  script : done.state.2.script = connection.script.drop (requestsOf done.trace).length
  serves : done.state.1.serves query

/-- A call that asks for a page: it breaks off if the page fails, and otherwise
goes on within the page. -/
theorem AdvanceOn.ask {paging : Paging} {query : Query} {before : PagedCursor}
    {cookie : Option (List UInt8)} {connection : Connection} (event : SessionLog)
    {done : Outcome (PagedCursor × Connection) SessionEvent (Option Entry)}
    (hnone : before.atHand = []) (hplace : before.place = some cookie)
    (hdone : done =
      match paging.take query cookie connection with
      | ⟨.error failure, connection', trace⟩ =>
        ⟨.error failure, (.ended, connection'), .logged event :: trace⟩
      | ⟨.ok answer, connection', trace⟩ =>
        let further := paging.resume query answer.itemList answer.cookie connection'
        ⟨further.result, further.state, .logged event :: (trace ++ further.trace)⟩)
    (hfurther : ∀ answer connection' trace,
      paging.take query cookie connection = ⟨.ok answer, connection', trace⟩ →
      AdvanceOn paging query (.reading query answer.itemList answer.cookie) connection'
        (paging.resume query answer.itemList answer.cookie connection')) :
    AdvanceOn paging query before connection done := by
  obtain ⟨hresult, hscript, hrequests⟩ := take_spec paging query cookie connection
  rcases htake : paging.take query cookie connection with ⟨failure | answer, connection', trace⟩
  · -- The page failed, and the cursor has ended.
    rw [htake] at hdone hresult hscript hrequests
    subst hdone
    rcases hfault : connection.upcoming.fault? with - | fault <;> rw [hfault] at hresult
    · cases hresult
    · cases hresult
      simp only at hscript hrequests
      refine ⟨?_, ?_, trivial⟩
      · have hbreak : Advance paging query before [connection.upcoming]
            [paging.request query cookie] (.error (fault.failure query.base)) .ended :=
          .breakOff hnone hplace hfault
        simpa [hrequests, firstPages, Connection.upcoming] using hbreak
      · simp [hrequests, hscript]
  · -- The page is there; the call goes on as a call within it.
    have hinner := hfurther answer connection' trace htake
    rw [htake] at hdone hresult hscript hrequests
    subst hdone
    rcases hfault : connection.upcoming.fault? with - | fault <;> rw [hfault] at hresult
    · cases hresult
      simp only at hscript hrequests
      simp only [Page.cookie_eq] at hinner ⊢
      refine ⟨?_, ?_, hinner.serves⟩
      · have hturn := Advance.turn hnone hplace hfault hinner.advance
        rw [hscript] at hturn
        simpa [hrequests, firstPages, Connection.upcoming] using hturn
      · simpa [hrequests, hscript, List.drop_tail, Nat.add_comm] using hinner.script
    · cases hresult

/-- A call of a cursor that is within a page. -/
theorem advance_resume (paging : Paging) (query : Query) (items : List Item)
    (cookie : Option (List UInt8)) (connection : Connection) :
    AdvanceOn paging query (.reading query items cookie) connection
      (paging.resume query items cookie connection) := by
  fun_induction resume paging query items cookie connection with
  | case1 items cookie connection entry rest hnext =>
    exact ⟨.give hnext, rfl, rfl⟩
  | case2 items connection hnext =>
    exact ⟨.finish hnext, rfl, trivial⟩
  | case3 items connection hnext place failure connection' trace htake =>
    refine .ask (.nextPage query.base) (filterMap_of_nextEntry_none hnext) rfl ?_ ?_
    · rw [htake]
    · intro answer connection'' trace' h
      rw [htake] at h
      cases h
  | case4 items connection hnext place answer connection' trace htake further ih =>
    refine .ask (.nextPage query.base) (filterMap_of_nextEntry_none hnext) rfl ?_ ?_
    · rw [htake]
    · intro answer' connection'' trace' h
      rw [htake] at h
      cases h
      exact ih

/-- **What a call does**, wherever its cursor stands. -/
theorem advance_next (paging : Paging) {query : Query} {cursor : PagedCursor}
    (h : cursor.serves query) (connection : Connection) :
    AdvanceOn paging query cursor connection (paging.next (cursor, connection)) := by
  rcases cursor with other | ⟨other, items, cookie⟩ | -
  · obtain rfl : other = query := h
    exact .ask _ rfl rfl rfl fun answer connection' _ _ =>
      advance_resume paging other answer.itemList answer.cookie connection'
  · obtain rfl : other = query := h
    exact advance_resume paging other items cookie connection
  · exact ⟨.stay, rfl, trivial⟩

theorem next_spec {paging : Paging} {query : Query} {w after : PagedCursor × Connection}
    {result : Except Failure (Option Entry)} {trace : List SessionEvent}
    (hnext : paging.next w = ⟨result, after, trace⟩) (hserves : w.1.serves query) :
    Advance paging query w.1 (firstPages (requestsOf trace).length w.2.script)
        (requestsOf trace) result after.1
      ∧ after.2.script = w.2.script.drop (requestsOf trace).length
      ∧ after.1.serves query := by
  obtain ⟨hadvance, hscript, hserves'⟩ := paging.advance_next hserves w.2
  rw [show paging.next (w.1, w.2) = _ from hnext] at hadvance hscript hserves'
  exact ⟨hadvance, hscript, hserves'⟩

/-! ### What a call keeps -/

/-- The entry that an answer gives. -/
def given : Except Failure (Option Entry) → List Entry
  | .ok (some entry) => [entry]
  | _ => []

@[simp] theorem given_some (entry : Entry) : given (.ok (some entry)) = [entry] := rfl

@[simp] theorem given_none : given (.ok none) = [] := rfl

@[simp] theorem given_error (failure : Failure) : given (.error failure) = [] := rfl

namespace Advance

variable {paging : Paging} {query : Query} {before after : PagedCursor} {pages : List Page}
  {requests : List Request} {result : Except Failure (Option Entry)}

theorem searchPages_cons_of_sound (query : Query) {page : Page} (h : page.fault? = none)
    (items : List Item) (supply : List Page) :
    searchPages (page :: supply)
      = page :: (PagedCursor.reading query items page.cookie).ahead supply := by
  rcases hcookie : page.cookie with - | cookie <;>
    simp [searchPages, Page.isLast, h, hcookie, PagedCursor.ahead, PagedCursor.place]

/-- The pages of a call and those ahead of the cursor after it are those that were
ahead of it before. -/
theorem pages_ahead (h : Advance paging query before pages requests result after)
    (later : List Page) : before.ahead (pages ++ later) = pages ++ after.ahead later := by
  -- By induction on the call: one page at a time is moved from ahead of the cursor
  -- to the pages that it was served.
  induction h with
  | give => simp only [PagedCursor.ahead, PagedCursor.place_reading, List.nil_append]
  | finish => rfl
  | stay => rfl
  | breakOff hnone hplace hfault =>
    rw [PagedCursor.ahead_of_place hplace]
    simp [searchPages, Page.isLast, hfault]
  | @turn before _ page pages _ _ after hnone hplace hsound _ ih =>
    rw [PagedCursor.ahead_of_place hplace, List.cons_append,
      searchPages_cons_of_sound query hsound page.answer.itemList, ih,
      List.cons_append]

/-- The requests of a call and those ahead of the cursor after it are those that
were ahead of it before. -/
theorem requests_ahead (h : Advance paging query before pages requests result after)
    (later : List Page) :
    paging.requestsAhead query before (pages ++ later)
      = requests ++ paging.requestsAhead query after later := by
  induction h with
  | give => simp only [requestsAhead, PagedCursor.place_reading, List.nil_append]
  | finish => rfl
  | stay => rfl
  | breakOff hnone hplace hfault =>
    simp only [requestsAhead, hplace]
    simp [searchPages, Page.isLast, hfault, requestsFrom, PagedCursor.place]
  | @turn before cookie page pages requests _ after hnone hplace hsound _ ih =>
    -- Whether the page says where to go on or not, what it leads to is ahead of a cursor within it.
    have hinner : paging.requestsFrom query page.cookie
        ((PagedCursor.reading query page.answer.itemList page.cookie).ahead (pages ++ later))
          = requests ++ paging.requestsAhead query after later := by
      rw [← ih]
      rcases hcookie : page.cookie with - | place <;>
        simp [requestsAhead, PagedCursor.ahead, PagedCursor.place, requestsFrom]
    simp only [requestsAhead, hplace, List.cons_append]
    rw [searchPages_cons_of_sound query hsound page.answer.itemList, requestsFrom,
      hinner]
    rfl

/-- Each page is asked for once. -/
theorem length_requests (h : Advance paging query before pages requests result after) :
    requests.length = pages.length := by
  induction h with
  | give => rfl
  | finish => rfl
  | stay => rfl
  | breakOff => rfl
  | turn _ _ _ _ ih => rw [List.length_cons, ih, List.length_cons]

/-- The entries at hand and those of the pages are given or at hand afterwards. -/
theorem entries (h : Advance paging query before pages requests result after) :
    before.atHand ++ entriesOf pages = given result ++ after.atHand := by
  induction h with
  | give hnext => simp [filterMap_of_nextEntry hnext]
  | finish hnext => rw [PagedCursor.atHand_reading, filterMap_of_nextEntry_none hnext]; rfl
  | stay => rfl
  | breakOff hnone hplace hfault =>
    -- What the failing page holds is not given.
    rw [hnone, entriesOf_cons, Page.entries_of_fault hfault]
    rfl
  | turn hnone hplace hsound _ ih =>
    -- The entries of the page are at hand for the rest of the call.
    rw [hnone, entriesOf_cons, Page.entries_of_sound hsound, ← ih]
    rfl

/-- A page is asked for only when nothing is at hand, and a further one only when
those before it had no entry. -/
theorem needed (h : Advance paging query before pages requests result after)
    (hpages : pages ≠ []) : before.atHand = [] ∧ entriesOf pages.dropLast = [] := by
  induction h with
  | give => exact absurd rfl hpages
  | finish => exact absurd rfl hpages
  | stay => exact absurd rfl hpages
  | breakOff hnone => exact ⟨hnone, rfl⟩
  | @turn before cookie page pages requests result after hnone hplace hsound hinner ih =>
    refine ⟨hnone, ?_⟩
    rcases pages with - | ⟨page', pages⟩
    · -- The only page so far, or one that was passed over.
      rfl
    · obtain ⟨hitems, hrest⟩ := ih (List.cons_ne_nil _ _)
      rw [List.dropLast_cons_of_ne_nil (List.cons_ne_nil _ _), entriesOf_cons, hrest,
        Page.entries_of_sound hsound]
      simpa using hitems

/-- A call gives an entry, or is the cursor's last; it fails if its last page does. -/
theorem ends (h : Advance paging query before pages requests result after) :
    (∃ entry, result = .ok (some entry) ∧ Faultless pages)
      ∨ (after = .ended ∧ result = .ok none ∧ Faultless pages)
      ∨ (after = .ended ∧ ∃ fault, result = .error (fault.failure query.base)
          ∧ EndsIn fault pages) := by
  induction h with
  | @give items rest cookie entry _ => exact .inl ⟨entry, rfl, .nil⟩
  | finish => exact .inr (.inl ⟨rfl, rfl, .nil⟩)
  | stay => exact .inr (.inl ⟨rfl, rfl, .nil⟩)
  | @breakOff before cookie page fault hnone hplace hfault =>
    exact .inr (.inr ⟨rfl, fault, rfl, [], page, rfl, .nil, hfault⟩)
  | @turn before cookie page pages requests result after hnone hplace hsound hinner ih =>
    rcases ih with ⟨entry, hresult, hpages⟩ | ⟨hafter, hresult, hpages⟩ |
      ⟨hafter, fault, hresult, hpages⟩
    · exact .inl ⟨entry, hresult, .cons hsound hpages⟩
    · exact .inr (.inl ⟨hafter, hresult, .cons hsound hpages⟩)
    · exact .inr (.inr ⟨hafter, fault, hresult,
        Faultless.append_endsIn (.cons hsound .nil) hpages⟩)

/-- What the last call of a cursor answers. -/
theorem result_eq_endingOf (h : Advance paging query before pages requests result after) :
    (∃ entry, result = .ok (some entry) ∧ Faultless pages)
      ∨ (after = .ended ∧ result = endingOf query.base (faultOf pages)) := by
  rcases h.ends with hgives | ⟨hafter, hresult, hpages⟩ | ⟨hafter, fault, hresult, hpages⟩
  · exact .inl hgives
  · exact .inr ⟨hafter, by rw [hresult, hpages.faultOf]; rfl⟩
  · exact .inr ⟨hafter, by rw [hresult, hpages.faultOf]; rfl⟩

/-- The pages ahead of a cursor on a connection are those of its next call and those
ahead of it afterwards. -/
theorem ahead_script {w w' : PagedCursor × Connection} {n : Nat}
    (h : Advance paging query w.1 (firstPages n w.2.script) requests result w'.1)
    (hscript : w'.2.script = w.2.script.drop n) :
    w.1.ahead w.2.script = firstPages n w.2.script ++ w'.1.ahead w'.2.script := by
  rw [← PagedCursor.ahead_firstPages w.1 n, h.pages_ahead, hscript]

end Advance

end Paging

end DirectoryGroups
