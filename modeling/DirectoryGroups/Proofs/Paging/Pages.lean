/-
DirectoryGroups/Proofs/Paging/Pages.lean

The pages of a script, as a paged search sees them.

A page fails if the connection raises an error for it, be it at once or when its
answer is fetched, or if its result has a code other than success
(`Page.fault?`).  A search goes from page to page until one of them fails or
does not say where the next one begins (`searchPages`); what it finds are the
entries of the pages that did not fail (`entriesOf`).

Main results: whatever the way in which a page comes, a request is answered by
the page that is up next, uses up that page and no other, and tells of itself
exactly once (`exchange_spec`, and `take_spec` for the request of a search).
-/
import DirectoryGroups.Session.Paged

namespace DirectoryGroups

/-! ### Faults -/

/-- Why a page fails. -/
inductive PageFault where
  /-- The connection raised something. -/
  | raised (failure : Failure)
  /-- The directory answered with a code other than success. -/
  | refused (code : Option Int) (description : Option String)

namespace PageFault

/-- The failure by which a search below `base` makes a fault known. -/
def failure (base : String) : PageFault → Failure
  | raised (.protocol error) => .lookup (.interrupted base error)
  | raised failure => failure
  | refused code description => .lookup (.refused base code description)

/-- The result code that came with a fault. -/
def code : PageFault → Option Int
  | raised (.protocol error) => error.code
  | raised _ => none
  | refused code _ => code

end PageFault

namespace Page

/-- What the connection raises for the page. -/
def raised? (page : Page) : Option Failure :=
  match page.refusal, page.delivery with
  | some failure, _ => some failure
  | none, .deferred _ => page.lateRefusal
  | none, .immediate _ => none

/-- Why the page fails, if it does. -/
def fault? (page : Page) : Option PageFault :=
  match page.raised?, page.answer.result with
  | some failure, _ => some (.raised failure)
  | none, some result =>
    if result.code = some 0 then none else some (.refused result.code result.description)
  | none, none => none

/-- Where the next page begins, according to this one: at the cookie that its control
for paged results holds, unless that is empty. -/
def cookie (page : Page) : Option (List UInt8) :=
  (page.answer.result.bind fun result =>
    (result.controls.lookup "1.2.840.113556.1.4.319").join).filter (· ≠ [])

/-- Whether a search ends with the page. -/
def isLast (page : Page) : Bool :=
  page.fault?.isSome || page.cookie.isNone

/-- The entries that a search takes from the page: of a page that fails none, and of any
other the items that are marked as entries. -/
def entries (page : Page) : List Entry :=
  if page.fault?.isSome then []
  else ((page.answer.items.getD []).filter (·.kind = some "searchResEntry")).map
    fun item => { dn := item.dn, attributes := item.attributes }

/-- A session finds the place of the next page where the page has it. -/
theorem cookie_eq (page : Page) : page.answer.cookie = page.cookie := by
  rcases hresult : page.answer.result with - | result
  · rw [Answer.cookie, Page.cookie, hresult]
    rfl
  · rw [Answer.cookie, Page.cookie, hresult, Option.bind_some, Option.bind_some,
      SearchResult.cookie, SearchResult.pagedControl]
    rcases result.controls.lookup "1.2.840.113556.1.4.319" with - | - | - | ⟨byte, rest⟩ <;> rfl

end Page

/-! ### The pages of a search -/

/-- The pages of one search, out of those that are there to answer it: all up to
the first that ends it.  Where the supply ends, an empty page comes. -/
def searchPages : List Page → List Page
  | [] => [{}]
  | page :: supply => if page.isLast then [page] else page :: searchPages supply

/-- The entries that a search takes from some pages. -/
def entriesOf (pages : List Page) : List Entry :=
  pages.flatMap Page.entries

@[simp] theorem entriesOf_nil : entriesOf [] = [] := rfl

@[simp] theorem entriesOf_cons (page : Page) (pages : List Page) :
    entriesOf (page :: pages) = page.entries ++ entriesOf pages := rfl

@[simp] theorem entriesOf_append (pages more : List Page) :
    entriesOf (pages ++ more) = entriesOf pages ++ entriesOf more :=
  List.flatMap_append

/-- What is at fault with the last of some pages. -/
def faultOf (pages : List Page) : Option PageFault :=
  pages.getLast?.bind Page.fault?

/-- The answer of a cursor below `base` that has no more entries, by what was at
fault with its last page. -/
def endingOf (base : String) : Option PageFault → Except Failure (Option Entry)
  | some fault => .error (fault.failure base)
  | none => .ok none

/-- None of the pages fails. -/
def Faultless (pages : List Page) : Prop :=
  ∀ page ∈ pages, page.fault? = none

/-- The last of the pages fails, and no other. -/
def EndsIn (fault : PageFault) (pages : List Page) : Prop :=
  ∃ front last, pages = front ++ [last] ∧ Faultless front ∧ last.fault? = some fault

theorem Faultless.nil : Faultless [] := by
  simp [Faultless]

theorem Faultless.append {pages more : List Page} (h : Faultless pages) (h' : Faultless more) :
    Faultless (pages ++ more) := by
  intro page hpage
  rcases List.mem_append.mp hpage with hmem | hmem
  · exact h page hmem
  · exact h' page hmem

theorem Faultless.cons {page : Page} {pages : List Page} (h : page.fault? = none)
    (h' : Faultless pages) : Faultless (page :: pages) := by
  intro other hother
  rcases List.mem_cons.mp hother with rfl | hmem
  · exact h
  · exact h' other hmem

theorem Faultless.append_endsIn {pages more : List Page} {fault : PageFault}
    (h : Faultless pages) (h' : EndsIn fault more) : EndsIn fault (pages ++ more) := by
  obtain ⟨front, last, rfl, hfront, hlast⟩ := h'
  exact ⟨pages ++ front, last, (List.append_assoc _ _ _).symm, h.append hfront, hlast⟩

/-- Pages without a fault leave the fault to the pages that follow. -/
theorem Faultless.faultOf_append {pages : List Page} (h : Faultless pages) (more : List Page) :
    faultOf (pages ++ more) = faultOf more := by
  -- The last page is one of those that follow, unless there are none.
  rcases hmore : more.getLast? with - | page
  · rcases hlast : pages.getLast? with - | page
    · simp [faultOf, List.getLast?_append, hmore, hlast]
    · have hpage : page.fault? = none := h page (List.mem_of_getLast? hlast)
      simp [faultOf, List.getLast?_append, hmore, hlast, hpage]
  · simp [faultOf, List.getLast?_append, hmore]

theorem Faultless.faultOf {pages : List Page} (h : Faultless pages) : faultOf pages = none := by
  rw [← List.append_nil pages, h.faultOf_append]
  rfl

theorem EndsIn.faultOf {pages : List Page} {fault : PageFault} (h : EndsIn fault pages) :
    faultOf pages = some fault := by
  obtain ⟨front, last, rfl, hfront, hlast⟩ := h
  rw [hfront.faultOf_append]
  exact hlast

theorem Page.entries_of_fault {page : Page} {fault : PageFault} (h : page.fault? = some fault) :
    page.entries = [] := by
  simp [Page.entries, h]

theorem Page.entries_of_sound {page : Page} (h : page.fault? = none) :
    page.entries = page.answer.itemList.filterMap Item.entry? := by
  have hentry : ∀ item : Item, item.entry?
      = (Option.guard (·.kind = some "searchResEntry") item).map
          fun item => { dn := item.dn, attributes := item.attributes } := by
    intro item
    by_cases hkind : item.kind = some "searchResEntry" <;> simp [Item.entry?, hkind, Option.guard]
  rw [Page.entries, h, Answer.itemList, funext hentry, ← List.map_filterMap,
    List.filterMap_eq_filter]
  rfl

/-! ### Serving -/

/-- The first `n` pages of a script; past its end the pages are empty. -/
def firstPages : Nat → List Page → List Page
  | 0, _ => []
  | n + 1, script => script.headD {} :: firstPages n script.tail

@[simp] theorem length_firstPages (n : Nat) (script : List Page) :
    (firstPages n script).length = n := by
  induction n generalizing script with
  | zero => rfl
  | succ n ih => rw [firstPages, List.length_cons, ih]

/-- Some pages and then some more. -/
theorem firstPages_add (n m : Nat) (script : List Page) :
    firstPages (n + m) script = firstPages n script ++ firstPages m (script.drop n) := by
  induction n generalizing script with
  | zero => simp [firstPages]
  | succ n ih =>
    rw [Nat.add_right_comm, firstPages, ih, firstPages, List.cons_append, List.drop_tail]

/-- A search that is served the pages of a script one after another has the
script for its supply. -/
theorem searchPages_firstPages (n : Nat) (script : List Page) :
    searchPages (firstPages n script ++ script.drop n) = searchPages script := by
  induction n generalizing script with
  | zero => rfl
  | succ n ih =>
    cases script with
    | nil =>
      -- Past the end of the script comes an empty page, which is the last of the search.
      simp [firstPages, searchPages, Page.isLast, Page.cookie]
    | cons page script =>
      simp only [firstPages, List.headD_cons, List.tail_cons, List.drop_succ_cons,
        List.cons_append, searchPages, ih script]

/-- The request that a session's event tells of. -/
def SessionEvent.request? : SessionEvent → Option Request
  | requested request => some request
  | _ => none

/-- The requests that events tell of. -/
def requestsOf (trace : List SessionEvent) : List Request :=
  trace.filterMap SessionEvent.request?

@[simp] theorem requestsOf_nil : requestsOf [] = [] := rfl

@[simp] theorem requestsOf_append (trace more : List SessionEvent) :
    requestsOf (trace ++ more) = requestsOf trace ++ requestsOf more :=
  List.filterMap_append

@[simp] theorem requestsOf_logged (event : SessionLog) (trace : List SessionEvent) :
    requestsOf (.logged event :: trace) = requestsOf trace := rfl

/-- **A request is answered by the page that is up next**, uses it up, and is told
of once. -/
theorem exchange_spec (request : Request) (connection : Connection) :
    (Connection.exchange request connection).result
        = (match connection.upcoming.raised? with
          | some failure => .error failure
          | none => .ok connection.upcoming.answer)
      ∧ (Connection.exchange request connection).state.script = connection.script.tail
      ∧ requestsOf (Connection.exchange request connection).trace = [request] := by
  rcases hpage : connection.upcoming with ⟨refusal, delivery, late, answer⟩
  -- An error may come at once or late, and late only if the answer does.
  cases refusal <;> cases delivery <;> cases late <;>
    simp [Connection.exchange, Connection.send, Connection.fetch, Connection.read, bind,
      Step.bind, hpage, Page.raised?, requestsOf, SessionEvent.request?]

/-- A request of a search ends as the page that is up next does. -/
theorem take_spec (paging : Paging) (query : Query) (cookie : Option (List UInt8))
    (connection : Connection) :
    (paging.take query cookie connection).result
        = (match connection.upcoming.fault? with
          | some fault => .error (fault.failure query.base)
          | none => .ok connection.upcoming.answer)
      ∧ (paging.take query cookie connection).state.script = connection.script.tail
      ∧ requestsOf (paging.take query cookie connection).trace
        = [paging.request query cookie] := by
  obtain ⟨hresult, hscript, hrequests⟩ :=
    exchange_spec (paging.request query cookie) connection
  rcases hraised : connection.upcoming.raised? with - | failure
  · rw [hraised] at hresult
    rcases hanswer : connection.upcoming.answer.result with - | result
    · simp [Paging.take, bind, Step.bind, Step.attempt, Step.ofExcept, Paging.accept, hresult,
        hscript, hrequests, Page.fault?, hraised, hanswer]
    · -- What is answered is accepted just under the code of success.
      by_cases hcode : result.code = some 0 <;>
        simp [Paging.take, bind, Step.bind, Step.attempt, Step.ofExcept, Paging.accept, hresult,
          hscript, hrequests, Page.fault?, hraised, hanswer, hcode, PageFault.failure]
  · rw [hraised] at hresult
    cases failure <;>
      simp [Paging.take, bind, Step.bind, Step.attempt, Step.fail, Paging.failureBelow, hresult,
        hscript, hrequests, Page.fault?, hraised, PageFault.failure]

end DirectoryGroups
