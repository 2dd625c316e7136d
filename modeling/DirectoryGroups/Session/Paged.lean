/-
DirectoryGroups/Session/Paged.lean

Searches that come page by page over a connection.

A cursor sends its first request when its first entry is wanted, and the request
for a further page when the entries of the page before are used up and that page
said where the next one begins.  It keeps the rest of its page to itself, so
several cursors can share a connection.  Of the items of a page only the entries
are given out.  An error of the connection, or an answer other than success, ends
the cursor.
-/
import DirectoryGroups.Session.Connection

namespace DirectoryGroups

/-- How a paged session searches. -/
structure Paging where
  /-- How many entries a page may hold; with zero, pages are not asked for. -/
  pageSize : Int := 500
  /-- The most entries that a search may find; zero is no limit. -/
  sizeLimit : Int := 0
  /-- The most seconds that a search may take; zero is no limit. -/
  timeLimit : Int := 0
  deriving DecidableEq, Repr

/-- Where a paged cursor stands. -/
inductive PagedCursor where
  /-- Nothing was asked for yet. -/
  | fresh (query : Query)
  /-- Within a page: the items left of it, and where the next page begins. -/
  | reading (query : Query) (items : List Item) (cookie : Option (List UInt8))
  | ended

namespace Paging

/-! ### Pages -/

/-- The attributes that are asked for: if none are wanted, the word for that. -/
def requested (query : Query) : List String :=
  if query.attributes.isEmpty then ["1.1"] else query.attributes

/-- The request for the page of a search that begins at the cookie. -/
def request (paging : Paging) (query : Query) (cookie : Option (List UInt8)) : Request where
  base := query.base
  filter := query.filter
  attributes := requested query
  sizeLimit := paging.sizeLimit
  timeLimit := paging.timeLimit
  pageSize := if paging.pageSize = 0 then none else some paging.pageSize
  cookie := cookie

/-- A failure as the reader of a search below `base` sees it. -/
def failureBelow (base : String) : Failure → Failure
  | .protocol error => .lookup (.interrupted base error)
  | failure => failure

/-- The answer, if the operation was a success. -/
def accept (base : String) (answer : Answer) : Except Failure Answer :=
  match answer.result with
  | none => .ok answer
  | some result =>
    if result.code = some 0 then .ok answer
    else .error (.lookup (.refused base result.code result.description))

/-- Takes the page of a search that begins at the cookie. -/
def take (paging : Paging) (query : Query) (cookie : Option (List UInt8)) :
    Step Connection SessionEvent Answer := do
  match ← (Connection.exchange (paging.request query cookie)).attempt with
  | .error failure => Step.fail (failureBelow query.base failure)
  | .ok answer => Step.ofExcept (accept query.base answer)

/-- Taking a page uses it up. -/
theorem script_take (paging : Paging) (query : Query) (cookie : Option (List UInt8))
    (connection : Connection) :
    (paging.take query cookie connection).state.script = connection.script.tail := by
  have h := Connection.script_exchange (paging.request query cookie) connection
  cases hr : (Connection.exchange (paging.request query cookie) connection).result <;>
    simp [take, bind, Step.bind, Step.attempt, Step.ofExcept, Step.fail, hr, h]

/-- A page that is taken is the one that was used up. -/
theorem answer_of_take {paging : Paging} {query : Query} {cookie : Option (List UInt8)}
    {connection : Connection} {answer : Answer}
    (h : (paging.take query cookie connection).result = .ok answer) :
    answer = connection.upcoming.answer := by
  cases hr : (Connection.exchange (paging.request query cookie) connection).result with
  | error failure => simp [take, bind, Step.bind, Step.attempt, Step.fail, hr] at h
  | ok answer' =>
    obtain rfl := Connection.answer_of_exchange hr
    simp only [take, bind, Step.bind, Step.attempt, Step.ofExcept, hr, accept] at h
    split at h
    · exact (Except.ok.inj h).symm
    · split at h
      · exact (Except.ok.inj h).symm
      · cases h

/-! ### Cursors -/

/-- The first entry among some items, and the items after it. -/
def nextEntry : List Item → Option (Entry × List Item)
  | [] => none
  | item :: rest =>
    match item.entry? with
    | some entry => some (entry, rest)
    | none => nextEntry rest

/-- Behind the first entry there are fewer items. -/
theorem length_of_nextEntry {items rest : List Item} {entry : Entry}
    (h : nextEntry items = some (entry, rest)) : rest.length < items.length := by
  induction items with
  | nil => cases h
  | cons item items ih =>
    unfold nextEntry at h
    split at h
    · obtain ⟨-, rfl⟩ := Prod.mk.inj (Option.some.inj h)
      simp
    · exact Nat.lt_succ_of_lt (ih h)

/-- Taking a page brings the end nearer: either there is one page fewer to come,
or the page is none of the script, and then no further page begins behind it. -/
theorem length_take {paging : Paging} {query : Query} {cookie : Option (List UInt8)}
    {connection connection' : Connection} {answer : Answer} {trace : List SessionEvent}
    (h : paging.take query cookie connection = ⟨.ok answer, connection', trace⟩) :
    connection'.script.length + answer.cookie.toList.length < connection.script.length + 1 := by
  have hscript : connection'.script = connection.script.tail := by
    simpa only [h] using paging.script_take query cookie connection
  have hanswer : answer = connection.upcoming.answer := answer_of_take (by rw [h])
  have hcookie : answer.cookie.toList.length ≤ 1 := by
    rcases answer.cookie with - | cookie <;> simp
  rcases hpages : connection.script with - | ⟨page, pages⟩
  · have hnone : answer.cookie = none := by
      rw [hanswer, Connection.upcoming, hpages]
      rfl
    rw [hscript, hpages, hnone]
    exact Nat.lt_succ_self 0
  · rw [hscript, hpages, List.tail_cons, List.length_cons]
    omega

/-- The next entry for a cursor that has some items left and knows where the next
page begins. -/
def resume (paging : Paging) (query : Query) (items : List Item)
    (cookie : Option (List UInt8)) (connection : Connection) :
    Outcome (PagedCursor × Connection) SessionEvent (Option Entry) :=
  match nextEntry items with
  | some (entry, rest) => ⟨.ok (some entry), (.reading query rest cookie, connection), []⟩
  | none =>
    match cookie with
    | none => ⟨.ok none, (.ended, connection), []⟩
    | some place =>
      match _h : paging.take query (some place) connection with
      | ⟨.error failure, connection', trace⟩ =>
        ⟨.error failure, (.ended, connection'), .logged (.nextPage query.base) :: trace⟩
      | ⟨.ok answer, connection', trace⟩ =>
        let further := paging.resume query answer.itemList answer.cookie connection'
        ⟨further.result, further.state,
          .logged (.nextPage query.base) :: (trace ++ further.trace)⟩
termination_by connection.script.length + cookie.toList.length
decreasing_by exact length_take _h

/-- The next entry for a cursor, wherever it stands. -/
def next (paging : Paging) : Step (PagedCursor × Connection) SessionEvent (Option Entry)
  | (.ended, connection) => ⟨.ok none, (.ended, connection), []⟩
  | (.reading query items cookie, connection) => paging.resume query items cookie connection
  | (.fresh query, connection) =>
    let start := SessionEvent.logged
      (.searching query.base query.filter (requested query) paging.pageSize)
    match paging.take query none connection with
    | ⟨.error failure, connection, trace⟩ =>
      ⟨.error failure, (.ended, connection), start :: trace⟩
    | ⟨.ok answer, connection, trace⟩ =>
      let further := paging.resume query answer.itemList answer.cookie connection
      ⟨further.result, further.state, start :: (trace ++ further.trace)⟩

/-! ### The session -/

/-- How many items a cursor can still come across. -/
def remaining : PagedCursor × Connection → Nat
  | (.ended, _) => 0
  | (.reading _ items _, connection) => items.length + connection.itemsToCome.length
  | (.fresh _, connection) => connection.itemsToCome.length

/-- The items of a page that is taken are the first of those to come. -/
theorem itemsToCome_take {paging : Paging} {query : Query} {cookie : Option (List UInt8)}
    {connection connection' : Connection} {answer : Answer} {trace : List SessionEvent}
    (h : paging.take query cookie connection = ⟨.ok answer, connection', trace⟩) :
    connection.itemsToCome = answer.itemList ++ connection'.itemsToCome := by
  have hscript : connection'.script = connection.script.tail := by
    simpa only [h] using paging.script_take query cookie connection
  have hanswer : answer = connection.upcoming.answer := answer_of_take (by rw [h])
  rw [hanswer, Connection.upcoming, Connection.itemsToCome, Connection.itemsToCome, hscript]
  rcases connection.script with - | ⟨page, pages⟩ <;> rfl

/-- An entry that is given is one item fewer to come. -/
theorem remaining_resume {paging : Paging} {query : Query} {items : List Item}
    {cookie : Option (List UInt8)} {connection : Connection} {entry : Entry}
    (h : (paging.resume query items cookie connection).result = .ok (some entry)) :
    remaining (paging.resume query items cookie connection).state
      < items.length + connection.itemsToCome.length := by
  fun_induction resume paging query items cookie connection with
  | case1 items cookie connection entry' rest hnext =>
    have := length_of_nextEntry hnext
    simp only [remaining]
    omega
  | case2 => cases h
  | case3 => cases h
  | case4 items connection _ place answer connection' trace htake further ih =>
    calc remaining further.state
        < answer.itemList.length + connection'.itemsToCome.length := ih h
      _ = connection.itemsToCome.length := by
        rw [itemsToCome_take htake, List.length_append]
      _ ≤ items.length + connection.itemsToCome.length := Nat.le_add_left _ _

/-- An entry that is given is one item fewer to come. -/
theorem remaining_next (paging : Paging) (w : PagedCursor × Connection) (entry : Entry)
    (h : (paging.next w).result = .ok (some entry)) :
    remaining (paging.next w).state < remaining w := by
  rcases w with ⟨query | ⟨query, items, cookie⟩ | _, connection⟩
  · simp only [next] at h ⊢
    split at h
    · cases h
    · rename_i answer connection' trace htake
      rw [remaining, itemsToCome_take htake, List.length_append]
      exact remaining_resume h
  · exact remaining_resume h
  · cases h

/-- The session over a connection.  Closing a cursor sends nothing. -/
def session (paging : Paging) : Session Connection PagedCursor where
  search query := pure (.fresh query)
  next := paging.next
  close w := ⟨.ok (), (.ended, w.2), []⟩
  release := pure ()
  remaining := remaining
  remaining_next := paging.remaining_next

end Paging

end DirectoryGroups
