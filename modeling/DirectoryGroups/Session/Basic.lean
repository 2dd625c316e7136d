/-
DirectoryGroups/Session/Basic.lean

Sessions with a directory.

A session answers a search with a cursor.  The cursor gives the entries one by
one, and it is to be closed when no more of them are wanted.  Sessions differ in
what they do at each of these points and in what can go wrong there; all of them
are bound to end: an entry that a cursor gives is one entry fewer to come.

`Session.first` looks at the first entry of a search only, and `Session.forEach`
reads a cursor to its end.
-/
import DirectoryGroups.Entry
import DirectoryGroups.Log
import DirectoryGroups.Step

namespace DirectoryGroups

/-- What is searched for, where, and which attributes are wanted of it. -/
structure Query where
  base : String
  filter : String
  attributes : List String := []
  deriving DecidableEq, Repr

/-! ### What happens -/

/-- A request for one page of a search, as it is sent over a connection. -/
structure Request where
  base : String
  filter : String
  /-- How far below the base the search goes: over the whole tree. -/
  scope : String := "SUBTREE"
  attributes : List String
  sizeLimit : Int
  timeLimit : Int
  /-- How many entries a page may hold, if the answer comes in pages. -/
  pageSize : Option Int
  /-- Where the previous page ended, if there was one. -/
  cookie : Option (List UInt8)
  deriving DecidableEq, Repr

/-- What happens within a session. -/
inductive SessionEvent where
  /-- A cursor gave an entry. -/
  | gave (base : String)
  /-- A cursor was closed. -/
  | closed (base : String)
  /-- A request was sent over the connection. -/
  | requested (request : Request)
  /-- The answer to a request was fetched. -/
  | fetched (id : Int)
  | logged (event : SessionLog)
  deriving DecidableEq, Repr

/-- What happens when a session is used. -/
inductive Happening where
  /-- A search was asked for. -/
  | searched (query : Query)
  | session (event : SessionEvent)
  /-- A resolver was asked who a user is. -/
  | asked (username : String)
  | logged (event : LookupLog)
  deriving DecidableEq, Repr

/-- The step that logs an event. -/
def Step.log {σ : Type} (event : LookupLog) : Step σ Happening Unit :=
  Step.tell (.logged event)

/-! ### Sessions -/

/-- A session over directory states `σ`, with cursors in states `κ`. -/
structure Session (σ κ : Type) where
  search : Query → Step σ SessionEvent κ
  /-- The next entry, or nothing at the end. -/
  next : Step (κ × σ) SessionEvent (Option Entry)
  /-- Ends a cursor that its reader is done with. -/
  close : Step (κ × σ) SessionEvent Unit
  /-- Lets go of a cursor that nobody refers to any more. -/
  release : Step (κ × σ) SessionEvent Unit
  /-- How many entries a cursor can still give at most. -/
  remaining : κ × σ → Nat
  remaining_next : ∀ w entry, (next w).result = .ok (some entry) →
    remaining (next w).state < remaining w

namespace Session

variable {σ κ α : Type}

/-- Asks for a search. -/
def ask (session : Session σ κ) (query : Query) : Step σ Happening κ := do
  Step.tell (.searched query)
  (session.search query).relay .session

/-- Reads a cursor to its end: reads each entry, and tells of what was read. -/
def forEach (session : Session σ κ) (read : Entry → Except Failure α)
    (report : α → List Happening) (w : κ × σ) : Outcome (κ × σ) Happening (List α) :=
  match _h : session.next w with
  | ⟨.error failure, w', trace⟩ => ⟨.error failure, w', trace.map .session⟩
  | ⟨.ok none, w', trace⟩ => ⟨.ok [], w', trace.map .session⟩
  | ⟨.ok (some entry), w', trace⟩ =>
    match read entry with
    | .error failure => ⟨.error failure, w', trace.map .session⟩
    | .ok a =>
      let rest := session.forEach read report w'
      ⟨rest.result.map (a :: ·), rest.state, trace.map .session ++ report a ++ rest.trace⟩
termination_by session.remaining w
decreasing_by simpa [_h] using session.remaining_next w entry (by rw [_h])

section forEach

variable {session : Session σ κ} {read : Entry → Except Failure α} {report : α → List Happening}
  {w w' : κ × σ} {trace : List SessionEvent}

/-- A cursor that fails ends the loop. -/
theorem forEach_of_error {failure : Failure} (h : session.next w = ⟨.error failure, w', trace⟩) :
    session.forEach read report w = ⟨.error failure, w', trace.map .session⟩ := by
  rw [forEach]
  split <;> simp_all

/-- So does one that has no more entries. -/
theorem forEach_of_none (h : session.next w = ⟨.ok none, w', trace⟩) :
    session.forEach read report w = ⟨.ok [], w', trace.map .session⟩ := by
  rw [forEach]
  split <;> simp_all

/-- So does an entry that cannot be read. -/
theorem forEach_of_unreadable {entry : Entry} {failure : Failure}
    (h : session.next w = ⟨.ok (some entry), w', trace⟩) (hread : read entry = .error failure) :
    session.forEach read report w = ⟨.error failure, w', trace.map .session⟩ := by
  rw [forEach]
  split <;> simp_all

/-- After any other entry the loop goes on. -/
theorem forEach_of_some {entry : Entry} {a : α}
    (h : session.next w = ⟨.ok (some entry), w', trace⟩) (hread : read entry = .ok a) :
    session.forEach read report w
      = ⟨(session.forEach read report w').result.map (a :: ·),
          (session.forEach read report w').state,
          trace.map .session ++ report a ++ (session.forEach read report w').trace⟩ := by
  rw [forEach]
  split <;> simp_all

end forEach

/-- Uses a cursor, and closes it however that ends. -/
def withCursor (session : Session σ κ) (query : Query) (x : Step (κ × σ) Happening α) :
    Step σ Happening α := do
  let cursor ← session.ask query
  Step.holding cursor (Step.ensuring x (session.close.relay .session))

/-- The first entry of a search, if there is one. -/
def first (session : Session σ κ) (query : Query) : Step σ Happening (Option Entry) :=
  session.withCursor query (session.next.relay .session)

/-- All entries of a search, each read and told of. -/
def all (session : Session σ κ) (query : Query) (read : Entry → Except Failure α)
    (report : α → List Happening) : Step σ Happening (List α) :=
  session.withCursor query (session.forEach read report)

end Session

end DirectoryGroups
