/-
DirectoryGroups/Client.lean

A client that keeps several cursors open on one session.

Cursors are kept under names.  A search under a name that is in use lets go of
the cursor kept there, once the new one is made.  A name that is not in use
stands for a cursor that has ended.
-/
import DirectoryGroups.Lookup.Service

namespace DirectoryGroups

/-- A bound service, a directory and the cursors that are kept. -/
structure Client (σ κ : Type) where
  world : World σ
  cursors : List (String × κ) := []

namespace Client

variable {σ κ α : Type}

/-- Does something to the world alone. -/
def onWorld (x : Step (World σ) Event α) : Step (Client σ κ) Event α := fun client =>
  let done := x client.world
  ⟨done.result, { client with world := done.state }, done.trace⟩

/-- Does something with the session. -/
def perform (x : Step σ Happening α) : Step (Client σ κ) Event α :=
  onWorld (World.perform x)

/-- Keeps a cursor under a name. -/
def keep (name : String) (cursor : κ) : Step (Client σ κ) Event Unit := fun client =>
  let others := client.cursors.filter fun kept => kept.1 != name
  ⟨.ok (), { client with cursors := (name, cursor) :: others }, []⟩

/-- Does something with the cursor kept under a name, if there is one. -/
def withCursor (name : String) (absent : α) (x : Step (κ × σ) Happening α) :
    Step (Client σ κ) Event α := fun client =>
  match client.cursors.lookup name with
  | none => ⟨.ok absent, client, []⟩
  | some cursor =>
    let done := x (cursor, client.world.directory)
    let cursors := client.cursors.map fun kept =>
      if kept.1 = name then (name, done.state.1) else kept
    ⟨done.result, ⟨{ client.world with directory := done.state.2 }, cursors⟩,
      done.trace.map (Event.mk client.world.service)⟩

/-- Begins a search and keeps its cursor under a name. -/
def search (session : Session σ κ) (name : String) (query : Query) :
    Step (Client σ κ) Event Unit := do
  let cursor ← perform (session.ask query)
  withCursor name () (session.release.relay .session)
  keep name cursor

/-- The next entry of a cursor. -/
def next (session : Session σ κ) (name : String) : Step (Client σ κ) Event (Option Entry) :=
  withCursor name none (session.next.relay .session)

/-- What is read of each remaining entry of a cursor. -/
def forEach (session : Session σ κ) (name : String) (read : Entry → Except Failure α) :
    Step (Client σ κ) Event (List α) :=
  withCursor name [] (session.forEach read fun _ => [])

/-- All remaining entries of a cursor. -/
def drain (session : Session σ κ) (name : String) : Step (Client σ κ) Event (List Entry) :=
  forEach session name .ok

/-- The values of an attribute of each remaining entry of a cursor. -/
def values (session : Session σ κ) (name attr : String) :
    Step (Client σ κ) Event (List (Option (List String))) :=
  forEach session name fun entry => entry.read attr

/-- Closes a cursor. -/
def close (session : Session σ κ) (name : String) : Step (Client σ κ) Event Unit :=
  withCursor name () (session.close.relay .session)

end Client

end DirectoryGroups
