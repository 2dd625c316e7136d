/-
DirectoryGroups/Proofs/Client/Interleaving.lean

Several cursors on one connection.

A client goes through its commands one by one, and those for one cursor are mixed with
those for others, with lookups and with whatever else the client does.  All of them use
the one connection.  A command in its place in a run is a turn (`Turn`): the client that
it found, and what came of it.

A command for another cursor leaves this one as it is (`spares_run`), and what a command
for this one does hangs on the pages it is served (`ownTurn_run`).  So the turns of a
cursor can be taken out of a run.

Main result: `Paging.cursor_among_others`.
-/
import DirectoryGroups.Client.Command
import DirectoryGroups.Proofs.Lookup.Report
import DirectoryGroups.Proofs.Paging.Alone

namespace DirectoryGroups

/-! ### Commands and cursors -/

namespace Command

variable {σ : Type}

/-- The name of the cursor that a command is for. -/
def cursor? : Command σ → Option String
  | search name _ => some name
  | next name => some name
  | drain name => some name
  | values name _ => some name
  | close name => some name
  | _ => none

/-- Whether a command is for the cursor under a name. -/
def concerns (name : String) (command : Command σ) : Bool :=
  command.cursor? == some name

/-- Whether a command makes a new cursor under a name. -/
def opens (name : String) : Command σ → Bool
  | search other _ => other == name
  | _ => false

end Command

/-! ### Turns -/

/-- A command in its place in a run. -/
structure Turn (σ κ : Type) where
  command : Command σ
  before : Client σ κ
  done : Outcome (Client σ κ) Event Reply

/-- The requests that are sent in a turn. -/
def Turn.requests {σ κ : Type} (turn : Turn σ κ) : List Request :=
  requestsTold turn.done.trace

/-- The pages that a turn is served: for each of its requests the next of the script. -/
def Turn.pages {κ : Type} (turn : Turn Connection κ) : List Page :=
  firstPages turn.requests.length turn.before.world.directory.script

namespace Client

variable {σ κ α β : Type}

/-- A turn of a client. -/
def turn (session : Session σ κ) (command : Command σ) (client : Client σ κ) : Turn σ κ where
  command := command
  before := client
  done := run session command client

/-- The turns of a run. -/
def turns (session : Session σ κ) : List (Command σ) → Client σ κ → List (Turn σ κ)
  | [], _ => []
  | command :: rest, client =>
    turn session command client :: turns session rest (run session command client).state

theorem map_done_turns (session : Session σ κ) (commands : List (Command σ))
    (client : Client σ κ) :
    (turns session commands client).map Turn.done = runAll session commands client := by
  induction commands generalizing client with
  | nil => rfl
  | cons command commands ih => exact congrArg (_ :: ·) (ih _)

/-! ### The cursors that are kept -/

theorem lookup_update_self {cursors : List (String × κ)} {name : String} {old : κ}
    (h : cursors.lookup name = some old) (new : κ) :
    (cursors.map fun kept => if kept.1 = name then (name, new) else kept).lookup name
      = some new := by
  induction cursors with
  | nil => cases h
  | cons kept cursors ih =>
    rcases kept with ⟨other, cursor⟩
    by_cases hname : other = name
    · simp [hname]
    · rw [List.lookup_cons, beq_false_of_ne (Ne.symm hname)] at h
      rw [List.map_cons, if_neg hname, List.lookup_cons, beq_false_of_ne (Ne.symm hname)]
      exact ih h

theorem lookup_update_ne {name other : String} (h : other ≠ name) (cursors : List (String × κ))
    (new : κ) :
    (cursors.map fun kept => if kept.1 = other then (other, new) else kept).lookup name
      = cursors.lookup name := by
  induction cursors with
  | nil => rfl
  | cons kept cursors ih =>
    rcases kept with ⟨third, cursor⟩
    by_cases hthird : third = other
    · -- This is the cursor that is replaced, and the lookup passes it by.
      rw [List.map_cons, if_pos hthird, List.lookup_cons, List.lookup_cons, hthird,
        beq_false_of_ne (Ne.symm h)]
      exact ih
    · rw [List.map_cons, if_neg hthird, List.lookup_cons, List.lookup_cons, ih]

theorem lookup_filter_ne {name other : String} (h : other ≠ name)
    (cursors : List (String × κ)) :
    (cursors.filter fun kept => kept.1 != other).lookup name = cursors.lookup name := by
  induction cursors with
  | nil => rfl
  | cons kept cursors ih =>
    rcases kept with ⟨third, cursor⟩
    by_cases hthird : third = other
    · rw [List.filter_cons_of_neg (by simp [hthird]), List.lookup_cons, hthird,
        beq_false_of_ne (Ne.symm h)]
      exact ih
    · rw [List.filter_cons_of_pos (by simp [hthird]), List.lookup_cons, List.lookup_cons, ih]

/-! ### Commands for something else -/

/-- Whether a step leaves the cursor under a name as it is, however the step ends. -/
def Spares (name : String) (x : Step (Client σ κ) Event α) : Prop :=
  ∀ client, (x client).state.cursors.lookup name = client.cursors.lookup name

section Spares

variable {name other : String}

theorem spares_pure (a : α) : Spares name (pure a : Step (Client σ κ) Event α) :=
  fun _ => rfl

theorem spares_ofExcept (result : Except Failure α) :
    Spares name (Step.ofExcept result : Step (Client σ κ) Event α) :=
  fun _ => rfl

theorem spares_onWorld (x : Step (World σ) Event α) :
    Spares name (onWorld x : Step (Client σ κ) Event α) :=
  fun _ => rfl

theorem spares_perform (x : Step σ Happening α) :
    Spares name (perform x : Step (Client σ κ) Event α) :=
  spares_onWorld _

theorem Spares.bind {x : Step (Client σ κ) Event α} {f : α → Step (Client σ κ) Event β}
    (h : Spares name x) (h' : ∀ a, Spares name (f a)) : Spares name (x >>= f) := by
  intro client
  -- If the first step fails there is no second one.
  rcases hx : x client with ⟨failure | a, client', trace⟩
  · rw [Step.bind_of_error hx, ← h client, hx]
  · rw [Step.bind_of_ok hx, ← h client, hx]
    exact h' a client'

theorem spares_withCursor (h : other ≠ name) (absent : α) (x : Step (κ × σ) Happening α) :
    Spares name (withCursor other absent x) := by
  intro client
  unfold withCursor
  split
  · rfl
  · exact lookup_update_ne h client.cursors _

theorem spares_keep (h : other ≠ name) (cursor : κ) :
    Spares name (keep other cursor : Step (Client σ κ) Event Unit) := by
  intro client
  rw [keep, List.lookup_cons, beq_false_of_ne (Ne.symm h)]
  exact lookup_filter_ne h client.cursors

/-- **A command for something else leaves a cursor as it is**, whatever comes of it. -/
theorem spares_run (session : Session σ κ) {command : Command σ}
    (h : command.concerns name = false) : Spares name (run session command) := by
  have hother : ∀ {other}, command.cursor? = some other → other ≠ name := by
    rintro other hcursor rfl
    simp [Command.concerns, hcursor] at h
  cases command with
  | search other query =>
    refine .bind (.bind (spares_perform _) fun cursor => ?_) fun _ => spares_pure _
    exact .bind (spares_withCursor (hother rfl) _ _) fun _ => spares_keep (hother rfl) _
  | next other => exact .bind (spares_withCursor (hother rfl) _ _) fun _ => spares_pure _
  | drain other => exact .bind (spares_withCursor (hother rfl) _ _) fun _ => spares_pure _
  | values other attr => exact .bind (spares_withCursor (hother rfl) _ _) fun _ => spares_pure _
  | close other => exact .bind (spares_withCursor (hother rfl) _ _) fun _ => spares_pure _
  | bind service => exact .bind (spares_onWorld _) fun _ => spares_pure _
  | change f => exact .bind (spares_onWorld _) fun _ => spares_pure _
  | collect bases filter attr => exact .bind (spares_perform _) fun _ => spares_pure _
  | groupsOf settings source =>
    refine .bind (spares_ofExcept _) fun config => .bind (spares_ofExcept _) fun dn => ?_
    exact .bind (spares_perform _) fun _ => spares_pure _
  | resolve settings username =>
    exact .bind (spares_ofExcept _) fun config => .bind (spares_perform _) fun _ => spares_pure _
  | groups settings username resolver =>
    exact .bind (spares_ofExcept _) fun config => .bind (spares_perform _) fun _ => spares_pure _
  | report settings username resolver service =>
    exact .bind (spares_ofExcept _) fun config => .bind (spares_onWorld _) fun _ => spares_pure _

theorem lookup_of_mem_turns {session : Session σ κ} {commands : List (Command σ)}
    {client : Client σ κ} {turn : Turn σ κ} (hmem : turn ∈ turns session commands client)
    (h : turn.command.concerns name = false) :
    turn.done.state.cursors.lookup name = turn.before.cursors.lookup name := by
  induction commands generalizing client with
  | nil => cases hmem
  | cons command commands ih =>
    rcases List.mem_cons.mp hmem with rfl | hmem
    · exact spares_run session h client
    · exact ih hmem

end Spares

/-! ### Commands for a cursor -/

/-- A turn that uses a cursor: what comes of it is what comes of the use. -/
theorem turn_of_use {session : Session σ κ} {command : Command σ} {name : String} {absent : α}
    {x : Step (κ × σ) Happening α} {wrap : α → Reply}
    (hrun : run session command = (withCursor name absent x >>= fun a => pure (wrap a)))
    {client : Client σ κ} {cursor : κ} (hcursor : client.cursors.lookup name = some cursor) :
    let turn := Client.turn session command client
    let done := x (cursor, client.world.directory)
    turn.done.result = done.result.map wrap
      ∧ turn.requests = requestsAmong done.trace
      ∧ turn.done.state.cursors.lookup name = some done.state.1
      ∧ turn.done.state.world.directory = done.state.2 := by
  intro turn done
  have hlookup := lookup_update_self hcursor done.state.1
  have htold : requestsTold (done.trace.map (Event.mk client.world.service))
      = requestsAmong done.trace := List.filterMap_map
  have huse : withCursor name absent x client = ⟨done.result,
      ⟨{ client.world with directory := done.state.2 },
        client.cursors.map fun kept => if kept.1 = name then (name, done.state.1) else kept⟩,
      done.trace.map (Event.mk client.world.service)⟩ := by
    simp only [withCursor, hcursor, done]
  have hturn : turn.done = _ := congrFun hrun client
  rw [Turn.requests, hturn]
  -- The reply is wrapped only in a success, but the cursor is put back in either case.
  rcases hresult : done.result with failure | a
  · rw [hresult] at huse
    rw [Step.bind_of_error huse]
    exact ⟨rfl, htold, hlookup, rfl⟩
  · rw [hresult] at huse
    rw [Step.bind_of_ok huse, Step.pure_apply, List.append_nil]
    exact ⟨rfl, htold, hlookup, rfl⟩

end Client

namespace Paging

variable {paging : Paging} {query : Query} {name : String}

/-- A turn of the cursor kept under a name, from where it stands before to where it stands
after.  In another client, served the same pages, the same comes of it. -/
structure OwnTurn (paging : Paging) (query : Query) (name : String) (before : PagedCursor)
    (turn : Turn Connection PagedCursor) (after : PagedCursor) : Prop where
  serves : after.serves query
  kept : turn.done.state.cursors.lookup name = some after
  script : turn.done.state.world.directory.script
    = turn.before.world.directory.script.drop turn.requests.length
  moves : Moves paging query before turn.pages turn.requests after
  alone : ∀ {client : Client Connection PagedCursor} {later},
    client.cursors.lookup name = some before →
    client.world.directory.script = turn.pages ++ later →
    let there := Client.turn paging.session turn.command client
    there.done.result = turn.done.result
      ∧ there.requests = turn.requests
      ∧ there.done.state.cursors.lookup name = some after
      ∧ there.done.state.world.directory.script = later

theorem ownTurn_of_pageUse {α : Type} {command : Command Connection} {absent : α}
    {x : Step (PagedCursor × Connection) Happening α} {wrap : α → Reply}
    (hrun : Client.run paging.session command
      = (Client.withCursor name absent x >>= fun a => pure (wrap a)))
    {client : Client Connection PagedCursor} {before : PagedCursor}
    (hcursor : client.cursors.lookup name = some before)
    (huse : PageUse paging query x (before, client.world.directory)) :
    ∃ after, OwnTurn paging query name before (Client.turn paging.session command client)
      after := by
  obtain ⟨hresult, hrequests, hkept, hdirectory⟩ := Client.turn_of_use hrun hcursor
  refine ⟨_, huse.serves, hkept, ?_, ?_, ?_⟩
  · rw [hdirectory, hrequests]
    exact huse.script
  · rw [Turn.pages, hrequests]
    exact huse.moves
  · -- Another client, which has the same pages ahead of it.
    intro other later hother hscript there
    rw [Turn.pages, hrequests] at hscript
    obtain ⟨hresult', hrequests', hkept', hdirectory'⟩ := Client.turn_of_use hrun hother
    obtain ⟨hsame, hasked, hstands, hlater⟩ := huse.alone hscript
    refine ⟨?_, ?_, ?_, ?_⟩
    · rw [hresult, ← hsame]
      exact hresult'
    · rw [hrequests, ← hasked]
      exact hrequests'
    · rw [← hstands]
      exact hkept'
    · rw [← hlater]
      exact congrArg Connection.script hdirectory'

/-- **A command for a cursor** is a turn of that cursor, if it does not make a new one. -/
theorem ownTurn_run {command : Command Connection} (hconcerns : command.concerns name = true)
    (hopen : command.opens name = false) {client : Client Connection PagedCursor}
    {before : PagedCursor} (hcursor : client.cursors.lookup name = some before)
    (hserves : before.serves query) :
    ∃ after, OwnTurn paging query name before (Client.turn paging.session command client)
      after := by
  have hname : command.cursor? = some name := by
    simpa [Command.concerns] using hconcerns
  cases command with
  | search other query =>
    -- A search would make a new cursor under the name.
    obtain rfl := Option.some.inj hname
    simp [Command.opens] at hopen
  | next other =>
    obtain rfl := Option.some.inj hname
    exact ownTurn_of_pageUse rfl hcursor (pageUse_next hserves)
  | drain other =>
    obtain rfl := Option.some.inj hname
    exact ownTurn_of_pageUse rfl hcursor (pageUse_forEach (fun _ => rfl) hserves)
  | values other attr =>
    obtain rfl := Option.some.inj hname
    exact ownTurn_of_pageUse rfl hcursor (pageUse_forEach (fun _ => rfl) hserves)
  | close other =>
    obtain rfl := Option.some.inj hname
    exact ownTurn_of_pageUse rfl hcursor (pageUse_close _)
  | _ => cases hname

/-! ### The turns of a cursor -/

/-- Turns of a cursor, each from where the one before has left it. -/
inductive OwnTurns (paging : Paging) (query : Query) (name : String) :
    PagedCursor → List (Turn Connection PagedCursor) → PagedCursor → Prop
  | nil (cursor : PagedCursor) : OwnTurns paging query name cursor [] cursor
  | cons {before middle after : PagedCursor} {turn : Turn Connection PagedCursor}
      {rest : List (Turn Connection PagedCursor)} :
      OwnTurn paging query name before turn middle →
      OwnTurns paging query name middle rest after →
      OwnTurns paging query name before (turn :: rest) after

/-- The turns of a run that are for a cursor. -/
theorem ownTurns_of_run {commands : List (Command Connection)}
    (hopen : ∀ command ∈ commands, command.opens name = false)
    {client : Client Connection PagedCursor} {cursor : PagedCursor}
    (hcursor : client.cursors.lookup name = some cursor) (hserves : cursor.serves query) :
    ∃ after, OwnTurns paging query name cursor
      ((Client.turns paging.session commands client).filter (·.command.concerns name)) after := by
  induction commands generalizing client cursor with
  | nil => exact ⟨cursor, .nil cursor⟩
  | cons command commands ih =>
    have hrest : ∀ command ∈ commands, command.opens name = false :=
      fun command hmem => hopen command (List.mem_cons_of_mem _ hmem)
    by_cases hconcerns : command.concerns name = true
    · -- The turns after this one start from where it leaves the cursor.
      obtain ⟨middle, hturn⟩ :=
        ownTurn_run hconcerns (hopen command List.mem_cons_self) hcursor hserves
      obtain ⟨after, hturns⟩ := ih hrest hturn.kept hturn.serves
      refine ⟨after, ?_⟩
      simp only [Client.turns, Client.turn, List.filter_cons, hconcerns, if_true]
      exact .cons hturn hturns
    · -- A turn for something else is dropped, and the cursor stays as it was.
      rw [Bool.not_eq_true] at hconcerns
      simp only [Client.turns, Client.turn, List.filter_cons, hconcerns, Bool.false_eq_true,
        if_false]
      exact ih hrest ((Client.spares_run paging.session hconcerns client).trans hcursor) hserves

namespace OwnTurns

variable {before after : PagedCursor} {own : List (Turn Connection PagedCursor)}

/-- The cursor moves on over the pages of its turns. -/
theorem moves (h : OwnTurns paging query name before own after) :
    Moves paging query before (own.flatMap Turn.pages) (own.flatMap Turn.requests) after := by
  induction h with
  | nil cursor => exact .refl cursor
  | cons hturn _ ih =>
    rw [List.flatMap_cons, List.flatMap_cons]
    exact hturn.moves.trans ih

/-- Each turn uses up its pages. -/
theorem script (h : OwnTurns paging query name before own after) {turn}
    (hmem : turn ∈ own) : turn.done.state.world.directory.script
      = turn.before.world.directory.script.drop turn.requests.length := by
  induction h with
  | nil => cases hmem
  | cons hturn _ ih =>
    rcases List.mem_cons.mp hmem with rfl | hmem
    · exact hturn.script
    · exact ih hmem

/-- The same commands, one after another, on a connection that serves only the pages of
these turns. -/
theorem alone (h : OwnTurns paging query name before own after)
    {client : Client Connection PagedCursor} (hcursor : client.cursors.lookup name = some before)
    (hscript : client.world.directory.script = own.flatMap Turn.pages) :
    let there := Client.turns paging.session (own.map Turn.command) client
    there.map (·.done.result) = own.map (·.done.result)
      ∧ there.map Turn.requests = own.map Turn.requests := by
  induction h generalizing client with
  | nil => exact ⟨rfl, rfl⟩
  | cons hturn _ ih =>
    obtain ⟨hresult, hrequests, hkept, hlater⟩ := hturn.alone hcursor hscript
    obtain ⟨hresults, hrequested⟩ := ih hkept hlater
    exact ⟨congrArg₂ List.cons hresult hresults, congrArg₂ List.cons hrequests hrequested⟩

theorem length_requests (own : List (Turn Connection PagedCursor)) :
    (own.flatMap Turn.requests).length = (own.flatMap Turn.pages).length := by
  simp [List.length_flatMap, Turn.pages, length_firstPages]

end OwnTurns

/-- A search sends nothing, and keeps a new cursor under its name. -/
theorem run_search (paging : Paging) (name : String) (query : Query)
    (client : Client Connection PagedCursor) :
    let opened := (Client.run paging.session (.search name query) client).state
    opened.cursors.lookup name = some (.fresh query) ∧ opened.world = client.world := by
  intro opened
  have hask : Client.perform (paging.session.ask query) client
      = ⟨.ok (.fresh query), client, [⟨client.world.service, .searched query⟩]⟩ := rfl
  -- Letting go of a cursor that was kept under the name does nothing to the world.
  obtain ⟨released, trace, hrelease, hworld⟩ : ∃ released trace,
      Client.withCursor name () (paging.session.release.relay .session) client
        = ⟨.ok (), released, trace⟩ ∧ released.world = client.world := by
    unfold Client.withCursor
    split <;> exact ⟨_, _, rfl, rfl⟩
  obtain ⟨told, hsearch⟩ : ∃ told, Client.search paging.session name query client
      = ⟨.ok (), (Client.keep name (.fresh query) released).state, told⟩ := by
    rw [Client.search, Step.bind_of_ok hask, Step.bind_of_ok hrelease]
    exact ⟨_, rfl⟩
  have hopened : opened = (Client.keep name (.fresh query) released).state := by
    simp only [opened, Client.run]
    rw [Step.bind_of_ok hsearch, Step.pure_apply]
  rw [hopened]
  exact ⟨by simp [Client.keep], hworld⟩

/-- **A cursor among others does what it would do alone.**

A client makes a cursor and then goes through some commands, in any order: for this cursor
and for any others, which all share the connection, or for anything else; but no other
cursor is made under the name of this one.  Let `own` be the turns of this cursor, and
`pages` those that were served to them, for each request the next of the script.  If only
this cursor is made, on a connection that serves just `pages`, then `own` is as it was: the
same replies and failures, and the same requests.  Each request but the first carries the
cookie of the page of `own` before it.  And a turn of another cursor, whether it ends in a
failure or closes that cursor, leaves this one as it found it. -/
theorem cursor_among_others (paging : Paging) (client : Client Connection PagedCursor)
    (name : String) (query : Query) (commands : List (Command Connection))
    (hopen : ∀ command ∈ commands, command.opens name = false) :
    let opened := fun client => (Client.run paging.session (.search name query) client).state
    let turns := Client.turns paging.session commands (opened client)
    let own := turns.filter (·.command.concerns name)
    let pages := own.flatMap Turn.pages
    let single : Client Connection PagedCursor :=
      { world := { service := none, directory := { script := pages } } }
    let alone := Client.turns paging.session (own.map Turn.command) (opened single)
    turns.map Turn.done = Client.runAll paging.session commands (opened client)
      ∧ (∀ turn ∈ own, turn.done.state.world.directory.script
        = turn.before.world.directory.script.drop turn.requests.length)
      ∧ alone.map (·.done.result) = own.map (·.done.result)
      ∧ alone.map Turn.requests = own.map Turn.requests
      ∧ own.flatMap Turn.requests
        = ((none :: pages.map Page.cookie).take pages.length).map (paging.request query)
      ∧ ∀ turn ∈ turns, turn.command.concerns name = false →
        turn.done.state.cursors.lookup name = turn.before.cursors.lookup name := by
  intro opened turns own pages single alone
  obtain ⟨hcursor, -⟩ := run_search paging name query client
  obtain ⟨hsingle, hworld⟩ := run_search paging name query single
  obtain ⟨after, hown⟩ := ownTurns_of_run hopen hcursor
    (show (PagedCursor.fresh query).serves query from rfl)
  obtain ⟨hresults, hrequests⟩ := hown.alone hsingle (by rw [hworld])
  exact ⟨Client.map_done_turns _ _ _, fun turn => hown.script, hresults, hrequests,
    hown.moves.requests_eq (OwnTurns.length_requests own),
    fun turn => Client.lookup_of_mem_turns⟩

/-- The cursor under "a" has two pages, the second of them late.  The one under "b" is
refused its only page while "a" waits between its two, and "c" is closed within its page. -/
theorem cursor_among_failing_others :
    let item (dn : String) : Item := { kind := some "searchResEntry", dn := some dn }
    let page (names : List String) (cookie : List UInt8) : Page :=
      { answer :=
          { items := some (names.map item)
            result := some { controls := [(SearchResult.pagedControl, some cookie)] } } }
    let refused : Page := { answer := { result := some { code := some 51 } } }
    let late : Page := { page ["cn=3"] [] with delivery := .deferred 7 }
    let client : Client Connection PagedCursor :=
      { world := { service := none, directory := { script := [
          page ["cn=1", "cn=2"] [1], page ["cn=x", "cn=y"] [9], refused, late, refused] } } }
    let query : Query := { base := "ou=a", filter := "(cn=*)" }
    let commands : List (Command Connection) :=
      [.search "b" { base := "ou=b", filter := "(cn=*)" }, .next "a",
        .search "c" { base := "ou=c", filter := "(cn=*)" }, .next "c", .next "a", .next "b",
        .drain "a", .close "c", .next "a", .next "b", .close "a"]
    let paging : Paging := {}
    (∀ command ∈ commands, command.opens "a" = false)
      ∧ let opened := fun client => (Client.run paging.session (.search "a" query) client).state
        let turns := Client.turns paging.session commands (opened client)
        let own := turns.filter (·.command.concerns "a")
        let pages := own.flatMap Turn.pages
        let single : Client Connection PagedCursor :=
          { world := { service := none, directory := { script := pages } } }
        let alone := Client.turns paging.session (own.map Turn.command) (opened single)
        turns.map Turn.done = Client.runAll paging.session commands (opened client)
          ∧ (own.flatMap Turn.requests).map Request.cookie = [none, some [1]]
          ∧ alone.map (·.done.result) = own.map (·.done.result)
          ∧ alone.map Turn.requests = own.map Turn.requests
          ∧ ∀ turn ∈ turns, turn.command.concerns "a" = false →
            turn.done.state.cursors.lookup "a" = turn.before.cursors.lookup "a" := by
  intro item page refused late client query commands paging
  have hopen : ∀ command ∈ commands, command.opens "a" = false := by
    decide +kernel
  obtain ⟨hruns, -, hresults, hrequests, -, hspared⟩ :=
    cursor_among_others paging client "a" query commands hopen
  exact ⟨hopen, hruns, by decide +kernel, hresults, hrequests, hspared⟩

end Paging

end DirectoryGroups
