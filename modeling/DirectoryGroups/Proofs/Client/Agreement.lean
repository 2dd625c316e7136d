/-
DirectoryGroups/Proofs/Client/Agreement.lean

Clients of a session on directories that it cannot tell apart.

Two clients that keep the same cursors and go through the same commands, each on its own
directory, get the same replies and send the same requests, command by command, if the
calls of the session agree from related states on and nothing else tells the directories
apart (`Command.Impartial`).  A command that fails on the one side fails on the other, and
the next one finds the clients related again.

Main result: `agree_runAll`.
-/
import DirectoryGroups.Client.Command
import DirectoryGroups.Proofs.Lookup.Agreement
import Mathlib.Data.List.Forall2

namespace DirectoryGroups

/-- Replies that are the same but for errors that are akin. -/
inductive Reply.Akin (akin : LookupError → LookupError → Prop) : Reply → Reply → Prop
  | same (reply : Reply) : Reply.Akin akin reply reply
  | report {report report' : Report} :
      Report.Akin akin report report' → Reply.Akin akin (.report report) (.report report')

/-- A command that does not tell related states of the directory apart by other means than
the session. -/
def Command.Impartial {σ : Type} (akin : LookupError → LookupError → Prop)
    (states : σ → σ → Prop) : Command σ → Prop
  | change f => ∀ s s', states s s' → states (f s) (f s')
  | groups _ _ resolver => resolver.Impartial akin states
  | report _ _ resolver _ => resolver.Impartial akin states
  | _ => True

namespace Client

variable {σ κ α : Type}

/-- Clients with the same service and the same cursors. -/
def Related (states : σ → σ → Prop) (client client' : Client σ κ) : Prop :=
  World.Related states client.world client'.world ∧ client.cursors = client'.cursors

variable {akin : LookupError → LookupError → Prop} {states : σ → σ → Prop}
  {values : α → α → Prop}

/-! ### What a client is made of -/

theorem agree_onWorld {x x' : Step (World σ) Event α}
    (hx : Step.Agree akin (World.Related states) values x x') :
    Step.Agree akin (Related states) values (onWorld x : Step (Client σ κ) Event α)
      (onWorld x') := by
  rintro client client' ⟨hworld, hcursors⟩
  obtain ⟨hresult, hstate, hrequests⟩ := hx _ _ hworld
  exact ⟨hresult, ⟨hstate, hcursors⟩, hrequests⟩

theorem agree_perform {x x' : Step σ Happening α} (hx : Step.Agree akin states values x x') :
    Step.Agree akin (Related states) values (perform x : Step (Client σ κ) Event α)
      (perform x') :=
  agree_onWorld (DirectoryGroups.agree_perform hx)

theorem agree_keep (name : String) (cursor : κ) :
    Step.Agree akin (Related states) Eq (keep name cursor : Step (Client σ κ) Event Unit)
      (keep name cursor) := by
  rintro client client' ⟨hworld, hcursors⟩
  refine ⟨.ok rfl, ⟨hworld, ?_⟩, rfl⟩
  simp only [keep, hcursors]

theorem agree_withCursor (name : String) (absent : α) {x x' : Step (κ × σ) Happening α}
    (hx : Step.Agree akin (Held states) Eq x x') :
    Step.Agree akin (Related states) Eq (withCursor name absent x) (withCursor name absent x') := by
  rintro client client' ⟨⟨hservice, hdirectory⟩, hcursors⟩
  -- Either both clients find the same cursor under the name, or neither finds any.
  rcases hcursor : client.cursors.lookup name with - | cursor
  · have hcursor' : client'.cursors.lookup name = none := by rw [← hcursors, hcursor]
    simp only [withCursor, hcursor, hcursor']
    exact ⟨.ok rfl, ⟨⟨hservice, hdirectory⟩, hcursors⟩, rfl⟩
  · have hcursor' : client'.cursors.lookup name = some cursor := by rw [← hcursors, hcursor]
    obtain ⟨hresult, ⟨hheld, hstate⟩, hrequests⟩ :=
      hx (cursor, client.world.directory) (cursor, client'.world.directory) ⟨rfl, hdirectory⟩
    simp only [withCursor, hcursor, hcursor']
    refine ⟨hresult, ⟨⟨hservice, hstate⟩, ?_⟩, ?_⟩
    · rw [hcursors, hheld]
    · rw [requestsIn_event, requestsIn_event, hrequests]

theorem agree_reply {x x' : Step (Client σ κ) Event α} (wrap : α → Reply)
    (hx : Step.Agree akin (Related states) Eq x x') :
    Step.Agree akin (Related states) (Reply.Akin akin) (x >>= fun a => pure (wrap a))
      (x' >>= fun a => pure (wrap a)) := by
  refine .bind hx ?_
  rintro a - rfl
  exact .pure (.same _)

/-! ### Commands -/

variable {session : Session σ κ}

theorem agree_configure (settings : Settings) {f f' : Config → Step (Client σ κ) Event Reply}
    (hf : ∀ config, Step.Agree akin (Related states) (Reply.Akin akin) (f config) (f' config)) :
    Step.Agree akin (Related states) (Reply.Akin akin) (configure settings >>= f)
      (configure settings >>= f') := by
  refine .bind (.ofExcept (.refl _)) ?_
  rintro config - rfl
  exact hf config

/-- **A command** comes to the same on directories that cannot be told apart. -/
theorem agree_run (h : session.Respects akin states) {command : Command σ}
    (himpartial : command.Impartial akin states) :
    Step.Agree akin (Related states) (Reply.Akin akin) (run session command)
      (run session command) := by
  -- Only a change and a resolver can tell the directories apart by themselves; everything else
  -- goes through the session.
  cases command with
  | search name query =>
    refine agree_reply (fun _ => .done) (.bind (agree_perform (session.agree_ask h query)) ?_)
    rintro cursor - rfl
    exact .bind (agree_withCursor name () (Session.agree_relay h.release)) fun _ _ _ =>
      agree_keep name cursor
  | next name => exact agree_reply .entry (agree_withCursor name none (Session.agree_relay h.next))
  | drain name =>
    exact agree_reply .entries (agree_withCursor name [] (Session.agree_forEach h _ _))
  | values name attr =>
    exact agree_reply .values (agree_withCursor name [] (Session.agree_forEach h _ _))
  | close name =>
    exact agree_reply (fun _ => .done) (agree_withCursor name () (Session.agree_relay h.close))
  | bind service =>
    refine agree_reply (fun _ => .done) (agree_onWorld ?_)
    exact fun world world' hworld => ⟨.ok rfl, ⟨rfl, hworld.2⟩, rfl⟩
  | change f =>
    refine agree_reply (fun _ => .done) (agree_onWorld ?_)
    exact fun world world' hworld => ⟨.ok rfl, ⟨hworld.1, himpartial _ _ hworld.2⟩, rfl⟩
  | collect bases filter attr =>
    exact agree_reply .names (agree_perform (Session.agree_collect h bases filter attr))
  | groupsOf settings source =>
    refine agree_configure settings fun config => .bind (.ofExcept (.refl _)) ?_
    rintro dn - rfl
    exact agree_reply .names (agree_perform (Session.agree_groupsOf h config dn))
  | resolve settings username =>
    exact agree_configure settings fun config =>
      agree_reply .user (agree_perform (Session.agree_resolve h config username))
  | groups settings username resolver =>
    exact agree_configure settings fun config =>
      agree_reply .names (agree_perform (Session.agree_groups h config username himpartial))
  | report settings username resolver service =>
    refine agree_configure settings fun config => ?_
    have hreport := agree_report { session, config, service } h username himpartial
    exact .bind (agree_onWorld hreport) fun _ _ hakin => .pure (.report hakin)

/-- **Going through commands** comes to the same, command by command. -/
theorem agree_runAll (h : session.Respects akin states) {commands : List (Command σ)}
    (himpartial : ∀ command ∈ commands, command.Impartial akin states) {client client' : Client σ κ}
    (hrelated : Related states client client') :
    List.Forall₂ (Outcome.Agrees akin (Related states) (Reply.Akin akin))
      (runAll session commands client) (runAll session commands client') := by
  induction commands generalizing client client' with
  | nil => exact .nil
  | cons command commands ih =>
    -- However the command ends, the next one finds the clients related again.
    have hrun := agree_run h (himpartial command List.mem_cons_self) client client' hrelated
    exact .cons hrun (ih (fun other hmem => himpartial other (List.mem_cons_of_mem _ hmem))
      hrun.state)

end Client

end DirectoryGroups
