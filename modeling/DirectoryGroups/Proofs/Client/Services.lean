/-
DirectoryGroups/Proofs/Client/Services.lean

The service on whose behalf something is done.

A service is bound for the length of a lookup, and what was bound before comes back however the
lookup ends.  Meanwhile everything is marked with the service: the question that a resolver is
asked, each search, what a cursor gives, and all that is logged.

The marks are all that the service changes.  Steps that are the same but for services come to the
same, with other marks (`Step.Indifferent`).  Steps that are put together from such steps are such
steps again.  So what a lookup reports and what it asks of the directory hangs neither on its
service nor on what was bound before; and the same goes for clients that bind services in between
and keep cursors open from one command to the next (`indifferent_runAll`).

Main result: `service_bound_for_report`.
-/
import DirectoryGroups.Client.Command
import DirectoryGroups.Session.Table
import Mathlib.Data.List.Forall2

namespace DirectoryGroups

/-! ### The same but for services -/

section Steps

variable {ρ α β : Type}

/-- Outcomes that are the same but for services, in states that are, too. -/
structure Outcome.SameButServices (states : ρ → ρ → Prop) (done done' : Outcome ρ Event α) :
    Prop where
  result : done.result = done'.result
  state : states done.state done'.state
  happenings : done.trace.map Event.what = done'.trace.map Event.what

/-- Steps that come to the same, but for services, from states on that are the same but for
services. -/
def Step.Indifferent (states : ρ → ρ → Prop) (x x' : Step ρ Event α) : Prop :=
  ∀ s s', states s s' → (x s).SameButServices states (x' s')

namespace Step.Indifferent

variable {states : ρ → ρ → Prop}

theorem pure (a : α) : Step.Indifferent states (pure a) (pure a) :=
  fun _ _ hs => ⟨rfl, hs, rfl⟩

theorem ofExcept (result : Except Failure α) :
    Step.Indifferent states (Step.ofExcept result) (Step.ofExcept result) :=
  fun _ _ hs => ⟨rfl, hs, rfl⟩

theorem bind {x x' : Step ρ Event α} {f f' : α → Step ρ Event β}
    (hx : Step.Indifferent states x x') (hf : ∀ a, Step.Indifferent states (f a) (f' a)) :
    Step.Indifferent states (x >>= f) (x' >>= f') := by
  intro s s' hs
  obtain ⟨hresult, hstate, hhappenings⟩ := hx s s' hs
  rcases hdone : x s with ⟨result, t, trace⟩
  rcases hdone' : x' s' with ⟨result', t', trace'⟩
  simp only [hdone, hdone'] at hresult hstate hhappenings
  subst hresult
  rcases result with failure | a
  · rw [Step.bind_of_error hdone, Step.bind_of_error hdone']
    exact ⟨rfl, hstate, hhappenings⟩
  · obtain ⟨hrest, hstate', hhappenings'⟩ := hf a t t' hstate
    rw [Step.bind_of_ok hdone, Step.bind_of_ok hdone']
    refine ⟨hrest, hstate', ?_⟩
    rw [List.map_append, List.map_append, hhappenings, hhappenings']

end Step.Indifferent

end Steps

/-! ### Worlds -/

namespace World

variable {σ α : Type}

/-- Worlds with the same directory, whatever service is bound. -/
def SameDirectory (world world' : World σ) : Prop :=
  world.directory = world'.directory

/-- The marks do not change what happened. -/
@[simp] theorem map_what_mark (service : Option String) (trace : List Happening) :
    (trace.map (Event.mk service)).map Event.what = trace := by
  rw [List.map_map]
  exact List.map_id trace

/-- Everything is marked with what is bound. -/
theorem service_of_mem_perform {x : Step σ Happening α} {world : World σ} {event : Event}
    (h : event ∈ (perform x world).trace) : event.service = world.service := by
  obtain ⟨_, -, rfl⟩ := List.mem_map.mp h
  rfl

theorem indifferent_perform (x : Step σ Happening α) :
    Step.Indifferent SameDirectory (perform x) (perform x) := by
  intro world world' hworld
  have hdone : x world.directory = x world'.directory := congrArg x hworld
  refine ⟨?_, ?_, ?_⟩
  · simp only [perform, hdone]
  · simp only [perform, SameDirectory, hdone]
  · simp only [perform, map_what_mark, hdone]

theorem indifferent_under {x x' : Step (World σ) Event α}
    (hx : Step.Indifferent SameDirectory x x') (service service' : String) :
    Step.Indifferent SameDirectory (under service x) (under service' x') := by
  intro world world' hworld
  obtain ⟨hresult, hstate, hhappenings⟩ := hx { world with service := some service }
    { world' with service := some service' } hworld
  exact ⟨hresult, hstate, hhappenings⟩

theorem indifferent_bind (service service' : String) :
    Step.Indifferent SameDirectory (World.bind service : Step (World σ) Event Unit)
      (World.bind service') :=
  fun _ _ hworld => ⟨rfl, hworld, rfl⟩

theorem indifferent_change (f : σ → σ) :
    Step.Indifferent SameDirectory (World.change f) (World.change f) :=
  fun _ _ hworld => ⟨rfl, congrArg f hworld, rfl⟩

end World

/-- **Lookups on behalf of different services** come to the same. -/
theorem indifferent_report {σ κ : Type} (session : Session σ κ) (config : Config)
    (username : String) (resolver : Resolver σ) (service service' : String) :
    Step.Indifferent World.SameDirectory
      (Endpoint.groups { session, config, service } username resolver)
      (Endpoint.groups { session, config, service := service' } username resolver) :=
  World.indifferent_under (World.indifferent_perform _) service service'

/-! ### Clients -/

/-- Commands that are the same but for the services that they bind or are done for. -/
inductive Command.SameButServices {σ : Type} : Command σ → Command σ → Prop
  | same (command : Command σ) : Command.SameButServices command command
  | bind (service service' : String) : Command.SameButServices (.bind service) (.bind service')
  | report (settings : Settings) (username : String) (resolver : Resolver σ)
      (service service' : String) :
      Command.SameButServices (.report settings username resolver service)
        (.report settings username resolver service')

namespace Client

variable {σ κ α : Type}

/-- Clients with the same directory and the same cursors, whatever service is bound. -/
structure SameButService (client client' : Client σ κ) : Prop where
  directory : World.SameDirectory client.world client'.world
  cursors : client.cursors = client'.cursors

theorem indifferent_onWorld {x x' : Step (World σ) Event α}
    (hx : Step.Indifferent World.SameDirectory x x') :
    Step.Indifferent SameButService (onWorld x : Step (Client σ κ) Event α) (onWorld x') := by
  intro client client' hclient
  obtain ⟨hresult, hstate, hhappenings⟩ := hx _ _ hclient.directory
  exact ⟨hresult, ⟨hstate, hclient.cursors⟩, hhappenings⟩

theorem indifferent_perform (x : Step σ Happening α) :
    Step.Indifferent SameButService (perform x : Step (Client σ κ) Event α) (perform x) :=
  indifferent_onWorld (World.indifferent_perform x)

theorem indifferent_keep (name : String) (cursor : κ) :
    Step.Indifferent SameButService (keep name cursor : Step (Client σ κ) Event Unit)
      (keep name cursor) := by
  intro client client' hclient
  refine ⟨rfl, ⟨hclient.directory, ?_⟩, rfl⟩
  simp only [keep, hclient.cursors]

theorem indifferent_withCursor (name : String) (absent : α) (x : Step (κ × σ) Happening α) :
    Step.Indifferent SameButService (withCursor name absent x) (withCursor name absent x) := by
  rintro ⟨⟨service, directory⟩, cursors⟩ ⟨⟨service', directory'⟩, cursors'⟩ ⟨hdirectory, hcursors⟩
  obtain rfl : directory = directory' := hdirectory
  obtain rfl : cursors = cursors' := hcursors
  -- Both clients find the same cursor, or both find none.
  rcases hcursor : cursors.lookup name with - | cursor
  · simp only [withCursor, hcursor]
    exact ⟨rfl, ⟨rfl, rfl⟩, rfl⟩
  · simp only [withCursor, hcursor]
    refine ⟨rfl, ⟨rfl, rfl⟩, ?_⟩
    simp only [World.map_what_mark]

theorem indifferent_reply {x x' : Step (Client σ κ) Event α}
    (hx : Step.Indifferent SameButService x x') (wrap : α → Reply) :
    Step.Indifferent SameButService (x >>= fun a => pure (wrap a))
      (x' >>= fun a => pure (wrap a)) :=
  .bind hx fun a => .pure (wrap a)

variable (session : Session σ κ)

theorem indifferent_run_bind (service service' : String) :
    Step.Indifferent SameButService (run session (.bind service)) (run session (.bind service')) :=
  indifferent_reply (indifferent_onWorld (World.indifferent_bind service service')) _

theorem indifferent_run_report (settings : Settings) (username : String) (resolver : Resolver σ)
    (service service' : String) :
    Step.Indifferent SameButService (run session (.report settings username resolver service))
      (run session (.report settings username resolver service')) :=
  .bind (.ofExcept _) fun config => indifferent_reply (indifferent_onWorld
    (indifferent_report session config username resolver service service')) .report

/-- A command does the same for clients that are the same but for services. -/
theorem indifferent_run_self (command : Command σ) :
    Step.Indifferent SameButService (run session command) (run session command) := by
  -- Either a service is bound, or something is done with the directory or with one of the
  -- cursors, and then the service is not looked at.
  cases command with
  | search name query =>
    exact indifferent_reply (.bind (indifferent_perform _) fun cursor =>
      .bind (indifferent_withCursor name () _) fun _ => indifferent_keep name cursor) _
  | next name => exact indifferent_reply (indifferent_withCursor name none _) .entry
  | drain name => exact indifferent_reply (indifferent_withCursor name [] _) .entries
  | values name attr => exact indifferent_reply (indifferent_withCursor name [] _) .values
  | close name => exact indifferent_reply (indifferent_withCursor name () _) _
  | bind service => exact indifferent_run_bind session service service
  | change f => exact indifferent_reply (indifferent_onWorld (World.indifferent_change f)) _
  | collect bases filter attr => exact indifferent_reply (indifferent_perform _) .names
  | groupsOf settings source =>
    exact .bind (.ofExcept _) fun _ => .bind (.ofExcept _) fun _ =>
      indifferent_reply (indifferent_perform _) .names
  | resolve settings username =>
    exact .bind (.ofExcept _) fun _ => indifferent_reply (indifferent_perform _) .user
  | groups settings username resolver =>
    exact .bind (.ofExcept _) fun _ => indifferent_reply (indifferent_perform _) .names
  | report settings username resolver service =>
    exact indifferent_run_report session settings username resolver service service

/-- **Commands that are the same but for services** do the same. -/
theorem indifferent_run {command command' : Command σ} (h : command.SameButServices command') :
    Step.Indifferent SameButService (run session command) (run session command') := by
  -- Only bound services and those of reports can differ.
  cases h with
  | same => exact indifferent_run_self session command
  | bind service service' => exact indifferent_run_bind session service service'
  | report settings username resolver service service' =>
    exact indifferent_run_report session settings username resolver service service'

/-- **Going through such commands** comes to the same, command by command. -/
theorem indifferent_runAll {commands commands' : List (Command σ)}
    (h : List.Forall₂ Command.SameButServices commands commands') {client client' : Client σ κ}
    (hclient : SameButService client client') :
    List.Forall₂ (Outcome.SameButServices SameButService) (runAll session commands client)
      (runAll session commands' client') := by
  induction h generalizing client client' with
  | nil => exact .nil
  | cons hcommand _ ih =>
    have hrun := indifferent_run session hcommand client client' hclient
    exact .cons hrun (ih hrun.state)

end Client

/-! ### Reports -/

/-- **The service of a report** is bound for the length of the lookup, and matters for nothing else.

Let a lookup be done on behalf of a service, whichever session, configuration and resolver it has
and however it ends: with names or none, with an error that is reported, or with a failure that
gets out.  What was bound before is bound afterwards, and everything that happens meanwhile is
marked with the service, be its name empty or not.  With another service, and with something else
bound before, the result is the same, and so is all that happens, but for the marks.

So it is for clients that bind services in between, go through other commands and keep cursors
open: whatever services are bound and whatever service each lookup is done for, the replies are the
same, and so is what happens. -/
theorem service_bound_for_report {σ κ : Type} (session : Session σ κ) :
    (∀ config service username (resolver : Resolver σ) (world : World σ),
        let done := Endpoint.groups { session, config, service } username resolver world
        done.state.service = world.service ∧ ∀ event ∈ done.trace, event.service = some service)
      ∧ (∀ config service service' username (resolver : Resolver σ) earlier earlier' directory,
        let done := Endpoint.groups { session, config, service } username resolver
          ⟨earlier, directory⟩
        let done' := Endpoint.groups { session, config, service := service' } username resolver
          ⟨earlier', directory⟩
        done.result = done'.result ∧ done.state.directory = done'.state.directory
          ∧ done.trace.map Event.what = done'.trace.map Event.what)
      ∧ ∀ commands commands' (client client' : Client σ κ),
        List.Forall₂ Command.SameButServices commands commands' →
        Client.SameButService client client' →
        List.Forall₂ (Outcome.SameButServices Client.SameButService)
          (Client.runAll session commands client) (Client.runAll session commands' client') := by
  refine ⟨?_, ?_, ?_⟩
  · -- What was bound is put back however the lookup ended.
    intro config service username resolver world done
    exact ⟨rfl, fun event hevent => World.service_of_mem_perform hevent⟩
  · intro config service service' username resolver earlier earlier' directory done done'
    obtain ⟨hresult, hstate, hhappenings⟩ :=
      indifferent_report session config username resolver service service' ⟨earlier, directory⟩
        ⟨earlier', directory⟩ rfl
    exact ⟨hresult, hstate, hhappenings⟩
  · intro commands commands' client client' h hclient
    exact Client.indifferent_runAll session h hclient

/-- A cursor that fails while groups are read, and fails again when it is closed, under a service
without a name, after the caller has bound one of its own. -/
theorem service_bound_for_broken_report :
    let broken : Failure := .foreign "RuntimeError" "boom"
    let table : AnswerTable :=
      [("o=users", { entries := [{ dn := some "uid=ada,o=x" }] }),
        ("o=a", { form := .closable, failure := some broken, closeFailure := some broken })]
    let config : Config :=
      { groupBases := ["o=a"], groupFilter := "(objectClass=groupOfNames)",
        groupNameAttribute := "cn", membershipAttribute := some "member",
        userBases := ["o=users"], userFilter := "(uid=?)" }
    let done := Endpoint.groups { session := AnswerTable.session, config, service := "" } "ada"
      .search ⟨some "portal", table⟩
    let commands (bound service : String) : List (Command AnswerTable) :=
      [.search "c" { base := "o=users", filter := "(uid=*)" }, .bind bound,
        .report [] "ada" .search service, .next "c"]
    done.state.service = some "portal" ∧ (∀ event ∈ done.trace, event.service = some "")
      ∧ ⟨some "", .session (.closed "o=a")⟩ ∈ done.trace
      ∧ List.Forall₂ Command.SameButServices (commands "portal" "") (commands "wiki" "mail")
      ∧ List.Forall₂ (Outcome.SameButServices Client.SameButService)
        (Client.runAll AnswerTable.session (commands "portal" "") { world := ⟨none, table⟩ })
        (Client.runAll AnswerTable.session (commands "wiki" "mail")
          { world := ⟨some "old", table⟩ }) := by
  intro broken table config done commands
  obtain ⟨hbound, -, hcommands⟩ := service_bound_for_report AnswerTable.session
  obtain ⟨hrestored, hmarked⟩ := hbound config "" "ada" .search ⟨some "portal", table⟩
  have hsame : List.Forall₂ Command.SameButServices (commands "portal" "")
      (commands "wiki" "mail") :=
    .cons (.same _) <| .cons (.bind _ _) <| .cons (.report _ _ _ _ _) <| .cons (.same _) .nil
  exact ⟨hrestored, hmarked, by decide +kernel, hsame, hcommands _ _ _ _ hsame ⟨rfl, rfl⟩⟩

end DirectoryGroups
