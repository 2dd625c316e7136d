/-
DirectoryGroups/Lookup/Service.lean

Lookups on behalf of a service.

A service is bound while it does something, and all that happens meanwhile is
marked with it.  `Endpoint.groups` binds its service for the length of one
lookup, whatever service was bound before comes back afterwards, and reports
what a lookup can report as a value; only failures of other kinds get out.
-/
import DirectoryGroups.Lookup.Basic

namespace DirectoryGroups

/-- A happening and the service that was bound at that moment. -/
structure Event where
  service : Option String
  what : Happening
  deriving DecidableEq, Repr

/-- A directory and the service that is bound. -/
structure World (σ : Type) where
  service : Option String
  directory : σ

namespace World

variable {σ α : Type}

/-- Does something to the directory, under the service that is bound. -/
def perform (x : Step σ Happening α) : Step (World σ) Event α := fun world =>
  let done := x world.directory
  ⟨done.result, { world with directory := done.state }, done.trace.map (Event.mk world.service)⟩

/-- Binds a service, until the next one is bound. -/
def bind (service : String) : Step (World σ) Event Unit := fun world =>
  ⟨.ok (), { world with service := some service }, []⟩

/-- Lets something happen to the directory itself. -/
def change (f : σ → σ) : Step (World σ) Event Unit := fun world =>
  ⟨.ok (), { world with directory := f world.directory }, []⟩

/-- Does something under a service, and then restores what was bound before. -/
def under (service : String) (x : Step (World σ) Event α) : Step (World σ) Event α :=
  fun world =>
    let done := x { world with service := some service }
    { done with state := { done.state with service := world.service } }

end World

/-- Everything that a service needs for its lookups. -/
structure Endpoint (σ κ : Type) where
  session : Session σ κ
  config : Config
  /-- The name of the service. -/
  service : String := ""

/-- What a lookup reports: an error, or the names of at least one group, or that
there is none. -/
abbrev Report := Except LookupError (Option (List String))

/-- Logs how a lookup ended, and reports it. -/
def reportLookup {σ : Type} (username : String) :
    Except Failure (List String) → Step σ Happening Report
  | .ok names => do
    Step.log (.complete username names.length)
    pure (.ok (if names.isEmpty then none else some names))
  | .error (.lookup error) => do
    Step.log (.failed username error)
    pure (.error error)
  | .error failure => Step.fail failure

/-- Looks up the groups of a user on behalf of a service. -/
def Endpoint.groups {σ κ : Type} (endpoint : Endpoint σ κ) (username : String)
    (resolver : Resolver σ) : Step (World σ) Event Report :=
  World.under endpoint.service <| World.perform do
    let result ← (endpoint.session.groups endpoint.config username resolver).attempt
    reportLookup username result

end DirectoryGroups
