/-
DirectoryGroups/Client/Command.lean

What a client can be told to do, and what it answers.

A command carries what it needs as it comes from outside: settings that are not
yet a configuration, and names that are not yet read.  What is wrong with them is
the command's failure; the configuration is made first.  A client goes through
its commands one by one, and a command that fails does not keep the next one from
being run.
-/
import DirectoryGroups.Client

namespace DirectoryGroups

/-- Named values from which a configuration is made. -/
abbrev Settings := List (String × Value)

/-- Something a client is told to do. -/
inductive Command (σ : Type) where
  | search (name : String) (query : Query)
  | next (name : String)
  | drain (name : String)
  | values (name attr : String)
  | close (name : String)
  /-- Binds a service. -/
  | bind (service : String)
  /-- Something happens to the directory itself. -/
  | change (f : σ → σ)
  | collect (bases : List String) (filter attr : String)
  | groupsOf (settings : Settings) (source : NameSource)
  | resolve (settings : Settings) (username : String)
  | groups (settings : Settings) (username : String) (resolver : Resolver σ)
  /-- Looks up groups on behalf of a service. -/
  | report (settings : Settings) (username : String) (resolver : Resolver σ)
      (service : String := "")

/-- What a client answers. -/
inductive Reply where
  | done
  | entry (entry : Option Entry)
  | entries (entries : List Entry)
  | values (values : List (Option (List String)))
  | names (names : List String)
  | user (dn : Option DistinguishedName)
  | report (report : Report)

namespace Client

variable {σ κ : Type}

/-- The configuration that settings describe. -/
def configure {σ τ : Type} (settings : Settings) : Step σ τ Config :=
  Step.ofExcept ((Config.ofPairs settings).mapError .config)

/-- Does what a command says. -/
def run (session : Session σ κ) : Command σ → Step (Client σ κ) Event Reply
  | .search name query => do
    search session name query
    pure .done
  | .next name => do
    let entry ← next session name
    pure (.entry entry)
  | .drain name => do
    let entries ← drain session name
    pure (.entries entries)
  | .values name attr => do
    let found ← values session name attr
    pure (.values found)
  | .close name => do
    close session name
    pure .done
  | .bind service => do
    onWorld (World.bind service)
    pure .done
  | .change f => do
    onWorld (World.change f)
    pure .done
  | .collect bases filter attr => do
    let names ← perform (session.collect bases filter attr)
    pure (.names names)
  | .groupsOf settings source => do
    let config ← configure settings
    let dn ← Step.ofExcept (source.name.mapError .name)
    let names ← perform (session.groupsOf config dn)
    pure (.names names)
  | .resolve settings username => do
    let config ← configure settings
    let dn ← perform (session.resolve config username)
    pure (.user dn)
  | .groups settings username resolver => do
    let config ← configure settings
    let names ← perform (session.groups config username resolver)
    pure (.names names)
  | .report settings username resolver service => do
    let config ← configure settings
    let report ← onWorld (Endpoint.groups { session, config, service } username resolver)
    pure (.report report)

/-- Goes through some commands, each in the state that the one before left. -/
def runAll (session : Session σ κ) :
    List (Command σ) → Client σ κ → List (Outcome (Client σ κ) Event Reply)
  | [], _ => []
  | command :: rest, client =>
    let done := run session command client
    done :: runAll session rest done.state

end Client

end DirectoryGroups
