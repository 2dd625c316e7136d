/-
DirectoryGroups/Lookup/Basic.lean

Finding users and the groups they belong to.

A username is resolved to a distinguished name, by search or by a resolver that
the caller supplies.  A search tries the configured places in order and takes the
first entry of the first place that has one.  The groups of a name are then
collected from every place searched for groups, in order: all values of the name
attribute, of every entry that passes the membership filter.  A name may come up
more than once.  Whatever fails ends the lookup, and no names are kept.
-/
import DirectoryGroups.Filter.Membership
import DirectoryGroups.Session.Basic

namespace DirectoryGroups

/-- The step that ends as a lookup rule did. -/
def Step.ofLookup {σ τ α : Type} (result : Except LookupError α) : Step σ τ α :=
  Step.ofExcept (result.mapError .lookup)

namespace Session

variable {σ κ : Type}

/-! ### Users -/

/-- The name of an entry that was found for a user. -/
def entryName (username : String) (entry : Entry) : Except LookupError DistinguishedName :=
  (DistinguishedName.parse entry.dn).mapError (.badName username entry.dn)

theorem entryName_of_error {username : String} {entry : Entry} {error : NameError}
    (h : DistinguishedName.parse entry.dn = .error error) :
    entryName username entry = .error (.badName username entry.dn error) := by
  rw [entryName, h]
  rfl

theorem entryName_of_ok {username : String} {entry : Entry} {dn : DistinguishedName}
    (h : DistinguishedName.parse entry.dn = .ok dn) : entryName username entry = .ok dn := by
  rw [entryName, h]
  rfl

/-- The name of the user that a filter finds, from the first of the bases that has
an entry for it. -/
def findUser (session : Session σ κ) (username filter : String) :
    List String → Step σ Happening (Option DistinguishedName)
  | [] => pure none
  | base :: rest => do
    match ← session.first { base, filter } with
    | none => session.findUser username filter rest
    | some entry =>
      let dn ← Step.ofLookup (entryName username entry)
      Step.log (.userResolved username (toString dn))
      pure (some dn)

/-- The name of the user with a username.  The empty username belongs to
nobody. -/
def resolve (session : Session σ κ) (config : Config) (username : String) :
    Step σ Happening (Option DistinguishedName) :=
  if username.isEmpty then pure none
  else do
    match ← session.findUser username (config.userFilterFor username) config.userBases with
    | some dn => pure (some dn)
    | none =>
      Step.log (.userNotFound username config.userBases)
      pure none

/-! ### Groups -/

/-- The values of an attribute of every entry that a filter finds below a base. -/
def valuesBelow (session : Session σ κ) (filter attr base : String) :
    Step σ Happening (List String) := do
  let values ← session.all { base, filter, attributes := [attr] }
    (fun entry => (entry.read attr).map (·.getD []))
    (fun names => names.map fun name => .logged (.groupFound name base))
  pure values.flatten

/-- The values below each of some bases, in order. -/
def valuesBelowAll (session : Session σ κ) (filter attr : String) :
    List String → Step σ Happening (List String)
  | [] => pure []
  | base :: rest => do
    let names ← session.valuesBelow filter attr base
    let more ← session.valuesBelowAll filter attr rest
    pure (names ++ more)

/-- Collects the values of an attribute below all bases. -/
def collect (session : Session σ κ) (bases : List String) (filter attr : String) :
    Step σ Happening (List String) := do
  Step.log (.collecting bases filter attr)
  session.valuesBelowAll filter attr bases

/-- The groups that a name belongs to. -/
def groupsOf (session : Session σ κ) (config : Config) (dn : DistinguishedName) :
    Step σ Happening (List String) := do
  let filter ← Step.ofExcept (config.membershipFilter dn)
  if !config.listsIdentifiers then Step.log (.nameEscaped dn.filterText)
  Step.log (.readingGroups config.membershipAttribute)
  session.collect config.groupBases filter config.groupNameAttribute

end Session

/-! ### Resolvers -/

/-- How usernames are resolved. -/
inductive Resolver (σ : Type) where
  /-- By searching the session. -/
  | search
  /-- By asking someone else. -/
  | supplied (answer : String → Config → Step σ SessionEvent (Option DistinguishedName))

/-- Resolves a username. -/
def Resolver.resolve {σ κ : Type} (session : Session σ κ) (config : Config)
    (username : String) : Resolver σ → Step σ Happening (Option DistinguishedName)
  | search => session.resolve config username
  | supplied answer => do
    Step.tell (.asked username)
    (answer username config).relay .session

/-- The groups of the user with a username.  Nobody belongs to no group. -/
def Session.groups {σ κ : Type} (session : Session σ κ) (config : Config)
    (username : String) (resolver : Resolver σ) : Step σ Happening (List String) := do
  let _ ← Step.ofLookup config.requiredMembership
  match ← resolver.resolve session config username with
  | none =>
    Step.log (.nobody username)
    pure []
  | some dn => session.groupsOf config dn

end DirectoryGroups
