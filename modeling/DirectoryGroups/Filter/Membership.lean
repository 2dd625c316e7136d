/-
DirectoryGroups/Filter/Membership.lean

The filters of a lookup: the one that finds a user by username, and the one that
finds the groups a user belongs to.

Groups list their members by distinguished name, escaped for the filter, or, in
the one convention that is known by its attribute, by the bare value of the most
specific component, which goes into the filter as it is.
-/
import DirectoryGroups.Failure
import DirectoryGroups.Filter.Escape
import DirectoryGroups.Name.Parser

namespace DirectoryGroups.Config

/-- The filter that finds the user with this name. -/
def userFilterFor (config : Config) (username : String) : String :=
  .ofList (Filter.fill config.userFilter.toList (Filter.escapeUsername username.toList))

/-- The membership attribute, which a lookup of groups cannot do without. -/
def requiredMembership (config : Config) : Except LookupError String :=
  match config.membershipAttribute with
  | none => .error .membershipUnset
  | some s => if s.isEmpty then .error .membershipUnset else .ok s

/-- What a group's membership attribute holds for this user. -/
def memberValue (config : Config) (dn : DistinguishedName) : Except NameError String :=
  if config.listsIdentifiers then dn.leafValue else .ok dn.filterText

/-- The filter that finds the groups of this user. -/
def membershipFilter (config : Config) (dn : DistinguishedName) : Except Failure String := do
  let attr ← config.requiredMembership.mapError Failure.lookup
  let value ← (config.memberValue dn).mapError Failure.name
  pure ("(&" ++ config.groupFilter ++ "(" ++ attr ++ "=" ++ value ++ "))")

end DirectoryGroups.Config
