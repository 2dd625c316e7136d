/-
DirectoryGroups/Config.lean

Where groups and users live in the directory, and how membership is recorded.

A configuration is made from loosely typed values.  A search base may be one text
or a collection of texts; everything else is a text, and the membership
attribute may be missing.  Both search bases are taken apart first, and then
the settings are checked in their own order, so that of several faults always
the same one is reported.
-/
import DirectoryGroups.Value

namespace DirectoryGroups

/-- A checked configuration. -/
structure Config where
  /-- The places searched for groups, in order. -/
  groupBases : List String
  /-- The filter that every group passes. -/
  groupFilter : String
  /-- The attribute that holds a group's name. -/
  groupNameAttribute : String
  /-- The attribute that lists a group's members. -/
  membershipAttribute : Option String
  /-- The places searched for users, in order. -/
  userBases : List String
  /-- The filter for a user, with question marks for the username. -/
  userFilter : String
  deriving DecidableEq, Repr

/-- The membership attribute of groups that list bare user identifiers. -/
def memberUid : String := "memberUid"

/-- Whether members are listed by their bare identifiers and not by their
names. -/
def Config.listsIdentifiers (config : Config) : Bool :=
  config.membershipAttribute == some memberUid

/-! ### Settings -/

/-- The settings a configuration is made from. -/
inductive Setting where
  | groupBases
  | groupFilter
  | groupNameAttribute
  | membershipAttribute
  | userBases
  | userFilter
  deriving DecidableEq, Repr

namespace Setting

/-- All settings, in the order in which they are checked. -/
def all : List Setting :=
  [groupBases, groupFilter, groupNameAttribute, membershipAttribute, userBases, userFilter]

/-- The key of a setting, its words divided by underscores.  Messages use this
spelling. -/
def key : Setting → String
  | groupBases => "group_search_base"
  | groupFilter => "group_name_list_filter"
  | groupNameAttribute => "group_name_attribute"
  | membershipAttribute => "membership_attribute"
  | userBases => "user_search_base"
  | userFilter => "user_name_search_filter"

/-- The key of a setting, its words set off by capitals. -/
def capitalKey : Setting → String
  | groupBases => "groupSearchBase"
  | groupFilter => "groupNameListFilter"
  | groupNameAttribute => "groupNameAttribute"
  | membershipAttribute => "membershipAttribute"
  | userBases => "userSearchBase"
  | userFilter => "userNameSearchFilter"

/-- The setting that a key means, in either spelling. -/
def ofKey? (key : String) : Option Setting :=
  all.find? fun setting => key == setting.key || key == setting.capitalKey

end Setting

/-! ### Faults -/

/-- Why settings make no configuration. -/
inductive ConfigError where
  /-- A search base is of a kind that has no members. -/
  | noCollection (kind : Kind)
  /-- A value that has to be a text is none. -/
  | noText (setting : Setting) (value : Value)

/-- The wording of a fault. -/
def ConfigError.message : ConfigError → String
  | noCollection kind => "'" ++ kind.name ++ "' object is not iterable"
  | noText setting value =>
    "'" ++ setting.key ++ "' must be <class 'str'> (got " ++ .ofList value.written
      ++ " that is a <class '" ++ value.kind.name ++ "'>)."

/-! ### Checking -/

/-- The members of a search base: one text stands for the list of it, and a
missing value for no base at all. -/
def Value.members : Value → Except ConfigError (List Value)
  | .null => .ok []
  | .text s => .ok [.text s]
  | .list items => .ok items
  | .tuple items => .ok items
  | .record fields => .ok (fields.map fun field => .text field.1)
  | .octets bytes => .ok (bytes.map fun byte => .int byte.toNat)
  | .flag _ => .error (.noCollection .flag)
  | .int _ => .error (.noCollection .int)
  | .decimal _ => .error (.noCollection .decimal)

/-- The text that a value has to be. -/
def Value.asText (setting : Setting) : Value → Except ConfigError String
  | .text s => .ok s
  | value => .error (.noText setting value)

/-- The text that a value has to be, unless it is missing. -/
def Value.asOptionalText (setting : Setting) : Value → Except ConfigError (Option String)
  | .null => .ok none
  | value => some <$> value.asText setting

/-- The configuration that gives each setting the value it is given, if any, and
its own default otherwise. -/
def Config.ofValues (given : Setting → Option Value) : Except ConfigError Config := do
  let groupMembers ← ((given .groupBases).getD .null).members
  let userMembers ← ((given .userBases).getD .null).members
  let textOf := fun setting fallback =>
    ((given setting).getD (.text fallback)).asText setting
  let groupBases ← groupMembers.mapM (Value.asText .groupBases)
  let groupFilter ← textOf .groupFilter "(objectClass=groupOfNames)"
  let groupNameAttribute ← textOf .groupNameAttribute "cn"
  let membershipAttribute ←
    ((given .membershipAttribute).getD (.text "member")).asOptionalText .membershipAttribute
  let userBases ← userMembers.mapM (Value.asText .userBases)
  let userFilter ← textOf .userFilter "(&(objectClass=person)(uid=?))"
  pure { groupBases, groupFilter, groupNameAttribute, membershipAttribute, userBases, userFilter }

/-- What is given after one more named value.  A name that means no setting is
passed over. -/
def Setting.assign (given : Setting → Option Value) (pair : String × Value) :
    Setting → Option Value :=
  match ofKey? pair.1 with
  | some setting => fun other => if other = setting then some pair.2 else given other
  | none => given

/-- The configuration that named values describe, where a later one wins over an
earlier one for the same setting. -/
def Config.ofPairs (pairs : List (String × Value)) : Except ConfigError Config :=
  Config.ofValues (pairs.foldl Setting.assign fun _ => none)

end DirectoryGroups
