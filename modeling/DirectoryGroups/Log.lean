/-
DirectoryGroups/Log.lean

What is logged.  Sessions and lookups have log events of their own; either kind
is shown as a record with a level, a name and named fields.
-/
import DirectoryGroups.Failure

namespace DirectoryGroups

/-! ### Records -/

/-- How much a record matters. -/
inductive LogLevel where
  | debug | info | warning
  deriving DecidableEq, Repr

/-- The word for a level. -/
def LogLevel.name : LogLevel → String
  | debug => "debug"
  | info => "info"
  | warning => "warning"

/-- The value of a field. -/
inductive LogValue where
  | null
  | text (s : String)
  | int (n : Int)
  | texts (items : List String)
  deriving DecidableEq, Repr

/-- A text that may be missing. -/
def LogValue.ofText? : Option String → LogValue
  | some s => text s
  | none => null

/-- A number that may be missing. -/
def LogValue.ofInt? : Option Int → LogValue
  | some n => int n
  | none => null

/-- A log event as it is shown. -/
structure LogRecord where
  level : LogLevel
  name : String
  fields : List (String × LogValue)
  deriving DecidableEq, Repr

/-! ### Sessions -/

/-- What a session logs. -/
inductive SessionLog where
  /-- A paged search begins. -/
  | searching (base filter : String) (attributes : List String) (pageSize : Int)
  /-- A paged search goes on to its next page. -/
  | nextPage (base : String)
  deriving DecidableEq, Repr

/-- How a session's log event is shown. -/
def SessionLog.record : SessionLog → LogRecord
  | searching base filter attributes pageSize =>
    ⟨.debug, "ldap_search",
      [("search_base", .text base), ("search_filter", .text filter),
       ("attributes", .texts attributes), ("page_size", .int pageSize)]⟩
  | nextPage base => ⟨.debug, "ldap_search_next_page", [("search_base", .text base)]⟩

/-! ### Lookups -/

/-- What a lookup logs. -/
inductive LookupLog where
  /-- Attribute values are about to be collected. -/
  | collecting (bases : List String) (filter attr : String)
  /-- A value was collected. -/
  | groupFound (group base : String)
  /-- A name was escaped for a filter. -/
  | nameEscaped (text : String)
  /-- The groups of a user are about to be searched. -/
  | readingGroups (attr : Option String)
  /-- A username was found to belong to an entry. -/
  | userResolved (username dn : String)
  /-- No place searched for users has an entry for a username. -/
  | userNotFound (username : String) (bases : List String)
  /-- A lookup ends without groups, as the username means nobody. -/
  | nobody (username : String)
  /-- A lookup ended with an error. -/
  | failed (username : String) (error : LookupError)
  /-- A lookup ended with this many groups. -/
  | complete (username : String) (count : Nat)
  deriving DecidableEq, Repr

/-- How a lookup's log event is shown. -/
def LookupLog.record : LookupLog → LogRecord
  | collecting bases filter attr =>
    ⟨.debug, "collect_attribute_values",
      [("search_bases", .texts bases), ("search_filter", .text filter),
       ("attribute", .text attr)]⟩
  | groupFound group base =>
    ⟨.debug, "group_found", [("group", .text group), ("search_base", .text base)]⟩
  | nameEscaped text => ⟨.debug, "escaped_dn_for_filter", [("escaped_dn", .text text)]⟩
  | readingGroups attr =>
    ⟨.debug, "reading_groups", [("membership_attribute", .ofText? attr)]⟩
  | userResolved username dn =>
    ⟨.debug, "user_resolved", [("username", .text username), ("dn", .text dn)]⟩
  | userNotFound username bases =>
    ⟨.debug, "user_not_found", [("username", .text username), ("search_bases", .texts bases)]⟩
  | nobody username => ⟨.debug, "no_identity_for_user", [("username", .text username)]⟩
  | failed username error =>
    ⟨.warning, "get_groups_failed",
      [("username", .text username), ("error_type", .text error.kind.name),
       ("error", .text error.message), ("code", .ofInt? error.code)]⟩
  | complete username count =>
    ⟨.info, "get_groups_complete", [("username", .text username), ("group_count", .int count)]⟩

end DirectoryGroups
