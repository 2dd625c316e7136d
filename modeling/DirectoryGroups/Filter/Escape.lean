/-
DirectoryGroups/Filter/Escape.lean

Texts made safe for search filters.

Two escapings are used.  A username is escaped in full: no character of it keeps
a meaning in the filter.  The written form of a name is escaped less: the
characters that could end an assertion are replaced, and so is a star that the
name itself escapes, but a bare star stays the wildcard it is.  In both, a
character is replaced by a backslash and the two digits of its code.
-/
import DirectoryGroups.Name.Basic

namespace DirectoryGroups.Filter

/-! ### Usernames -/

/-- A character of a username in a filter. -/
def escapeFully (c : Char) : List Char :=
  if c = '\\' then ['\\', '5', 'c']
  else if c = '*' then ['\\', '2', 'a']
  else if c = '(' then ['\\', '2', '8']
  else if c = ')' then ['\\', '2', '9']
  else if c = '\x00' then ['\\', '0', '0']
  else [c]

/-- A username in a filter. -/
def escapeUsername (s : List Char) : List Char :=
  s.flatMap escapeFully

/-- A filter template with a text in place of each question mark. -/
def fill (template value : List Char) : List Char :=
  template.flatMap fun c => if c = '?' then value else [c]

/-! ### Names -/

/-- A single character of a written name in a filter. -/
def escapeChar (c : Char) : List Char :=
  if c = '\\' then ['\\', '5', 'c']
  else if c = '(' then ['\\', '2', '8']
  else if c = ')' then ['\\', '2', '9']
  else if c = '\x00' then ['\\', '0', '0']
  else [c]

/-- A written name in a filter.  A backslash and the star after it are one
escaped star. -/
def escapeChars : List Char → List Char
  | [] => []
  | [c] => escapeChar c
  | c :: d :: rest =>
    if c = '\\' ∧ d = '*' then '\\' :: '2' :: 'a' :: escapeChars rest
    else escapeChar c ++ escapeChars (d :: rest)

/-- A written name in a filter. -/
def escape (s : String) : String :=
  .ofList (escapeChars s.toList)

end DirectoryGroups.Filter

namespace DirectoryGroups.DistinguishedName

/-- The name in a filter: each component escaped on its own, then joined. -/
def filterText (dn : DistinguishedName) : String :=
  .ofList ([','].intercalate (dn.components.map fun r => Filter.escapeChars r.text))

end DirectoryGroups.DistinguishedName
