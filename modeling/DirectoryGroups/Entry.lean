/-
DirectoryGroups/Entry.lean

Entries that a search finds, and the values of their attributes.

The name of an attribute is looked for as it is, and then, if that gives nothing,
without regard to case: the first attribute in the entry's order whose name has
the same lower-case form is taken.  Its values are read as texts; a single value
counts as a list of one.
-/
import DirectoryGroups.Failure
import DirectoryGroups.Value

namespace DirectoryGroups

/-- Named values, in the order the directory gave them. -/
abbrev Attributes := List (String × Value)

namespace Attributes

/-- The value of the attribute with exactly this name, unless it is null. -/
def verbatim? (attributes : Attributes) (name : String) : Option Value :=
  match attributes.lookup name with
  | some .null => none
  | found => found

/-- The value of the first attribute whose name differs from this one in case
alone. -/
def folded? (attributes : Attributes) (name : String) : Option Value :=
  (attributes.find? fun pair =>
    Text.lower pair.1.toList == Text.lower name.toList).map (·.2)

/-- The value of an attribute. -/
def find? (attributes : Attributes) (name : String) : Option Value :=
  (attributes.verbatim? name).or (attributes.folded? name)

end Attributes

/-- The texts of a value's members; a single value is its only member. -/
def Value.texts : Value → List String
  | .list items => items.map Value.plain
  | .tuple items => items.map Value.plain
  | value => [value.plain]

/-- One entry that a search found. -/
structure Entry where
  /-- The entry's distinguished name as the directory wrote it. -/
  dn : Option String
  /-- The attributes, if the directory sent any. -/
  attributes : Option Attributes := none
  /-- Why the values of the entry cannot be read, if they cannot. -/
  unreadable : Option Failure := none

namespace Entry

/-- The values of an attribute, or nothing if the entry has no such
attribute. -/
def values (entry : Entry) (name : String) : Option (List String) :=
  ((entry.attributes.getD []).find? name).map Value.texts

/-- The values of an attribute of an entry that may be unreadable. -/
def read (entry : Entry) (name : String) : Except Failure (Option (List String)) :=
  match entry.unreadable with
  | some failure => .error failure
  | none => .ok (entry.values name)

end Entry

end DirectoryGroups
