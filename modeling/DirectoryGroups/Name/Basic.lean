/-
DirectoryGroups/Name/Basic.lean

Distinguished names: what they are made of, how they are written, and the bare
value of the entry they name.

A distinguished name is a list of components, the most specific first.  A
component is one or more attribute/value pairs, kept in the order they were
written, with the values in written form.  One pair of a component is its
primary pair: the first of those with the least key, where the key is the
attribute in upper case and then the value in lower case.  So a component with
several pairs has one value, which does not hang on their order unless two
values differ in case or spelling alone.
-/
import DirectoryGroups.Name.Escape
import DirectoryGroups.Text.Case

namespace DirectoryGroups

/-! ### Attribute/value pairs -/

/-- An attribute and its value in written form. -/
structure TypedValue where
  attr : String
  value : String
  deriving DecidableEq, Repr

namespace TypedValue

/-- The written form of a pair. -/
def text (p : TypedValue) : List Char :=
  p.attr.toList ++ '=' :: p.value.toList

/-- The value itself, with its escapes resolved. -/
def bareValue (p : TypedValue) : String :=
  Name.unescape p.value

/-- What pairs of one component are ranked by. -/
def key (p : TypedValue) : List Char × List Char :=
  (Text.upper p.attr.toList, Text.lower (Name.unescapeChars p.value.toList))

/-- Whether a pair ranks strictly before another: by its attribute, then by its
value, each compared by code points. -/
def before (p q : TypedValue) : Bool :=
  p.key.1 < q.key.1 || (p.key.1 == q.key.1 && p.key.2 < q.key.2)

/-- The first pair of least key among `best` and the pairs that follow it. -/
def least (best : TypedValue) : List TypedValue → TypedValue
  | [] => best
  | p :: rest => if p.before best then p.least rest else best.least rest

end TypedValue

/-! ### Components -/

/-- One component of a distinguished name. -/
structure RelativeName where
  pairs : List TypedValue
  nonempty : pairs ≠ []
  deriving DecidableEq

namespace RelativeName

/-- The component with one pair. -/
def single (p : TypedValue) : RelativeName :=
  ⟨[p], by simp⟩

/-- The component with one more pair in front. -/
def cons (p : TypedValue) (r : RelativeName) : RelativeName :=
  ⟨p :: r.pairs, by simp⟩

/-- The pair a component is known by. -/
def primary (r : RelativeName) : TypedValue :=
  match r.pairs, r.nonempty with
  | p :: rest, _ => p.least rest

/-- The value of the primary pair, with its escapes resolved. -/
def bareValue (r : RelativeName) : String :=
  r.primary.bareValue

/-- The written form of a component. -/
def text (r : RelativeName) : List Char :=
  ['+'].intercalate (r.pairs.map TypedValue.text)

instance : ToString RelativeName where
  toString r := .ofList r.text

end RelativeName

/-! ### Distinguished names -/

/-- A distinguished name, its most specific component first. -/
structure DistinguishedName where
  components : List RelativeName
  deriving DecidableEq

namespace DistinguishedName

/-- The number of components. -/
def size (dn : DistinguishedName) : Nat :=
  dn.components.length

/-- The most specific component. -/
def leaf? (dn : DistinguishedName) : Option RelativeName :=
  dn.components.head?

/-- The written form of a name. -/
def text (dn : DistinguishedName) : List Char :=
  [','].intercalate (dn.components.map RelativeName.text)

instance : ToString DistinguishedName where
  toString dn := .ofList dn.text

end DistinguishedName

end DirectoryGroups
