/-
DirectoryGroups/Name/Error.lean

Why a text is no distinguished name, and why a name cannot be used.
-/
import DirectoryGroups.Text.Quoted

namespace DirectoryGroups

/-- The fault that makes a text no distinguished name. -/
inductive NameFault where
  /-- There is no component at all. -/
  | noComponents
  | attributeMissing
  /-- The attribute holds a character that no attribute may hold. -/
  | attributeCharacter (c : Char)
  /-- The attribute begins with a digit or a hyphen. -/
  | attributeStart (c : Char)
  /-- The pair has no value; `item` is the whole pair as it was written. -/
  | valueMissing (item : List Char)
  /-- The value begins with the mark of the hexadecimal form, which is refused. -/
  | hexadecimalForm
  /-- The character is special and stands in the value without a backslash. -/
  | unescaped (c : Char)
  /-- The character may not follow a backslash where it does. -/
  | badEscape (c : Char)
  /-- The value ends within an escape. -/
  | unfinishedEscape
  deriving DecidableEq, Repr

/-- The wording of a fault. -/
def NameFault.message : NameFault → String
  | noComponents => "empty dn"
  | attributeMissing => "attribute type not present"
  | attributeCharacter c => "character '" ++ c.toString ++ "' not allowed in attribute type"
  | attributeStart c =>
    "character '" ++ c.toString ++ "' not allowed as first character of attribute type"
  | valueMissing item => "unable to validate attribute value in " ++ .ofList item
  | hexadecimalForm => "character # not allowed in hex representation of attribute value"
  | unescaped c => "special character " ++ c.toString ++ " must be escaped"
  | badEscape c => "invalid escaped character " ++ c.toString
  | unfinishedEscape => "invalid final character"

/-- What is wrong with a name. -/
inductive NameError where
  /-- The text, or its absence, is no distinguished name. -/
  | invalid (written : Option String) (fault : NameFault)
  /-- A name without components has no most specific one. -/
  | noLeaf
  /-- A component needs a pair. -/
  | noPairs
  deriving DecidableEq, Repr

/-- A text in quotes, or the word for its absence. -/
def quotedOrNone : Option String → String
  | some s => .ofList (Text.quoted s.toList)
  | none => "None"

/-- The wording of an error about a name. -/
def NameError.message : NameError → String
  | invalid written fault =>
    "Invalid distinguished name " ++ quotedOrNone written ++ ": " ++ fault.message
  | noLeaf => "Empty distinguished name has no leaf component"
  | noPairs => "Length of 'pairs' must be >= 1: 0"

end DirectoryGroups
