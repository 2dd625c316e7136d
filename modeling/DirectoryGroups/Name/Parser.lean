/-
DirectoryGroups/Name/Parser.lean

Reading distinguished names.

Each piece of the text is split at its first equals sign, both halves are
trimmed, the attribute and the value are checked, and the pairs are grouped:
a plus sign keeps the next pair in the component, anything else ends it.  The
first fault, from left to right, is the one reported; of one pair the attribute
comes before the value.
-/
import DirectoryGroups.Name.Basic
import DirectoryGroups.Name.Error
import DirectoryGroups.Name.Pieces
import DirectoryGroups.Text.Blank

namespace DirectoryGroups.Name

/-! ### Attributes -/

/-- Whether an attribute may hold the character. -/
def isAttributeChar (c : Char) : Bool :=
  c.isAlphanum || c == '-'

/-- The attribute that is accepted although it holds a special character: it
begins the name by which an entry is found by its identifier. -/
def guidAttribute : List Char :=
  ['<', 'G', 'U', 'I', 'D']

/-- Finds the fault of an attribute, if there is one. -/
def checkAttribute (s : List Char) : Except NameFault Unit :=
  match s with
  | [] => .error .attributeMissing
  | c :: _ =>
    if s = guidAttribute then .ok ()
    else
      match s.find? (!isAttributeChar ·) with
      | some d => .error (.attributeCharacter d)
      | none => if c.isDigit ∨ c = '-' then .error (.attributeStart c) else .ok ()

/-! ### Values -/

/-- The characters that stand in a value only after a backslash. -/
def isSpecial (c : Char) : Bool :=
  ['"', '#', '+', ',', ';', '<', '=', '>', '\x00'].contains c

/-- The characters other than hexadecimal digits that a backslash may stand
before. -/
def isEscapable (c : Char) : Bool :=
  c == ' ' || c == '\\' || isSpecial c

/-- Where the check of a value stands. -/
inductive EscapeState where
  | outside
  /-- A backslash was read. -/
  | opened
  /-- A backslash and one hexadecimal digit were read. -/
  | halfway
  deriving DecidableEq, Repr

/-- Finds the fault of the rest of a value, if there is one. -/
def checkEscapes : EscapeState → List Char → Except NameFault Unit
  | .outside, [] => .ok ()
  | _, [] => .error .unfinishedEscape
  | .outside, c :: rest =>
    if c = '\\' then checkEscapes .opened rest
    else if isSpecial c then .error (.unescaped c)
    else checkEscapes .outside rest
  | .opened, c :: rest =>
    if Hex.isDigit c then checkEscapes .halfway rest
    else if isEscapable c then checkEscapes .outside rest
    else .error (.badEscape c)
  | .halfway, c :: rest =>
    if Hex.isDigit c then checkEscapes .outside rest else .error (.badEscape c)

/-- Finds the fault of a value, if there is one; `item` is the pair it came
from. -/
def checkValue (item : List Char) : List Char → Except NameFault Unit
  | [] => .error (.valueMissing item)
  | c :: rest =>
    if c = '#' then .error .hexadecimalForm else checkEscapes .outside (c :: rest)

/-! ### Pairs -/

/-- Splits after a character `previous`: at the first equals sign that does not
follow a backslash. -/
def splitAfter (previous : Char) : List Char → Option (List Char × List Char)
  | [] => none
  | c :: rest =>
    if c = '=' ∧ previous ≠ '\\' then some ([], rest)
    else (splitAfter c rest).map fun halves => (c :: halves.1, halves.2)

/-- The two halves of a pair.  A text that begins with an equals sign has
none. -/
def split : List Char → Option (List Char × List Char)
  | [] => none
  | c :: rest =>
    if c = '=' then none
    else (splitAfter c rest).map fun halves => (c :: halves.1, halves.2)

/-- The pair that a piece is written for. -/
def readPair (item : List Char) : Except NameFault TypedValue :=
  match split item with
  | none => .error .attributeMissing
  | some (left, right) => do
    checkAttribute (Text.trim left)
    checkValue item (Text.trim right)
    pure ⟨.ofList (Text.trim left), .ofList (Text.trim right)⟩

/-- A pair and what follows it. -/
structure JoinedPair where
  pair : TypedValue
  joint : Joint
  deriving DecidableEq, Repr

/-- The pairs of a text, in the order they are written. -/
def readPairs (s : List Char) : Except NameFault (List JoinedPair) := do
  let pairs ← (pieces s).mapM fun p => do
    return ⟨← readPair p.text, p.joint⟩
  if pairs.isEmpty then throw .noComponents
  pure pairs

/-! ### Components -/

/-- The components that joined pairs make up. -/
def group : List JoinedPair → List RelativeName
  | [] => []
  | p :: rest =>
    match p.joint, group rest with
    | .plus, r :: more => r.cons p.pair :: more
    | _, more => .single p.pair :: more

end DirectoryGroups.Name

namespace DirectoryGroups

/-- The component with these pairs. -/
def RelativeName.ofPairs (pairs : List TypedValue) : Except NameError RelativeName :=
  if h : pairs ≠ [] then .ok ⟨pairs, h⟩ else .error .noPairs

namespace DistinguishedName

/-- The name with these components, each given by its pairs. -/
def ofPairs (components : List (List TypedValue)) : Except NameError DistinguishedName :=
  (components.mapM RelativeName.ofPairs).map DistinguishedName.mk

open Name in
/-- Reads a distinguished name; where there is no text, there are no components
either. -/
def parse (written : Option String) : Except NameError DistinguishedName :=
  match readPairs (written.getD "").toList with
  | .ok pairs => .ok ⟨group pairs⟩
  | .error fault => .error (.invalid written fault)

/-- The bare value of the entry a name stands for. -/
def leafValue (dn : DistinguishedName) : Except NameError String :=
  match dn.leaf? with
  | some r => .ok r.bareValue
  | none => .error .noLeaf

end DistinguishedName

/-! ### Sources -/

/-- A name as it is handed over: in writing, or in its parts. -/
inductive NameSource where
  | written (text : Option String)
  | parts (components : List (List TypedValue))
  deriving DecidableEq, Repr

/-- The name that is handed over.  The parts are taken as they are. -/
def NameSource.name : NameSource → Except NameError DistinguishedName
  | written text => DistinguishedName.parse text
  | parts components => DistinguishedName.ofPairs components

end DirectoryGroups
