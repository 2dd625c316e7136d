/-
DirectoryGroups/Value.lean

Values of unknown kind, as a directory or a settings file delivers them, and
their two texts.

The plain text of a value (`Value.plain`) is what a caller wants to read: a text
is itself, and octets are the text they encode.  The written form
(`Value.written`) shows the kind as well: texts and octets are in quotes.
Collections show the written forms of their members in both.
-/
import DirectoryGroups.Decimal
import DirectoryGroups.Text.Quoted
import DirectoryGroups.Text.Utf8

namespace DirectoryGroups

/-- A value of unknown kind. -/
inductive Value where
  | null
  | flag (b : Bool)
  | int (n : Int)
  | decimal (d : Decimal)
  | text (s : String)
  | octets (bytes : List UInt8)
  /-- A list that may be changed. -/
  | list (items : List Value)
  /-- A list of fixed length. -/
  | tuple (items : List Value)
  /-- Named values, in the order they were given. -/
  | record (fields : List (String × Value))

/-! ### Kinds -/

/-- What a value is. -/
inductive Kind where
  | null | flag | int | decimal | text | octets | list | tuple | record
  deriving DecidableEq, Repr

/-- The word by which messages call a kind. -/
def Kind.name : Kind → String
  | null => "NoneType"
  | flag => "bool"
  | int => "int"
  | decimal => "float"
  | text => "str"
  | octets => "bytes"
  | list => "list"
  | tuple => "tuple"
  | record => "dict"

/-- The kind of a value. -/
def Value.kind : Value → Kind
  | null => .null
  | flag _ => .flag
  | int _ => .int
  | decimal _ => .decimal
  | text _ => .text
  | octets _ => .octets
  | list _ => .list
  | tuple _ => .tuple
  | record _ => .record

/-! ### Texts -/

/-- Written forms with commas between them. -/
def commaSeparated (items : List (List Char)) : List Char :=
  [',', ' '].intercalate items

mutual

/-- The written form of a value. -/
def Value.written : Value → List Char
  | .null => "None".toList
  | .flag true => "True".toList
  | .flag false => "False".toList
  | .int n => (toString n).toList
  | .decimal d => d.text
  | .text s => Text.quoted s.toList
  | .octets bytes => Text.quotedOctets bytes
  | .list items => '[' :: commaSeparated (Value.writtenItems items) ++ [']']
  | .tuple [item] => '(' :: item.written ++ [',', ')']
  | .tuple items => '(' :: commaSeparated (Value.writtenItems items) ++ [')']
  | .record fields => '\x7b' :: commaSeparated (Value.writtenFields fields) ++ ['\x7d']

/-- The written forms of the members of a collection. -/
def Value.writtenItems : List Value → List (List Char)
  | [] => []
  | item :: rest => item.written :: Value.writtenItems rest

/-- The written forms of named values. -/
def Value.writtenFields : List (String × Value) → List (List Char)
  | [] => []
  | (name, value) :: rest =>
    (Text.quoted name.toList ++ ':' :: ' ' :: value.written) :: Value.writtenFields rest

end

/-- The plain text of a value. -/
def Value.plain : Value → String
  | .text s => s
  | .octets bytes => .ofList (Utf8.decode bytes)
  | value => .ofList value.written

end DirectoryGroups
