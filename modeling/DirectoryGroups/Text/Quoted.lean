/-
DirectoryGroups/Text/Quoted.lean

Texts and octets in quotes, the way messages show them.

The quotes are single; a text that holds a single quote and no double one is put
in double quotes.  A backslash and the enclosing quote are written after a
backslash, tab, line feed and carriage return as a backslash and a letter, and
every other character that cannot be shown by its code point, in the shortest of
three widths.
-/
import DirectoryGroups.Text.Case
import DirectoryGroups.Text.Hex
import DirectoryGroups.Text.PrintableTable

namespace DirectoryGroups.Text

/-- Whether a character can be shown as it is. -/
def isPrintable (c : Char) : Bool :=
  if c.toNat < 0x80 then 0x20 ≤ c.toNat && c.toNat < 0x7F
  else !inRanges unprintableRanges c.toNat

/-- The quote that encloses a text. -/
def quoteFor (s : List Char) : Char :=
  if s.contains '\x27' && !s.contains '"' then '"' else '\x27'

/-- A character by its code point. -/
def numbered (n : Nat) : List Char :=
  if n ≤ 0xFF then '\\' :: 'x' :: Hex.padded 2 n
  else if n ≤ 0xFFFF then '\\' :: 'u' :: Hex.padded 4 n
  else '\\' :: 'U' :: Hex.padded 8 n

/-- A character within the quotes; `shown` says whether it may be written as it
is. -/
def quotedChar (shown : Char → Bool) (quote c : Char) : List Char :=
  if c = quote ∨ c = '\\' then ['\\', c]
  else if c = '\t' then ['\\', 't']
  else if c = '\n' then ['\\', 'n']
  else if c = '\r' then ['\\', 'r']
  else if shown c then [c]
  else numbered c.toNat

/-- A text in quotes. -/
def quoted (s : List Char) : List Char :=
  let quote := quoteFor s
  quote :: s.flatMap (quotedChar isPrintable quote) ++ [quote]

/-- Octets in quotes, after the letter that marks them: the printable ASCII ones
as characters, the others by their value. -/
def quotedOctets (octets : List UInt8) : List Char :=
  let s := octets.map fun octet => Char.ofNat octet.toNat
  let quote := quoteFor s
  let shown := fun c : Char => c.toNat < 0x80 && isPrintable c
  'b' :: quote :: s.flatMap (quotedChar shown quote) ++ [quote]

end DirectoryGroups.Text
