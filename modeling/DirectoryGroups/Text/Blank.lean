/-
DirectoryGroups/Text/Blank.lean

Blank characters, and a text without the blanks at its two ends.

The class is the wide one: besides the space and the ASCII controls that
separate lines, fields and records it holds the Unicode separators.  Characters
of no width (the zero-width space, the byte-order mark) are not blank.
-/
namespace DirectoryGroups.Text

/-- A character that trimming removes. -/
def isBlank (c : Char) : Bool :=
  let n := c.toNat
  (9 ≤ n && n ≤ 13) || (28 ≤ n && n ≤ 32) || n == 0x85 || n == 0xA0 || n == 0x1680
    || (0x2000 ≤ n && n ≤ 0x200A) || n == 0x2028 || n == 0x2029 || n == 0x202F
    || n == 0x205F || n == 0x3000

/-- The text without its trailing blanks. -/
def trimEnd (s : List Char) : List Char :=
  (s.reverse.dropWhile isBlank).reverse

/-- The text without the blanks at either end. -/
def trim (s : List Char) : List Char :=
  trimEnd (s.dropWhile isBlank)

end DirectoryGroups.Text
