/-
DirectoryGroups/Text/Hex.lean

Hexadecimal digits.  They are read in either case and written in lower case;
only the ASCII digits and letters count.
-/
namespace DirectoryGroups.Hex

/-- The value of a hexadecimal digit. -/
def value? (c : Char) : Option Nat :=
  if '0' ≤ c ∧ c ≤ '9' then some (c.toNat - '0'.toNat)
  else if 'a' ≤ c ∧ c ≤ 'f' then some (c.toNat - 'a'.toNat + 10)
  else if 'A' ≤ c ∧ c ≤ 'F' then some (c.toNat - 'A'.toNat + 10)
  else none

/-- Whether the character is a hexadecimal digit. -/
def isDigit (c : Char) : Bool :=
  (value? c).isSome

/-- The octet that two hexadecimal digits name; a character that is none counts
as zero. -/
def octet (high low : Char) : UInt8 :=
  .ofNat (16 * (value? high).getD 0 + (value? low).getD 0)

/-- The digit that stands for a number below sixteen. -/
def digit (n : Nat) : Char :=
  if n < 10 then .ofNat ('0'.toNat + n) else .ofNat ('a'.toNat + (n - 10))

/-- A number written with the given count of digits, the highest first. -/
def padded : (width : Nat) → Nat → List Char
  | 0, _ => []
  | width + 1, n => padded width (n / 16) ++ [digit (n % 16)]

end DirectoryGroups.Hex
