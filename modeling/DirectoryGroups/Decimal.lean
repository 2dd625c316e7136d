/-
DirectoryGroups/Decimal.lean

Decimal fractions and their text.

A number is a count of units, each a power of ten.  Its text shows the digits
that are needed and no more: in positional notation from 10⁻⁴ up to, but not
including, 10¹⁶, with at least one digit on each side of the point, and
otherwise with one digit before the point and an exponent of at least two
digits.
-/
namespace DirectoryGroups

/-- The number `±units · 10 ^ exponent`.  Zero has a sign. -/
structure Decimal where
  negative : Bool
  units : Nat
  exponent : Int
  deriving DecidableEq, Repr

namespace Decimal

/-- The digits of the number without the zeros that end them. -/
def digits (d : Decimal) : List Char :=
  ((Nat.toDigits 10 d.units).reverse.dropWhile (· == '0')).reverse

/-- The place of the point, counted from the first digit. -/
def point (d : Decimal) : Int :=
  (Nat.toDigits 10 d.units).length + d.exponent

/-- Positional notation: the digits with a point at place `point`. -/
def positional (digits : List Char) (point : Int) : List Char :=
  let whole := digits.take point.toNat
  let fraction := digits.drop point.toNat
  let before :=
    if whole.isEmpty then ['0']
    else whole ++ .replicate (point.toNat - digits.length) '0'
  let after :=
    if fraction.isEmpty then ['0'] else .replicate (-point).toNat '0' ++ fraction
  before ++ '.' :: after

/-- Notation with an exponent. -/
def scientific (digits : List Char) (point : Int) : List Char :=
  let power := point - 1
  let size := (Nat.toDigits 10 power.natAbs)
  let mantissa :=
    match digits with
    | [] => ['0']
    | [c] => [c]
    | c :: rest => c :: '.' :: rest
  mantissa ++ 'e' :: (if power < 0 then '-' else '+')
    :: List.replicate (2 - size.length) '0' ++ size

/-- The text of the number. -/
def text (d : Decimal) : List Char :=
  let size :=
    if d.digits.isEmpty then ['0', '.', '0']
    else if -4 < d.point ∧ d.point ≤ 16 then positional d.digits d.point
    else scientific d.digits d.point
  if d.negative then '-' :: size else size

end Decimal

end DirectoryGroups
