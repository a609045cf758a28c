/-!
# Decimal numerals

The digits of a number, the number of a run of digits, and the one numeral grammar that
configuration variables use: an optional plus sign, then digits, with a value up to a limit.

`value_digits` says that digits read back as the number they were written for.
-/

namespace ReverseReplication.Text.Decimal

/-- Is `c` one of the ten ASCII digits? -/
def isDigit (c : Char) : Bool := '0' ≤ c && c ≤ '9'

/-- The digits of `n`, most significant first, with no leading zero. -/
def digits (n : Nat) : List Char := Nat.toDigits 10 n

/-- The number that a run of digits denotes; leading zeros are free. -/
def value (cs : List Char) : Nat := Nat.ofDigitChars 10 cs 0

/-- Reading the digits of a number gives the number back. -/
theorem value_digits (n : Nat) : value (digits n) = n :=
  Nat.ofDigitChars_toDigits (by decide) (by decide)

/-- A whole number, with a minus sign where it is negative. -/
def ofInt (n : Int) : List Char :=
  if n < 0 then '-' :: digits n.natAbs else digits n.natAbs

/-- The digits of `n`, led by zeros up to `width` places. -/
def padded (width n : Nat) : List Char :=
  let ds := digits n
  List.replicate (width - ds.length) '0' ++ ds

/-- Reads an unsigned numeral of value at most `limit`: an optional plus sign and at least one
digit. A minus sign is never accepted, not even before zero. -/
def unsigned? (limit : Nat) (cs : List Char) : Option Nat :=
  let ds := match cs with
    | '+' :: rest => rest
    | _ => cs
  if ds ≠ [] ∧ ds.all isDigit ∧ value ds ≤ limit then some (value ds) else none

end ReverseReplication.Text.Decimal
