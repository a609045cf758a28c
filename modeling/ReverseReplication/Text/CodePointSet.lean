/-!
# Sets of code points

A set of characters given by ranges of code points, for the properties of the Unicode Character
Database that are too irregular for a formula. A set is written as words of hexadecimal digits,
`30-39` for a range and `aa` for a single code point, in ascending order.
-/

namespace ReverseReplication.Text

/-- A set of code points, as inclusive ranges in ascending order. -/
structure CodePointSet where
  ranges : Array (Nat × Nat)

namespace CodePointSet

/-- The value of a hexadecimal numeral; a character that is no digit counts as zero. -/
def hexadecimal (digits : List Char) : Nat :=
  digits.foldl (fun n c => 16 * n +
    if c.isDigit then c.toNat - '0'.toNat
    else if 'a' ≤ c ∧ c ≤ 'f' then c.toNat - 'a'.toNat + 10 else 0) 0

/-- The range that a word stands for. -/
def range (word : String) : Nat × Nat :=
  let first := word.toList.takeWhile (· ≠ '-')
  match word.toList.dropWhile (· ≠ '-') with
  | _ :: last => (hexadecimal first, hexadecimal last)
  | [] => (hexadecimal first, hexadecimal first)

/-- The set that lines of words describe. -/
def ofLines (lines : List String) : CodePointSet :=
  ⟨(lines.flatMap fun line => (line.splitOn " ").map range).toArray⟩

/-- Is the code point of `c` in one of the ranges? -/
def contains (s : CodePointSet) (c : Char) : Bool :=
  s.ranges.any fun r => r.1 ≤ c.toNat && c.toNat ≤ r.2

end CodePointSet

end ReverseReplication.Text
