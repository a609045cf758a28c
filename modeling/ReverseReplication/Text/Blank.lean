/-!
# Blank characters

The characters of the Unicode property `White_Space`, and cutting them off the ends of a text.
-/

namespace ReverseReplication.Text

/-- Has `c` the Unicode property `White_Space`? -/
def isBlank (c : Char) : Bool :=
  let n := c.toNat
  (0x9 ≤ n && n ≤ 0xd) || n == 0x20 || n == 0x85 || n == 0xa0 || n == 0x1680
    || (0x2000 ≤ n && n ≤ 0x200a) || n == 0x2028 || n == 0x2029 || n == 0x202f
    || n == 0x205f || n == 0x3000

/-- Cuts the blanks off the front. -/
def trimStart (cs : List Char) : List Char := cs.dropWhile isBlank

/-- Cuts the blanks off the end. -/
def trimEnd (cs : List Char) : List Char := (cs.reverse.dropWhile isBlank).reverse

/-- Cuts the blanks off both ends. -/
def trim (cs : List Char) : List Char := trimEnd (trimStart cs)

/-- Does a text hold nothing but blanks? -/
def isAllBlank (s : String) : Bool := s.toList.all isBlank

end ReverseReplication.Text
