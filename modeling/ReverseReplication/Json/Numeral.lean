import ReverseReplication.Text.Decimal
import ReverseReplication.Text.Utf8

/-!
# Numbers in JSON texts

A `Numeral` is a JSON number as it is spelled. Two questions are asked of it: which 64-bit integer
it denotes (`int?`), if it is spelled as one, and whether it is too large for a binary64 number
(`overflows`). Its value as a fraction is never asked for.
-/

namespace ReverseReplication.Json

open ReverseReplication.Text (Symbol)
open ReverseReplication.Text.Decimal (isDigit value digits)

/-- The sign before the digits of an exponent. -/
inductive ExponentSign where
  | unsigned
  | plus
  | minus
  deriving DecidableEq, Repr

/-- The exponent of a number as it is spelled. -/
structure Exponent where
  /-- Is its letter a capital? -/
  capital : Bool
  sign : ExponentSign
  digits : List Char
  deriving DecidableEq, Repr

/-- A number as it is spelled. -/
structure Numeral where
  negative : Bool
  whole : List Char
  /-- The digits after the point, or none if there is no point. -/
  fraction : List Char
  exponent : Option Exponent
  deriving DecidableEq, Repr

/-! ## Spelling -/

def Exponent.spell (e : Exponent) : List Char :=
  let letter := if e.capital then 'E' else 'e'
  match e.sign with
  | .unsigned => letter :: e.digits
  | .plus => letter :: '+' :: e.digits
  | .minus => letter :: '-' :: e.digits

namespace Numeral

/-- The characters of the number. -/
def spell (n : Numeral) : List Char :=
  (if n.negative then ['-'] else [])
    ++ n.whole
    ++ (if n.fraction = [] then [] else '.' :: n.fraction)
    ++ (n.exponent.map Exponent.spell).getD []

/-- The usual spelling of an integer. -/
def ofInt (n : Int) : Numeral := ⟨n < 0, digits n.natAbs, [], none⟩

/-! ## Scanning -/

/-- The digits that the symbols begin with. -/
def digitRun : List Symbol → List Char
  | .char c :: rest => if isDigit c then c :: digitRun rest else []
  | _ => []

/-- Why no number was found where one begins. -/
inductive Fault where
  /-- The input ends where a digit has to stand. -/
  | cut
  /-- Something other than a digit stands there, or a zero leads further digits. -/
  | malformed
  deriving DecidableEq, Repr

/-- The nonempty run of digits that has to stand here. -/
def requiredDigits (s : List Symbol) : Except Fault (List Char) :=
  match s, digitRun s with
  | [], _ => .error .cut
  | _, [] => .error .malformed
  | _, ds => .ok ds

/-- The exponent after the letter. -/
def scanExponent (capital : Bool) (s : List Symbol) : Except Fault Exponent :=
  match s with
  | .char '+' :: rest => (requiredDigits rest).map (⟨capital, .plus, ·⟩)
  | .char '-' :: rest => (requiredDigits rest).map (⟨capital, .minus, ·⟩)
  | _ => (requiredDigits s).map (⟨capital, .unsigned, ·⟩)

/-- The exponent, if the letter of one stands here. -/
def scanExponent? (s : List Symbol) : Except Fault (Option Exponent) :=
  match s with
  | .char 'e' :: rest => (scanExponent false rest).map some
  | .char 'E' :: rest => (scanExponent true rest).map some
  | _ => .ok none

/-- What follows the whole digits: a point with digits after it, an exponent, both or neither. -/
def scanTail (negative : Bool) (whole : List Char) (s : List Symbol) : Except Fault Numeral :=
  match s with
  | .char '.' :: rest => do
    let fraction ← requiredDigits rest
    let exponent ← scanExponent? (rest.drop fraction.length)
    pure ⟨negative, whole, fraction, exponent⟩
  | _ => do
    let exponent ← scanExponent? s
    pure ⟨negative, whole, [], exponent⟩

/-- The number without its sign. A leading zero stands alone. -/
def scanUnsigned (negative : Bool) (s : List Symbol) : Except Fault Numeral := do
  let whole ← requiredDigits s
  if whole.head? = some '0' ∧ whole ≠ ['0'] then
    throw .malformed
  scanTail negative whole (s.drop whole.length)

/-- The number that the symbols begin with; it takes as many symbols as its spelling is long. -/
def scan (s : List Symbol) : Except Fault Numeral :=
  match s with
  | .char '-' :: rest => scanUnsigned true rest
  | _ => scanUnsigned false s

/-! ## Values -/

/-- The integer that the number denotes, if it is spelled as an integer and lies between `-2^63`
and `2^64 - 1`. A zero with a minus sign is no integer. -/
def int? (n : Numeral) : Option Int :=
  if n.fraction = [] ∧ n.exponent = none then
    let m := value n.whole
    if n.negative then
      if 0 < m ∧ m ≤ UInt64.size / 2 then some (-(m : Int)) else none
    else
      if m < UInt64.size then some m else none
  else none

/-- Takes one more digit into a significand that is held together with the power of ten that
scales it. Once a digit does not fit into 64 bits, it and the ones after it only count as
`place`s before the point. -/
def addDigit (place : Int) (acc : Nat × Int × Bool) (c : Char) : Nat × Int × Bool :=
  let (m, e, full) := acc
  let m' := 10 * m + (c.toNat - '0'.toNat)
  if full || m' ≥ UInt64.size then (m, e + place, true) else (m', e + place - 1, false)

/-- The leading digits of a number as a 64-bit significand, and the power of ten that scales it. -/
def significand (n : Numeral) : Nat × Int :=
  let (m, e, _) := n.whole.foldl (addDigit 1) (0, 0, false)
  let (m, e, _) := n.fraction.foldl (addDigit 0) (m, e, false)
  (m, e)

/-- The nearest number to `n` with 53 significant bits; a tie goes to the even one. -/
def nearest53 (n : Nat) : Nat :=
  if n < Nat.pow 2 53 then n
  else
    let shift := n.log2 - 52
    let q := n >>> shift
    let r := n - (q <<< shift)
    let half := 1 <<< (shift - 1)
    if r > half ∨ (r = half ∧ q % 2 = 1) then (q + 1) <<< shift else q <<< shift

/-- Is the number too large for a binary64 number? The significand and the power of ten are
rounded first, then their product. -/
def overflows (n : Numeral) : Bool :=
  let (m, e) := n.significand
  let scale : Int := match n.exponent with
    | none => e
    | some x => if x.sign = .minus then e - (value x.digits : Int) else e + (value x.digits : Int)
  m != 0 && 0 ≤ scale &&
    (308 < scale
      || nearest53 m * nearest53 (Nat.pow 10 scale.toNat) ≥ Nat.pow 2 1024 - Nat.pow 2 970)

end Numeral

end ReverseReplication.Json
