import Mathlib.Algebra.Group.Int.Defs
import ReverseReplication.Json.Codec
import ReverseReplication.Proofs.Json.Spelling

/-!
# Integers of a fixed width

A number is read as an integer only if it is one between `-2^63` and `2^64 - 1` and is not too large
for a binary64 number. The usual spelling of every integer in that range is (`found_ofInt`). So the
codecs of the fixed widths read back what they write.
-/

namespace ReverseReplication.Json

namespace Numeral

open ReverseReplication.Text.Decimal (digits value value_digits)

/-! ## The integer that a number denotes -/

/-- An integer of 64 bits, with a sign or without one, is read as itself. -/
theorem int?_ofInt {n : Int} (hmin : -2 ^ 63 ≤ n) (hmax : n < 2 ^ 64) :
    (ofInt n).int? = some n := by
  have hsize : UInt64.size = 2 ^ 64 := rfl
  have hvalue : value (digits n.natAbs) = n.natAbs := value_digits _
  by_cases hnegative : n < 0
  · have hrange : 0 < n.natAbs ∧ n.natAbs ≤ UInt64.size / 2 := by omega
    have habs : -(n.natAbs : Int) = n := by omega
    simp only [int?, ofInt, hnegative, hvalue, hrange, habs, decide_true, and_self, if_true]
  · have hrange : n.natAbs < UInt64.size := by omega
    have habs : (n.natAbs : Int) = n := by omega
    simp only [int?, ofInt, hnegative, hvalue, hrange, habs, decide_false, and_self, if_true,
      Bool.false_eq_true, if_false]

/-! ## Size -/

/-- Digits are taken into the significand one by one while it has room for all of them. -/
theorem foldl_addDigit {ds : List Char} {m : Nat}
    (h : Nat.ofDigitChars 10 ds m < UInt64.size) :
    ds.foldl (addDigit 1) (m, 0, false) = (Nat.ofDigitChars 10 ds m, 0, false) := by
  induction ds generalizing m with
  | nil => rfl
  | cons d ds ih =>
    rw [Nat.ofDigitChars_cons] at h
    have hroom : 10 * m + (d.toNat - '0'.toNat) < UInt64.size := by
      refine Nat.lt_of_le_of_lt ?_ h
      rw [Nat.ofDigitChars_eq_ofDigitChars_zero]
      have hpower : 1 ≤ 10 ^ ds.length := Nat.one_le_pow _ _ (by decide)
      exact Nat.le_add_right_of_le (Nat.le_mul_of_pos_left _ hpower)
    have hstep : addDigit 1 (m, 0, false) d = (10 * m + (d.toNat - '0'.toNat), 0, false) := by
      simp only [addDigit, Bool.false_or, ge_iff_le, decide_eq_true_eq, Nat.not_le.2 hroom,
        if_false]
      rfl
    rw [List.foldl_cons, hstep, ih h, Nat.ofDigitChars_cons]

/-- An integer whose digits fit has them as its significand, and no exponent. -/
theorem significand_ofInt {n : Int} (h : n.natAbs < UInt64.size) :
    (ofInt n).significand = (n.natAbs, 0) := by
  have hvalue : Nat.ofDigitChars 10 (digits n.natAbs) 0 = n.natAbs := value_digits _
  simp [significand, ofInt, foldl_addDigit (hvalue.symm ▸ h), hvalue]

/-- Rounding does not double a number. -/
theorem nearest53_le (n : Nat) : nearest53 n ≤ 2 * n := by
  unfold nearest53
  split
  next => omega
  next hlarge =>
    have hpow : Nat.pow 2 53 = 2 ^ 53 := rfl
    rw [hpow] at hlarge
    have hshift : 2 ^ (n.log2 - 52) ≤ n :=
      Nat.le_trans (Nat.pow_le_pow_right (by decide) (Nat.sub_le _ _)) (Nat.log2_self_le (by omega))
    have hfloor : n >>> (n.log2 - 52) * 2 ^ (n.log2 - 52) ≤ n := by
      rw [Nat.shiftRight_eq_div_pow]
      exact Nat.div_mul_le_self _ _
    dsimp only
    split
    · rw [Nat.shiftLeft_eq, Nat.add_mul]
      omega
    · rw [Nat.shiftLeft_eq]
      omega

/-- An integer whose digits fit is no overflow. -/
theorem overflows_ofInt {n : Int} (h : n.natAbs < UInt64.size) : (ofInt n).overflows = false := by
  have hexponent : (ofInt n).exponent = none := rfl
  have hone : nearest53 (Nat.pow 10 (0 : Int).toNat) = 1 := by decide
  have hlimit : 2 * UInt64.size ≤ Nat.pow 2 1024 - Nat.pow 2 970 := by decide +kernel
  have hsmall : ¬nearest53 n.natAbs * 1 ≥ Nat.pow 2 1024 - Nat.pow 2 970 := by
    rw [Nat.mul_one, ge_iff_le, Nat.not_le]
    calc nearest53 n.natAbs ≤ 2 * n.natAbs := nearest53_le _
      _ < 2 * UInt64.size := Nat.mul_lt_mul_of_pos_left h (by decide)
      _ ≤ Nat.pow 2 1024 - Nat.pow 2 970 := hlimit
  unfold overflows
  rw [significand_ofInt h, hexponent]
  dsimp only
  rw [hone, decide_eq_false hsmall]
  simp

end Numeral

/-! ## Reading -/

/-- An integer is found where one in range is written. -/
theorem Token.found_ofInt {n : Int} (hmin : -2 ^ 63 ≤ n) (hmax : n < 2 ^ 64) :
    (Token.number (.ofInt n)).found = .ok (.integer n) := by
  have hsize : UInt64.size = 2 ^ 64 := rfl
  rw [found, Numeral.overflows_ofInt (by omega), Numeral.int?_ofInt hmin hmax]
  rfl

/-- Reads an integer that is written and is admitted. -/
theorem Reader.integer_ofInt {α : Type} {expected : String} {accept : Int → Option α} {n : Int}
    {a : α} (hmin : -2 ^ 63 ≤ n) (hmax : n < 2 ^ 64) (haccept : accept n = some a)
    (rest : List Token) :
    Reader.integer expected accept ((Value.int n).tokens ++ rest) = .ok (a, rest) := by
  show Reader.integer expected accept (.number (.ofInt n) :: rest) = _
  rw [integer, Token.found_ofInt hmin hmax]
  dsimp only
  rw [haccept]

end ReverseReplication.Json
