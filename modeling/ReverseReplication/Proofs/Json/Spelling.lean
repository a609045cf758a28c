import ReverseReplication.Proofs.Json.Grammar

/-!
# Tokens as they are written

Values are written with some of the tokens only (`Token.Written`). How these are written is one of
the spellings that a token may have (`Token.Written.spelled`), so they may stand in a text one after
another (`Typeset.written`).
-/

namespace ReverseReplication.Json

open ReverseReplication.Text (hexDigits)

/-! ## Text literals -/

namespace Literal

/-- The four hexadecimal digits of a control character. -/
def controlDigits (n : Nat) : List Char :=
  if n < 0x10 then ['0', '0', '0'] ++ hexDigits n else ['0', '0'] ++ hexDigits n

/-- The four digits of a control character are its code unit. -/
theorem codeUnit_controlDigits {n : Nat} (h : n < 0x20) : CodeUnit (controlDigits n) n := by
  let hex (d : Nat) : Char := "0123456789abcdef".toList[d]?.getD '0'
  have hzero : IsHex '0' 0 := .inl rfl
  have hhex : ∀ d < 0x10, "0123456789abcdef".toList[d]? = some (hex d) := by decide +kernel
  have hdigits : ∀ n < 0x20, controlDigits n = ['0', '0', hex (n / 0x10), hex (n % 0x10)] := by
    decide +kernel
  have hunit := CodeUnit.digits hzero hzero (.inl (hhex (n / 0x10) (by omega)))
    (.inl (hhex (n % 0x10) (by omega)))
  rw [hdigits n h]
  have hcode : 16 * (16 * (16 * 0 + 0) + n / 0x10) + n % 0x10 = n := by omega
  rwa [hcode] at hunit

/-- A character may stand as it is written. -/
theorem stands_spellChar (c : Char) : Stands c (spellChar c) := by
  unfold spellChar
  split
  -- Only the characters without a short escape are told apart by their code.
  case h_8 hquote hbackslash _ _ _ _ _ =>
    split
    next hlow =>
      have hunit := codeUnit_controlDigits (Nat.lt_trans hlow (by decide : 0x10 < 0x20))
      rw [controlDigits, if_pos hlow] at hunit
      exact .unit hunit
    next hlow =>
      split
      next hcontrol =>
        have hunit := codeUnit_controlDigits (show c.toNat < 0x20 from hcontrol)
        rw [controlDigits, if_neg hlow] at hunit
        exact .unit hunit
      next hcontrol => exact .itself hquote hbackslash hcontrol
  all_goals exact .letter rfl

/-- A text is spelled by the spellings of its characters. -/
theorem spells_spell (s : List Char) : Spells s (s.flatMap spellChar) := by
  induction s with
  | nil => exact .nil
  | cons c s ih => exact .cons (stands_spellChar c) ih

end Literal

/-! ## Numbers -/

namespace Numeral

open ReverseReplication.Text.Decimal (isDigit digits value_digits)

/-- The digits of a number are digits. -/
theorem isDigit_of_mem_digits {c : Char} {n : Nat} (h : c ∈ digits n) : isDigit c = true := by
  have hdigit := Nat.isDigit_of_mem_toDigits (by decide) (by decide) h
  simpa [isDigit, Char.isDigit, Char.le_def] using hdigit

/-- Every number has a digit. -/
theorem digits_ne_nil (n : Nat) : digits n ≠ [] := Nat.toDigits_ne_nil

/-- Only the digits of zero begin with a zero. -/
theorem digits_eq_of_head (n : Nat) (h : (digits n).head? = some '0') : digits n = ['0'] := by
  induction n using Nat.strongRecOn with
  | ind n ih =>
    by_cases hsmall : n < 10
    · rw [digits, Nat.toDigits_of_lt_base hsmall] at h ⊢
      rw [List.head?_cons, Option.some_inj] at h
      rw [h]
    · -- A longer number begins with the digits of its tenth, which would have to be zero.
      have hsplit : digits n = digits (n / 10) ++ [(n % 10).digitChar] :=
        Nat.toDigits_of_base_le (by decide) (Nat.le_of_not_lt hsmall)
      obtain ⟨d, ds, hds⟩ := List.exists_cons_of_ne_nil (digits_ne_nil (n / 10))
      have hhead : (digits (n / 10)).head? = some '0' := by
        rw [hsplit, hds] at h
        rw [hds]
        exact h
      have hzero := value_digits (n / 10)
      rw [ih (n / 10) (by omega) hhead] at hzero
      have : n / 10 = 0 := hzero.symm
      omega

/-- An integer is written as a number that may stand in a text. -/
theorem wellFormed_ofInt (n : Int) : (ofInt n).WellFormed where
  whole := ⟨digits_ne_nil n.natAbs, fun _ => isDigit_of_mem_digits⟩
  zero := digits_eq_of_head n.natAbs
  fraction := fun _ hd => nomatch hd
  exponent := fun _ he => nomatch he

end Numeral

/-! ## Tokens -/

namespace Token

/-- A token that values are written with. -/
def Written : Token → Prop
  | .text content? => content?.isSome
  | .number n => ∃ k, n = .ofInt k
  | .broken _ => False
  | _ => True

/-- A token may be spelled as it is written. -/
theorem Written.spelled {t : Token} (h : t.Written) : t.Spelled t.spell := by
  cases t with
  | openBrace => exact .mark .openBrace
  | closeBrace => exact .mark .closeBrace
  | openBracket => exact .mark .openBracket
  | closeBracket => exact .mark .closeBracket
  | colon => exact .mark .colon
  | comma => exact .mark .comma
  | null => exact .null
  | bool b =>
    cases b with
    | true => exact .yes
    | false => exact .no
  | text content? =>
    obtain ⟨s, rfl⟩ := Option.isSome_iff_exists.1 h
    exact .text (Literal.spells_spell s.toList)
  | number n =>
    obtain ⟨k, rfl⟩ := h
    exact .number (Numeral.wellFormed_ofInt k)
  | broken cause => exact h.elim

end Token

/-! ## Texts -/

namespace Typeset

variable {cs : List Char} {ts : List Token}

/-- Tokens as they are written may stand side by side. -/
theorem written {front : List Token} (hfront : ∀ t ∈ front, t.Written) (rest : Typeset cs ts) :
    Typeset (front.flatMap Token.spell ++ cs) (front ++ ts) := by
  induction front with
  | nil => exact rest
  | cons t front ih =>
    rw [List.forall_mem_cons] at hfront
    rw [List.flatMap_cons, List.append_assoc, List.cons_append]
    exact .token hfront.1.spelled (ih hfront.2)

/-- Any number of blanks may come first. -/
theorem blanks {front : List Char} (hfront : ∀ c ∈ front, Token.isSpace c = true)
    (rest : Typeset cs ts) : Typeset (front ++ cs) ts := by
  induction front with
  | nil => exact rest
  | cons c front ih =>
    exact .blank (hfront c List.mem_cons_self) (ih fun d hd => hfront d (List.mem_cons_of_mem c hd))

end Typeset

end ReverseReplication.Json
