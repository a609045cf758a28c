import ReverseReplication.Json.Value

/-!
# JSON texts in all their spellings

A value has many texts: between its tokens may stand blanks (`Typeset`), a character of a text may
stand for itself or be escaped in several ways (`Literal.Stands`), and a number may have any digits
that a JSON number can have (`Numeral.WellFormed`). Whatever the spelling, the text is cut into the
tokens of the value again (`Value.tokens_eq_of_typeset`).

The relation does not say where a number ends. That follows from what a value is: behind a number
stands a mark or nothing (`Value.separated_tokens`), and no mark could belong to the number.
-/

namespace ReverseReplication.Json

open ReverseReplication.Text (Symbol)
open ReverseReplication.Text.Decimal (isDigit)

/-! ## Text literals -/

namespace Literal

/-- The hexadecimal digit of a number below sixteen, small or capital. -/
def IsHex (c : Char) (d : Nat) : Prop :=
  "0123456789abcdef".toList[d]? = some c ∨ "0123456789ABCDEF".toList[d]? = some c

/-- Four hexadecimal digits, and their number. -/
inductive CodeUnit : List Char → Nat → Prop
  | digits {a b c d : Char} {i j k l : Nat} (first : IsHex a i) (second : IsHex b j)
      (third : IsHex c k) (fourth : IsHex d l) :
    CodeUnit [a, b, c, d] (16 * (16 * (16 * i + j) + k) + l)

/-- What may stand for a character inside a literal. -/
inductive Stands : Char → List Char → Prop
  | itself {c : Char} (quote : c ≠ '"') (backslash : c ≠ '\\') (control : ¬c < ' ') : Stands c [c]
  | letter {c l : Char} (escape : letterEscape? l = some c) : Stands c ['\\', l]
  | unit {c : Char} {hex : List Char} (code : CodeUnit hex c.toNat) : Stands c ('\\' :: 'u' :: hex)
  | pair {c : Char} {hex hex' : List Char} {high low : Nat} (first : CodeUnit hex (0xd800 + high))
      (second : CodeUnit hex' (0xdc00 + low)) (hhigh : high < 0x400) (hlow : low < 0x400)
      (code : c.toNat = 0x10000 + 0x400 * high + low) :
    Stands c ('\\' :: 'u' :: hex ++ '\\' :: 'u' :: hex')

/-- What may stand between the quotation marks of a text. -/
inductive Spells : List Char → List Char → Prop
  | nil : Spells [] []
  | cons {c : Char} {s cs cs' : List Char} (first : Stands c cs) (rest : Spells s cs') :
    Spells (c :: s) (cs ++ cs')

/-- A hexadecimal digit has its value, and is one byte long. -/
theorem IsHex.value {c : Char} {d : Nat} (h : IsHex c d) :
    hexValue? (.char c) = some d ∧ c.utf8Size = 1 := by
  have small : ∀ d < 16, "0123456789abcdef".toList[d]?.all fun c =>
      hexValue? (.char c) = some d ∧ c.utf8Size = 1 := by decide +kernel
  have capital : ∀ d < 16, "0123456789ABCDEF".toList[d]?.all fun c =>
      hexValue? (.char c) = some d ∧ c.utf8Size = 1 := by decide +kernel
  rcases h with h | h
  · have hread := small d (List.getElem?_eq_some_iff.1 h).1
    rw [h] at hread
    exact of_decide_eq_true hread
  · have hread := capital d (List.getElem?_eq_some_iff.1 h).1
    rw [h] at hread
    exact of_decide_eq_true hread

/-- A code unit has four digits. -/
theorem CodeUnit.length_eq {hex : List Char} {n : Nat} (h : CodeUnit hex n) : hex.length = 4 := by
  cases h
  rfl

/-- Four hexadecimal digits are read as their number, whatever follows. -/
theorem CodeUnit.codeUnit_eq {hex : List Char} {n : Nat} (h : CodeUnit hex n)
    (rest : List Symbol) : codeUnit (hex.map .char ++ rest) = .ok n := by
  cases h with
  | @digits a b c d i j k l ha hb hc hd =>
    obtain ⟨hva, hwa⟩ := ha.value
    obtain ⟨hvb, hwb⟩ := hb.value
    obtain ⟨hvc, hwc⟩ := hc.value
    obtain ⟨hvd, hwd⟩ := hd.value
    have htake : (([a, b, c, d].map Symbol.char) ++ rest).take 4 =
        [.char a, .char b, .char c, .char d] := by simp
    unfold codeUnit
    rw [htake]
    simp [byteLength, Symbol.width, hwa, hwb, hwc, hwd, hva, hvb, hvc, hvd]

/-- No character is half of a surrogate pair. -/
theorem not_isSurrogate (c : Char) : isLeading c.toNat = false ∧ isTrailing c.toNat = false := by
  have hvalid : c.toNat < 0xd800 ∨ 0xdfff < c.toNat ∧ c.toNat < 0x110000 := c.valid
  simp only [isLeading, isTrailing, Bool.and_eq_false_imp, decide_eq_true_eq,
    decide_eq_false_iff_not]
  omega

/-- What stands for a character is an escape, which is read as the character, or the character
itself. -/
theorem Stands.escape_eq {c : Char} {cs : List Char} (h : Stands c cs) :
    (∃ escaped, cs = '\\' :: escaped ∧
      ∀ rest, escape (escaped.map .char ++ rest) = .ok ⟨some c, escaped.length⟩) ∨
    (cs = [c] ∧ c ≠ '"' ∧ c ≠ '\\' ∧ ¬c < ' ') := by
  cases h with
  | itself hquote hbackslash hcontrol => exact .inr ⟨rfl, hquote, hbackslash, hcontrol⟩
  | @letter l hletter =>
    refine .inl ⟨[l], rfl, fun rest => ?_⟩
    have hunit : l ≠ 'u' := by
      rintro rfl
      cases hletter
    rw [List.map_singleton, List.singleton_append, escape]
    · rw [hletter]
      rfl
    · simpa using hunit
  | @unit hex hcode =>
    refine .inl ⟨'u' :: hex, rfl, fun rest => ?_⟩
    obtain ⟨hleading, htrailing⟩ := not_isSurrogate c
    simp only [List.map_cons, List.cons_append, escape, hcode.codeUnit_eq rest, bind, Except.bind,
      hleading, htrailing, pure, Except.pure, Char.ofNat_toNat, List.length_cons, hcode.length_eq]
    rfl
  | @pair hex hex' high low hfirst hsecond hhigh hlow hcode =>
    refine .inl ⟨'u' :: hex ++ '\\' :: 'u' :: hex', rfl, fun rest => ?_⟩
    have hread := hfirst.codeUnit_eq (('\\' :: 'u' :: hex').map Symbol.char ++ rest)
    have hdrop (tail : List Symbol) : (hex.map Symbol.char ++ tail).drop 4 = tail :=
      List.drop_left' (by rw [List.length_map, hfirst.length_eq])
    have hleading : isLeading (0xd800 + high) = true := by
      simp only [isLeading, Bool.and_eq_true, decide_eq_true_eq]
      omega
    have htrailing : isTrailing (0xdc00 + low) = true := by
      simp only [isTrailing, Bool.and_eq_true, decide_eq_true_eq]
      omega
    have hpair : 0x10000 + 0x400 * (0xd800 + high - 0xd800) + (0xdc00 + low - 0xdc00) =
        c.toNat := by omega
    rw [List.map_append, List.append_assoc, List.map_cons, List.cons_append]
    simp only [escape, hread, bind, Except.bind, hleading, if_true, hdrop]
    simp only [List.map_cons, List.cons_append, Literal.pair, hsecond.codeUnit_eq rest, htrailing,
      if_true, hpair, Char.ofNat_toNat, List.length_append, List.length_cons, hfirst.length_eq,
      hsecond.length_eq]

/-- Symbols that belong to an escape are passed over. -/
theorem scanFrom_length (front rest : List Symbol) :
    scanFrom front.length (front ++ rest) =
      (scanFrom 0 rest).map fun l => { l with width := l.width + front.length } := by
  induction front with
  | nil => cases h : scanFrom 0 rest <;> simp [h, Except.map]
  | cons s front ih =>
    rw [List.length_cons, List.cons_append, scanFrom, ih]
    cases scanFrom 0 rest with
    | error f => rfl
    | ok l => simp [Except.map]; omega

/-- The literal with one more character in front, which took `width` symbols. -/
def Scanned.push (c : Char) (width : Nat) (l : Scanned) : Scanned :=
  ⟨c :: l.chars, l.intact, l.width + width⟩

/-- What stands for a character is scanned as that character, and scanning goes on behind it. -/
theorem Stands.scanFrom_eq {c : Char} {cs : List Char} (h : Stands c cs) (rest : List Symbol) :
    scanFrom 0 (cs.map .char ++ rest) = (scanFrom 0 rest).map (Scanned.push c cs.length) := by
  rcases h.escape_eq with ⟨escaped, rfl, hescape⟩ | ⟨rfl, hquote, hbackslash, hcontrol⟩
  · have hskip := scanFrom_length (escaped.map .char) rest
    rw [List.length_map] at hskip
    rw [List.map_cons, List.cons_append, scanFrom, if_neg (by decide), if_pos rfl, hescape rest]
    dsimp only
    rw [hskip]
    cases scanFrom 0 rest <;> simp [Except.map, Scanned.cons, Scanned.push]; omega
  · rw [List.map_singleton, List.singleton_append, scanFrom, if_neg hquote, if_neg hbackslash,
      if_neg hcontrol]
    rfl

/-- The rest of a literal, up to its closing quotation mark, is read as the text. -/
theorem Spells.scan_eq {s cs : List Char} (h : Spells s cs) (rest : List Symbol) :
    scan ((cs ++ ['"']).map .char ++ rest) = .ok ⟨s, true, (cs ++ ['"']).length⟩ := by
  unfold scan
  induction h with
  | nil => rfl
  | cons first _ ih =>
    rw [List.append_assoc, List.map_append, List.append_assoc, first.scanFrom_eq, ih]
    simp [Except.map, Scanned.push]; omega

end Literal

/-! ## Numbers -/

/-- Digits, at least one. -/
def IsDigits (ds : List Char) : Prop := ds ≠ [] ∧ ∀ d ∈ ds, isDigit d = true

namespace Numeral

/-- A number that may stand in a JSON text. -/
structure WellFormed (n : Numeral) : Prop where
  whole : IsDigits n.whole
  /-- A leading zero stands alone. -/
  zero : n.whole.head? = some '0' → n.whole = ['0']
  fraction : ∀ d ∈ n.fraction, isDigit d = true
  exponent : ∀ e ∈ n.exponent, IsDigits e.digits

/-- May the character belong to a number that has begun? -/
def continues (c : Char) : Bool := isDigit c || c = '.' || c = 'e' || c = 'E'

/-- A number ends before these characters. -/
def Ends (cs : List Char) : Prop := ∀ c ∈ cs.head?, continues c = false

/-- Digits end before these characters. -/
def DigitsEnd (cs : List Char) : Prop := ∀ c ∈ cs.head?, isDigit c = false

/-- Where a number ends, so do its digits. -/
theorem Ends.digitsEnd {cs : List Char} (h : Ends cs) : DigitsEnd cs := by
  intro c hc
  have hends := h c hc
  simp only [continues, Bool.or_eq_false_iff] at hends
  exact hends.1.1.1

/-- A run of digits is found up to where the digits end. -/
theorem digitRun_append {ds rest : List Char} (hds : ∀ c ∈ ds, isDigit c = true)
    (hends : DigitsEnd rest) : digitRun ((ds ++ rest).map .char) = ds := by
  induction ds with
  | nil =>
    cases rest with
    | nil => rfl
    | cons c rest =>
      have hc := hends c rfl
      simp [digitRun, hc]
  | cons d ds ih =>
    rw [List.cons_append, List.map_cons, digitRun, if_pos (hds d List.mem_cons_self),
      ih fun c hc => hds c (List.mem_cons_of_mem d hc)]

/-- Digits that have to be there are found if there are any. -/
theorem requiredDigits_append {ds rest : List Char} (hds : IsDigits ds) (hends : DigitsEnd rest) :
    requiredDigits ((ds ++ rest).map .char) = .ok ds := by
  have hrun := digitRun_append hds.2 hends
  obtain ⟨d, ds', rfl⟩ := List.exists_cons_of_ne_nil hds.1
  unfold requiredDigits
  rw [hrun]
  rfl

/-- An exponent is found as it was spelled, with its sign or without. -/
theorem scanExponent_append (capital : Bool) (sign : ExponentSign) {ds rest : List Char}
    (hds : IsDigits ds) (hends : DigitsEnd rest) :
    scanExponent? ((Exponent.spell ⟨capital, sign, ds⟩ ++ rest).map .char) =
      .ok (some ⟨capital, sign, ds⟩) := by
  have hread := requiredDigits_append hds hends
  have hscan :
      scanExponent capital (((Exponent.spell ⟨capital, sign, ds⟩).tail ++ rest).map .char) =
        .ok ⟨capital, sign, ds⟩ := by
    cases sign with
    | plus =>
      show (requiredDigits ((ds ++ rest).map .char)).map _ = _
      rw [hread]
      rfl
    | minus =>
      show (requiredDigits ((ds ++ rest).map .char)).map _ = _
      rw [hread]
      rfl
    | unsigned =>
      obtain ⟨d, ds', rfl⟩ := List.exists_cons_of_ne_nil hds.1
      have hd : isDigit d = true := hds.2 d List.mem_cons_self
      show scanExponent capital ((d :: ds' ++ rest).map .char) = _
      rw [List.cons_append, List.map_cons] at hread ⊢
      rw [scanExponent, hread]
      · rfl
      · intro _ heq
        cases heq
        cases hd
      · intro _ heq
        cases heq
        cases hd
  cases sign <;> cases capital <;> exact congrArg (Except.map some) hscan

/-- The exponent, if there is one, and the rest of the text follow the other digits of a number. -/
theorem scanExponent?_append {e? : Option Exponent} (he : ∀ e ∈ e?, IsDigits e.digits)
    {rest : List Char} (hends : Ends rest) :
    scanExponent? (((e?.map Exponent.spell).getD [] ++ rest).map .char) = .ok e? ∧
      ∀ c ∈ ((e?.map Exponent.spell).getD [] ++ rest).head?, isDigit c = false ∧ c ≠ '.' := by
  cases e? with
  | none =>
    have hrest : ∀ c ∈ rest.head?, ((isDigit c = false ∧ c ≠ '.') ∧ c ≠ 'e') ∧ c ≠ 'E' := by
      intro c hc
      have hcontinues := hends c hc
      simpa only [continues, Bool.or_eq_false_iff, decide_eq_false_iff_not] using hcontinues
    refine ⟨?_, fun c hc => (hrest c hc).1.1⟩
    cases rest with
    | nil => rfl
    | cons c rest =>
      obtain ⟨⟨-, hsmall⟩, hcapital⟩ := hrest c rfl
      show scanExponent? (.char c :: rest.map .char) = _
      rw [scanExponent?]
      · simp [hsmall]
      · simp [hcapital]
  | some e =>
    refine ⟨scanExponent_append e.capital e.sign (he e rfl) hends.digitsEnd, ?_⟩
    obtain ⟨capital, sign, ds⟩ := e
    intro c hc
    cases sign <;> cases capital <;> cases hc <;> exact ⟨rfl, by simp⟩

/-- Behind the whole part, the fraction and the exponent are found as they were spelled, if they are
there. -/
theorem scanTail_append (negative : Bool) (whole : List Char) {fraction : List Char}
    (hfraction : ∀ d ∈ fraction, isDigit d = true) {e? : Option Exponent}
    (he : ∀ e ∈ e?, IsDigits e.digits) {rest : List Char} (hends : Ends rest) :
    scanTail negative whole (((if fraction = [] then [] else '.' :: fraction) ++
        ((e?.map Exponent.spell).getD [] ++ rest)).map .char) =
      .ok ⟨negative, whole, fraction, e?⟩ ∧
    DigitsEnd ((if fraction = [] then [] else '.' :: fraction) ++
      ((e?.map Exponent.spell).getD [] ++ rest)) := by
  obtain ⟨hexponent, hhead⟩ := scanExponent?_append he hends
  by_cases hnone : fraction = []
  · subst hnone
    rw [if_pos rfl, List.nil_append]
    refine ⟨?_, fun c hc => (hhead c hc).1⟩
    rw [scanTail, hexponent]
    · rfl
    · intro tail heq
      rw [List.map_eq_cons_iff] at heq
      obtain ⟨c, cs, hcs, hc, -⟩ := heq
      cases hc
      exact (hhead '.' (by rw [hcs]; rfl)).2 rfl
  · rw [if_neg hnone]
    refine ⟨?_, fun c hc => by cases hc; rfl⟩
    have hdigits := requiredDigits_append ⟨hnone, hfraction⟩ fun c hc => (hhead c hc).1
    have hdrop (tail : List Char) :
        ((fraction ++ tail).map Symbol.char).drop fraction.length = tail.map .char := by
      rw [← List.map_drop, List.drop_left]
    rw [List.cons_append, List.map_cons, scanTail, hdigits]
    simp only [bind, Except.bind, hdrop, hexponent]
    rfl

/-- A number is read off the front of a text in which it ends. -/
theorem WellFormed.scan_eq {n : Numeral} (h : n.WellFormed) {rest : List Char}
    (hends : Ends rest) : scan ((n.spell ++ rest).map .char) = .ok n := by
  obtain ⟨negative, whole, fraction, exponent⟩ := n
  obtain ⟨hwhole, hzero, hfraction, hexponent⟩ := h
  dsimp only at hwhole hzero hfraction hexponent
  obtain ⟨htail, hdigitsEnd⟩ := scanTail_append negative whole hfraction hexponent hends
  have hdigits := requiredDigits_append hwhole hdigitsEnd
  have hdrop (tail : List Char) : ((whole ++ tail).map Symbol.char).drop whole.length =
      tail.map .char := by
    rw [← List.map_drop, List.drop_left]
  have hunsigned : scanUnsigned negative ((whole ++ ((if fraction = [] then [] else '.' :: fraction)
      ++ ((exponent.map Exponent.spell).getD [] ++ rest))).map .char) =
        .ok ⟨negative, whole, fraction, exponent⟩ := by
    have hlead : ¬(whole.head? = some '0' ∧ whole ≠ ['0']) := fun hlead => hlead.2 (hzero hlead.1)
    unfold scanUnsigned
    rw [hdigits]
    simp only [bind, Except.bind, hlead, if_false, hdrop]
    exact htail
  rw [spell, List.append_assoc, List.append_assoc, List.append_assoc]
  cases negative with
  | true => exact hunsigned
  | false =>
    obtain ⟨d, ds, rfl⟩ := List.exists_cons_of_ne_nil hwhole.1
    have hd : isDigit d = true := hwhole.2 d List.mem_cons_self
    rw [if_neg Bool.false_ne_true, List.nil_append]
    rw [List.cons_append, List.map_cons] at hunsigned ⊢
    rw [scan, hunsigned]
    intro _ heq
    cases heq
    cases hd

/-- A number begins with a digit or a minus sign. -/
theorem WellFormed.exists_spell {n : Numeral} (h : n.WellFormed) :
    ∃ c cs, n.spell = c :: cs ∧ (c = '-' ∨ isDigit c = true) := by
  obtain ⟨d, ds, hwhole⟩ := List.exists_cons_of_ne_nil h.whole.1
  have hd : isDigit d = true := h.whole.2 d (hwhole ▸ List.mem_cons_self)
  cases hnegative : n.negative with
  | true => exact ⟨'-', _, by simp [spell, hnegative]; rfl, .inl rfl⟩
  | false => exact ⟨d, _, by simp [spell, hnegative, hwhole]; rfl, .inr hd⟩

end Numeral

/-! ## Tokens -/

namespace Token

/-- A punctuation mark. -/
inductive Mark : Token → Prop
  | openBrace : Mark .openBrace
  | closeBrace : Mark .closeBrace
  | openBracket : Mark .openBracket
  | closeBracket : Mark .closeBracket
  | colon : Mark .colon
  | comma : Mark .comma

/-- What a token may be spelled like. -/
inductive Spelled : Token → List Char → Prop
  | mark {t : Token} (mark : t.Mark) : Spelled t t.spell
  | null : Spelled .null ['n', 'u', 'l', 'l']
  | yes : Spelled (.bool true) ['t', 'r', 'u', 'e']
  | no : Spelled (.bool false) ['f', 'a', 'l', 's', 'e']
  | text {s : String} {cs : List Char} (content : Literal.Spells s.toList cs) :
    Spelled (.text (some s)) ('"' :: (cs ++ ['"']))
  | number {n : Numeral} (wellFormed : n.WellFormed) : Spelled (.number n) n.spell

/-- The token ends where these characters begin. -/
def EndsBefore (t : Token) (cs : List Char) : Prop := ∀ n, t = .number n → Numeral.Ends cs

/-- No other token begins like a number. -/
theorem numeral_begins {c : Char} (h : c = '-' ∨ isDigit c = true) :
    isSpace c = false ∧ mark? c = none ∧ word? c = none ∧ c ≠ '"' := by
  rcases h with rfl | hdigit
  · exact ⟨rfl, rfl, rfl, by decide⟩
  · refine ⟨?_, ?_, ?_, ?_⟩
    · rw [Bool.eq_false_iff]
      intro hspace
      simp only [isSpace, Bool.or_eq_true, decide_eq_true_eq] at hspace
      rcases hspace with ((rfl | rfl) | rfl) | rfl <;> cases hdigit
    · unfold mark?
      split <;> first | rfl | cases hdigit
    · unfold word?
      split <;> first | rfl | cases hdigit
    · rintro rfl
      cases hdigit

/-- A token is found at the front of a text that it ends in, however it is spelled. -/
theorem Spelled.next_eq {t : Token} {cs rest : List Char} (h : t.Spelled cs)
    (hends : t.EndsBefore rest) : ∃ c cs', cs = c :: cs' ∧ isSpace c = false ∧
      next c ((cs' ++ rest).map .char) = .ok (t, cs'.length) := by
  cases h with
  | mark hmark => cases hmark <;> exact ⟨_, _, rfl, rfl, rfl⟩
  | null => exact ⟨_, _, rfl, rfl, rfl⟩
  | yes => exact ⟨_, _, rfl, rfl, rfl⟩
  | no => exact ⟨_, _, rfl, rfl, rfl⟩
  | @text s cs content =>
    have hscan := content.scan_eq (rest.map .char)
    rw [← List.map_append] at hscan
    refine ⟨'"', cs ++ ['"'], rfl, rfl, ?_⟩
    rw [next, show mark? '"' = none from rfl, show word? '"' = none from rfl]
    dsimp only
    rw [if_pos rfl, hscan]
    simp [Literal.Scanned.content?]
  | @number n hn =>
    obtain ⟨c, cs, hspell, hc⟩ := hn.exists_spell
    obtain ⟨hspace, hmark, hword, hquote⟩ := numeral_begins hc
    have hscan := hn.scan_eq (hends _ rfl)
    refine ⟨c, cs, hspell, hspace, ?_⟩
    rw [hspell, List.cons_append, List.map_cons] at hscan
    rw [next, hmark, hword]
    dsimp only
    rw [if_neg hquote, if_pos hc, hscan]
    simp [hspell]

/-- Symbols that belong to a token are passed over. -/
theorem tokensFrom_length (front rest : List Symbol) :
    tokensFrom front.length (front ++ rest) = tokensFrom 0 rest := by
  induction front with
  | nil => rfl
  | cons s front ih =>
    rw [List.length_cons, List.cons_append, tokensFrom, ih]

/-- Blanks before a token are passed over. -/
theorem tokens_blank {c : Char} (h : isSpace c = true) (cs : List Char) :
    tokens ((c :: cs).map .char) = tokens (cs.map .char) := by
  rw [tokens, List.map_cons, tokensFrom, if_pos h, tokens]

/-- A token is cut from the text that spells it, and the text behind it is left. -/
theorem Spelled.tokens_eq {t : Token} {cs rest : List Char} (h : t.Spelled cs)
    (hends : t.EndsBefore rest) :
    tokens ((cs ++ rest).map .char) = t :: tokens (rest.map .char) := by
  obtain ⟨c, cs', rfl, hspace, hnext⟩ := h.next_eq hends
  have hskip := tokensFrom_length (cs'.map .char) (rest.map .char)
  rw [List.length_map, ← List.map_append] at hskip
  rw [tokens, List.cons_append, List.map_cons, tokensFrom, hspace, hnext]
  dsimp only
  rw [hskip]
  rfl

end Token

/-! ## Texts -/

/-- The characters spell the tokens in their order, with blanks anywhere between them. -/
inductive Typeset : List Char → List Token → Prop
  | nil : Typeset [] []
  | blank {c : Char} {cs : List Char} {ts : List Token} (space : Token.isSpace c = true)
      (rest : Typeset cs ts) : Typeset (c :: cs) ts
  | token {t : Token} {cs cs' : List Char} {ts : List Token} (spelled : t.Spelled cs)
      (rest : Typeset cs' ts) : Typeset (cs ++ cs') (t :: ts)

/-- The marks among the tokens stand in the text. -/
theorem Typeset.mem_of_mark {cs : List Char} {ts : List Token} (h : Typeset cs ts) {t : Token}
    (ht : t ∈ ts) (hmark : t.Mark) {c : Char} (hc : c ∈ t.spell) : c ∈ cs := by
  induction h with
  | nil => exact absurd ht List.not_mem_nil
  | blank _ _ ih => exact List.mem_cons_of_mem _ (ih ht)
  | token spelled _ ih =>
    rcases List.mem_cons.1 ht with rfl | hlater
    · refine List.mem_append_left _ ?_
      cases spelled <;> first | exact hc | cases hmark
    · exact List.mem_append_right _ (ih hlater)

/-- A mark begins the tokens, unless there are none. -/
def BeginMarked (ts : List Token) : Prop := ∀ t ∈ ts.head?, t.Mark

/-- Behind every number stands a mark, or nothing. -/
def Separated : List Token → Prop
  | [] => True
  | t :: ts => (∀ n, t = .number n → BeginMarked ts) ∧ Separated ts

/-- A number ends before a blank, a mark and the end. -/
theorem Typeset.ends {cs : List Char} {ts : List Token} (h : Typeset cs ts)
    (hmark : BeginMarked ts) : Numeral.Ends cs := by
  cases h with
  | nil => exact fun c hc => nomatch hc
  | blank space _ =>
    intro c hc
    cases hc
    simp only [Token.isSpace, Bool.or_eq_true, decide_eq_true_eq] at space
    rcases space with ((rfl | rfl) | rfl) | rfl <;> rfl
  | @token t cs cs' ts spelled _ =>
    have ht : t.Mark := hmark t rfl
    intro c hc
    cases spelled with
    | mark => cases ht <;> cases hc <;> rfl
    | null => cases ht
    | yes => cases ht
    | no => cases ht
    | text => cases ht
    | number => cases ht

/-- A text is cut into the tokens that it spells. -/
theorem Typeset.tokens_eq {cs : List Char} {ts : List Token} (h : Typeset cs ts)
    (hseparated : Separated ts) : tokens (cs.map .char) = ts := by
  induction h with
  | nil => rfl
  | blank space _ ih => rw [Token.tokens_blank space, ih hseparated]
  | token spelled rest ih =>
    -- A number has to end here, which what comes behind it decides.
    have hends := spelled.tokens_eq fun n hn => rest.ends (hseparated.1 n hn)
    rw [hends, ih hseparated.2]

/-! ## Values -/

namespace Value

/-- Behind an item comes a comma or the end of the sequence. -/
theorem beginMarked_itemTokens (vs : List Value) (ts : List Token) :
    BeginMarked (itemTokens false vs ++ ts) := by
  intro t ht
  cases vs <;> cases ht
  · exact .closeBracket
  · exact .comma

/-- Behind a member comes a comma or the end of the map. -/
theorem beginMarked_memberTokens (ms : List (String × Value)) (ts : List Token) :
    BeginMarked (memberTokens false ms ++ ts) := by
  intro t ht
  cases ms <;> cases ht
  · exact .closeBrace
  · exact .comma

mutual

/-- No two numbers of a value stand side by side. -/
theorem separated_tokens (v : Value) {ts : List Token} (hts : Separated ts)
    (hmark : BeginMarked ts) : Separated (v.tokens ++ ts) := by
  cases v with
  | array items => exact ⟨nofun, separated_itemTokens true items hts⟩
  | object members => exact ⟨nofun, separated_memberTokens true members hts⟩
  | number n => exact ⟨fun _ _ => hmark, hts⟩
  | null => exact ⟨nofun, hts⟩
  | bool b => exact ⟨nofun, hts⟩
  | text s => exact ⟨nofun, hts⟩

/-- In a sequence, no two numbers stand side by side. -/
theorem separated_itemTokens (first : Bool) (vs : List Value) {ts : List Token}
    (hts : Separated ts) : Separated (itemTokens first vs ++ ts) := by
  cases vs with
  | nil => cases first <;> exact ⟨nofun, hts⟩
  | cons v vs =>
    have hvalue := separated_tokens v (separated_itemTokens false vs hts)
      (beginMarked_itemTokens vs ts)
    cases first with
    | true =>
      simp only [itemTokens, List.append_assoc]
      exact hvalue
    | false =>
      simp only [itemTokens, List.cons_append, List.append_assoc]
      exact ⟨nofun, hvalue⟩

/-- In a map, no two numbers stand side by side. -/
theorem separated_memberTokens (first : Bool) (ms : List (String × Value)) {ts : List Token}
    (hts : Separated ts) : Separated (memberTokens first ms ++ ts) := by
  cases ms with
  | nil => cases first <;> exact ⟨nofun, hts⟩
  | cons m ms =>
    have hvalue := separated_tokens m.2 (separated_memberTokens false ms hts)
      (beginMarked_memberTokens ms ts)
    cases first with
    | true =>
      simp only [memberTokens, List.cons_append, List.append_assoc]
      exact ⟨nofun, nofun, hvalue⟩
    | false =>
      simp only [memberTokens, List.cons_append, List.append_assoc]
      exact ⟨nofun, nofun, nofun, hvalue⟩

end

/-- A text of a value is cut into the tokens of the value, however it is spelled. -/
theorem tokens_eq_of_typeset {v : Value} {cs : List Char} (h : Typeset cs v.tokens) :
    Json.tokens (cs.map .char) = v.tokens := by
  have hseparated : Separated (v.tokens ++ []) := v.separated_tokens trivial fun t ht => nomatch ht
  rw [List.append_nil] at hseparated
  exact h.tokens_eq hseparated

end Value

end ReverseReplication.Json
