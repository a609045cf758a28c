/-!
# Bytes and the characters in them

Files and stored objects hold bytes. A text is stored as its UTF-8 encoding (`utf8`), and bytes
are read as a sequence of `Symbol`s (`symbols`): characters where the bytes are well-formed UTF-8,
and single stray bytes elsewhere. Bytes below 128 always stand for themselves, so a reader of
symbols finds every delimiter that a reader of bytes would find.

`symbols_utf8` says that the encoding of a text reads back as its characters.
-/

namespace ReverseReplication.Text

/-- The contents of a file or of a stored object. -/
abbrev Bytes := List UInt8

/-- What a place in a byte sequence holds: a well-formed character, or a byte that begins none. -/
inductive Symbol where
  | char (c : Char)
  | stray (b : UInt8)
  deriving DecidableEq, Repr

/-- The number of bytes that a symbol takes. -/
def Symbol.width : Symbol → Nat
  | .char c => c.utf8Size
  | .stray _ => 1

/-- The UTF-8 encoding of a text. -/
def utf8 (s : String) : Bytes := s.toList.flatMap String.utf8EncodeChar

/-- The character whose encoding the bytes begin with. -/
def leadingChar? (bs : Bytes) : Option Char :=
  ByteArray.utf8DecodeChar? (bs.take 4).toByteArray 0

/-- Reads symbols, after passing over `skip` bytes that belong to the character before. -/
def symbolsFrom : Nat → Bytes → List Symbol
  | _, [] => []
  | skip + 1, _ :: rest => symbolsFrom skip rest
  | 0, b :: rest =>
    match leadingChar? (b :: rest) with
    | some c => .char c :: symbolsFrom (c.utf8Size - 1) rest
    | none => .stray b :: symbolsFrom 0 rest

/-- The symbols of a byte sequence. -/
def symbols (bs : Bytes) : List Symbol := symbolsFrom 0 bs

/-- The characters, if no stray byte is among the symbols. -/
def chars? : List Symbol → Option (List Char)
  | [] => some []
  | .char c :: rest => (chars? rest).map (c :: ·)
  | .stray _ :: _ => none

/-- The text that the bytes encode, if they are well-formed UTF-8. -/
def decode? (bs : Bytes) : Option String := (chars? (symbols bs)).map String.ofList

/-! ## Reading back -/

/-- An encoded character is found at the begin of what it stands before. -/
theorem leadingChar?_encode (c : Char) (rest : Bytes) :
    leadingChar? (String.utf8EncodeChar c ++ rest) = some c := by
  have hlen : (String.utf8EncodeChar c).length ≤ 4 := by
    rw [String.length_utf8EncodeChar]
    exact Char.utf8Size_le_four c
  rw [leadingChar?, List.take_append, List.take_of_length_le hlen, List.toByteArray_append]
  exact ByteArray.utf8DecodeChar?_utf8EncodeChar_append

/-- Bytes that are to be skipped leave no symbols. -/
theorem symbolsFrom_drop (skip : Nat) (front rest : Bytes) (h : front.length = skip) :
    symbolsFrom skip (front ++ rest) = symbolsFrom 0 rest := by
  induction front generalizing skip with
  | nil => subst h; rfl
  | cons b front ih =>
    subst h
    exact ih _ rfl

/-- An encoded character is read as that character, and reading goes on behind it. -/
theorem symbols_encode_append (c : Char) (rest : Bytes) :
    symbols (String.utf8EncodeChar c ++ rest) = .char c :: symbols rest := by
  have hc := leadingChar?_encode c rest
  have hlen := String.length_utf8EncodeChar c
  have hpos := c.utf8Size_pos
  generalize String.utf8EncodeChar c = bs at hc hlen ⊢
  cases bs with
  | nil => simp at hlen; omega
  | cons b bs =>
    rw [symbols, List.cons_append, symbolsFrom]
    rw [List.cons_append] at hc
    rw [hc]
    have : bs.length = c.utf8Size - 1 := by simp at hlen; omega
    simp [symbolsFrom_drop _ _ _ this, symbols]

/-- Encoded characters are read one by one. -/
theorem symbols_flatMap (cs : List Char) :
    symbols (cs.flatMap String.utf8EncodeChar) = cs.map .char := by
  induction cs with
  | nil => rfl
  | cons c cs ih => rw [List.flatMap_cons, symbols_encode_append, ih, List.map_cons]

/-- A text reads back from its encoding. -/
theorem symbols_utf8 (s : String) : symbols (utf8 s) = s.toList.map .char := symbols_flatMap _

/-- Decoding undoes encoding. -/
theorem decode?_utf8 (s : String) : decode? (utf8 s) = some s := by
  have : ∀ cs : List Char, chars? (cs.map .char) = some cs := by
    intro cs
    induction cs with
    | nil => rfl
    | cons c cs ih => simp [chars?, ih]
  simp [decode?, symbols_utf8, this]

end ReverseReplication.Text
