import ReverseReplication.Text.Utf8
import ReverseReplication.Text.Quoted

/-!
# Text literals in JSON texts

A text stands between quotation marks (`spell`); a quotation mark, a backslash and the characters
below the space are escaped, everything else stands for itself. `scan` reads such a literal. It
also reads literals that denote no text, because they escape half of a surrogate pair or hold a
stray byte: they have an end, so a reader that ignores them can go on after it, but they have no
`content?`.
-/

namespace ReverseReplication.Json.Literal

open ReverseReplication.Text (Symbol hexDigits)

/-! ## Spelling -/

/-- One character inside a literal. -/
def spellChar (c : Char) : List Char :=
  match c with
  | '"' => ['\\', '"']
  | '\\' => ['\\', '\\']
  | '\x08' => ['\\', 'b']
  | '\x0c' => ['\\', 'f']
  | '\n' => ['\\', 'n']
  | '\r' => ['\\', 'r']
  | '\t' => ['\\', 't']
  | _ =>
    if c.toNat < 0x10 then ['\\', 'u', '0', '0', '0'] ++ hexDigits c.toNat
    else if c < ' ' then ['\\', 'u', '0', '0'] ++ hexDigits c.toNat
    else [c]

/-- A text as a literal, with its quotation marks. -/
def spell (s : String) : List Char := '"' :: s.toList.flatMap spellChar ++ ['"']

/-! ## Escapes -/

/-- Why a literal has no end. -/
inductive Fault where
  /-- The input ends inside it; `lone` says that half of a surrogate pair stands before that. -/
  | cut (lone : Bool)
  /-- It holds a control character, or a backslash that begins no escape. -/
  | malformed
  deriving DecidableEq, Repr

/-- The character that a backslash and one letter stand for. -/
def letterEscape? (c : Char) : Option Char :=
  match c with
  | '"' => some '"'
  | '\\' => some '\\'
  | '/' => some '/'
  | 'b' => some '\x08'
  | 'f' => some '\x0c'
  | 'n' => some '\n'
  | 'r' => some '\r'
  | 't' => some '\t'
  | _ => none

/-- The value of a hexadecimal digit. -/
def hexValue? (s : Symbol) : Option Nat :=
  match s with
  | .char c =>
    if '0' ≤ c ∧ c ≤ '9' then some (c.toNat - '0'.toNat)
    else if 'a' ≤ c ∧ c ≤ 'f' then some (c.toNat - 'a'.toNat + 10)
    else if 'A' ≤ c ∧ c ≤ 'F' then some (c.toNat - 'A'.toNat + 10)
    else none
  | .stray _ => none

/-- The number of bytes that symbols take. -/
def byteLength : List Symbol → Nat
  | [] => 0
  | s :: rest => s.width + byteLength rest

/-- The number of the four hexadecimal digits that have to stand here. With fewer than four bytes
left it is the end that is missing, whatever those bytes are. -/
def codeUnit (s : List Symbol) : Except Fault Nat :=
  if byteLength (s.take 4) < 4 then .error (.cut false)
  else
    match (s.take 4).mapM hexValue? with
    | some ds => .ok (ds.foldl (fun n d => 16 * n + d) 0)
    | none => .error .malformed

/-- Is `n` the first half of a surrogate pair? -/
def isLeading (n : Nat) : Bool := 0xd800 ≤ n && n ≤ 0xdbff

/-- Is `n` the second half of a surrogate pair? -/
def isTrailing (n : Nat) : Bool := 0xdc00 ≤ n && n ≤ 0xdfff

/-- What a backslash begins. -/
structure Escape where
  /-- The character it stands for, or none for half of a surrogate pair. -/
  char? : Option Char
  /-- The number of symbols after the backslash. -/
  width : Nat

/-- What follows the first half of a surrogate pair: its second half, which completes the
character, or anything else. -/
def pair (leading : Nat) (s : List Symbol) : Except Fault Escape :=
  match s with
  | [] => .error (.cut false)
  | [.char '\\'] => .error (.cut false)
  | .char '\\' :: .char 'u' :: rest =>
    match codeUnit rest with
    | .error (.cut _) => .error (.cut false)
    | .error .malformed => .ok ⟨none, 5⟩
    | .ok n =>
      if isTrailing n then
        .ok ⟨some (.ofNat (0x10000 + 0x400 * (leading - 0xd800) + (n - 0xdc00))), 11⟩
      else .ok ⟨none, 5⟩
  | _ => .ok ⟨none, 5⟩

/-- What stands after a backslash. -/
def escape (s : List Symbol) : Except Fault Escape :=
  match s with
  | [] => .error (.cut false)
  | .char 'u' :: rest => do
    let n ← codeUnit rest
    if isLeading n then pair n (rest.drop 4)
    else if isTrailing n then pure ⟨none, 5⟩
    else pure ⟨some (.ofNat n), 5⟩
  | .char c :: _ =>
    match letterEscape? c with
    | some d => .ok ⟨some d, 1⟩
    | none => .error .malformed
  | .stray _ :: _ => .error .malformed

/-! ## Scanning -/

/-- A literal that has an end. -/
structure Scanned where
  chars : List Char
  /-- Does it denote a text? -/
  intact : Bool
  /-- The number of symbols up to and with the closing quotation mark. -/
  width : Nat
  deriving DecidableEq, Repr

/-- The text that a literal denotes. -/
def Scanned.content? (l : Scanned) : Option String :=
  if l.intact then some (.ofList l.chars) else none

/-- The literal with `c?` in front, which took one more symbol. -/
def Scanned.cons (c? : Option Char) (l : Scanned) : Scanned :=
  match c? with
  | some c => ⟨c :: l.chars, l.intact, l.width + 1⟩
  | none => ⟨l.chars, false, l.width + 1⟩

/-- Notes that half of a surrogate pair stands before the place of a fault. -/
def Fault.afterLone : Fault → Fault
  | .cut _ => .cut true
  | .malformed => .malformed

/-- Reads up to the closing quotation mark, after passing over `skip` symbols of an escape. -/
def scanFrom : Nat → List Symbol → Except Fault Scanned
  | _, [] => .error (.cut false)
  | skip + 1, _ :: rest => (scanFrom skip rest).map fun l => { l with width := l.width + 1 }
  | 0, .stray _ :: rest => (scanFrom 0 rest).map (Scanned.cons none)
  | 0, .char c :: rest =>
    if c = '"' then .ok ⟨[], true, 1⟩
    else if c = '\\' then
      match escape rest with
      | .error f => .error f
      | .ok ⟨some d, width⟩ => (scanFrom width rest).map (Scanned.cons (some d))
      | .ok ⟨none, width⟩ =>
        ((scanFrom width rest).map (Scanned.cons none)).mapError Fault.afterLone
    else if c < ' ' then .error .malformed
    else (scanFrom 0 rest).map (Scanned.cons (some c))

/-- Reads the rest of a literal whose opening quotation mark has been read. -/
def scan (s : List Symbol) : Except Fault Scanned := scanFrom 0 s

end ReverseReplication.Json.Literal
