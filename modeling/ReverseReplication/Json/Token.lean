import ReverseReplication.Json.Literal
import ReverseReplication.Json.Numeral

/-!
# JSON texts as token lists

A JSON text is read in two steps: its symbols become tokens (`tokens`), and typed readers take
tokens one by one. Where the symbols cannot go on as a token, the list ends with a `broken` token:
an error only counts once a reader gets there, and what it counts as depends on whether the reader
wants the value or ignores it. A token list is written with `spell`.
-/

namespace ReverseReplication.Json

open ReverseReplication.Text (Symbol)

/-- Why reading cannot go on. -/
inductive Broken where
  /-- The input ends inside a text; `lone` says that half of a surrogate pair stands in it. -/
  | openText (lone : Bool)
  /-- A text holds a control character, or a backslash that begins no escape. -/
  | badText
  /-- The input ends inside `null`, `true` or `false`. -/
  | openWord
  /-- The input ends where a digit of a number has to stand. -/
  | openNumeral
  /-- Nothing that may stand in a JSON text. -/
  | foreign
  deriving DecidableEq, Repr

/-- A token of a JSON text. -/
inductive Token where
  | openBrace
  | closeBrace
  | openBracket
  | closeBracket
  | colon
  | comma
  | null
  | bool (b : Bool)
  /-- A text literal, with the text it denotes if it denotes one. -/
  | text (content? : Option String)
  | number (n : Numeral)
  | broken (cause : Broken)
  deriving DecidableEq, Repr

namespace Token

/-! ## Scanning -/

/-- Is `c` blank between tokens? -/
def isSpace (c : Char) : Bool := c = ' ' || c = '\n' || c = '\t' || c = '\r'

/-- The punctuation mark that `c` is. -/
def mark? (c : Char) : Option Token :=
  match c with
  | '{' => some .openBrace
  | '}' => some .closeBrace
  | '[' => some .openBracket
  | ']' => some .closeBracket
  | ':' => some .colon
  | ',' => some .comma
  | _ => none

/-- The word that begins with `c`: its further letters, and its token. -/
def word? (c : Char) : Option (List Char × Token) :=
  match c with
  | 'n' => some (['u', 'l', 'l'], .null)
  | 't' => some (['r', 'u', 'e'], .bool true)
  | 'f' => some (['a', 'l', 's', 'e'], .bool false)
  | _ => none

/-- Do the symbols begin with the letters? If not, either the input ends among them or another
symbol stands there. -/
def expectLetters : List Char → List Symbol → Except Broken Unit
  | [], _ => .ok ()
  | _ :: _, [] => .error .openWord
  | c :: cs, s :: rest => if s = .char c then expectLetters cs rest else .error .foreign

/-- The fault of a text literal as a reason to stop. -/
def ofLiteralFault : Literal.Fault → Broken
  | .cut lone => .openText lone
  | .malformed => .badText

/-- The fault of a number as a reason to stop. -/
def ofNumeralFault : Numeral.Fault → Broken
  | .cut => .openNumeral
  | .malformed => .foreign

/-- The token that `c` and the symbols after it begin with, and how many symbols after `c` belong
to it. -/
def next (c : Char) (rest : List Symbol) : Except Broken (Token × Nat) :=
  match mark? c, word? c with
  | some t, _ => .ok (t, 0)
  | none, some (letters, t) => do
    expectLetters letters rest
    pure (t, letters.length)
  | none, none =>
    if c = '"' then
      match Literal.scan rest with
      | .ok l => .ok (.text l.content?, l.width)
      | .error f => .error (ofLiteralFault f)
    else if c = '-' ∨ Text.Decimal.isDigit c then
      match Numeral.scan (.char c :: rest) with
      | .ok n => .ok (.number n, n.spell.length - 1)
      | .error f => .error (ofNumeralFault f)
    else .error .foreign

/-- Reads tokens, after passing over `skip` symbols of the token before. -/
def tokensFrom : Nat → List Symbol → List Token
  | _, [] => []
  | skip + 1, _ :: rest => tokensFrom skip rest
  | 0, .stray _ :: _ => [.broken .foreign]
  | 0, .char c :: rest =>
    if isSpace c then tokensFrom 0 rest
    else
      match next c rest with
      | .ok (t, width) => t :: tokensFrom width rest
      | .error cause => [.broken cause]

end Token

/-- The tokens of a JSON text. -/
def tokens (s : List Symbol) : List Token := Token.tokensFrom 0 s

/-! ## Spelling -/

/-- The characters of a token. A token that denotes nothing has none. -/
def Token.spell : Token → List Char
  | .openBrace => ['{']
  | .closeBrace => ['}']
  | .openBracket => ['[']
  | .closeBracket => [']']
  | .colon => [':']
  | .comma => [',']
  | .null => ['n', 'u', 'l', 'l']
  | .bool true => ['t', 'r', 'u', 'e']
  | .bool false => ['f', 'a', 'l', 's', 'e']
  | .text content? => Literal.spell (content?.getD "")
  | .number n => n.spell
  | .broken _ => []

/-- The shortest text of a token list: no space between tokens. -/
def spell (ts : List Token) : String := String.ofList (ts.flatMap Token.spell)

end ReverseReplication.Json
