import ReverseReplication.Text.Unprintable

/-!
# Quoted texts

How a text is shown inside an error message: between quotation marks, with a quotation mark and a
backslash escaped, the common controls as letters, and every other character that has no glyph of
its own as the hexadecimal number of its code point.
-/

namespace ReverseReplication.Text

/-- The lowercase hexadecimal digits of `n`. -/
def hexDigits (n : Nat) : List Char := Nat.toDigits 16 n

/-- One character as it stands between quotation marks. -/
def quoteChar (c : Char) : List Char :=
  match c with
  | '"' => ['\\', '"']
  | '\\' => ['\\', '\\']
  | '\n' => ['\\', 'n']
  | '\r' => ['\\', 'r']
  | '\t' => ['\\', 't']
  | '\x00' => ['\\', '0']
  | _ => if isUnprintable c then ['\\', 'u', '{'] ++ hexDigits c.toNat ++ ['}'] else [c]

/-- A text between quotation marks. -/
def quoted (s : String) : String :=
  String.ofList ('"' :: s.toList.flatMap quoteChar ++ ['"'])

end ReverseReplication.Text
