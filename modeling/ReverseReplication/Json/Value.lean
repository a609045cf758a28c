import ReverseReplication.Json.Reader

/-!
# JSON values

A JSON value as a tree; the members of an object keep their order. A value is written as a token
list (`Value.tokens`), without spaces (`Value.compact`) or over several lines (`Value.pretty`), and
it is read by `Value.reader`, which takes a limit on how deep brackets may nest.
-/

namespace ReverseReplication.Json

/-- A JSON value. -/
inductive Value where
  | null
  | bool (b : Bool)
  | number (n : Numeral)
  | text (s : String)
  | array (items : List Value)
  | object (members : List (String × Value))
  deriving Repr, Inhabited

namespace Value

/-- An integer as a value. -/
def int (n : Int) : Value := .number (.ofInt n)

/-! ## Writing -/

mutual

/-- The tokens of a value. -/
def tokens : Value → List Token
  | .null => [.null]
  | .bool b => [.bool b]
  | .number n => [.number n]
  | .text s => [.text (some s)]
  | .array items => .openBracket :: itemTokens true items
  | .object members => .openBrace :: memberTokens true members

/-- The tokens of the items of an array and of its end; no comma stands before the first. -/
def itemTokens : Bool → List Value → List Token
  | _, [] => [.closeBracket]
  | true, v :: vs => v.tokens ++ itemTokens false vs
  | false, v :: vs => .comma :: v.tokens ++ itemTokens false vs

/-- The tokens of the members of an object and of its end. -/
def memberTokens : Bool → List (String × Value) → List Token
  | _, [] => [.closeBrace]
  | true, (name, v) :: ms => .text (some name) :: .colon :: v.tokens ++ memberTokens false ms
  | false, (name, v) :: ms =>
    .comma :: .text (some name) :: .colon :: v.tokens ++ memberTokens false ms

end

/-- The value as a text without spaces. -/
def compact (v : Value) : String := spell v.tokens

/-- A new line, indented by `depth` steps of two spaces. -/
def newLine (depth : Nat) : List Char := '\n' :: List.replicate (2 * depth) ' '

mutual

/-- The characters of a value over several lines, inside `depth` brackets. -/
def prettyChars (depth : Nat) : Value → List Char
  | .array [] => ['[', ']']
  | .array (v :: vs) =>
    '[' :: newLine (depth + 1) ++ v.prettyChars (depth + 1) ++ prettyItems depth vs
  | .object [] => ['{', '}']
  | .object ((name, v) :: ms) =>
    '{' :: newLine (depth + 1) ++ Literal.spell name ++ [':', ' '] ++ v.prettyChars (depth + 1)
      ++ prettyMembers depth ms
  | .null => Token.null.spell
  | .bool b => (Token.bool b).spell
  | .number n => n.spell
  | .text s => Literal.spell s

/-- The items of an array after the first, and its end. -/
def prettyItems (depth : Nat) : List Value → List Char
  | [] => newLine depth ++ [']']
  | v :: vs => ',' :: newLine (depth + 1) ++ v.prettyChars (depth + 1) ++ prettyItems depth vs

/-- The members of an object after the first, and its end. -/
def prettyMembers (depth : Nat) : List (String × Value) → List Char
  | [] => newLine depth ++ ['}']
  | (name, v) :: ms =>
    ',' :: newLine (depth + 1) ++ Literal.spell name ++ [':', ' '] ++ v.prettyChars (depth + 1)
      ++ prettyMembers depth ms

end

/-- The value with each item and each member on a line of its own. -/
def pretty (v : Value) : String := String.ofList (v.prettyChars 0)

/-! ## Reading -/

/-- Reads a value whose brackets nest at most `depth` deep. -/
def reader : Nat → Reader Value
  | 0, .openBracket :: _ => .error .malformed
  | 0, .openBrace :: _ => .error .malformed
  | depth + 1, .openBracket :: rest =>
    Reader.map .array (Reader.elementsFrom (reader depth) true (rest.length + 1)) rest
  | depth + 1, .openBrace :: rest =>
    Reader.map (fun ms => .object ms.reverse)
      (Reader.membersFrom
        (fun name ms => Reader.map (fun v => (name, v) :: ms) (Reader.afterColon (reader depth)))
        true (rest.length + 1) []) rest
  | _, [] => .error .endOfInput
  | _, .number n :: rest => if n.overflows then .error .malformed else .ok (.number n, rest)
  | _, .null :: rest => .ok (.null, rest)
  | _, .bool b :: rest => .ok (.bool b, rest)
  | _, .text (some s) :: rest => .ok (.text s, rest)
  | _, .broken cause :: _ => .error cause.whenRead
  | _, _ => .error .malformed

/-- How deep brackets may nest in a value that is kept as a tree. -/
def depthLimit : Nat := 127

/-- The value that bytes hold. -/
def parse (bs : Text.Bytes) : Except ReadError Value := Reader.bytes (reader depthLimit) bs

/-- The first member of an object with the given name. -/
def member? (v : Value) (name : String) : Option Value :=
  match v with
  | .object ms => ms.lookup name
  | _ => none

end Value

end ReverseReplication.Json
