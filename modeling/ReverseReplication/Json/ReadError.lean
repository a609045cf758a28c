import ReverseReplication.Json.Token
import ReverseReplication.Text.Quoted

/-!
# Why a JSON text is refused

A text is refused because it ends too early, because it is no JSON, or because it is JSON of
another shape than the one wanted. The last kind says what was found and what was wanted.
-/

namespace ReverseReplication.Json

open ReverseReplication.Text (quoted)

/-- What stands where a value of another kind was wanted. -/
inductive Found where
  | null
  | bool (b : Bool)
  | integer (n : Int)
  /-- A number that is no integer in range. -/
  | fraction
  | text (s : String)
  | sequence
  | map
  deriving DecidableEq, Repr

def Found.message : Found → String
  | .null => "null"
  | .bool true => "boolean `true`"
  | .bool false => "boolean `false`"
  | .integer n => "integer `" ++ String.ofList (Text.Decimal.ofInt n) ++ "`"
  | .fraction => "floating point"
  | .text s => "string " ++ quoted s
  | .sequence => "sequence"
  | .map => "map"

/-- How a JSON text differs from the shape that is wanted. -/
inductive Mismatch where
  | invalidType (found : Found) (expected : String)
  | invalidValue (n : Int) (expected : String)
  | invalidLength (n : Nat) (expected : String)
  | missingField (name : String)
  | duplicateField (name : String)
  | unknownVariant (name : String) (known : List String)
  /-- A text that is not what it should spell, for a reason given in words. -/
  | invalidText (reason : String)
  deriving DecidableEq, Repr

/-- The names that were to be chosen from. -/
def oneOf (names : List String) : String :=
  let quotedNames := names.map fun s => "`" ++ s ++ "`"
  match quotedNames with
  | [a] => a
  | [a, b] => a ++ " or " ++ b
  | _ => "one of " ++ ", ".intercalate quotedNames

def Mismatch.message : Mismatch → String
  | .invalidType found expected => "invalid type: " ++ found.message ++ ", expected " ++ expected
  | .invalidValue n expected =>
    "invalid value: " ++ (Found.integer n).message ++ ", expected " ++ expected
  | .invalidLength n expected =>
    "invalid length " ++ String.ofList (Text.Decimal.digits n) ++ ", expected " ++ expected
  | .missingField name => "missing field `" ++ name ++ "`"
  | .duplicateField name => "duplicate field `" ++ name ++ "`"
  | .unknownVariant name known => "unknown variant `" ++ name ++ "`, expected " ++ oneOf known
  | .invalidText reason => reason

/-- Why a JSON text is refused. -/
inductive ReadError where
  /-- It ends too early. -/
  | endOfInput
  /-- It is no JSON text, or more than one value. -/
  | malformed
  /-- It is JSON of another shape. -/
  | mismatch (m : Mismatch)
  deriving DecidableEq, Repr

def ReadError.message : ReadError → String
  | .endOfInput => "<json eof>"
  | .malformed => "<json syntax>"
  | .mismatch m => "<json data: " ++ m.message ++ ">"

/-! ## Broken tokens -/

/-- What a broken token means to a reader that wants the value. -/
def Broken.whenRead : Broken → ReadError
  | .openText lone => if lone then .malformed else .endOfInput
  | .badText => .malformed
  | .openWord => .endOfInput
  | .openNumeral => .endOfInput
  | .foreign => .malformed

/-- What a broken token means to a reader that ignores the value. -/
def Broken.whenIgnored : Broken → ReadError
  | .openText _ => .endOfInput
  | .badText => .malformed
  | .openWord => .endOfInput
  | .openNumeral => .malformed
  | .foreign => .malformed

/-- Does a broken text stand here? -/
def Broken.isText : Broken → Bool
  | .openText _ => true
  | .badText => true
  | _ => false

/-- The kind of value that a token begins. -/
def Token.found : Token → Except ReadError Found
  | .null => .ok .null
  | .bool b => .ok (.bool b)
  | .number n =>
    if n.overflows then .error .malformed
    else
      match n.int? with
      | some k => .ok (.integer k)
      | none => .ok .fraction
  | .text (some s) => .ok (.text s)
  | .text none => .error .malformed
  | .openBracket => .ok .sequence
  | .openBrace => .ok .map
  | .broken cause => .error cause.whenRead
  | .closeBrace | .closeBracket | .colon | .comma => .error .malformed

end ReverseReplication.Json
