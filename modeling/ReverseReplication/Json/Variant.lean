import ReverseReplication.Json.Codec

/-!
# Variants: enumerations as JSON texts

A value of an enumeration is written as its name. It is read from its name, or from a map whose one
member has this name and is `null`. As in any map, what is no text cannot be a name there: it makes
the text malformed, and is not held against the names of the enumeration.
-/

namespace ReverseReplication.Json

/-- The values of an enumeration, with their names in JSON. -/
structure Variants (α : Type) where
  known : List (String × α)
  name : α → String

namespace Variants

variable {α : Type}

/-- The value with the given name. -/
def ofName (v : Variants α) (name : String) : Except ReadError α :=
  match v.known.lookup name with
  | some a => .ok a
  | none => .error (.mismatch (.unknownVariant name (v.known.map Prod.fst)))

/-- Reads what follows the name in a map: a `null` and the closing brace. -/
def closeMap : Reader Unit := fun ts =>
  let null : Reader Unit := Reader.scalar "unit" fun t => if t = .null then some () else none
  match Reader.afterColon null ts with
  | .ok ((), .closeBrace :: rest) => .ok ((), rest)
  | .ok ((), []) => .error .endOfInput
  | .ok ((), _ :: _) => .error .malformed
  | .error e => .error e

/-- Reads a value of the enumeration. -/
def read (v : Variants α) : Reader α
  | [] => .error .endOfInput
  | .text (some name) :: rest => (v.ofName name).map (·, rest)
  | .openBrace :: rest =>
    match Reader.memberName rest with
    | .ok (name, rest) =>
      match v.ofName name with
      | .ok a => Reader.map (fun _ => a) closeMap rest
      | .error e => .error e
    | .error e => .error e
  | .broken cause :: _ => .error (if cause.isText then cause.whenRead else .malformed)
  | _ => .error .malformed

/-- The codec of an enumeration. -/
def codec (v : Variants α) : Codec α where
  read := v.read
  write a := .text (v.name a)

end Variants

end ReverseReplication.Json
