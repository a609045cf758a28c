import ReverseReplication.Json.Codec

/-!
# Records: structures as JSON maps

A record describes a structure by its fields (`Slot`): the name each has in JSON, how it is read
into the structure and how it is written. A record is read from a map, with the members in any
order and unknown ones ignored, or from a sequence that holds the fields in their order. It is
written as a map.

`Record.reader` takes what is done with unknown members as an argument, for a structure whose map
also holds the members of another one.
-/

namespace ReverseReplication.Json

/-- A field of a structure `σ`. -/
structure Slot (σ : Type) where
  /-- Its name in JSON. -/
  name : String
  /-- May it be missing from a map? Then it stays blank. -/
  optional : Bool
  /-- Reads the field, to be set in the structure. -/
  read : Reader (σ → σ)
  write : σ → Value

/-- A field that has to be there. -/
def Slot.required {σ α : Type} (name : String) (c : Codec α) (get : σ → α) (set : α → σ → σ) :
    Slot σ where
  name := name
  optional := false
  read := c.read.map set
  write s := c.write (get s)

/-- A field that may be missing. -/
def Slot.maybe {σ α : Type} (name : String) (c : Codec α) (get : σ → α) (set : α → σ → σ) :
    Slot σ :=
  { required name c get set with optional := true }

/-- The fields of a structure `σ`. -/
structure Record (σ : Type) where
  /-- The name of the structure in error messages. -/
  title : String
  slots : List (Slot σ)
  /-- The structure before any field has been read. -/
  blank : σ
  /-- May every field be missing? -/
  lenient : Bool

namespace Record

variable {σ ω : Type}

/-- How far a map has been read: the fields seen so far, the structure with these fields, and what
was made of the unknown members. -/
structure Progress (σ ω : Type) where
  seen : List String
  value : σ
  others : ω

/-- The field with the given name. -/
def slot? (r : Record σ) (name : String) : Option (Slot σ) := r.slots.find? (·.name = name)

/-- Reads what stands after the name of a member. -/
def member (r : Record σ) (other : String → ω → Reader ω) (name : String) (p : Progress σ ω) :
    Reader (Progress σ ω) :=
  match r.slot? name with
  | some slot =>
    if name ∈ p.seen then fun _ => .error (.mismatch (.duplicateField name))
    else
      (Reader.afterColon slot.read).map fun set =>
        { p with seen := name :: p.seen, value := set p.value }
  | none => (Reader.afterColon (other name p.others)).map fun o => { p with others := o }

/-- The first field that has to be there and is not among the names. -/
def missing? (r : Record σ) (seen : List String) : Option String :=
  if r.lenient then none
  else (r.slots.find? fun slot => !slot.optional && slot.name ∉ seen).map Slot.name

/-- Accepts a map if no field is missing. -/
def finish (r : Record σ) (p : Progress σ ω) : Except ReadError (σ × ω) :=
  match r.missing? p.seen with
  | some name => .error (.mismatch (.missingField name))
  | none => .ok (p.value, p.others)

/-- What was expected where no record stands. -/
def expected (r : Record σ) : String := "struct " ++ r.title

/-- Reads the record from a map. -/
def reader (r : Record σ) (other : String → ω → Reader ω) (start : ω) : Reader (σ × ω) := fun ts =>
  match Reader.members r.expected (r.member other) ⟨[], r.blank, start⟩ ts with
  | .ok (p, rest) => (r.finish p).map (·, rest)
  | .error e => .error e

/-- Passes over an unknown member. -/
def ignoreOther (_ : String) (_ : Unit) : Reader Unit := Reader.ignore

/-- Reads the fields that are left of a sequence and its closing bracket; `index` fields have been
read. -/
def fieldsFrom (r : Record σ) : List (Slot σ) → Nat → σ → Reader σ
  | [], _, s, .closeBracket :: rest => .ok (s, rest)
  | [], _, _, [] => .error .endOfInput
  | [], _, _, _ :: _ => .error .malformed
  | _ :: _, _, _, [] => .error .endOfInput
  | _ :: _, index, s, .closeBracket :: rest =>
    if r.lenient then .ok (s, rest)
    else
      let elements := if r.slots.length = 1 then " element" else " elements"
      .error (.mismatch (.invalidLength index
        (r.expected ++ " with " ++ String.ofList (Text.Decimal.digits r.slots.length) ++ elements)))
  | slot :: slots, 0, s, t :: rest =>
    match slot.read (t :: rest) with
    | .ok (set, rest) => r.fieldsFrom slots 1 (set s) rest
    | .error e => .error e
  | slot :: slots, index + 1, s, .comma :: rest =>
    match slot.read rest with
    | .ok (set, rest) => r.fieldsFrom slots (index + 2) (set s) rest
    | .error e => .error e
  | _ :: _, _ + 1, _, _ :: _ => .error .malformed

/-- Reads the record from a map or from a sequence. -/
def read (r : Record σ) : Reader σ
  | .openBracket :: rest => r.fieldsFrom r.slots 0 r.blank rest
  | ts => (r.reader ignoreOther ()).map Prod.fst ts

/-- The members of the record as a map. -/
def members (r : Record σ) (s : σ) : List (String × Value) :=
  r.slots.map fun slot => (slot.name, slot.write s)

/-- The codec of a structure. -/
def codec (r : Record σ) : Codec σ where
  read := r.read
  write s := .object (r.members s)

end Record

end ReverseReplication.Json
