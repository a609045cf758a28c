import ReverseReplication.Json.ReadError

/-!
# Readers of tokens

A reader takes a value off the front of a token list. Readers go from left to right and stop at
the first thing that is wrong, so of two faults in a text the first one is reported. The loops over
the elements of a sequence and over the members of a map are here; the kinds of values are in the
modules that use them.
-/

namespace ReverseReplication.Json

/-- Takes a value off the front of a token list, or says why there is none. -/
abbrev Reader (α : Type) := List Token → Except ReadError (α × List Token)

namespace Reader

variable {α β σ : Type}

/-- Changes what a reader has read. -/
def map (f : α → β) (read : Reader α) : Reader β := fun ts =>
  match read ts with
  | .ok (a, rest) => .ok (f a, rest)
  | .error e => .error e

/-- Refuses the value that stands here, because `expected` is wanted. -/
def unexpected (expected : String) : Reader α
  | [] => .error .endOfInput
  | t :: _ =>
    match t.found with
    | .ok found => .error (.mismatch (.invalidType found expected))
    | .error e => .error e

/-- Reads a value of one token. -/
def scalar (expected : String) (accept : Token → Option α) : Reader α
  | [] => .error .endOfInput
  | t :: rest =>
    match accept t with
    | some a => .ok (a, rest)
    | none => unexpected expected (t :: rest)

/-- Reads an integer that `accept` admits. -/
def integer (expected : String) (accept : Int → Option α) : Reader α
  | [] => .error .endOfInput
  | t :: rest =>
    match t.found with
    | .ok (.integer n) =>
      match accept n with
      | some a => .ok (a, rest)
      | none => .error (.mismatch (.invalidValue n expected))
    | _ => unexpected expected (t :: rest)

/-- The text of a text token that denotes one. -/
def textOf? : Token → Option String
  | .text content? => content?
  | _ => none

/-- Reads a text; `expected` names what it should be. -/
def text (expected : String) : Reader String := scalar expected textOf?

/-- Reads what stands after a colon. -/
def afterColon (read : Reader α) : Reader α
  | [] => .error .endOfInput
  | .colon :: rest => read rest
  | _ => .error .malformed

/-! ## Sequences and maps -/

/-- Reads the elements that are left of a sequence and its closing bracket. -/
def elementsFrom (item : Reader α) : Bool → Nat → Reader (List α)
  | _, 0, _ => .error .malformed
  | _, _ + 1, [] => .error .endOfInput
  | _, _ + 1, .closeBracket :: rest => .ok ([], rest)
  | true, fuel + 1, t :: rest =>
    match item (t :: rest) with
    | .ok (a, rest) => map (a :: ·) (elementsFrom item false fuel) rest
    | .error e => .error e
  | false, fuel + 1, .comma :: rest =>
    match item rest with
    | .ok (a, rest) => map (a :: ·) (elementsFrom item false fuel) rest
    | .error e => .error e
  | false, _ + 1, _ => .error .malformed

/-- Reads a sequence. -/
def sequence (expected : String) (item : Reader α) : Reader (List α)
  | .openBracket :: rest => elementsFrom item true (rest.length + 1) rest
  | ts => unexpected expected ts

/-- Reads the name of a member of a map. Nothing but a text may stand there. -/
def memberName : Reader String
  | [] => .error .endOfInput
  | .text (some name) :: rest => .ok (name, rest)
  | .broken cause :: _ => .error (if cause.isText then cause.whenRead else .malformed)
  | _ => .error .malformed

/-- Reads the members that are left of a map and its closing brace. `member name s` reads what
stands after the name, from the colon on, and takes it into `s`. -/
def membersFrom (member : String → σ → Reader σ) : Bool → Nat → σ → Reader σ
  | _, 0, _, _ => .error .malformed
  | _, _ + 1, _, [] => .error .endOfInput
  | _, _ + 1, s, .closeBrace :: rest => .ok (s, rest)
  | true, fuel + 1, s, t :: rest =>
    match memberName (t :: rest) with
    | .ok (name, rest) =>
      match member name s rest with
      | .ok (s, rest) => membersFrom member false fuel s rest
      | .error e => .error e
    | .error e => .error e
  | false, fuel + 1, s, .comma :: rest =>
    match memberName rest with
    | .ok (name, rest) =>
      match member name s rest with
      | .ok (s, rest) => membersFrom member false fuel s rest
      | .error e => .error e
    | .error e => .error e
  | false, _ + 1, _, _ => .error .malformed

/-- Reads a map, beginning with `s`. -/
def members (expected : String) (member : String → σ → Reader σ) (s : σ) : Reader σ
  | .openBrace :: rest => membersFrom member true (rest.length + 1) s rest
  | ts => unexpected expected ts

/-! ## Ignored values -/

/-- A bracket that waits to be closed. -/
inductive Bracket where
  | array
  | object
  deriving DecidableEq, Repr

/-- What an ignored value has to go on with. -/
inductive Place where
  /-- A value. -/
  | value
  /-- An element, or the end of an empty array. -/
  | firstElement
  /-- The name of a member. -/
  | name
  /-- The name of a member, or the end of an empty object. -/
  | firstName
  /-- The colon after a name. -/
  | colon
  /-- A comma or a closing bracket. -/
  | after
  deriving DecidableEq, Repr

/-- Passes over what is left of a value that began at the bottom of the stack of open brackets.
There is no limit to the depth. -/
def ignoreFrom : Place → List Bracket → Reader Unit
  | _, _, [] => .error .endOfInput
  | place, stack, t :: rest =>
    match place, t, stack with
    | .after, .comma, .array :: _ => ignoreFrom .value stack rest
    | .after, .comma, .object :: _ => ignoreFrom .name stack rest
    | .after, .closeBracket, .array :: outer
    | .firstElement, .closeBracket, .array :: outer
    | .after, .closeBrace, .object :: outer
    | .firstName, .closeBrace, .object :: outer =>
      if outer = [] then .ok ((), rest) else ignoreFrom .after outer rest
    | .name, .text _, _ | .firstName, .text _, _ => ignoreFrom .colon stack rest
    | .name, .broken cause, _ | .firstName, .broken cause, _ =>
      .error (if cause.isText then cause.whenIgnored else .malformed)
    | .colon, .colon, _ => ignoreFrom .value stack rest
    | .value, .openBracket, _ | .firstElement, .openBracket, _ =>
      ignoreFrom .firstElement (.array :: stack) rest
    | .value, .openBrace, _ | .firstElement, .openBrace, _ =>
      ignoreFrom .firstName (.object :: stack) rest
    | .value, .broken cause, _ | .firstElement, .broken cause, _ => .error cause.whenIgnored
    | .value, .null, _ | .value, .bool _, _ | .value, .number _, _ | .value, .text _, _
    | .firstElement, .null, _ | .firstElement, .bool _, _ | .firstElement, .number _, _
    | .firstElement, .text _, _ =>
      if stack = [] then .ok ((), rest) else ignoreFrom .after stack rest
    | _, _, _ => .error .malformed

/-- Passes over one value. -/
def ignore : Reader Unit := ignoreFrom .value []

/-! ## Whole texts -/

/-- Reads a token list that holds one value and nothing else. -/
def document (read : Reader α) (ts : List Token) : Except ReadError α :=
  match read ts with
  | .ok (a, []) => .ok a
  | .ok (_, _ :: _) => .error .malformed
  | .error e => .error e

/-- Reads bytes that hold one value and nothing else. -/
def bytes (read : Reader α) (bs : Text.Bytes) : Except ReadError α :=
  document read (tokens (Text.symbols bs))

end Reader

end ReverseReplication.Json
