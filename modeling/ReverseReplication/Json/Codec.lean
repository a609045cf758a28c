import ReverseReplication.Json.Value
import ReverseReplication.Table

/-!
# Codecs: how a type is written as JSON and read from it

A codec pairs a reader with a writer. The codecs of the simple types are here: texts, truth values,
integers of a fixed width, sequences, sets and tables of texts, and values that may be absent or
`null`.
-/

namespace ReverseReplication.Json

/-- How values of a type are read from JSON and written as JSON. -/
structure Codec (α : Type) where
  read : Reader α
  write : α → Value

namespace Codec

variable {α β : Type}

/-- Reads bytes that hold one value. -/
def decode (c : Codec α) (bs : Text.Bytes) : Except ReadError α := c.read.bytes bs

/-- The text of a value, without spaces. -/
def encode (c : Codec α) (a : α) : String := (c.write a).compact

/-- Reads a value that is held as a tree. -/
def ofValue (c : Codec α) (v : Value) : Except ReadError α := c.read.document v.tokens

/-- The codec of a type that wraps another one. -/
def wrap (c : Codec α) (into : α → β) (out : β → α) : Codec β where
  read := c.read.map into
  write b := c.write (out b)

/-! ## Single tokens -/

def text : Codec String where
  read := Reader.text "a string"
  write := .text

def bool : Codec Bool where
  read := Reader.scalar "a boolean" fun
    | .bool b => some b
    | _ => none
  write := .bool

def int32 : Codec Int32 where
  read := Reader.integer "i32" fun n =>
    if Int32.minValue.toInt ≤ n ∧ n ≤ Int32.maxValue.toInt then some (.ofInt n) else none
  write n := .int n.toInt

def int64 : Codec Int64 where
  read := Reader.integer "i64" fun n =>
    if Int64.minValue.toInt ≤ n ∧ n ≤ Int64.maxValue.toInt then some (.ofInt n) else none
  write n := .int n.toInt

def uint32 : Codec UInt32 where
  read := Reader.integer "u32" fun n =>
    if 0 ≤ n ∧ n < UInt32.size then some (.ofNat n.toNat) else none
  write n := .int n.toNat

/-! ## Collections -/

def list (c : Codec α) : Codec (List α) where
  read := Reader.sequence "a sequence" c.read
  write as := .array (as.map c.write)

/-- A set of texts, as a sequence; in a text it may be in any order and repeat itself. -/
def textSet : Codec (Table String Unit) :=
  (list text).wrap (fun ss => .ofList (ss.map (·, ()))) Table.keys

/-- A table of texts, as a map. Of two members with one name the later counts. -/
def textTable : Codec (Table String String) where
  read := Reader.members "a map"
    (fun name t => (Reader.afterColon text.read).map (t.insert name)) .empty
  write t := .object (t.entries.map fun e => (e.1, .text e.2))

/-! ## Null -/

/-- A value or `null`. -/
def optional (c : Codec α) : Codec (Option α) where
  read
    | .null :: rest => .ok (none, rest)
    | ts => c.read.map some ts
  write
    | some a => c.write a
    | none => .null

/-- A value that `null` leaves at `blank`. -/
def nullAs (blank : α) (c : Codec α) : Codec α where
  read := c.optional.read.map fun a? => a?.getD blank
  write := c.write

end Codec

end ReverseReplication.Json
