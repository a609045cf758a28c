import ReverseReplication.Table
import ReverseReplication.Text.Alphanumeric
import ReverseReplication.Text.Blank
import ReverseReplication.Text.Decimal

/-!
# Environment files

An environment file assigns one variable a line: `NAME=value`, with an optional `export` in front.
A value may be quoted, hold escapes, refer to other variables, and be followed by a comment. The
lines are taken from the first to the last (`Environment.loadLines`); a variable that is already
set keeps its value, and a reference is replaced by what the variable is at that moment. The first
line that cannot be read ends the loading.

Values are texts, and any text can be one. Two things are left out. A process takes no variable with
a NUL in its value, so loading a file that assigns one ends the process, and does not only fail. And
the variables of a process may hold bytes that are no text.
-/

namespace ReverseReplication

open ReverseReplication.Text (isBlank trimStart trimEnd isAlphanumeric)

/-- Environment variables. -/
abbrev Environment := Table String String

namespace EnvFile

/-- The number of bytes of a text. -/
def byteLength : List Char → Nat
  | [] => 0
  | c :: cs => c.utf8Size + byteLength cs

/-- Where a line cannot be read: the text that was being read, and a place in it. -/
structure LineFault where
  text : String
  index : Nat
  deriving DecidableEq, Repr

def LineFault.message (f : LineFault) : String :=
  "Error parsing line: '" ++ f.text ++ "', error at line index: "
    ++ String.ofList (Text.Decimal.digits f.index)

/-! ## Values -/

/-- What is being read inside a value. -/
inductive Mode where
  /-- Outside of quotes. -/
  | bare
  /-- After a blank outside of quotes: only a comment may follow. -/
  | ended
  /-- Between single quotes, where every character stands for itself. -/
  | literal
  /-- Between double quotes. -/
  | quoted
  /-- After a backslash, outside of quotes or between double quotes. -/
  | escape (inQuotes : Bool)
  /-- In a reference that any character but a letter or a digit ends. -/
  | reference (inQuotes : Bool) (name : List Char)
  /-- In a reference between braces. -/
  | braced (inQuotes : Bool) (name : List Char)
  deriving DecidableEq, Repr

/-- The mode around an escape or a reference. -/
def Mode.around (inQuotes : Bool) : Mode := if inQuotes then .quoted else .bare

/-- Where a value cannot be read: at a character, or at its end because something is open. -/
inductive ValueFault where
  | character (index : Nat)
  | unclosed
  deriving DecidableEq, Repr

/-- What a character that is escaped stands for. -/
def escaped? (c : Char) : Option Char :=
  if c = '\\' ∨ c = '\'' ∨ c = '"' ∨ c = '$' ∨ c = ' ' then some c
  else if c = 'n' then some '\n'
  else none

/-- What one character of a value does: it adds characters to the value and changes the mode, it
begins a comment, or it may not stand there. -/
inductive Step where
  | go (add : List Char) (mode : Mode)
  | comment
  | refuse
  deriving DecidableEq, Repr

/-- Takes one character. `look` gives the value of a variable, or nothing for an unset one. -/
def step (look : String → List Char) : Mode → Char → Step
  | .ended, c =>
    if c = ' ' ∨ c = '\t' then .go [] .ended else if c = '#' then .comment else .refuse
  | .escape inQuotes, c =>
    match escaped? c with
    | some d => .go [d] (.around inQuotes)
    | none => .refuse
  | .literal, c => if c = '\'' then .go [] .bare else .go [c] .literal
  | .reference inQuotes name, c =>
    if isAlphanumeric c then .go [] (.reference inQuotes (name ++ [c]))
    else if c = '\x7b' ∧ name = [] then .go [] (.braced inQuotes [])
    else if c = '$' then .go (look (.ofList name)) (.reference inQuotes [])
    else .go (look (.ofList name) ++ [c]) (.around inQuotes)
  | .braced inQuotes name, c =>
    if c = '\x7d' then .go (look (.ofList name)) (.around inQuotes)
    else .go [] (.braced inQuotes (name ++ [c]))
  | .quoted, c =>
    if c = '$' then .go [] (.reference true [])
    else if c = '"' then .go [] .bare
    else if c = '\\' then .go [] (.escape true)
    else .go [c] .quoted
  | .bare, c =>
    if c = '$' then .go [] (.reference false [])
    else if c = '\'' then .go [] .literal
    else if c = '"' then .go [] .quoted
    else if c = '\\' then .go [] (.escape false)
    else if c = ' ' ∨ c = '\t' then .go [] .ended
    else .go [c] .bare

/-- What the end of a value adds to it. A reference ends there, and a lone backslash is dropped;
quotes and braces have to be closed. -/
def atEnd (look : String → List Char) : Mode → Except ValueFault (List Char)
  | .bare | .ended | .escape false => .ok []
  | .reference false name => .ok (look (.ofList name))
  | .literal | .quoted | .escape true | .reference true _ | .braced _ _ => .error .unclosed

/-- Reads the rest of a value; `index` characters have been read. -/
def valueFrom (look : String → List Char) : Mode → Nat → List Char → Except ValueFault (List Char)
  | mode, _, [] => atEnd look mode
  | mode, index, c :: cs =>
    match step look mode c with
    | .go add mode => (valueFrom look mode (index + 1) cs).map (add ++ ·)
    | .comment => .ok []
    | .refuse => .error (.character index)

/-- Reads a value. -/
def value (look : String → List Char) (cs : List Char) : Except LineFault String :=
  match valueFrom look .bare 0 cs with
  | .ok v => .ok (.ofList v)
  | .error (.character index) => .error ⟨.ofList cs, index⟩
  | .error .unclosed => .error ⟨.ofList cs, byteLength cs - 1⟩

/-! ## Lines -/

/-- May a name begin with `c`? -/
def beginsName (c : Char) : Bool := c.isAlpha || c = '_'

/-- May `c` stand in a name? -/
def continuesName (c : Char) : Bool := c.isAlphanum || c = '_' || c = '.'

/-- Does nothing follow but a comment? -/
def isComment (cs : List Char) : Bool := cs.head?.all (· = '#')

/-- Cuts a name and the blanks after it off the front; where no name stands, the characters are
given back as they are. -/
def name (cs : List Char) : Except (List Char) (List Char × List Char) :=
  if cs.head?.any beginsName then
    .ok (cs.takeWhile continuesName, trimStart (cs.dropWhile continuesName))
  else .error cs

/-- Cuts an equals sign and the blanks after it off the front. -/
def equalsSign (cs : List Char) : Except (List Char) (List Char) :=
  match cs with
  | '=' :: rest => .ok (trimStart rest)
  | _ => .error cs

/-- Cuts a line into the name and what stands for the value. A line that assigns nothing gives
nothing; a line that cannot be cut gives what is left of it at that place. `export` in front of a
name is passed over, but it is a name itself if an equals sign follows. -/
def cut (cs : List Char) : Except (List Char) (Option (List Char × List Char)) :=
  if isComment cs then .ok none
  else do
    let (key, rest) ← name cs
    match equalsSign rest with
    | .ok rest => pure (some (key, rest))
    | .error rest =>
      if key = "export".toList then
        let (key, rest) ← name rest
        pure (some (key, ← equalsSign rest))
      else throw rest

/-- Reads a line: the variable and its value, if it assigns one. -/
def assignment (look : String → List Char) (line : String) :
    Except LineFault (Option (String × String)) :=
  let body := trimEnd line.toList
  match cut (trimStart body) with
  | .error rest => .error ⟨line, byteLength body - byteLength rest⟩
  | .ok none => .ok none
  | .ok (some (key, rest)) =>
    if isComment rest then .ok (some (.ofList key, ""))
    else (value look rest).map fun v => some (.ofList key, v)

/-- Cuts a text into lines. A carriage return before the end of a line belongs to the end. -/
def lines (cs : List Char) : List String :=
  let pieces := cs.splitOn '\n'
  let ended := pieces.dropLast.map fun l => if l.getLast? = some '\r' then l.dropLast else l
  let last := (pieces.getLast?.getD [])
  (ended ++ (if last = [] then [] else [last])).map String.ofList

end EnvFile

namespace Environment

/-- Sets a variable, unless it is set. -/
def setUnset (env : Environment) (name value : String) : Environment :=
  if env.contains name then env else env.insert name value

/-- The environment that entries `name=value` make up. A name ends at the first equals sign, and of
two entries with one name the first counts. -/
def ofEntries (entries : List String) : Environment :=
  entries.foldl (fun env entry =>
    let name := entry.toList.takeWhile (· ≠ '=')
    env.setUnset (.ofList name) (.ofList (entry.toList.drop (name.length + 1)))) .empty

/-- What a reference to a variable is replaced by. It is looked up as a text that an entry
`name=value` begins with, an equals sign after it: so a reference may hold the begin of a value,
and the rest of that value replaces it. -/
def reference (env : Environment) (text : String) : List Char :=
  let name := text.toList.takeWhile (· ≠ '=')
  match env.get? (.ofList name), text.toList.drop name.length with
  | none, _ => []
  | some value, [] => value.toList
  | some value, _ :: start => ((start ++ ['=']).isPrefixOf? value.toList).getD []

/-- Loads the lines of an environment file. -/
def loadLines (env : Environment) : List String → Except EnvFile.LineFault Environment
  | [] => .ok env
  | line :: rest =>
    match EnvFile.assignment env.reference line with
    | .ok none => env.loadLines rest
    | .ok (some (name, value)) => (env.setUnset name value).loadLines rest
    | .error fault => .error fault

/-- Loads the text of an environment file. -/
def load (env : Environment) (text : String) : Except EnvFile.LineFault Environment :=
  env.loadLines (EnvFile.lines text.toList)

end Environment

end ReverseReplication
