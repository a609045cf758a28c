/-!
# Command lines

The program has two commands, `create` and `validate`, which both take the file of a request. Two
options may stand before or after the command. `Invocation.read` reads the arguments from left to
right; what it does not know ends it with `usage`.
-/

namespace ReverseReplication

/-- What the program is to do. -/
inductive Command where
  /-- Carry out a run. -/
  | create
  /-- Normalize the request only. -/
  | validate
  deriving DecidableEq, Repr

/-- The options that take a value. -/
inductive Setting where
  | envFile
  | location
  | request
  deriving DecidableEq, Repr

/-- The values given to the options, each at most once. -/
structure Given where
  envFile : Option String := none
  location : Option String := none
  request : Option String := none
  deriving DecidableEq, Repr, Inhabited

/-- A complete command. -/
structure Options where
  envFile : Option String
  /-- The location that every instance has. -/
  location : String
  command : Command
  /-- The file of the request. -/
  request : String
  deriving DecidableEq, Repr

/-- What the arguments ask for. -/
inductive Invocation where
  | run (options : Options)
  | version
  /-- The arguments make no sense. -/
  | usage
  deriving DecidableEq, Repr

namespace Given

/-- Gives a value to an option. Values of file options may not be empty, and no option may be given
twice. -/
def give? (g : Given) : Setting → String → Option Given
  | .envFile, v => if v = "" ∨ g.envFile.isSome then none else some { g with envFile := some v }
  | .location, v => if g.location.isSome then none else some { g with location := some v }
  | .request, v => if v = "" ∨ g.request.isSome then none else some { g with request := some v }

end Given

/-! ## Single arguments -/

/-- What an argument is. -/
inductive Argument where
  /-- An option, with its value where that is part of the argument. -/
  | setting (s : Setting) (value? : Option String)
  | version
  /-- The mark after which no option stands. -/
  | terminator
  | command (c : Command)
  | unknown
  deriving DecidableEq, Repr

/-- Does a text look like an option? A lone hyphen does not. -/
def looksLikeOption (s : String) : Bool := s.toList.head? = some '-' && s ≠ "-"

/-- The options by their names. Requests belong to commands. -/
def longSetting? (inCommand : Bool) (name : List Char) : Option Setting :=
  if name = "env-file".toList then some .envFile
  else if name = "location".toList then some .location
  else if name = "request".toList ∧ inCommand then some .request
  else none

/-- The value after an equals sign. -/
def attached? : List Char → Option String
  | '=' :: value => some (.ofList value)
  | _ => none

/-- Reads one argument. The version is asked for before a command, a request named after it. -/
def Argument.read (inCommand : Bool) (s : String) : Argument :=
  match s.toList with
  | ['-', '-'] => .terminator
  | '-' :: '-' :: rest =>
    let name := rest.takeWhile (· ≠ '=')
    let value? := attached? (rest.dropWhile (· ≠ '='))
    if name = "version".toList ∧ value? = none ∧ !inCommand then .version
    else
      match longSetting? inCommand name with
      | some named => .setting named value?
      | none => .unknown
  | '-' :: 'V' :: _ => if inCommand then .unknown else .version
  | '-' :: 'r' :: rest =>
    if inCommand then
      .setting .request (if rest = [] then none else (attached? rest).or (some (.ofList rest)))
    else .unknown
  | _ =>
    if inCommand then .unknown
    else if s = "create" then .command .create
    else if s = "validate" then .command .validate
    else .unknown

/-! ## Whole command lines -/

/-- What has been read so far: the options before the command, and the command with those after
it. -/
structure Progress where
  before : Given := {}
  command? : Option (Command × Given) := none
  deriving DecidableEq, Repr, Inhabited

namespace Progress

/-- Gives a value to an option, before or after the command. -/
def give? (p : Progress) (s : Setting) (v : String) : Option Progress :=
  match p.command? with
  | none => (p.before.give? s v).map fun before => { p with before }
  | some (c, g) => (g.give? s v).map fun g => { p with command? := some (c, g) }

/-- Ends a command line: a command and its request have to be there. An option given after the
command counts before one given in front of it. -/
def finish (p : Progress) : Invocation :=
  match p.command? with
  | some (command, g) =>
    match g.request with
    | some request =>
      .run {
        envFile := g.envFile.or p.before.envFile
        location := (g.location.or p.before.location).getD "us-central1"
        command
        request }
    | none => .usage
  | none => .usage

end Progress

namespace Invocation

/-- Reads arguments; `pending?` is an option that waits for its value. -/
def readFrom : Progress → Option Setting → List String → Invocation
  | p, none, [] => p.finish
  | _, some _, [] => .usage
  | p, some setting, value :: rest =>
    if looksLikeOption value then .usage
    else
      match p.give? setting value with
      | some p => readFrom p none rest
      | none => .usage
  | p, none, argument :: rest =>
    match Argument.read p.command?.isSome argument with
    | .setting setting none => readFrom p (some setting) rest
    | .setting setting (some value) =>
      match p.give? setting value with
      | some p => readFrom p none rest
      | none => .usage
    | .version => .version
    | .terminator => if rest = [] then p.finish else .usage
    | .command c => readFrom { p with command? := some (c, {}) } none rest
    | .unknown => .usage

/-- Reads the arguments of the program. -/
def read (arguments : List String) : Invocation := readFrom {} none arguments

end Invocation

end ReverseReplication
