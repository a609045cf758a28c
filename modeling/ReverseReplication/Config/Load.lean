import ReverseReplication.Config.Basic
import ReverseReplication.Config.EnvFile
import ReverseReplication.LocalFile
import ReverseReplication.ObjectPath

/-!
# Loading the configuration

The configuration is read from variables (`Config.ofVariables`) and then checked
(`Config.validate`). `Config.load` takes the variables from the environment, after loading an
environment file into it. Nothing falls back in silence: a variable that is set has to be right.

What a process does with a value that has a NUL in it, or that is no text, is left out, as it is in
`Environment.load`.
-/

namespace ReverseReplication

/-- Why an environment file was not loaded. -/
inductive EnvFile.Fault where
  /-- There is no such file. -/
  | missing (path : String)
  | unreadable (error : FileError)
  /-- The file holds bytes that are no text. -/
  | notText
  | line (fault : EnvFile.LineFault)
  deriving DecidableEq, Repr

def EnvFile.Fault.message : EnvFile.Fault → String
  | .missing path => "File not found: " ++ path
  | .unreadable error => error.message
  | .notText => "stream did not contain valid UTF-8"
  | .line fault => fault.message

/-- Is it the file that could not be read, and not a line in it? -/
def EnvFile.Fault.isInput : EnvFile.Fault → Bool
  | .line _ => false
  | _ => true

/-- Why a configuration was refused. -/
inductive ConfigError where
  | invalidValue (var value : String)
  | envFile (path : String) (fault : EnvFile.Fault)
  /-- A template that is not hosted. -/
  | templateNotHosted (var path : String)
  /-- A template path that names no object. -/
  | templateNotObject (var path : String)
  deriving DecidableEq, Repr

namespace ConfigError

def message : ConfigError → String
  | .invalidValue var value => "Invalid value for " ++ var ++ ": " ++ value
  | .envFile path fault => "Failed to load .env file from " ++ path ++ ": " ++ fault.message
  | .templateNotHosted var path =>
    "Configuration validation failed: " ++ var ++ " must start with " ++ hostedScheme ++ ", got: "
      ++ path
  | .templateNotObject var path =>
    "Configuration validation failed: " ++ var ++ " must name a bucket and an object, got: " ++ path

/-- The message and those of what caused it, outermost first. A file that could not be read is a
cause of a cause. -/
def chain (e : ConfigError) : List String :=
  match e with
  | .envFile _ fault =>
    e.message :: fault.message :: if fault.isInput then [fault.message] else []
  | _ => [e.message]

end ConfigError

namespace Config

/-! ## Reading variables -/

/-- Reads the log format. -/
def formatOf (value? : Option String) : Except ConfigError LogFormat :=
  match value? with
  | none => .ok .text
  | some s =>
    match LogFormat.known.lookup s with
    | some f => .ok f
    | none => .error (.invalidValue "RR_LOG_FORMAT" s)

/-- Reads whether failed runs are rolled back: a numeral of at most 255, where one says yes. -/
def rollbackOf (value? : Option String) : Except ConfigError Bool :=
  match Text.Decimal.unsigned? 255 (value?.getD "1").toList with
  | some n => .ok (n = 1)
  | none => .error (.invalidValue "RR_COMPENSATE_ON_FAILURE" "must be 0 or 1")

/-- Reads after how many days staged files are deleted; blanks around the numeral are free. -/
def ttlDaysOf (value? : Option String) : Except ConfigError UInt32 :=
  match value? with
  | none => .ok 0
  | some s =>
    match Text.Decimal.unsigned? (UInt32.size - 1) (Text.trim s.toList) with
    | some n => .ok (.ofNat n)
    | none => .error (.invalidValue "RR_STAGING_BUCKET_TTL_DAYS" s)

/-- The configuration that the variables describe. -/
def ofVariables (look : String → Option String) : Except ConfigError Config := do
  let level := ((look "RR_LOG_LEVEL").or (look "RUST_LOG")).getD "info"
  let format ← formatOf (look "RR_LOG_FORMAT")
  let compensateOnFailure ← rollbackOf (look "RR_COMPENSATE_ON_FAILURE")
  let blank : Templates := {}
  let reader := (look "RR_READER_TEMPLATE_PATH").getD blank.reader
  let writer := (look "RR_WRITER_TEMPLATE_PATH").getD blank.writer
  let ttlDays ← ttlDaysOf (look "RR_STAGING_BUCKET_TTL_DAYS")
  pure ⟨⟨level, format⟩, ⟨compensateOnFailure⟩, ⟨reader, writer⟩, ⟨ttlDays⟩⟩

/-! ## Checks -/

/-- Checks a template path. Templates are hosted objects, so something has to stand on both sides of
the first slash behind the scheme. The rule is the check's own, which does not keep the parts. -/
def validateTemplate (var path : String) : Except ConfigError Unit :=
  match afterScheme? path with
  | none => .error (.templateNotHosted var path)
  | some rest =>
    let bucket := rest.takeWhile (· ≠ '/')
    let object := (rest.dropWhile (· ≠ '/')).tail
    if bucket.isEmpty || object.isEmpty then .error (.templateNotObject var path) else .ok ()

/-- The levels that may stand alone. -/
def logLevels : List String := ["trace", "debug", "info", "warn", "error"]

/-- Checks a log level. A text with an equals sign or a comma is a list of directives, which is not
looked into here. -/
def validateLevel (level : String) : Except ConfigError Unit :=
  if '=' ∈ level.toList ∨ ',' ∈ level.toList then .ok ()
  else if String.ofList (level.toList.map Char.toLower) ∈ logLevels then .ok ()
  else .error (.invalidValue "RR_LOG_LEVEL" level)

/-- Checks a configuration. -/
def validate (c : Config) : Except ConfigError Unit := do
  validateLevel c.logging.level
  validateTemplate "RR_READER_TEMPLATE_PATH" c.templates.reader
  validateTemplate "RR_WRITER_TEMPLATE_PATH" c.templates.writer

/-! ## Loading -/

/-- Loads an environment file into an environment; `contents` is what reading the file gave. -/
def loadEnvFile (path : String) (contents : Except FileError Text.Bytes) (env : Environment) :
    Except ConfigError Environment :=
  match contents with
  | .error .isDirectory => .error (.envFile path (.unreadable .isDirectory))
  | .error _ => .error (.envFile path (.missing path))
  | .ok bytes =>
    match Text.decode? bytes with
    | none => .error (.envFile path .notText)
    | some text =>
      match env.load text with
      | .ok env => .ok env
      | .error fault => .error (.envFile path (.line fault))

/-- The configuration that an environment describes, if it passes the checks. -/
def ofEnvironment (env : Environment) : Except ConfigError Config := do
  let config ← ofVariables env.get?
  config.validate
  pure config

/-- The configuration of a process: an environment file, if one is given, then the environment. -/
def load (files : FileSystem) (envFile? : Option String) (env : Environment) :
    Except ConfigError Config :=
  match envFile? with
  | none => ofEnvironment env
  | some path =>
    match loadEnvFile path (files path) env with
    | .ok env => ofEnvironment env
    | .error e => .error e

end Config

end ReverseReplication
