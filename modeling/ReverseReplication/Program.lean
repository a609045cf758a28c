import ReverseReplication.CommandLine
import ReverseReplication.Config.Load
import ReverseReplication.Config.LogFilter
import ReverseReplication.Provision.Run

/-!
# The program

What the program prints and how it ends, as a plan: it loads the configuration, reads the request,
and carries out a run, or only normalizes the request.
-/

namespace ReverseReplication.Program

/-- What the program prints, and the code that it ends with. -/
structure Output where
  exitCode : UInt8
  stdout : String
  stderr : String
  deriving DecidableEq, Repr

/-- The random tokens of an execution. -/
structure Tokens where
  run : RunId
  readerSuffix : String
  writerSuffix : String
  deriving DecidableEq, Repr

/-! ## Reports -/

/-- A cause in a report: its lines, indented, behind its number where there are several. -/
def indented (number? : Option Nat) (text : String) : String :=
  let digits (n : Nat) := Text.Decimal.digits n
  let (lead, indent) := match number? with
    | none => ("    ", "    ")
    | some n => (String.ofList (List.replicate (5 - (digits n).length) ' ' ++ digits n) ++ ": ",
        "       ")
  lead ++ ("\n" ++ indent).intercalate ((text.toList.splitOn '\n').map String.ofList)

/-- What is printed when the program fails: what was being done, and the causes. -/
def report (doing : String) (causes : List String) : String :=
  let shown := match causes with
    | [cause] => [indented none cause]
    | _ => causes.mapIdx fun n cause => indented (some n) cause
  "Error: " ++ doing ++ "\n\nCaused by:\n" ++ "\n".intercalate shown ++ "\n"

/-- The messages of a request that was refused, outermost first. -/
def requestChain (e : RequestError) : List String :=
  (RunError.request e).message :: e.message ::
    match e with
    | .invalid _ => []
    | .lookup _ cause => [cause.message]

/-- A line about a pipeline's command. -/
def commandLine (p : RunningPipeline) : String := "  " ++ p.command ++ "\n"

/-- What is printed about a successful run. -/
def created (p : Provisioned) : String :=
  let bucketLine := match p.stagingBucket with
    | some bucket => "   Staging bucket: " ++ bucket ++ "\n"
    | none => ""
  "✅ Reverse replication job created\n" ++ "   Job ID: " ++ p.jobId ++ "\n"
    ++ "   Location: " ++ p.location ++ "\n" ++ bucketLine ++ "\n"
    ++ p.value.pretty ++ "\n\n" ++ "Equivalent launch commands:\n"
    ++ commandLine p.reader ++ commandLine p.writer

/-- What is printed about a request that is valid. -/
def valid (n : NormalizedRequest) : String :=
  "✅ Job request is valid\n" ++ (NormalizedRequest.codec.write n).pretty ++ "\n"

/-- What is printed about a log filter that is not well formed. -/
def filterWarning (filter : String) : String :=
  match LogFilter.fault? filter with
  | some fault => "⚠️  invalid log filter '" ++ filter ++ "': " ++ fault.message ++ "\n"
  | none => ""

/-! ## Execution -/

/-- A successful execution. -/
def success (text : String) : Output := ⟨0, text, ""⟩

/-- A failed execution. -/
def failure (text : String) : Output := ⟨1, "", text⟩

/-- Reads a file; nothing gives it up. -/
def readFile (path : String) : Plan (Except FileError Text.Bytes) := do
  return (← Plan.query (.file .detached path)).getD (.error .notFound)

/-- Loads the configuration. -/
def loadConfig (envFile? : Option String) (env : Environment) : Plan (Except ConfigError Config) :=
  match envFile? with
  | none => pure (Config.ofEnvironment env)
  | some path => do
    match Config.loadEnvFile path (← readFile path) env with
    | .ok env => pure (Config.ofEnvironment env)
    | .error e => pure (.error e)

/-- Reads the request. -/
def readRequest (path : String) : Plan (Except Output JobRequest) := do
  match ← readFile path with
  | .error e => pure (.error (failure (report ("reading job request " ++ path) [e.message])))
  | .ok bytes =>
    match JobRequest.codec.decode bytes with
    | .ok r => pure (.ok r)
    | .error e => pure (.error (failure (report ("parsing job request " ++ path) [e.message])))

/-- Carries out a command on a request. -/
def carryOut (command : Command) (config : Config) (r : JobRequest) (tokens : Tokens)
    (startedAt : Instant) : Plan Output :=
  match command with
  | .create => do
    let settings := config.settings tokens.readerSuffix tokens.writerSuffix
    match ← r.provision tokens.run config.rollback.compensateOnFailure settings startedAt with
    | .ok p => pure (success (created p))
    | .error e =>
      pure (failure ("❌ Failed to create reverse replication job: " ++ e.message ++ "\n"))
  | .validate => do
    match ← r.locate tokens.run with
    | .ok n => pure (success (valid n))
    | .error e => pure (failure (report "validating job request" (requestChain e)))

/-- Executes a complete command. -/
def execute (o : Options) (env : Environment) (tokens : Tokens) (startedAt : Instant) :
    Plan Output := do
  match ← loadConfig o.envFile env with
  | .error e => pure (failure (report "loading configuration" e.chain))
  | .ok config =>
    let output ← match ← readRequest o.request with
      | .ok r => carryOut o.command config r tokens startedAt
      | .error output => pure output
    pure { output with stderr := filterWarning config.logging.level ++ output.stderr }

/-- What is printed about the version. -/
def version : String := "rrctl 0.1.0\n"

/-- How the program is used. -/
def usage : String :=
  "Usage: rrctl [--env-file FILE] [--location LOCATION] (create | validate) --request FILE\n"

end ReverseReplication.Program
