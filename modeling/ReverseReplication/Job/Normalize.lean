import ReverseReplication.Job.Request
import ReverseReplication.Manager.Error
import ReverseReplication.ObjectPath
import ReverseReplication.Text.Blank

/-!
# Normalizing job requests

A request is checked (`JobRequest.violation?`) and filled (`JobRequest.fill`), independently of
each other: the checks look at what the caller gave, and filling never fails. A request is accepted
if no check is violated; otherwise the first violated check, in the order of the list, is reported.
The leader location of the target instance is looked up last.
-/

namespace ReverseReplication

/-! ## Checks -/

/-- What is wrong with a request. -/
inductive Violation where
  /-- A field that is needed is empty. -/
  | missing (field : String)
  | unsupportedSource (sourceType : String)
  | dataDirectoryNotHosted (path : String)
  | unknownFiltration (mode : String)
  | jarWithoutClass
  | classWithoutJar
  | jarNotHosted
  deriving DecidableEq, Repr

/-- The only source database that changes can be written back to. -/
def supportedSource : String := "mysql"

/-- Records written by the forward migration are dropped. -/
def forwardMigrationFilter : String := "forward_migration"

/-- Every record is passed on. -/
def noFilter : String := "none"

/-- The field that a violation is about. -/
def Violation.field : Violation → String
  | .missing field => field
  | .unsupportedSource _ => "sourceType"
  | .dataDirectoryNotHosted _ => "gcsDataDirectory"
  | .unknownFiltration _ => "filtrationMode"
  | .jarWithoutClass => "shardingCustomClassName"
  | .classWithoutJar => "shardingCustomJarPath"
  | .jarNotHosted => "shardingCustomJarPath"

/-- What is wrong with the field. -/
def Violation.reason : Violation → String
  | .missing _ => "found empty value for a required parameter"
  | .unsupportedSource sourceType =>
    sourceType ++ " is not supported for reverse replication, only " ++ supportedSource ++ " is"
  | .dataDirectoryNotHosted path => path ++ " must start with " ++ hostedScheme
  | .unknownFiltration mode =>
    "found " ++ mode ++ ", only allowed values are [" ++ forwardMigrationFilter ++ ", " ++ noFilter
      ++ "]"
  | .jarWithoutClass => "must be set when shardingCustomJarPath is set"
  | .classWithoutJar => "must be set when shardingCustomClassName is set"
  | .jarNotHosted => "must start with " ++ hostedScheme

def Violation.message (v : Violation) : String := "invalid " ++ v.field ++ ": " ++ v.reason

namespace JobRequest

/-- The checks of a request, each with what violates it, in the order in which they are made. -/
def checks (r : JobRequest) : List (Bool × Violation) := [
  (r.instanceId ≠ "", .missing "instanceId"),
  (r.databaseId ≠ "", .missing "databaseId"),
  (r.sessionFilePath ≠ "", .missing "sessionFilePath"),
  (r.sourceConnectionConfig ≠ "", .missing "sourceConnectionConfig"),
  (r.projectId ≠ "", .missing "projectId"),
  (r.sourceType = "" || r.sourceType = supportedSource, .unsupportedSource r.sourceType),
  (r.gcsDataDirectory = "" || isHosted r.gcsDataDirectory,
    .dataDirectoryNotHosted r.gcsDataDirectory),
  (r.filtrationMode = "" || r.filtrationMode = forwardMigrationFilter
    || r.filtrationMode = noFilter, .unknownFiltration r.filtrationMode),
  (r.shardingCustomJarPath = "" || r.shardingCustomClassName ≠ "", .jarWithoutClass),
  (r.shardingCustomClassName = "" || r.shardingCustomJarPath ≠ "", .classWithoutJar),
  (r.shardingCustomJarPath = "" || isHosted r.shardingCustomJarPath, .jarNotHosted)]

/-- The first check that the request violates. -/
def violation? (r : JobRequest) : Option Violation :=
  (r.checks.find? fun check => !check.1).map Prod.snd

/-! ## Filling -/

/-- The text, or a default in the place of an empty one. -/
def orElse (s fallback : String) : String := if s = "" then fallback else s

/-- A field that the caller has set is kept. -/
theorem orElse_of_ne {s : String} (h : s ≠ "") (fallback : String) : orElse s fallback = s :=
  if_neg h

/-- With a fallback that is not empty, a field is never empty. -/
theorem orElse_ne_empty (s : String) {fallback : String} (h : fallback ≠ "") :
    orElse s fallback ≠ "" := by
  unfold orElse
  split <;> assumption

/-- What holds of the default and of every text that is given holds of the text that results. -/
theorem orElse_holds {P : String → Prop} {s fallback : String} (hfallback : P fallback)
    (h : s = "" ∨ P s) : P (orElse s fallback) := by
  unfold orElse
  split
  next => exact hfallback
  next hne => exact h.resolve_left hne

/-- Does the run need a staging bucket? It does unless the caller hosts both files and names a data
directory. -/
def needsStaging (r : JobRequest) : Bool :=
  !(isHosted r.sessionFilePath && isHosted r.sourceConnectionConfig && r.gcsDataDirectory ≠ "")

/-- The staging bucket that the request needs, or the empty text. -/
def stagingBucket (r : JobRequest) (run : RunId) : String :=
  if r.needsStaging then stagingBucketOf run else ""

/-- The hosted path of a file: its own, or the one it is staged to. -/
def hostedPath (bucket path object : String) : String :=
  if isHosted path then path else ObjectPath.render ⟨bucket, object⟩

/-- The data directory of a run that names none. -/
def dataDirectoryOf (run : RunId) : String :=
  ObjectPath.render ⟨stagingBucketOf run, "reverse-replication/data"⟩

/-- The request with its defaults. -/
def fillDefaults (r : JobRequest) (run : RunId) : JobRequest :=
  { r with
    jobName := orElse r.jobName (jobIdOf run)
    sourceType := orElse r.sourceType supportedSource
    metadataInstance := orElse r.metadataInstance r.instanceId
    metadataDatabase := orElse r.metadataDatabase (metadataDatabaseOf run)
    gcsDataDirectory := orElse r.gcsDataDirectory (dataDirectoryOf run)
    changeStreamName := streamIdentifier (orElse r.changeStreamName (changeStreamOf run))
    filtrationMode := orElse r.filtrationMode forwardMigrationFilter
    timerInterval := if r.timerInterval < 1 then 1 else r.timerInterval
    windowDuration := orElse r.windowDuration "10s" }

/-- The request with its defaults and derived values. The location is still to be looked up. -/
def fill (r : JobRequest) (run : RunId) : NormalizedRequest where
  request := r.fillDefaults run
  runId := run
  jobId := jobIdOf run
  stagingRequired := r.needsStaging
  stagingBucketName := r.stagingBucket run
  sessionFile := hostedPath (r.stagingBucket run) r.sessionFilePath sessionObject
  sourceConnection :=
    hostedPath (r.stagingBucket run) r.sourceConnectionConfig sourceConnectionObject
  location := ""

/-- Checks a request and fills it. -/
def normalize (r : JobRequest) (run : RunId) : Except Violation NormalizedRequest :=
  match r.violation? with
  | some v => .error v
  | none => .ok (r.fill run)

/-- Normalizing succeeds exactly if no condition is violated, and then it fills the request. -/
theorem normalize_eq_ok_iff {r : JobRequest} {run : RunId} {n : NormalizedRequest} :
    r.normalize run = .ok n ↔ r.violation? = none ∧ r.fill run = n := by
  unfold normalize
  cases r.violation? with
  | some v => exact ⟨nofun, nofun⟩
  | none => rw [Except.ok.injEq, eq_self, true_and]

end JobRequest

/-! ## Location -/

/-- Why a request was not normalized. -/
inductive RequestError where
  | invalid (violation : Violation)
  /-- The leader location of the instance could not be found out. -/
  | lookup (instanceUri : String) (cause : ManagerError)
  deriving DecidableEq, Repr

def RequestError.message : RequestError → String
  | .invalid violation => violation.message
  | .lookup uri cause => "failed to resolve leader location of " ++ uri ++ ": " ++ cause.message

/-- Accepts what a look-up of an instance's location answers, unless it is blank. -/
def checkLocation (uri : String) (answer : Except ManagerError String) :
    Except RequestError String :=
  match answer with
  | .error cause => .error (.lookup uri cause)
  | .ok location =>
    if Text.isAllBlank location then
      .error (.lookup uri (.invalidState ("instance " ++ uri ++ " reported no leader location")))
    else .ok location

end ReverseReplication
