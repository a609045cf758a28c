import ReverseReplication.Provision.Step

/-!
# The staging bucket of a run

Local files are put into a bucket of the run, where the pipelines can read them. A bucket that is
there already is used; only a bucket that this run created is deleted again.
-/

namespace ReverseReplication

/-- What has to be staged, and where. -/
structure StagingStore where
  jobId : JobId
  stagingRequired : Bool
  bucketName : String
  projectId : String
  location : String
  /-- The caller's path of the session file. -/
  sessionFilePath : String
  /-- The caller's path of the source connection file. -/
  sourceConnectionConfig : String
  /-- Zero keeps objects for ever. -/
  ttlDays : UInt32
  deriving DecidableEq, Repr

namespace StagingStore

structure Output where
  /-- Did this run create the bucket? -/
  bucketCreated : Bool := false
  /-- The objects put into it. -/
  stagedObjects : List String := []
  deriving DecidableEq, Repr, Inhabited

def bucket (s : StagingStore) : Bucket where
  name := s.bucketName
  location := s.location
  ttlDays := if 0 < s.ttlDays then some s.ttlDays else none
  labels := Table.empty.insert jobIdLabel s.jobId

def resource (s : StagingStore) : JobResource where
  jobId := s.jobId
  kind := .stagingBucket
  externalId := s.bucketName
  projectId := s.projectId
  location := s.location

/-- Creates the bucket and records it, unless there is one. -/
def ensureBucket (s : StagingStore) (ctx : Context) : Step Output Unit := do
  match ← Step.call ctx (.createBucket s.projectId s.bucket) with
  | .ok () =>
    modify fun o => { o with bucketCreated := true }
    Step.need ctx "recording staging bucket" (.recordResource s.resource)
  | .error (.alreadyExists _) => pure ()
  | .error e => throw (.ofManager "creating staging bucket" e)

/-- Puts a file into the bucket, unless it is hosted. -/
def upload (s : StagingStore) (ctx : Context) (path object : String) : Step Output Unit := do
  if !isHosted path then
    let contents ← Step.readFile ctx ("reading " ++ path) path
    Step.need ctx ("uploading " ++ path ++ " to " ++ s.bucketName)
      (.writeObject s.bucketName object contents)
    modify fun o => { o with stagedObjects := o.stagedObjects ++ [object] }

/-- Deletes the bucket, if this run created it. -/
def compensation (s : StagingStore) (ctx : Context) : Step Output Unit := do
  if (← get).bucketCreated then
    Step.remove ctx "deleting staging bucket" (.deleteBucket s.bucketName)
    set ({} : Output)

/-- Puts the local files into the bucket. -/
def stage (s : StagingStore) (ctx : Context) : Step Output Unit := do
  s.ensureBucket ctx
  s.upload ctx s.sessionFilePath sessionObject
  s.upload ctx s.sourceConnectionConfig sourceConnectionObject

/-- Stages what has to be staged. If that fails, a bucket of this run is deleted at once. -/
def transaction (s : StagingStore) (ctx : Context) : Step Output Unit := do
  if s.stagingRequired then
    Step.undoing (s.compensation ctx.detach) (s.stage ctx)

end StagingStore

end ReverseReplication
