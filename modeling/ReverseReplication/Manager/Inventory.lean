import ReverseReplication.Manager.Call

/-!
# What the managers hold

An `Inventory` is everything that the six managers hold. `Inventory.perform` answers a call: it
fails with an error, or it gives a reply and the inventory after it. A call that fails has no
inventory to give, so it changes nothing.

The id of a pipeline job begins with the time of its launch (`Inventory.stamp`). No call moves this
clock: it stands still during a run, and goes on between runs.
-/

namespace ReverseReplication

open ReverseReplication.Text (Bytes)

/-- A pipeline job that was started. -/
structure PipelineJob where
  name : String
  cancelled : Bool
  deriving DecidableEq, Repr

/-- Everything that the managers hold. -/
structure Inventory where
  /-- Where instances are that have no location of their own. -/
  defaultLocation : Option String
  /-- Locations by instance. -/
  locations : Table String String := .empty
  jobs : Table JobId JobRecord := .empty
  /-- The resources recorded for each job, in the order of recording. -/
  resources : Table JobId (List JobResource) := .empty
  buckets : Table String Bucket := .empty
  objects : Table ObjectPath Bytes := .empty
  feeds : Table FeedName FeedOptions := .empty
  databases : Table String Unit := .empty
  /-- What the ids of pipeline jobs begin with: the time, as the launcher tells it. -/
  stamp : String
  /-- The launches accepted so far, in their order. -/
  launched : List Launch := []
  /-- The pipeline jobs by id. -/
  pipelines : Table String PipelineJob := .empty
  /-- The ids of the running jobs by name. -/
  running : Table String String := .empty
  deriving DecidableEq

namespace Inventory

/-- What a call answers, and the inventory after it. -/
abbrev Outcome (c : Call) := Except ManagerError (c.Reply × Inventory)

/-- The location of an instance. -/
def location? (inv : Inventory) (instanceUri : String) : Option String :=
  (inv.locations.get? instanceUri).or inv.defaultLocation

/-- The resources recorded for a job. -/
def resourcesOf (inv : Inventory) (jobId : JobId) : List JobResource :=
  (inv.resources.get? jobId).getD []

/-- The contents of an object. -/
def object? (inv : Inventory) (path : ObjectPath) : Option Bytes := inv.objects.get? path

/-- The id of the `n`-th accepted launch, counted from one. -/
def pipelineId (inv : Inventory) (n : Nat) : String :=
  inv.stamp ++ "-" ++ String.ofList (Text.Decimal.digits n)

/-- Was the pipeline job cancelled? -/
def isCancelled (inv : Inventory) (pipelineId : String) : Bool :=
  ((inv.pipelines.get? pipelineId).map PipelineJob.cancelled).getD false

/-- What keeps the options of a feed from being the expected ones. -/
def feedMismatch? (actual expected : FeedOptions) : Option String :=
  if actual.retentionPeriod ≠ expected.retentionPeriod then
    some ("retention_period is " ++ actual.retentionPeriod ++ ", expected "
      ++ expected.retentionPeriod)
  else if actual.valueCaptureType ≠ expected.valueCaptureType then
    some ("value_capture_type is " ++ actual.valueCaptureType ++ ", expected "
      ++ expected.valueCaptureType)
  else none

/-- Starts a pipeline under a name that no running job has. -/
def start (inv : Inventory) (request : Launch) : String × Inventory :=
  let id := inv.pipelineId (inv.launched.length + 1)
  (id, { inv with
    launched := inv.launched ++ [request]
    pipelines := inv.pipelines.insert id ⟨request.jobName, false⟩
    running := inv.running.insert request.jobName id })

/-- Cancels a pipeline job. Its name becomes free, unless a later job runs under it. -/
def stop (inv : Inventory) (id : String) (job : PipelineJob) : Inventory :=
  { inv with
    pipelines := inv.pipelines.insert id { job with cancelled := true }
    running := if inv.running.get? job.name = some id then inv.running.erase job.name
      else inv.running }

/-- Answers a call. -/
def perform (inv : Inventory) : (c : Call) → Outcome c
  | .leaderLocation uri =>
    match inv.location? uri with
    | some location => .ok (location, inv)
    | none => .error (.notFound uri)
  | .createJob record =>
    if inv.jobs.contains record.jobId then .error (.alreadyExists record.jobId)
    else .ok ((), { inv with jobs := inv.jobs.insert record.jobId record })
  | .updateJobStatus jobId status =>
    match inv.jobs.get? jobId with
    | some record => .ok ((), { inv with jobs := inv.jobs.insert jobId { record with status } })
    | none => .error (.notFound jobId)
  | .recordResource resource =>
    .ok ((), { inv with
      resources := inv.resources.insert resource.jobId
        (inv.resourcesOf resource.jobId ++ [resource]) })
  | .createBucket _ bucket =>
    if inv.buckets.contains bucket.name then .error (.alreadyExists bucket.name)
    else .ok ((), { inv with buckets := inv.buckets.insert bucket.name bucket })
  | .deleteBucket name =>
    if inv.buckets.contains name then
      .ok ((), { inv with
        buckets := inv.buckets.erase name
        objects := inv.objects.filter fun path => path.bucket ≠ name })
    else .error (.notFound name)
  | .writeObject bucket object contents =>
    if inv.buckets.contains bucket then
      .ok ((), { inv with objects := inv.objects.insert ⟨bucket, object⟩ contents })
    else .error (.notFound bucket)
  | .readObject path =>
    match ObjectPath.parse? path with
    | none => .error (.invalidState ("not an object path: " ++ path))
    | some p =>
      match inv.object? p with
      | some contents => .ok (contents, inv)
      | none => .error (.notFound path)
  | .feedExists feed => .ok (inv.feeds.contains feed, inv)
  | .validateFeedOptions feed expected =>
    match inv.feeds.get? feed with
    | none => .error (.notFound feed.name)
    | some actual =>
      match feedMismatch? actual expected with
      | some detail => .error (.invalidState detail)
      | none => .ok ((), inv)
  | .createFeed feed options =>
    if inv.feeds.contains feed then .error (.alreadyExists feed.name)
    else .ok ((), { inv with feeds := inv.feeds.insert feed options })
  | .dropFeed feed =>
    if inv.feeds.contains feed then .ok ((), { inv with feeds := inv.feeds.erase feed })
    else .error (.notFound feed.name)
  | .databaseExists uri => .ok (inv.databases.contains uri, inv)
  | .createDatabase uri =>
    if inv.databases.contains uri then .error (.alreadyExists uri)
    else .ok ((), { inv with databases := inv.databases.insert uri () })
  | .dropDatabase uri =>
    if inv.databases.contains uri then
      .ok ((), { inv with databases := inv.databases.erase uri })
    else .error (.notFound uri)
  | .launch request =>
    if inv.running.contains request.jobName then .error (.alreadyExists request.jobName)
    else .ok (inv.start request)
  | .findActive _ _ jobName => .ok (inv.running.get? jobName, inv)
  | .cancel _ _ id =>
    match inv.pipelines.get? id with
    | some job => .ok ((), inv.stop id job)
    | none => .error (.notFound id)

/-- The pipeline jobs by id, in the order of their launches. -/
def pipelineJobs (inv : Inventory) : List (String × PipelineJob) :=
  (List.range inv.launched.length).filterMap fun n =>
    let id := inv.pipelineId (n + 1)
    (inv.pipelines.get? id).map fun job => (id, job)

/-! ## Seeds: contents that are put in without a call -/

/-- Gives an instance a location of its own. -/
def insertLocation (inv : Inventory) (instanceUri location : String) : Inventory :=
  { inv with locations := inv.locations.insert instanceUri location }

/-- Puts in a job record, over one with the same id. -/
def insertJob (inv : Inventory) (record : JobRecord) : Inventory :=
  { inv with jobs := inv.jobs.insert record.jobId record }

/-- Puts in a bucket, over one with the same name; its objects stay. -/
def insertBucket (inv : Inventory) (bucket : Bucket) : Inventory :=
  { inv with buckets := inv.buckets.insert bucket.name bucket }

/-- Puts in a change feed, over one with the same name. -/
def insertFeed (inv : Inventory) (feed : FeedName) (options : FeedOptions) : Inventory :=
  { inv with feeds := inv.feeds.insert feed options }

/-- Puts in a database. -/
def insertDatabase (inv : Inventory) (uri : String) : Inventory :=
  { inv with databases := inv.databases.insert uri () }

/-- Puts in an object. Its bucket is made up if there is none; a path that names no object is
ignored. -/
def putObject (inv : Inventory) (path : String) (contents : Bytes) : Inventory :=
  match ObjectPath.parse? path with
  | none => inv
  | some p =>
    { inv with
      buckets := if inv.buckets.contains p.bucket then inv.buckets
        else inv.buckets.insert p.bucket ⟨p.bucket, "", none, .empty⟩
      objects := inv.objects.insert p contents }

end Inventory

end ReverseReplication
