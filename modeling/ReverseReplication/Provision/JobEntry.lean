import ReverseReplication.Provision.Step

/-!
# The job record of a run

The first activity of a run writes its job record, the last one marks it as running. A run that
fails leaves the record behind, marked as failed.
-/

namespace ReverseReplication

/-! ## Writing the record -/

/-- What the record is written from. -/
structure JobEntry where
  jobId : JobId
  jobName : String
  projectId : String
  instanceId : String
  databaseId : String
  /-- The normalized request as JSON. -/
  jobData : String
  deriving DecidableEq, Repr

namespace JobEntry

structure Output where
  /-- Did this run write the record? -/
  registered : Bool := false
  deriving DecidableEq, Repr, Inhabited

/-- The record as it is first written. -/
def record (e : JobEntry) (createdAt : Instant) : JobRecord where
  jobId := e.jobId
  jobName := e.jobName
  projectId := e.projectId
  instanceId := e.instanceId
  databaseId := e.databaseId
  jobData := e.jobData
  status := .created
  createdAt := createdAt

/-- Writes the record, unless there is one. -/
def transaction (e : JobEntry) (ctx : Context) : Step Output Unit := do
  match ← Step.call ctx (.createJob (e.record ctx.startedAt)) with
  | .ok () => set { registered := true : Output }
  | .error (.alreadyExists _) => pure ()
  | .error error => throw (.ofManager "creating job record" error)

/-- Marks the record as failed, if this run wrote it. -/
def compensation (e : JobEntry) (ctx : Context) : Step Output Unit := do
  if (← get).registered then
    Step.need ctx "marking job record failed" (.updateJobStatus e.jobId .failed)

end JobEntry

/-! ## Marking it as running -/

/-- The job whose record is marked as running. -/
structure JobCompletion where
  jobId : JobId
  deriving DecidableEq, Repr

namespace JobCompletion

structure Output where
  /-- Did this run mark the record? -/
  updated : Bool := false
  deriving DecidableEq, Repr, Inhabited

/-- Marks the record as running. -/
def transaction (f : JobCompletion) (ctx : Context) : Step Output Unit := do
  Step.need ctx "marking job record running" (.updateJobStatus f.jobId .running)
  set { updated := true : Output }

/-- Marks the record as created again. -/
def compensation (f : JobCompletion) (ctx : Context) : Step Output Unit := do
  if (← get).updated then
    Step.need ctx "restoring job record status" (.updateJobStatus f.jobId .created)
    set { updated := false : Output }

end JobCompletion

end ReverseReplication
