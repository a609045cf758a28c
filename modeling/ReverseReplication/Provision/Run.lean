import ReverseReplication.Config.Basic
import ReverseReplication.Provision.Catalog

/-!
# Provisioning runs

A run normalizes a request, carries out its activities as a saga, and answers what it has set up
(`JobRequest.provision`). Normalizing alone is `JobRequest.locate`.
-/

namespace ReverseReplication

open Json (Codec Value)

/-- A pipeline behind a successful run, launched by it or found running. -/
structure RunningPipeline where
  pipelineJobId : String
  jobName : String
  location : String
  /-- The shell command that starts the pipeline. -/
  command : String
  deriving DecidableEq, Repr

/-- What a successful run has set up. -/
structure Provisioned where
  jobId : JobId
  runId : RunId
  jobName : String
  location : String
  /-- None when the caller hosts every file. -/
  stagingBucket : Option String
  changeStreamName : String
  metadataDatabaseUri : String
  reader : RunningPipeline
  writer : RunningPipeline
  activitiesExecuted : Nat
  deriving DecidableEq, Repr

/-- Why a run did not succeed. -/
inductive RunError where
  | request (error : RequestError)
  | saga (error : SagaError)
  deriving DecidableEq, Repr

def RunError.message : RunError → String
  | .request error => "invalid job request: " ++ error.message
  | .saga error => error.message

/-! ## Writing -/

/-- A pipeline as JSON. -/
def RunningPipeline.value (p : RunningPipeline) : Value :=
  .object [
    ("pipelineJobId", .text p.pipelineJobId), ("jobName", .text p.jobName),
    ("location", .text p.location), ("gcloudCommand", .text p.command)]

/-- What a run has set up, as JSON. -/
def Provisioned.value (p : Provisioned) : Value :=
  .object [
    ("jobId", .text p.jobId), ("runId", .text p.runId), ("jobName", .text p.jobName),
    ("location", .text p.location), ("stagingBucket", (Codec.optional .text).write p.stagingBucket),
    ("changeStreamName", .text p.changeStreamName),
    ("metadataDatabaseUri", .text p.metadataDatabaseUri), ("reader", p.reader.value),
    ("writer", p.writer.value), ("activitiesExecuted", .int p.activitiesExecuted)]

/-! ## Running -/

/-- The settings that a configuration and two suffixes give. -/
def Config.settings (c : Config) (readerSuffix writerSuffix : String) : Settings where
  readerTemplate := c.templates.reader
  writerTemplate := c.templates.writer
  bucketTtlDays := c.staging.ttlDays
  readerSuffix := readerSuffix
  writerSuffix := writerSuffix

/-- The pipeline that an activity has set up. -/
def Pipeline.Output.running (o : Pipeline.Output) : RunningPipeline where
  pipelineJobId := o.pipelineJobId
  jobName := o.jobName
  location := o.location
  command := o.command

/-- What a run has set up when its activities are done. -/
def NormalizedRequest.provisioned (n : NormalizedRequest) (outputs : Outputs) (executed : Nat) :
    Provisioned where
  jobId := n.jobId
  runId := n.runId
  jobName := n.request.jobName
  location := n.location
  stagingBucket := if n.stagingRequired then some n.stagingBucketName else none
  changeStreamName := n.request.changeStreamName
  metadataDatabaseUri := n.metadataDatabase
  reader := outputs.reader.running
  writer := outputs.writer.running
  activitiesExecuted := executed

/-- Normalizes a request and looks up the location of its instance. -/
def JobRequest.locate (r : JobRequest) (run : RunId) :
    Plan (Except RequestError NormalizedRequest) :=
  match r.normalize run with
  | .error v => pure (.error (.invalid v))
  | .ok n => do
    let answer ← Plan.query (.call (.leaderLocation n.targetInstance))
    pure ((checkLocation n.targetInstance answer).map fun location => { n with location })

/-- Carries out the activities of a normalized request. -/
def NormalizedRequest.provision (n : NormalizedRequest) (rollback : Bool) (settings : Settings)
    (startedAt : Instant) : Plan (Except SagaError Provisioned) := do
  let ctx : Context := ⟨n.runId, startedAt, .cancellable⟩
  let (result, outputs) ← (Saga.execute rollback ctx (n.catalog settings).activities).run {}
  pure (result.map (n.provisioned outputs))

/-- Carries out a run for a request. -/
def JobRequest.provision (r : JobRequest) (run : RunId) (rollback : Bool) (settings : Settings)
    (startedAt : Instant) : Plan (Except RunError Provisioned) := do
  match ← r.locate run with
  | .error e => pure (.error (.request e))
  | .ok n => return (← n.provision rollback settings startedAt).mapError .saga

end ReverseReplication
