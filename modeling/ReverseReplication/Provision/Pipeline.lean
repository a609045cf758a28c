import ReverseReplication.Provision.Step

/-!
# The pipelines of a run

A pipeline is launched from a template, with the caller's tuning completed by defaults. A running
pipeline of the same name is used; only one that this run launched is cancelled again.
-/

namespace ReverseReplication

open ReverseReplication.Text (Bytes)

/-- Where a pipeline runs and how it is named. -/
structure PipelineTarget where
  jobId : JobId
  projectId : String
  location : String
  /-- Path of the caller's tuning file, empty for defaults. -/
  tuningPath : String
  templatePath : String
  /-- Ends the name of a job that the caller does not name. -/
  suffix : String
  deriving DecidableEq, Repr

/-- A pipeline to be launched. -/
structure Pipeline where
  kind : ResourceKind
  target : PipelineTarget
  defaults : Tuning.Defaults
  parameters : Parameters
  deriving DecidableEq

/-! ## Tuning files -/

/-- Reads the contents of a tuning file, hosted or local. -/
def Step.readTuningFile {σ : Type} (ctx : Context) (path : String) : Step σ Bytes :=
  let doing := "reading tuning config " ++ path
  if isHosted path then need ctx doing (.readObject path) else readFile ctx doing path

/-- The tuning in a file. The empty path stands for no tuning. -/
def Step.loadTuning {σ : Type} (ctx : Context) (path : String) : Step σ Tuning := do
  if path = "" then pure {}
  else
    match Tuning.parse (← readTuningFile ctx path) with
    | .ok tuning => pure tuning
    | .error e =>
      throw (.serialization ("parsing tuning config " ++ path ++ ": " ++ e.message))

namespace Pipeline

structure Output where
  /-- Did this run launch the pipeline? -/
  launched : Bool := false
  pipelineJobId : String := ""
  jobName : String := ""
  projectId : String := ""
  location : String := ""
  /-- The shell command that starts the pipeline. -/
  command : String := ""
  deriving DecidableEq, Repr, Inhabited

/-- The output for a pipeline that runs under an id. -/
def Output.ofLaunch (request : Launch) (id : String) (launched : Bool) : Output where
  launched := launched
  pipelineJobId := id
  jobName := request.jobName
  projectId := request.projectId
  location := request.location
  command := request.command

/-- The pipeline job as a resource of the job. -/
def resource (p : Pipeline) (o : Output) : JobResource where
  jobId := p.target.jobId
  kind := p.kind
  externalId := o.pipelineJobId
  projectId := o.projectId
  location := o.location

/-- The caller's tuning, completed. -/
def resolve (p : Pipeline) (tuning : Tuning) : Tuning :=
  tuning.resolve p.defaults p.target.projectId p.target.location p.target.jobId p.target.suffix

/-- Cancels the pipeline, if this run launched it. -/
def compensation (_ : Pipeline) (ctx : Context) : Step Output Unit := do
  let o ← get
  if o.launched then
    Step.remove ctx ("cancelling pipeline " ++ o.pipelineJobId)
      (.cancel o.projectId o.location o.pipelineJobId)
    set { o with launched := false }

/-- Records the pipeline that this run launched. If that fails, it is cancelled at once. -/
def record (p : Pipeline) (ctx : Context) : Step Output Unit := do
  let o ← get
  Step.undoing (p.compensation ctx.detach)
    (Step.need ctx "recording pipeline job" (.recordResource (p.resource o)))

/-- Launches the pipeline, or finds the running one of the same name. -/
def launch (p : Pipeline) (ctx : Context) (request : Launch) : Step Output Unit := do
  let doing := "launching pipeline " ++ request.jobName
  match ← Step.call ctx (.launch request) with
  | .ok id =>
    set (Output.ofLaunch request id true)
    p.record ctx
  | .error (.alreadyExists _) =>
    let running ← Step.need ctx doing
      (.findActive request.projectId request.location request.jobName)
    set (Output.ofLaunch request (running.getD "") false)
  | .error e => throw (.ofManager doing e)

/-- Makes sure that the pipeline runs. -/
def transaction (p : Pipeline) (ctx : Context) : Step Output Unit := do
  let tuning ← Step.loadTuning ctx p.target.tuningPath
  match Launch.make p.parameters (p.resolve tuning) with
  | .ok request => p.launch ctx request
  | .error e => throw (.external "invalid tuning config" (.launch e))

end Pipeline

end ReverseReplication
