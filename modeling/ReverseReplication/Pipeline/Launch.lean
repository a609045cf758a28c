import ReverseReplication.Pipeline.Tuning

/-!
# Launching pipelines

A `Launch` is all that is needed to start a pipeline: where it runs, under which name, from which
template, with which parameters and in which environment. It is made from the parameters and a
completed tuning (`Launch.make`), and can be shown as a shell command (`Launch.command`).
-/

namespace ReverseReplication

open Json (Codec Record)

/-- The parameters that a template is given. -/
abbrev Parameters := Table String String

/-- Sets a parameter unless its value is empty: templates refuse an empty text where they want a
path. -/
def Parameters.insertNonEmpty (p : Parameters) (key value : String) : Parameters :=
  if value = "" then p else p.insert key value

/-- The environment in which a pipeline runs. -/
structure PipelineEnvironment where
  numWorkers : Int32
  maxWorkers : Int32
  machineType : String
  serviceAccountEmail : String
  /-- Address of the network, empty when unset. -/
  network : String
  /-- Address of the subnetwork, empty when unset. -/
  subnetwork : String
  kmsKeyName : String
  experiments : List String
  labels : Table String String
  streamingEngine : Bool
  deriving DecidableEq, Inhabited

namespace PipelineEnvironment

def record : Record PipelineEnvironment where
  title := "LaunchEnvironment"
  slots := [
    .required "numWorkers" .int32 numWorkers fun n e => { e with numWorkers := n },
    .required "maxWorkers" .int32 maxWorkers fun n e => { e with maxWorkers := n },
    .required "machineType" .text machineType fun s e => { e with machineType := s },
    .required "serviceAccountEmail" .text serviceAccountEmail
      fun s e => { e with serviceAccountEmail := s },
    .required "network" .text network fun s e => { e with network := s },
    .required "subnetwork" .text subnetwork fun s e => { e with subnetwork := s },
    .required "kmsKeyName" .text kmsKeyName fun s e => { e with kmsKeyName := s },
    .required "additionalExperiments" (.list .text) experiments
      fun l e => { e with experiments := l },
    .required "additionalUserLabels" .textTable labels fun t e => { e with labels := t },
    .required "enableStreamingEngine" .bool streamingEngine
      fun b e => { e with streamingEngine := b }]
  blank := ⟨0, 0, "", "", "", "", "", [], .empty, false⟩
  lenient := false

def codec : Codec PipelineEnvironment := record.codec

end PipelineEnvironment

/-- All that is needed to start a pipeline. -/
structure Launch where
  projectId : String
  location : String
  jobName : String
  templatePath : String
  parameters : Parameters
  environment : PipelineEnvironment
  deriving DecidableEq, Inhabited

/-- Why no launch could be made of a tuning. -/
inductive LaunchError where
  | missingField (name : String)
  | workerBounds (num max : Int32)
  /-- A host project is named for a network, but no network. -/
  | danglingVpcHost
  deriving DecidableEq, Repr

def LaunchError.message : LaunchError → String
  | .missingField name => "tuning config is missing " ++ name
  | .workerBounds num max =>
    "numWorkers (" ++ String.ofList (Text.Decimal.ofInt num.toInt) ++ ") exceeds maxWorkers ("
      ++ String.ofList (Text.Decimal.ofInt max.toInt) ++ ")"
  | .danglingVpcHost => "vpcHostProjectId is set but neither network nor subnetwork is"

namespace Launch

def record : Record Launch where
  title := "LaunchRequest"
  slots := [
    .required "projectId" .text projectId fun s l => { l with projectId := s },
    .required "location" .text location fun s l => { l with location := s },
    .required "jobName" .text jobName fun s l => { l with jobName := s },
    .required "templatePath" .text templatePath fun s l => { l with templatePath := s },
    .required "parameters" .textTable parameters fun p l => { l with parameters := p },
    .required "environment" PipelineEnvironment.codec environment
      fun e l => { l with environment := e }]
  blank := ⟨"", "", "", "", .empty, default⟩
  lenient := false

def codec : Codec Launch := record.codec

/-! ## Making a launch -/

/-- The fields that a tuning has to have, in the order in which they are checked. -/
def needed (t : Tuning) : List (String × String) := [
  ("projectId", t.projectId), ("location", t.location), ("jobName", t.jobName),
  ("gcsTemplatePath", t.templatePath)]

/-- What is wrong with a tuning. -/
def fault? (t : Tuning) : Option LaunchError :=
  match (needed t).find? fun f => f.2 = "" with
  | some (name, _) => some (.missingField name)
  | none =>
    if 0 < t.maxWorkers ∧ t.maxWorkers < t.numWorkers then
      some (.workerBounds t.numWorkers t.maxWorkers)
    else if t.vpcHostProjectId ≠ "" ∧ t.network = "" ∧ t.subnetwork = "" then
      some .danglingVpcHost
    else none

/-- The address of a project's resources. -/
def projectAddress (projectId : String) : String :=
  "https://www.googleapis.com/compute/v1/projects/" ++ projectId

/-- The project that the networks belong to. -/
def networkProject (t : Tuning) : String := Tuning.orText t.vpcHostProjectId t.projectId

/-- The address of the network, or the empty text. -/
def networkAddress (t : Tuning) : String :=
  if t.network = "" then ""
  else projectAddress (networkProject t) ++ "/global/networks/" ++ t.network

/-- The address of the subnetwork, or the empty text. -/
def subnetworkAddress (t : Tuning) : String :=
  if t.subnetwork = "" then ""
  else
    projectAddress (networkProject t) ++ "/regions/" ++ t.location ++ "/subnetworks/"
      ++ t.subnetwork

/-- The launch of a tuning without faults. -/
def ofTuning (parameters : Parameters) (t : Tuning) : Launch where
  projectId := t.projectId
  location := t.location
  jobName := t.jobName
  templatePath := t.templatePath
  parameters := parameters
  environment := {
    numWorkers := t.numWorkers
    maxWorkers := t.maxWorkers
    machineType := t.machineType
    serviceAccountEmail := t.serviceAccountEmail
    network := networkAddress t
    subnetwork := subnetworkAddress t
    kmsKeyName := t.kmsKeyName
    experiments := t.experiments.keys
    labels := t.labels
    streamingEngine := t.streamingEngine }

/-- Makes a launch from parameters and a completed tuning. -/
def make (parameters : Parameters) (t : Tuning) : Except LaunchError Launch :=
  match fault? t with
  | some e => .error e
  | none => .ok (ofTuning parameters t)

/-! ## The shell command -/

/-- A flag with its value, where it is given. -/
def flag (name value : String) (given : Bool) : String :=
  if given then " --" ++ name ++ "=" ++ value else ""

/-- A flag with a count, where it is positive. -/
def countFlag (name : String) (n : Int32) : String :=
  flag name (String.ofList (Text.Decimal.ofInt n.toInt)) (0 < n)

/-- A flag with a text, where it is not empty. -/
def textFlag (name value : String) : String := flag name value (value ≠ "")

/-- The entries of a table, as assignments with commas between them. -/
def assignments (t : Table String String) : String :=
  ",".intercalate (t.entries.map fun e => e.1 ++ "=" ++ e.2)

/-- The shell command that starts the pipeline. -/
def command (l : Launch) : String :=
  let e := l.environment
  "gcloud dataflow flex-template run " ++ l.jobName
    ++ flag "project" l.projectId true
    ++ flag "region" l.location true
    ++ flag "template-file-gcs-location" l.templatePath true
    ++ countFlag "num-workers" e.numWorkers
    ++ countFlag "max-workers" e.maxWorkers
    ++ textFlag "worker-machine-type" e.machineType
    ++ textFlag "service-account-email" e.serviceAccountEmail
    ++ textFlag "network" e.network
    ++ textFlag "subnetwork" e.subnetwork
    ++ textFlag "dataflow-kms-key" e.kmsKeyName
    ++ flag "additional-experiments" (",".intercalate e.experiments) (!e.experiments.isEmpty)
    ++ flag "additional-user-labels" (assignments e.labels) (!e.labels.isEmpty)
    ++ (if e.streamingEngine then " --enable-streaming-engine" else "")
    ++ (if l.parameters.isEmpty then "" else " --parameters " ++ assignments l.parameters)

end Launch

end ReverseReplication
