import ReverseReplication.Json.Record

/-!
# Tuning of pipelines

A caller may give a partial `Tuning` for each pipeline. Before a launch it is completed
(`Tuning.resolve`): scalar fields are only filled where they are unset, the label of the run is
always written, the experiment that every pipeline needs is added, and the streaming engine is
switched on.
-/

namespace ReverseReplication

open Json (Codec Record Slot)

/-- How one pipeline is scaled and placed. An empty text and a zero count as unset. -/
structure Tuning where
  projectId : String := ""
  jobName : String := ""
  location : String := ""
  vpcHostProjectId : String := ""
  network : String := ""
  subnetwork : String := ""
  maxWorkers : Int32 := 0
  numWorkers : Int32 := 0
  serviceAccountEmail : String := ""
  machineType : String := ""
  labels : Table String String := .empty
  kmsKeyName : String := ""
  templatePath : String := ""
  experiments : Table String Unit := .empty
  streamingEngine : Bool := false
  deriving DecidableEq, Inhabited

namespace Tuning

/-- A field that holds a text. -/
def textSlot (name : String) (get : Tuning → String) (set : String → Tuning → Tuning) :
    Slot Tuning :=
  .required name .text get set

def record : Record Tuning where
  title := "TuningConfig"
  slots := [
    textSlot "projectId" projectId fun s t => { t with projectId := s },
    textSlot "jobName" jobName fun s t => { t with jobName := s },
    textSlot "location" location fun s t => { t with location := s },
    textSlot "vpcHostProjectId" vpcHostProjectId fun s t => { t with vpcHostProjectId := s },
    textSlot "network" network fun s t => { t with network := s },
    textSlot "subnetwork" subnetwork fun s t => { t with subnetwork := s },
    .required "maxWorkers" .int32 maxWorkers fun n t => { t with maxWorkers := n },
    .required "numWorkers" .int32 numWorkers fun n t => { t with numWorkers := n },
    textSlot "serviceAccountEmail" serviceAccountEmail
      fun s t => { t with serviceAccountEmail := s },
    textSlot "machineType" machineType fun s t => { t with machineType := s },
    .required "additionalUserLabels" (.nullAs .empty .textTable) labels
      fun m t => { t with labels := m },
    textSlot "kmsKeyName" kmsKeyName fun s t => { t with kmsKeyName := s },
    textSlot "gcsTemplatePath" templatePath fun s t => { t with templatePath := s },
    .required "additionalExperiments" (.nullAs .empty .textSet) experiments
      fun m t => { t with experiments := m },
    .required "enableStreamingEngine" .bool streamingEngine
      fun b t => { t with streamingEngine := b }]
  blank := {}
  lenient := true

def codec : Codec Tuning := record.codec

/-! ## Tuning files -/

/-- Is the byte a blank between lines and words? -/
def isBlankByte (b : UInt8) : Bool := b = 0x20 || b = 0x09 || b = 0x0a || b = 0x0c || b = 0x0d

/-- Reads a tuning file. A blank file sets nothing. -/
def parse (bytes : Text.Bytes) : Except Json.ReadError Tuning :=
  if bytes.all isBlankByte then .ok {} else codec.decode bytes

/-! ## Completing -/

/-- What a pipeline is given where its tuning is silent. -/
structure Defaults where
  /-- Begins the name of a job that the caller does not name, and is the key of the label that
  carries the job id. -/
  stem : String
  numWorkers : Int32
  maxWorkers : Int32
  machineType : String
  templatePath : String
  deriving DecidableEq, Repr

/-- The defaults of the reader. -/
def Defaults.reader (templatePath : String) : Defaults where
  stem := "smt-reverse-replication-reader"
  numWorkers := 5
  maxWorkers := 50
  machineType := "n1-standard-2"
  templatePath := templatePath

/-- The defaults of the writer. -/
def Defaults.writer (templatePath : String) : Defaults where
  stem := "smt-reverse-replication-writer"
  numWorkers := 1
  maxWorkers := 50
  machineType := "n2-standard-4"
  templatePath := templatePath

/-- The experiment that every pipeline needs. -/
def runnerExperiment : String := "use_runner_v2"

/-- The text, or a default in the place of an unset one. -/
def orText (s fallback : String) : String := if s = "" then fallback else s

/-- The count, or a default in the place of an unset one. -/
def orCount (n fallback : Int32) : Int32 := if n = 0 then fallback else n

/-- Completes a tuning for a run. The suffix is only used where the caller does not name the job. -/
def resolve (t : Tuning) (d : Defaults) (projectId location label suffix : String) : Tuning :=
  { t with
    projectId := orText t.projectId projectId
    jobName := orText t.jobName (d.stem ++ "-" ++ suffix)
    location := orText t.location location
    maxWorkers := orCount t.maxWorkers d.maxWorkers
    numWorkers := orCount t.numWorkers d.numWorkers
    machineType := orText t.machineType d.machineType
    templatePath := orText t.templatePath d.templatePath
    labels := t.labels.insert d.stem label
    experiments := t.experiments.insert runnerExperiment ()
    streamingEngine := true }

end Tuning

end ReverseReplication
