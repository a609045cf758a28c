import ReverseReplication.Instant
import ReverseReplication.Job.Status
import ReverseReplication.Json.Record
import ReverseReplication.Naming

/-!
# Job records and the resources of a job

The registry keeps one record per job, and a list of the resources that were created for it, so
they can be found again.
-/

namespace ReverseReplication

open Json (Codec Record)

/-- An instant in JSON is a text. -/
def Instant.codec : Codec Instant where
  read ts :=
    match Json.Reader.text "an RFC 3339 formatted date and time string" ts with
    | .ok (s, rest) =>
      match Instant.parse s with
      | .ok t => .ok (t, rest)
      | .error fault => .error (.mismatch (.invalidText fault.message))
    | .error e => .error e
  write t := .text t.render

/-- What the registry keeps about a job. -/
structure JobRecord where
  jobId : JobId
  jobName : String
  projectId : String
  instanceId : String
  databaseId : String
  /-- The normalized request as JSON. -/
  jobData : String
  status : JobStatus
  createdAt : Instant
  deriving DecidableEq, Repr, Inhabited

def JobRecord.record : Record JobRecord where
  title := "JobRecord"
  slots := [
    .required "jobId" .text jobId fun s r => { r with jobId := s },
    .required "jobName" .text jobName fun s r => { r with jobName := s },
    .required "projectId" .text projectId fun s r => { r with projectId := s },
    .required "instanceId" .text instanceId fun s r => { r with instanceId := s },
    .required "databaseId" .text databaseId fun s r => { r with databaseId := s },
    .required "jobData" .text jobData fun s r => { r with jobData := s },
    .required "status" JobStatus.codec status fun s r => { r with status := s },
    .required "createdAt" Instant.codec createdAt fun t r => { r with createdAt := t }]
  blank := ⟨"", "", "", "", "", "", .created, .epoch⟩
  lenient := false

def JobRecord.codec : Codec JobRecord := record.codec

/-- The kinds of resources that a job may own. -/
inductive ResourceKind where
  | stagingBucket
  | changeFeed
  | metadataDatabase
  | readerPipeline
  | writerPipeline
  deriving DecidableEq, Repr, Inhabited

namespace ResourceKind

def render : ResourceKind → String
  | .stagingBucket => "STAGING_BUCKET"
  | .changeFeed => "CHANGE_FEED"
  | .metadataDatabase => "METADATA_DATABASE"
  | .readerPipeline => "READER_PIPELINE"
  | .writerPipeline => "WRITER_PIPELINE"

/-- The kinds by their names. -/
def known : List (String × ResourceKind) :=
  [stagingBucket, changeFeed, metadataDatabase, readerPipeline, writerPipeline].map
    fun k => (k.render, k)

def codec : Codec ResourceKind := Json.Variants.codec ⟨known, render⟩

end ResourceKind

/-- A resource that was created for a job. -/
structure JobResource where
  jobId : JobId
  kind : ResourceKind
  /-- Its name at the manager that holds it. -/
  externalId : String
  projectId : String
  location : String
  deriving DecidableEq, Repr, Inhabited

def JobResource.record : Record JobResource where
  title := "JobResource"
  slots := [
    .required "jobId" .text jobId fun s r => { r with jobId := s },
    .required "kind" ResourceKind.codec kind fun k r => { r with kind := k },
    .required "externalId" .text externalId fun s r => { r with externalId := s },
    .required "projectId" .text projectId fun s r => { r with projectId := s },
    .required "location" .text location fun s r => { r with location := s }]
  blank := ⟨"", .stagingBucket, "", "", ""⟩
  lenient := false

def JobResource.codec : Codec JobResource := record.codec

end ReverseReplication
