import ReverseReplication.Job.Normalize
import ReverseReplication.Provision.ChangeFeed
import ReverseReplication.Provision.JobEntry
import ReverseReplication.Provision.MetadataStore
import ReverseReplication.Provision.Pipeline
import ReverseReplication.Provision.StagingStore

/-!
# The activities of a run

A run has seven activities. A `Catalog` holds what each is given, all of it made from the
normalized request and the settings of the run (`NormalizedRequest.catalog`); `Outputs` holds what
each has done so far.
-/

namespace ReverseReplication

/-- What a run takes from the configuration. -/
structure Settings where
  readerTemplate : String
  writerTemplate : String
  bucketTtlDays : UInt32
  /-- Ends the name of the reader's job where the caller does not name it. -/
  readerSuffix : String
  /-- Ends the name of the writer's job where the caller does not name it. -/
  writerSuffix : String
  deriving DecidableEq, Repr

/-- What each activity is given. -/
structure Catalog where
  jobEntry : JobEntry
  stagingStore : StagingStore
  changeFeed : ChangeFeed
  metadataStore : MetadataStore
  reader : Pipeline
  writer : Pipeline
  jobCompletion : JobCompletion
  deriving DecidableEq

/-! ## Parameters of the pipelines -/

namespace NormalizedRequest

/-- The parameters of the reader, which writes changes into the data directory. -/
def readerParameters (n : NormalizedRequest) : Parameters :=
  let r := n.request
  let common : Parameters := .ofList [
    ("changeStreamName", r.changeStreamName),
    ("instanceId", r.instanceId),
    ("databaseId", r.databaseId),
    ("spannerProjectId", r.projectId),
    ("metadataInstance", r.metadataInstance),
    ("metadataDatabase", r.metadataDatabase),
    ("gcsOutputDirectory", r.gcsDataDirectory),
    ("sessionFilePath", n.sessionFile),
    ("sourceShardsFilePath", n.sourceConnection),
    ("startTimestamp", r.startTimestamp),
    ("endTimestamp", r.endTimestamp),
    ("windowDuration", r.windowDuration),
    ("filtrationMode", r.filtrationMode),
    ("metadataTableSuffix", r.metadataTableSuffix),
    ("skipDirectoryName", r.skipDirectoryName),
    ("runIdentifier", n.jobId),
    ("runMode", "regular")]
  (common.insertNonEmpty "shardingCustomJarPath" r.shardingCustomJarPath).insertNonEmpty
    "shardingCustomClassName" r.shardingCustomClassName

/-- The parameters of the writer, which applies the changes in the data directory. -/
def writerParameters (n : NormalizedRequest) : Parameters :=
  let r := n.request
  .ofList [
    ("sourceShardsFilePath", n.sourceConnection),
    ("sessionFilePath", n.sessionFile),
    ("sourceType", r.sourceType),
    ("sourceDbTimezoneOffset", r.sourceDbTimezoneOffset),
    ("timerIntervalInMilliseconds", String.ofList (Text.Decimal.ofInt r.timerInterval.toInt)),
    ("startTimestamp", r.startTimestamp),
    ("windowDuration", r.windowDuration),
    ("GCSInputDirectoryPath", r.gcsDataDirectory),
    ("spannerProjectId", r.projectId),
    ("metadataInstance", r.metadataInstance),
    ("metadataDatabase", r.metadataDatabase),
    ("metadataTableSuffix", r.metadataTableSuffix),
    ("runIdentifier", n.jobId),
    ("runMode", "regular")]

/-! ## The catalog of a request -/

/-- The target of a pipeline. -/
def target (n : NormalizedRequest) (tuningPath templatePath suffix : String) :
    PipelineTarget where
  jobId := n.jobId
  projectId := n.request.projectId
  location := n.location
  tuningPath := tuningPath
  templatePath := templatePath
  suffix := suffix

/-- What each activity of the request's run is given. -/
def catalog (n : NormalizedRequest) (s : Settings) : Catalog where
  jobEntry := {
    jobId := n.jobId
    jobName := n.request.jobName
    projectId := n.request.projectId
    instanceId := n.request.instanceId
    databaseId := n.request.databaseId
    jobData := codec.encode n }
  stagingStore := {
    jobId := n.jobId
    stagingRequired := n.stagingRequired
    bucketName := n.stagingBucketName
    projectId := n.request.projectId
    location := n.location
    sessionFilePath := n.request.sessionFilePath
    sourceConnectionConfig := n.request.sourceConnectionConfig
    ttlDays := s.bucketTtlDays }
  changeFeed := {
    jobId := n.jobId
    projectId := n.request.projectId
    location := n.location
    databaseUri := n.targetDatabase
    changeStreamName := n.request.changeStreamName
    options := {} }
  metadataStore := {
    jobId := n.jobId
    projectId := n.request.projectId
    location := n.location
    databaseUri := n.metadataDatabase }
  reader := {
    kind := .readerPipeline
    target := n.target n.request.readerConfig s.readerTemplate s.readerSuffix
    defaults := .reader s.readerTemplate
    parameters := n.readerParameters }
  writer := {
    kind := .writerPipeline
    target := n.target n.request.writerConfig s.writerTemplate s.writerSuffix
    defaults := .writer s.writerTemplate
    parameters := n.writerParameters }
  jobCompletion := { jobId := n.jobId }

end NormalizedRequest

/-! ## Activities -/

/-- What each activity has done so far. -/
structure Outputs where
  jobEntry : JobEntry.Output := {}
  stagingStore : StagingStore.Output := {}
  changeFeed : ChangeFeed.Output := {}
  metadataStore : MetadataStore.Output := {}
  reader : Pipeline.Output := {}
  writer : Pipeline.Output := {}
  jobCompletion : JobCompletion.Output := {}
  deriving DecidableEq, Repr, Inhabited

namespace Outputs

open Step (Part)

def jobEntryPart : Part Outputs JobEntry.Output :=
  ⟨jobEntry, fun p o => { o with jobEntry := p }⟩

def stagingStorePart : Part Outputs StagingStore.Output :=
  ⟨stagingStore, fun p o => { o with stagingStore := p }⟩

def changeFeedPart : Part Outputs ChangeFeed.Output :=
  ⟨changeFeed, fun p o => { o with changeFeed := p }⟩

def metadataStorePart : Part Outputs MetadataStore.Output :=
  ⟨metadataStore, fun p o => { o with metadataStore := p }⟩

def readerPart : Part Outputs Pipeline.Output := ⟨reader, fun p o => { o with reader := p }⟩

def writerPart : Part Outputs Pipeline.Output := ⟨writer, fun p o => { o with writer := p }⟩

def jobCompletionPart : Part Outputs JobCompletion.Output :=
  ⟨jobCompletion, fun p o => { o with jobCompletion := p }⟩

end Outputs

/-- The activities of a run. -/
inductive ActivityKind where
  | registerJob
  | prepareStagingStore
  | prepareChangeFeed
  | prepareMetadataStore
  | launchReader
  | launchWriter
  | finalizeJob
  deriving DecidableEq, Repr

namespace ActivityKind

/-- The activities in the order in which a run carries them out. -/
def all : List ActivityKind := [
  .registerJob, .prepareStagingStore, .prepareChangeFeed, .prepareMetadataStore, .launchReader,
  .launchWriter, .finalizeJob]

def render : ActivityKind → String
  | .registerJob => "RegisterJob"
  | .prepareStagingStore => "PrepareStagingStore"
  | .prepareChangeFeed => "PrepareChangeFeed"
  | .prepareMetadataStore => "PrepareMetadataStore"
  | .launchReader => "LaunchReaderPipeline"
  | .launchWriter => "LaunchWriterPipeline"
  | .finalizeJob => "FinalizeJobStatus"

/-- The activity with the given name. -/
def parse? (s : String) : Option ActivityKind := all.find? fun k => k.render = s

end ActivityKind

namespace Catalog

/-- A computation of the activities of a run. -/
abbrev Run := StateT Outputs Plan

open Step (Part within)

/-- An activity from its two steps on a part of the outputs. -/
def activityOn {σ : Type} (name : String) (part : Part Outputs σ)
    (transaction compensation : Context → Step σ Unit) : Activity Run where
  name := name
  transaction ctx := within part (transaction ctx)
  compensation ctx := within part (compensation ctx)

/-- An activity of the run. -/
def activity (c : Catalog) (kind : ActivityKind) : Activity Run :=
  match kind with
  | .registerJob =>
    activityOn kind.render Outputs.jobEntryPart c.jobEntry.transaction c.jobEntry.compensation
  | .prepareStagingStore =>
    activityOn kind.render Outputs.stagingStorePart
      c.stagingStore.transaction c.stagingStore.compensation
  | .prepareChangeFeed =>
    activityOn kind.render Outputs.changeFeedPart c.changeFeed.transaction c.changeFeed.compensation
  | .prepareMetadataStore =>
    activityOn kind.render Outputs.metadataStorePart
      c.metadataStore.transaction c.metadataStore.compensation
  | .launchReader =>
    activityOn kind.render Outputs.readerPart c.reader.transaction c.reader.compensation
  | .launchWriter =>
    activityOn kind.render Outputs.writerPart c.writer.transaction c.writer.compensation
  | .finalizeJob =>
    activityOn kind.render Outputs.jobCompletionPart
      c.jobCompletion.transaction c.jobCompletion.compensation

/-- The activities in the order in which a run carries them out. -/
def activities (c : Catalog) : List (Activity Run) := ActivityKind.all.map c.activity

end Catalog

end ReverseReplication
