import ReverseReplication.Json.Record
import ReverseReplication.Naming

/-!
# Job requests

A `JobRequest` is what a caller asks for; every field may be left out. A `NormalizedRequest` is a
request that has passed the checks and has every default and derived value filled in. In JSON the
normalized request is one flat map: the members of the request, then its own.
-/

namespace ReverseReplication

open Json (Codec Slot Record Reader)

/-- What a caller asks for. -/
structure JobRequest where
  projectId : String := ""
  instanceId : String := ""
  databaseId : String := ""
  /-- Local or hosted path of the session file. -/
  sessionFilePath : String := ""
  /-- Local or hosted path of the source connection file. -/
  sourceConnectionConfig : String := ""
  gcsDataDirectory : String := ""
  changeStreamName : String := ""
  startTimestamp : String := ""
  endTimestamp : String := ""
  windowDuration : String := ""
  timerInterval : Int64 := 0
  filtrationMode : String := ""
  sourceType : String := ""
  sourceDbTimezoneOffset : String := ""
  metadataInstance : String := ""
  metadataDatabase : String := ""
  metadataTableSuffix : String := ""
  skipDirectoryName : String := ""
  shardingCustomJarPath : String := ""
  shardingCustomClassName : String := ""
  /-- Path of the reader's tuning file, empty for defaults. -/
  readerConfig : String := ""
  /-- Path of the writer's tuning file, empty for defaults. -/
  writerConfig : String := ""
  jobName : String := ""
  deriving DecidableEq, Repr, Inhabited

namespace JobRequest

/-- A field that holds a text. -/
def textSlot (name : String) (get : JobRequest → String)
    (set : String → JobRequest → JobRequest) : Slot JobRequest :=
  .required name .text get set

def record : Record JobRequest where
  title := "JobRequest"
  slots := [
    textSlot "projectId" projectId fun s r => { r with projectId := s },
    textSlot "instanceId" instanceId fun s r => { r with instanceId := s },
    textSlot "databaseId" databaseId fun s r => { r with databaseId := s },
    textSlot "sessionFilePath" sessionFilePath fun s r => { r with sessionFilePath := s },
    textSlot "sourceConnectionConfig" sourceConnectionConfig
      fun s r => { r with sourceConnectionConfig := s },
    textSlot "gcsDataDirectory" gcsDataDirectory fun s r => { r with gcsDataDirectory := s },
    textSlot "changeStreamName" changeStreamName fun s r => { r with changeStreamName := s },
    textSlot "startTimestamp" startTimestamp fun s r => { r with startTimestamp := s },
    textSlot "endTimestamp" endTimestamp fun s r => { r with endTimestamp := s },
    textSlot "windowDuration" windowDuration fun s r => { r with windowDuration := s },
    .required "timerInterval" .int64 timerInterval fun n r => { r with timerInterval := n },
    textSlot "filtrationMode" filtrationMode fun s r => { r with filtrationMode := s },
    textSlot "sourceType" sourceType fun s r => { r with sourceType := s },
    textSlot "sourceDbTimezoneOffset" sourceDbTimezoneOffset
      fun s r => { r with sourceDbTimezoneOffset := s },
    textSlot "metadataInstance" metadataInstance fun s r => { r with metadataInstance := s },
    textSlot "metadataDatabase" metadataDatabase fun s r => { r with metadataDatabase := s },
    textSlot "metadataTableSuffix" metadataTableSuffix
      fun s r => { r with metadataTableSuffix := s },
    textSlot "skipDirectoryName" skipDirectoryName fun s r => { r with skipDirectoryName := s },
    textSlot "shardingCustomJarPath" shardingCustomJarPath
      fun s r => { r with shardingCustomJarPath := s },
    textSlot "shardingCustomClassName" shardingCustomClassName
      fun s r => { r with shardingCustomClassName := s },
    textSlot "readerConfig" readerConfig fun s r => { r with readerConfig := s },
    textSlot "writerConfig" writerConfig fun s r => { r with writerConfig := s },
    textSlot "jobName" jobName fun s r => { r with jobName := s }]
  blank := {}
  lenient := true

def codec : Codec JobRequest := record.codec

end JobRequest

/-- A request that has passed the checks, with every default and derived value. The request keeps
the caller's file paths, so local files can be staged; the pipelines are given the hosted paths. -/
structure NormalizedRequest where
  request : JobRequest
  runId : RunId
  jobId : JobId
  /-- Does any file or directory have to be hosted for this run? -/
  stagingRequired : Bool
  /-- Empty when nothing has to be staged. -/
  stagingBucketName : String
  /-- Hosted path of the session file. -/
  sessionFile : String
  /-- Hosted path of the source connection file. -/
  sourceConnection : String
  /-- Leader location of the target instance. -/
  location : String
  deriving DecidableEq, Repr, Inhabited

namespace NormalizedRequest

/-- The target instance. -/
def targetInstance (n : NormalizedRequest) : String :=
  instanceUri n.request.projectId n.request.instanceId

/-- The target database. -/
def targetDatabase (n : NormalizedRequest) : String :=
  databaseUri n.request.projectId n.request.instanceId n.request.databaseId

/-- The database in which the pipelines keep their own tables. -/
def metadataDatabase (n : NormalizedRequest) : String :=
  databaseUri n.request.projectId n.request.metadataInstance n.request.metadataDatabase

/-- The members besides those of the request. -/
def ownRecord : Record NormalizedRequest where
  title := "NormalizedJobRequest"
  slots := [
    .required "runId" .text runId fun s n => { n with runId := s },
    .required "jobId" .text jobId fun s n => { n with jobId := s },
    .required "stagingRequired" .bool stagingRequired fun b n => { n with stagingRequired := b },
    .required "stagingBucketName" .text stagingBucketName
      fun s n => { n with stagingBucketName := s },
    .required "sessionFileGcsPath" .text sessionFile fun s n => { n with sessionFile := s },
    .required "sourceConnectionConfigGcsPath" .text sourceConnection
      fun s n => { n with sourceConnection := s },
    .required "location" .text location fun s n => { n with location := s }]
  blank := ⟨{}, "", "", false, "", "", "", ""⟩
  lenient := false

/-- Keeps an unknown member for the request. Its brackets are inside those of the whole map. -/
def keepOther (name : String) (kept : List (String × Json.Value)) :
    Reader (List (String × Json.Value)) :=
  (Json.Value.reader (Json.Value.depthLimit - 1)).map fun v => kept ++ [(name, v)]

/-- Reads a normalized request: its own members first, then the request from the members that are
left, in their order. -/
def read : Reader NormalizedRequest := fun ts =>
  match ownRecord.reader keepOther [] ts with
  | .ok ((n, kept), rest) =>
    (JobRequest.codec.ofValue (.object kept)).map fun request => ({ n with request }, rest)
  | .error e => .error e

def codec : Codec NormalizedRequest where
  read := read
  write n := .object (JobRequest.record.members n.request ++ ownRecord.members n)

end NormalizedRequest

end ReverseReplication
