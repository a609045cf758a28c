import ReverseReplication.Job.Record
import ReverseReplication.Manager.Error
import ReverseReplication.Manager.Resource
import ReverseReplication.Pipeline.Launch

/-!
# Calls to the resource managers

Six managers are called: the one that locates instances, the job registry, the object store, the
change feeds, the databases, and the pipeline launcher. A `Call` is one call with its arguments,
`Call.Reply` the type of what it answers when it succeeds, and `Operation` says which call it is.
-/

namespace ReverseReplication

open ReverseReplication.Text (Bytes)

/-- What the managers can be asked to do. -/
inductive Operation where
  | leaderLocation
  | createJob
  | updateJobStatus
  | recordResource
  | createBucket
  | deleteBucket
  | writeObject
  | readObject
  | feedExists
  | validateFeedOptions
  | createFeed
  | dropFeed
  | databaseExists
  | createDatabase
  | dropDatabase
  | launch
  | findActive
  | cancel
  deriving DecidableEq, Repr

namespace Operation

/-- Every operation. -/
def all : List Operation := [
  .leaderLocation, .createJob, .updateJobStatus, .recordResource, .createBucket, .deleteBucket,
  .writeObject, .readObject, .feedExists, .validateFeedOptions, .createFeed, .dropFeed,
  .databaseExists, .createDatabase, .dropDatabase, .launch, .findActive, .cancel]

def render : Operation → String
  | .leaderLocation => "leader_location"
  | .createJob => "create_job"
  | .updateJobStatus => "update_job_status"
  | .recordResource => "record_resource"
  | .createBucket => "create_bucket"
  | .deleteBucket => "delete_bucket"
  | .writeObject => "write_object"
  | .readObject => "read_object"
  | .feedExists => "feed_exists"
  | .validateFeedOptions => "validate_feed_options"
  | .createFeed => "create_feed"
  | .dropFeed => "drop_feed"
  | .databaseExists => "database_exists"
  | .createDatabase => "create_database"
  | .dropDatabase => "drop_database"
  | .launch => "launch"
  | .findActive => "find_active"
  | .cancel => "cancel"

/-- The operation with the given name. -/
def parse? (s : String) : Option Operation := all.find? fun o => o.render = s

end Operation

/-- A call to one of the managers. -/
inductive Call where
  /-- Where the leader replicas of an instance are. -/
  | leaderLocation (instanceUri : String)
  | createJob (record : JobRecord)
  | updateJobStatus (jobId : JobId) (status : JobStatus)
  | recordResource (resource : JobResource)
  | createBucket (projectId : String) (bucket : Bucket)
  | deleteBucket (name : String)
  | writeObject (bucket object : String) (contents : Bytes)
  | readObject (path : String)
  | feedExists (feed : FeedName)
  | validateFeedOptions (feed : FeedName) (expected : FeedOptions)
  | createFeed (feed : FeedName) (options : FeedOptions)
  | dropFeed (feed : FeedName)
  | databaseExists (uri : String)
  | createDatabase (uri : String)
  | dropDatabase (uri : String)
  /-- Starts a pipeline and answers the id of its job. -/
  | launch (request : Launch)
  /-- The id of the running job of the given name. -/
  | findActive (projectId location jobName : String)
  | cancel (projectId location pipelineId : String)
  deriving DecidableEq

namespace Call

/-- What a call answers when it succeeds. -/
@[reducible] def Reply : Call → Type
  | .leaderLocation _ => String
  | .readObject _ => Bytes
  | .feedExists _ => Bool
  | .databaseExists _ => Bool
  | .launch _ => String
  | .findActive .. => Option String
  | _ => Unit

def operation : Call → Operation
  | .leaderLocation _ => .leaderLocation
  | .createJob _ => .createJob
  | .updateJobStatus .. => .updateJobStatus
  | .recordResource _ => .recordResource
  | .createBucket .. => .createBucket
  | .deleteBucket _ => .deleteBucket
  | .writeObject .. => .writeObject
  | .readObject _ => .readObject
  | .feedExists _ => .feedExists
  | .validateFeedOptions .. => .validateFeedOptions
  | .createFeed .. => .createFeed
  | .dropFeed _ => .dropFeed
  | .databaseExists _ => .databaseExists
  | .createDatabase _ => .createDatabase
  | .dropDatabase _ => .dropDatabase
  | .launch _ => .launch
  | .findActive .. => .findActive
  | .cancel .. => .cancel

end Call

end ReverseReplication
