import ReverseReplication.Proofs.Commutation.Alike
import ReverseReplication.Proofs.Footprint
import ReverseReplication.Proofs.Retry

/-!
# Inventories that look the same to a run

Two inventories may hold the same at the keys of a footprint, but for when a job record was created
and for the ids of pipeline jobs (`Inventory.SameAt`). A run that reads and writes at such keys only
cannot tell them apart. `Inventory.Mirrored` is what two executions of one run keep, each from its
own start: the ids of jobs that they launch correspond by their numbers (`Inventory.SameLaunch`),
and the jobs under such ids are equal.

Each call at those keys is answered alike and keeps inventories so (`Mirrored.served_*`), and so
does what undoes one (`Mirrored.without_*`).
-/

namespace ReverseReplication

open Step (Served Removes)

/-! ## Records and resources, up to what runs do not determine -/

/-- A job record, apart from when it was created. -/
def JobRecord.undated (record : JobRecord) : JobRecord := { record with createdAt := .epoch }

/-- Is the resource a pipeline job? -/
def ResourceKind.isPipeline : ResourceKind → Bool
  | .readerPipeline => true
  | .writerPipeline => true
  | _ => false

/-- A recorded resource, apart from the id of a pipeline job. -/
def JobResource.withoutId (resource : JobResource) : JobResource :=
  if resource.kind.isPipeline then { resource with externalId := "" } else resource

/-- Whatever is left out of a resource, the job that it belongs to stays. -/
theorem JobResource.jobId_withoutId (resource : JobResource) :
    resource.withoutId.jobId = resource.jobId := by
  unfold withoutId
  split <;> rfl

/-! ## Tables that agree at some keys -/

namespace Table

variable {κ α : Type} [Ord κ]

/-- Two tables agree at the keys of a run. -/
def AgreesAt (own : κ → Prop) (t t' : Table κ α) : Prop := ∀ k, own k → t'.get? k = t.get? k

namespace AgreesAt

variable {own : κ → Prop} {t t' : Table κ α}

/-- Tables that agree have the same keys among those of the run. -/
theorem contains (h : t.AgreesAt own t') {k : κ} (hk : own k) : t'.contains k = t.contains k := by
  rw [Table.contains, Table.contains, h k hk]

variable [Std.TransOrd κ] [Std.LawfulEqOrd κ] [DecidableEq κ]

/-- Inserting the same entry into both tables keeps them in agreement, whoever the key belongs
to. -/
theorem insert (h : t.AgreesAt own t') (k : κ) (v : α) :
    (t.insert k v).AgreesAt own (t'.insert k v) := by
  intro k' hk'
  rw [get?_insert, get?_insert, h k' hk']

/-- So does erasing the same key from both. -/
theorem erase (h : t.AgreesAt own t') (k : κ) : (t.erase k).AgreesAt own (t'.erase k) := by
  intro k' hk'
  rw [get?_erase, get?_erase, h k' hk']

end AgreesAt

end Table

namespace Inventory

/-! ## Holding the same at some keys -/

/-- The inventories hold the same at the keys of a footprint, but for when a job record was created
and for the ids of pipeline jobs. Instances are where they were. -/
structure SameAt (own : Footprint) (inv inv' : Inventory) : Prop where
  located : ∀ uri, inv'.location? uri = inv.location? uri
  jobs : ∀ id, own.job id →
    (inv'.jobs.get? id).map JobRecord.undated = (inv.jobs.get? id).map JobRecord.undated
  resources : ∀ id, own.job id →
    (inv'.resourcesOf id).map JobResource.withoutId =
      (inv.resourcesOf id).map JobResource.withoutId
  buckets : inv.buckets.AgreesAt own.bucket inv'.buckets
  objects : inv.objects.AgreesAt own.object inv'.objects
  feeds : inv.feeds.AgreesAt own.feed inv'.feeds
  databases : inv.databases.AgreesAt own.database inv'.databases
  running : ∀ name, own.pipeline name →
    inv'.running.contains name = inv.running.contains name

namespace SameAt

variable {own : Footprint} {inv inv' inv'' : Inventory}

/-- Holding the same at some keys goes both ways. -/
theorem symm (h : SameAt own inv inv') : SameAt own inv' inv where
  located uri := (h.located uri).symm
  jobs id hid := (h.jobs id hid).symm
  resources id hid := (h.resources id hid).symm
  buckets name hname := (h.buckets name hname).symm
  objects path hpath := (h.objects path hpath).symm
  feeds feed hfeed := (h.feeds feed hfeed).symm
  databases uri huri := (h.databases uri huri).symm
  running name hname := (h.running name hname).symm

/-- Inventories that both hold what a third one does hold the same. -/
theorem trans (h : SameAt own inv inv') (h' : SameAt own inv' inv'') : SameAt own inv inv'' where
  located uri := (h'.located uri).trans (h.located uri)
  jobs id hid := (h'.jobs id hid).trans (h.jobs id hid)
  resources id hid := (h'.resources id hid).trans (h.resources id hid)
  buckets name hname := (h'.buckets name hname).trans (h.buckets name hname)
  objects path hpath := (h'.objects path hpath).trans (h.objects path hpath)
  feeds feed hfeed := (h'.feeds feed hfeed).trans (h.feeds feed hfeed)
  databases uri huri := (h'.databases uri huri).trans (h.databases uri huri)
  running name hname := (h'.running name hname).trans (h.running name hname)

/-- The clock does not matter. -/
theorem later (own : Footprint) (inv : Inventory) (stamp : String) :
    SameAt own inv { inv with stamp } where
  located _ := rfl
  jobs _ _ := rfl
  resources _ _ := rfl
  buckets _ _ := rfl
  objects _ _ := rfl
  feeds _ _ := rfl
  databases _ _ := rfl
  running _ _ := rfl

end SameAt

/-! ## Two executions of a run -/

/-- The id of the next launch but `k`. -/
def nextId (inv : Inventory) (k : Nat) : String := inv.pipelineId (inv.launched.length + k + 1)

/-- The two ids belong to launches that come equally late after the two starts. -/
def SameLaunch (start start' : Inventory) (id id' : String) : Prop :=
  ∃ k, id = start.nextId k ∧ id' = start'.nextId k

/-- What two executions of one run have come to, each from its start. -/
structure Mirrored (own : Footprint) (start start' inv inv' : Inventory) : Prop
    extends SameAt own inv inv' where
  sound : inv.Sound
  sound' : inv'.Sound
  stamp : inv.stamp = start.stamp
  stamp' : inv'.stamp = start'.stamp
  launched : ∃ n, inv.launched.length = start.launched.length + n ∧
    inv'.launched.length = start'.launched.length + n
  pipelines : ∀ k, inv'.pipelines.get? (start'.nextId k) = inv.pipelines.get? (start.nextId k)

namespace Mirrored

variable {own : Footprint} {start start' inv inv' : Inventory}

/-- At the start nothing has been launched yet. -/
theorem initial (sound : inv.Sound) (sound' : inv'.Sound) (h : SameAt own inv inv') :
    Mirrored own inv inv' inv inv' where
  toSameAt := h
  sound := sound
  sound' := sound'
  stamp := rfl
  stamp' := rfl
  launched := ⟨0, rfl, rfl⟩
  pipelines k := by
    unfold nextId
    rw [sound.get?_pipelineId inv (by omega), sound'.get?_pipelineId inv' (by omega)]

/-! ## The job registry -/

/-- Changes to the job records keep inventories sound. -/
theorem withJobs (h : Mirrored own start start' inv inv') {jobs jobs' : Table JobId JobRecord}
    (hjobs : ∀ id, own.job id →
      (jobs'.get? id).map JobRecord.undated = (jobs.get? id).map JobRecord.undated) :
    Mirrored own start start' { inv with jobs } { inv' with jobs := jobs' } :=
  { h with
    sound := h.sound.congr rfl rfl rfl rfl rfl
    sound' := h.sound'.congr rfl rfl rfl rfl rfl
    jobs := hjobs }

/-- A job record is written in both inventories or in neither, at whatever time. -/
theorem served_createJob {record record' : JobRecord} (hown : own.job record.jobId)
    (hrecord : record.undated = record'.undated) :
    Served (Mirrored own start start') (.createJob record) (.createJob record')
      fun _ _ => True := by
  intro inv inv' h
  have hid : record'.jobId = record.jobId := (congrArg JobRecord.jobId hrecord).symm
  have hthere : inv'.jobs.contains record.jobId = inv.jobs.contains record.jobId := by
    have hjob := congrArg Option.isSome (h.jobs _ hown)
    rwa [Option.isSome_map, Option.isSome_map] at hjob
  cases hjob : inv.jobs.contains record.jobId with
  | true =>
    rw [serve_error (e := .alreadyExists record.jobId) (by simp only [perform, hjob, if_true]),
      serve_error (e := .alreadyExists record.jobId)
        (by simp only [perform, hid, hthere, hjob, if_true])]
    exact ⟨.error _, h⟩
  | false =>
    rw [serve_ok (by simp only [perform, hjob]; rfl),
      serve_ok (by simp only [perform, hid, hthere, hjob]; rfl)]
    refine ⟨.ok trivial, h.withJobs fun id hid => ?_⟩
    rw [Table.get?_insert, Table.get?_insert]
    split
    next => exact congrArg some hrecord.symm
    next => exact h.jobs id hid

/-- A status is changed in both inventories or in neither, for both have the record or neither
has. -/
theorem served_updateJobStatus {id : JobId} (hown : own.job id) (status : JobStatus) :
    Served (Mirrored own start start') (.updateJobStatus id status) (.updateJobStatus id status)
      fun _ _ => True := by
  intro inv inv' h
  have hjob := h.jobs id hown
  cases hrecord : inv.jobs.get? id with
  | none =>
    rw [hrecord, Option.map_none, Option.map_eq_none_iff] at hjob
    rw [serve_error (e := .notFound id) (by simp only [perform, hrecord]),
      serve_error (e := .notFound id) (by simp only [perform, hjob])]
    exact ⟨.error _, h⟩
  | some record =>
    rw [hrecord, Option.map_some, Option.map_eq_some_iff] at hjob
    obtain ⟨record', hrecord', hundated⟩ := hjob
    rw [serve_ok (by simp only [perform, hrecord]; rfl),
      serve_ok (by simp only [perform, hrecord']; rfl)]
    refine ⟨.ok trivial, h.withJobs fun id' hid' => ?_⟩
    rw [Table.get?_insert, Table.get?_insert]
    split
    next => exact congrArg (fun r : JobRecord => some { r with status }) hundated
    next => exact h.jobs id' hid'

/-- Resources are recorded in both inventories, with ids of pipeline jobs that may differ. -/
theorem served_recordResource {resource resource' : JobResource}
    (hresource : resource.withoutId = resource'.withoutId) :
    Served (Mirrored own start start') (.recordResource resource) (.recordResource resource')
      fun _ _ => True := by
  intro inv inv' h
  have hjob : resource'.jobId = resource.jobId := by
    rw [← resource'.jobId_withoutId, ← hresource, resource.jobId_withoutId]
  rw [serve_ok (by simp only [perform]; rfl), serve_ok (by simp only [perform]; rfl)]
  refine ⟨.ok trivial, { h with
    sound := h.sound.congr rfl rfl rfl rfl rfl
    sound' := h.sound'.congr rfl rfl rfl rfl rfl
    resources := fun id hid => ?_ }⟩
  simp only [resourcesOf, hjob, Table.get?_insert]
  split
  next heq =>
    subst heq
    have hbefore := h.resources resource.jobId hid
    simp only [resourcesOf] at hbefore
    simp [hbefore, hresource]
  next => exact h.resources id hid

/-! ## Buckets and objects -/

/-- A bucket of the run is created in both inventories or in neither. -/
theorem served_createBucket (projectId : String) {bucket : Bucket} (hown : own.bucket bucket.name) :
    Served (Mirrored own start start') (.createBucket projectId bucket)
      (.createBucket projectId bucket) fun _ _ => True := by
  intro inv inv' h
  have hthere := h.buckets.contains hown
  cases hbucket : inv.buckets.contains bucket.name with
  | true =>
    rw [serve_error (e := .alreadyExists bucket.name) (by simp only [perform, hbucket, if_true]),
      serve_error (e := .alreadyExists bucket.name)
        (by simp only [perform, hthere, hbucket, if_true])]
    exact ⟨.error _, h⟩
  | false =>
    rw [serve_ok (by simp only [perform, hbucket]; rfl),
      serve_ok (by simp only [perform, hthere, hbucket]; rfl)]
    exact ⟨.ok trivial, { h with
      sound := h.sound.withBucket bucket.name bucket
      sound' := h.sound'.withBucket bucket.name bucket
      buckets := h.buckets.insert bucket.name bucket }⟩

/-- Objects of a bucket of the run are written in both inventories or in neither. -/
theorem served_writeObject {bucket : String} (hown : own.bucket bucket) (object : String)
    (contents : Text.Bytes) :
    Served (Mirrored own start start') (.writeObject bucket object contents)
      (.writeObject bucket object contents) fun _ _ => True := by
  intro inv inv' h
  have hthere := h.buckets.contains hown
  cases hbucket : inv.buckets.contains bucket with
  | true =>
    have hbucket' : inv'.buckets.contains bucket = true := hthere.trans hbucket
    let path : ObjectPath := ⟨bucket, object⟩
    have hpath : (inv.buckets.get? path.bucket).isSome := hbucket
    have hpath' : (inv'.buckets.get? path.bucket).isSome := hbucket'
    rw [serve_ok (by simp only [perform, hbucket, if_true]; rfl),
      serve_ok (by simp only [perform, hbucket', if_true]; rfl)]
    exact ⟨.ok trivial, { h with
      sound := h.sound.withObject hpath contents
      sound' := h.sound'.withObject hpath' contents
      objects := h.objects.insert ⟨bucket, object⟩ contents }⟩
  | false =>
    rw [serve_error (e := .notFound bucket) (by simp only [perform, hbucket]; rfl),
      serve_error (e := .notFound bucket) (by simp only [perform, hthere, hbucket]; rfl)]
    exact ⟨.error _, h⟩

/-- A bucket cannot be deleted only if it is not there. -/
theorem removes_deleteBucket {name : String} : Removes (.deleteBucket name) :=
  fun hrefused => ⟨_, (deleteBucket_refused hrefused).1⟩

/-- Without the bucket, the inventories still look the same to the run. -/
theorem without_bucket {name : String} (hown : own.bucket name)
    (h : Mirrored own start start' inv inv') :
    Mirrored own start start' (inv.serve (.deleteBucket name)).2
      (inv'.serve (.deleteBucket name)).2 := by
  have hthere := h.buckets.contains hown
  cases hbucket : inv.buckets.contains name with
  | true =>
    rw [serve_ok (by simp only [perform, hbucket, if_true]; rfl),
      serve_ok (by simp only [perform, hthere, hbucket, if_true]; rfl)]
    refine { h with
      sound := h.sound.withoutBucket name
      sound' := h.sound'.withoutBucket name
      buckets := h.buckets.erase name
      objects := fun path hpath => ?_ }
    rw [Table.get?_filter, Table.get?_filter, h.objects path hpath]
  | false =>
    rw [serve_error (e := .notFound name) (by simp only [perform, hbucket]; rfl),
      serve_error (e := .notFound name) (by simp only [perform, hthere, hbucket]; rfl)]
    exact h

/-! ## Change feeds -/

/-- Changes to the change feeds keep inventories sound. -/
theorem withFeeds (h : Mirrored own start start' inv inv')
    {feeds feeds' : Table FeedName FeedOptions} (hfeeds : feeds.AgreesAt own.feed feeds') :
    Mirrored own start start' { inv with feeds } { inv' with feeds := feeds' } :=
  { h with
    sound := h.sound.congr rfl rfl rfl rfl rfl
    sound' := h.sound'.congr rfl rfl rfl rfl rfl
    feeds := hfeeds }

/-- A feed of the run is there in both inventories or in neither. -/
theorem served_feedExists {feed : FeedName} (hown : own.feed feed) :
    Served (Mirrored own start start') (.feedExists feed) (.feedExists feed) Eq :=
  fun _ _ h => ⟨.ok (h.feeds.contains hown).symm, h⟩

/-- It has the same options in both, so it is accepted in both or in neither. -/
theorem served_validateFeedOptions {feed : FeedName} (hown : own.feed feed)
    (expected : FeedOptions) :
    Served (Mirrored own start start') (.validateFeedOptions feed expected)
      (.validateFeedOptions feed expected) fun _ _ => True := by
  intro inv inv' h
  have hsame := h.feeds feed hown
  cases hfeed : inv.feeds.get? feed with
  | none =>
    rw [serve_error (e := .notFound feed.name) (by simp only [perform, hfeed]),
      serve_error (e := .notFound feed.name) (by simp only [perform, hsame, hfeed])]
    exact ⟨.error _, h⟩
  | some actual =>
    cases hmismatch : feedMismatch? actual expected with
    | some detail =>
      rw [serve_error (e := .invalidState detail) (by simp only [perform, hfeed, hmismatch]),
        serve_error (e := .invalidState detail) (by simp only [perform, hsame, hfeed, hmismatch])]
      exact ⟨.error _, h⟩
    | none =>
      rw [serve_ok (by simp only [perform, hfeed, hmismatch]; rfl),
        serve_ok (by simp only [perform, hsame, hfeed, hmismatch]; rfl)]
      exact ⟨.ok trivial, h⟩

/-- A feed of the run is created in both inventories or in neither. -/
theorem served_createFeed {feed : FeedName} (hown : own.feed feed) (options : FeedOptions) :
    Served (Mirrored own start start') (.createFeed feed options) (.createFeed feed options)
      fun _ _ => True := by
  intro inv inv' h
  have hthere := h.feeds.contains hown
  cases hfeed : inv.feeds.contains feed with
  | true =>
    rw [serve_error (e := .alreadyExists feed.name) (by simp only [perform, hfeed, if_true]),
      serve_error (e := .alreadyExists feed.name)
        (by simp only [perform, hthere, hfeed, if_true])]
    exact ⟨.error _, h⟩
  | false =>
    rw [serve_ok (by simp only [perform, hfeed]; rfl),
      serve_ok (by simp only [perform, hthere, hfeed]; rfl)]
    exact ⟨.ok trivial, h.withFeeds (h.feeds.insert feed options)⟩

/-- A feed cannot be dropped only if it is not there. -/
theorem removes_dropFeed {feed : FeedName} : Removes (.dropFeed feed) :=
  fun hrefused => ⟨_, (dropFeed_refused hrefused).1⟩

/-- Without the feed, the inventories still look the same to the run. -/
theorem without_feed {feed : FeedName} (hown : own.feed feed)
    (h : Mirrored own start start' inv inv') :
    Mirrored own start start' (inv.serve (.dropFeed feed)).2 (inv'.serve (.dropFeed feed)).2 := by
  have hthere := h.feeds.contains hown
  cases hfeed : inv.feeds.contains feed with
  | true =>
    rw [serve_ok (by simp only [perform, hfeed, if_true]; rfl),
      serve_ok (by simp only [perform, hthere, hfeed, if_true]; rfl)]
    exact h.withFeeds (h.feeds.erase feed)
  | false =>
    rw [serve_error (e := .notFound feed.name) (by simp only [perform, hfeed]; rfl),
      serve_error (e := .notFound feed.name) (by simp only [perform, hthere, hfeed]; rfl)]
    exact h

/-! ## Databases -/

/-- Changes to the databases keep inventories sound. -/
theorem withDatabases (h : Mirrored own start start' inv inv')
    {databases databases' : Table String Unit}
    (hdatabases : databases.AgreesAt own.database databases') :
    Mirrored own start start' { inv with databases } { inv' with databases := databases' } :=
  { h with
    sound := h.sound.congr rfl rfl rfl rfl rfl
    sound' := h.sound'.congr rfl rfl rfl rfl rfl
    databases := hdatabases }

/-- A database of the run is there in both inventories or in neither. -/
theorem served_databaseExists {uri : String} (hown : own.database uri) :
    Served (Mirrored own start start') (.databaseExists uri) (.databaseExists uri) Eq :=
  fun _ _ h => ⟨.ok (h.databases.contains hown).symm, h⟩

/-- A database of the run is created in both inventories or in neither. -/
theorem served_createDatabase {uri : String} (hown : own.database uri) :
    Served (Mirrored own start start') (.createDatabase uri) (.createDatabase uri)
      fun _ _ => True := by
  intro inv inv' h
  have hthere := h.databases.contains hown
  cases huri : inv.databases.contains uri with
  | true =>
    rw [serve_error (e := .alreadyExists uri) (by simp only [perform, huri, if_true]),
      serve_error (e := .alreadyExists uri) (by simp only [perform, hthere, huri, if_true])]
    exact ⟨.error _, h⟩
  | false =>
    rw [serve_ok (by simp only [perform, huri]; rfl),
      serve_ok (by simp only [perform, hthere, huri]; rfl)]
    exact ⟨.ok trivial, h.withDatabases (h.databases.insert uri ())⟩

/-- A database cannot be dropped only if it is not there. -/
theorem removes_dropDatabase {uri : String} : Removes (.dropDatabase uri) :=
  fun hrefused => ⟨_, (dropDatabase_refused hrefused).1⟩

/-- Without the database, the inventories still look the same to the run. -/
theorem without_database {uri : String} (hown : own.database uri)
    (h : Mirrored own start start' inv inv') :
    Mirrored own start start' (inv.serve (.dropDatabase uri)).2
      (inv'.serve (.dropDatabase uri)).2 := by
  have hthere := h.databases.contains hown
  cases huri : inv.databases.contains uri with
  | true =>
    rw [serve_ok (by simp only [perform, huri, if_true]; rfl),
      serve_ok (by simp only [perform, hthere, huri, if_true]; rfl)]
    exact h.withDatabases (h.databases.erase uri)
  | false =>
    rw [serve_error (e := .notFound uri) (by simp only [perform, huri]; rfl),
      serve_error (e := .notFound uri) (by simp only [perform, hthere, huri]; rfl)]
    exact h

/-! ## Locations -/

/-- Instances are where they were, so they are found in the same place. -/
theorem served_leaderLocation (uri : String) :
    Served (Mirrored own start start') (.leaderLocation uri) (.leaderLocation uri) Eq := by
  intro inv inv' h
  have hsame := h.located uri
  cases hlocation : inv.location? uri with
  | none =>
    rw [serve_error (e := .notFound uri) (by simp only [perform, hlocation]),
      serve_error (e := .notFound uri) (by simp only [perform, hsame, hlocation])]
    exact ⟨.error _, h⟩
  | some location =>
    rw [serve_ok (by simp only [perform, hlocation]; rfl),
      serve_ok (by simp only [perform, hsame, hlocation]; rfl)]
    exact ⟨.ok rfl, h⟩

/-! ## Pipelines -/

/-- Launches that come after each other have different ids. -/
theorem nextId_injective {k k' : Nat} (heq : start.nextId k = start.nextId k') : k = k' := by
  have hnumber := pipelineId_injective heq
  omega

/-- The next job of a run has the id that its number gives it. -/
theorem start_eq {n : Nat} (hstamp : inv.stamp = start.stamp)
    (hlaunched : inv.launched.length = start.launched.length + n) (request : Launch) :
    (inv.start request).1 = start.nextId n := by
  unfold Inventory.start nextId pipelineId
  rw [hstamp, hlaunched]

/-- Starting a job adds its name to those that are running, and no other. -/
theorem contains_running_start (request : Launch) (name : String) :
    (inv.start request).2.running.contains name =
      (decide (name = request.jobName) || inv.running.contains name) := by
  rw [Table.contains, get?_running_start]
  split
  next heq => simp [heq]
  next hne => simp [hne, Table.contains]

/-- A job of the run is launched in both inventories or in neither, and the ids correspond. -/
theorem served_launch {request : Launch} (hown : own.pipeline request.jobName) :
    Served (Mirrored own start start') (.launch request) (.launch request)
      (SameLaunch start start') := by
  intro inv inv' h
  have hthere := h.running request.jobName hown
  cases hname : inv.running.contains request.jobName with
  | true =>
    rw [serve_error (e := .alreadyExists request.jobName)
        (by simp only [perform, hname, if_true]),
      serve_error (e := .alreadyExists request.jobName)
        (by simp only [perform, hthere, hname, if_true])]
    exact ⟨.error _, h⟩
  | false =>
    have hname' : inv'.running.contains request.jobName = false := hthere.trans hname
    obtain ⟨n, hlaunched, hlaunched'⟩ := h.launched
    have hid := start_eq h.stamp hlaunched request
    have hid' := start_eq h.stamp' hlaunched' request
    have hstarts : ∀ {inv : Inventory}, inv.running.contains request.jobName = false →
        inv.serve (.launch request) = (.ok (inv.start request).1, (inv.start request).2) :=
      fun hfree => serve_ok (by simp only [perform, hfree]; rfl)
    rw [hstarts hname, hstarts hname']
    refine ⟨.ok ⟨n, hid, hid'⟩, { h with
      sound := h.sound.start request (Table.get?_of_not_contains hname)
      sound' := h.sound'.start request (Table.get?_of_not_contains hname')
      running := fun name hown => ?_
      launched := ⟨n + 1, ?_, ?_⟩
      pipelines := fun k => ?_ }⟩
    · rw [contains_running_start, contains_running_start, h.running name hown]
    · show (inv.launched ++ [request]).length = _
      rw [List.length_append, hlaunched]
      rfl
    · show (inv'.launched ++ [request]).length = _
      rw [List.length_append, hlaunched']
      rfl
    · rw [get?_pipelines_start, get?_pipelines_start, hid, hid', h.pipelines k]
      -- Both launches have the same number, and ids that were given for other numbers differ.
      by_cases hk : k = n
      · rw [if_pos (by rw [hk]), if_pos (by rw [hk])]
      · rw [if_neg fun heq => hk (nextId_injective heq),
          if_neg fun heq => hk (nextId_injective heq)]

/-- A running job may be found under any id, and looking for it changes nothing. -/
theorem served_findActive (projectId location jobName : String) :
    Served (Mirrored own start start') (.findActive projectId location jobName)
      (.findActive projectId location jobName) fun _ _ => True :=
  fun _ _ h => ⟨.ok trivial, h⟩

/-- A running job is taken from the running ones when it is cancelled, and nothing else is. -/
theorem contains_running_stop (hsound : inv.Sound) {id : String} {job : PipelineJob}
    (hjob : inv.pipelines.get? id = some job) (name : String) :
    (inv.stop id job).running.contains name =
      (!decide (name = job.name ∧ job.cancelled = false) && inv.running.contains name) := by
  have hrunning : inv.running.get? name = some id ↔ name = job.name ∧ job.cancelled = false := by
    rw [hsound.running, hjob, Option.some.injEq]
    cases job
    simp [eq_comm]
  rw [Table.contains, hsound.running_stop hjob]
  by_cases hself : name = job.name ∧ job.cancelled = false
  · rw [if_pos (hrunning.2 hself)]
    simp [hself]
  · rw [if_neg (mt hrunning.1 hself)]
    simp [hself, Table.contains]

/-- A job cannot be cancelled only if there is none of that id. -/
theorem removes_cancel {projectId location id : String} : Removes (.cancel projectId location id) :=
  fun hrefused => ⟨_, (cancel_refused hrefused).1⟩

/-- Without the jobs whose ids correspond, the inventories still look the same to the run. -/
theorem without_pipeline {projectId location id id' : String}
    (hid : SameLaunch start start' id id') (h : Mirrored own start start' inv inv') :
    Mirrored own start start' (inv.serve (.cancel projectId location id)).2
      (inv'.serve (.cancel projectId location id')).2 := by
  obtain ⟨k, rfl, rfl⟩ := hid
  have hsame := h.pipelines k
  cases hjob : inv.pipelines.get? (start.nextId k) with
  | none =>
    rw [serve_error (e := .notFound (start.nextId k)) (by simp only [perform, hjob]),
      serve_error (e := .notFound (start'.nextId k)) (by simp only [perform, hsame, hjob])]
    exact h
  | some job =>
    have hjob' : inv'.pipelines.get? (start'.nextId k) = some job := hsame.trans hjob
    have hstops : ∀ {inv : Inventory} {id : String}, inv.pipelines.get? id = some job →
        inv.serve (.cancel projectId location id) = (.ok (), inv.stop id job) :=
      fun hjob => serve_ok (by simp only [perform, hjob])
    rw [hstops hjob, hstops hjob']
    refine { h with
      sound := h.sound.stop hjob
      sound' := h.sound'.stop hjob'
      running := fun name hown => ?_
      pipelines := fun k' => ?_ }
    · rw [contains_running_stop h.sound hjob, contains_running_stop h.sound' hjob',
        h.running name hown]
    · rw [get?_pipelines_stop, get?_pipelines_stop, h.pipelines k']
      by_cases hk : k' = k
      · rw [if_pos (by rw [hk]), if_pos (by rw [hk])]
      · rw [if_neg fun heq => hk (nextId_injective heq),
          if_neg fun heq => hk (nextId_injective heq)]

end Mirrored

end Inventory

end ReverseReplication
