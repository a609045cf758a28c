import ReverseReplication.Proofs.Ownership.Claims
import ReverseReplication.Proofs.Ownership.Launches
import ReverseReplication.Provision.Catalog

/-!
# What a run may have done so far

`Scenario.Tracks` is the invariant of a run: it ties what the managers hold to what they held before
the run, given what the outputs of the activities say. What the run did not create it has not
touched, and what an output claims the run has created. Where nothing hides from the run what its
calls have done, the run has created nothing else that is still there.

The names of the pipelines depend on tuning files, which may be objects that the run stages
(`StagingStore.objectAt`). So the invariant also keeps what is known about the objects.

Below the invariant stands one lemma for each call that changes something.
-/

namespace ReverseReplication

open ReverseReplication.Text (Bytes)

/-! ## Names of the pipelines -/

/-- The contents of a tuning file, by the local files and the objects. -/
def tuningFile? (files : FileSystem) (objects : ObjectPath → Option Bytes) (path : String) :
    Option Bytes :=
  if isHosted path then (ObjectPath.parse? path).bind objects else (files path).toOption

/-- The tuning in a file. The empty path stands for no tuning. -/
def tuningAt? (files : FileSystem) (objects : ObjectPath → Option Bytes) (path : String) :
    Option Tuning :=
  if path = "" then some {}
  else (tuningFile? files objects path).bind fun bytes => (Tuning.parse bytes).toOption

/-- The name of the pipeline's job, unless there is no tuning to take it from. -/
def Pipeline.jobName? (p : Pipeline) (files : FileSystem) (objects : ObjectPath → Option Bytes) :
    Option String :=
  (tuningAt? files objects p.target.tuningPath).map fun tuning => (p.resolve tuning).jobName

namespace StagingStore

/-- The objects that may be staged. -/
def Stages (s : StagingStore) (path : ObjectPath) : Prop :=
  path.bucket = s.bucketName ∧ (path.object = sessionObject ∨ path.object = sourceConnectionObject)

/-- What is known about the objects once a local file is staged under a name. -/
def afterUpload (s : StagingStore) (files : FileSystem) (file object : String)
    (objects : ObjectPath → Option Bytes) : ObjectPath → Option Bytes :=
  if isHosted file then objects
  else fun path => if path = ⟨s.bucketName, object⟩ then (files file).toOption else objects path

/-- The objects once staging is done. -/
def objectAt (s : StagingStore) (files : FileSystem) (objects : ObjectPath → Option Bytes) :
    ObjectPath → Option Bytes :=
  if s.stagingRequired then
    s.afterUpload files s.sourceConnectionConfig sourceConnectionObject
      (s.afterUpload files s.sessionFilePath sessionObject objects)
  else objects

/-- The contents that staging a file puts at a path. -/
def fileAt (s : StagingStore) (files : FileSystem) (file object : String) (path : ObjectPath) :
    Option Bytes :=
  if isHosted file = false ∧ path = ⟨s.bucketName, object⟩ then (files file).toOption else none

/-- The contents that staging puts at a path. -/
def stagedAt (s : StagingStore) (files : FileSystem) (path : ObjectPath) : Option Bytes :=
  if s.stagingRequired then
    (s.fileAt files s.sourceConnectionConfig sourceConnectionObject path).or
      (s.fileAt files s.sessionFilePath sessionObject path)
  else none

/-- The file is one that is staged, and this is the name of its object. -/
def Uploads (s : StagingStore) (file object : String) : Prop :=
  (file = s.sessionFilePath ∧ object = sessionObject) ∨
    (file = s.sourceConnectionConfig ∧ object = sourceConnectionObject)

/-- A local file that can be read is staged. -/
theorem stagedAt_isSome {s : StagingStore} {files : FileSystem} {file object : String}
    {contents : Bytes} (hrequired : s.stagingRequired = true) (huploads : s.Uploads file object)
    (hlocal : isHosted file = false) (hfile : files file = .ok contents) :
    (s.stagedAt files ⟨s.bucketName, object⟩).isSome := by
  have hfileAt : s.fileAt files file object ⟨s.bucketName, object⟩ = some contents := by
    rw [fileAt, if_pos ⟨hlocal, rfl⟩, hfile]
    rfl
  rw [stagedAt, if_pos hrequired, Option.isSome_or]
  rcases huploads with ⟨rfl, rfl⟩ | ⟨rfl, rfl⟩
  · rw [hfileAt, Option.isSome_some, Bool.or_true]
  · rw [hfileAt, Option.isSome_some, Bool.true_or]

/-- Only objects that may be staged are. -/
theorem stagedAt_eq_none {s : StagingStore} {files : FileSystem} {path : ObjectPath}
    (h : ¬s.Stages path) : s.stagedAt files path = none := by
  have hfile : ∀ file object, object = sessionObject ∨ object = sourceConnectionObject →
      s.fileAt files file object path = none := by
    intro file object hobject
    refine if_neg ?_
    rintro ⟨-, rfl⟩
    exact h ⟨rfl, hobject⟩
  unfold stagedAt
  rw [hfile _ _ (.inl rfl), hfile _ _ (.inr rfl)]
  exact ite_self none

/-- What is staged are the two local files, the session file first. -/
theorem objectAt_of_required {s : StagingStore} (h : s.stagingRequired = true) (files : FileSystem)
    (objects : ObjectPath → Option Bytes) :
    s.objectAt files objects =
      s.afterUpload files s.sourceConnectionConfig sourceConnectionObject
        (s.afterUpload files s.sessionFilePath sessionObject objects) :=
  if_pos h

/-- If nothing is to be staged, the objects stay as they are. -/
theorem objectAt_of_idle {s : StagingStore} (h : ¬s.stagingRequired = true) (files : FileSystem)
    (objects : ObjectPath → Option Bytes) : s.objectAt files objects = objects :=
  if_neg h

end StagingStore

/-- The two pipelines of a run. -/
inductive PipelineRole where
  | reader
  | writer
  deriving DecidableEq, Repr

namespace Catalog

/-- The pipeline in a role. -/
def pipeline (c : Catalog) : PipelineRole → Pipeline
  | .reader => c.reader
  | .writer => c.writer

/-- The jobs that the activities write about. For a run they are all the same. -/
def jobIds (c : Catalog) : List JobId := [
  c.jobEntry.jobId, c.stagingStore.jobId, c.changeFeed.jobId, c.metadataStore.jobId,
  c.reader.target.jobId, c.writer.target.jobId, c.jobCompletion.jobId]

/-- The names that the pipelines' tuning resolves to. -/
def Names (c : Catalog) (files : FileSystem) (before : Inventory) (name : String) : Prop :=
  ∃ role, (c.pipeline role).jobName? files (c.stagingStore.objectAt files before.object?)
    = some name

end Catalog

/-- What the pipelines' activities have done. -/
def Outputs.pipeline (o : Outputs) : PipelineRole → Pipeline.Output
  | .reader => o.reader
  | .writer => o.writer

/-- The part of the outputs that belongs to a pipeline. -/
def Outputs.pipelinePart : PipelineRole → Step.Part Outputs Pipeline.Output
  | .reader => readerPart
  | .writer => writerPart

namespace Outputs

/-- The part of a role holds what it was set to. -/
theorem pipeline_set (role : PipelineRole) (x : Pipeline.Output) (o : Outputs) :
    ((pipelinePart role).set x o).pipeline role = x := by
  cases role with
  | reader => rfl
  | writer => rfl

/-- Of two values for one part, the last one counts. -/
theorem set_pipelinePart_set (role : PipelineRole) (x y : Pipeline.Output) (o : Outputs) :
    (pipelinePart role).set y ((pipelinePart role).set x o) = (pipelinePart role).set y o := by
  cases role with
  | reader => rfl
  | writer => rfl

/-- Setting the part of one role leaves the other alone. -/
theorem pipeline_set_of_ne {role : PipelineRole} (x : Pipeline.Output) (o : Outputs) :
    ∀ role', role' ≠ role → ((pipelinePart role).set x o).pipeline role' = o.pipeline role' := by
  intro role' hne
  cases role with
  | reader =>
    cases role' with
    | reader => exact absurd rfl hne
    | writer => rfl
  | writer =>
    cases role' with
    | reader => rfl
    | writer => exact absurd rfl hne

end Outputs

/-! ## The invariant -/

/-- A run: what may go wrong around it, what its activities are given, and what it finds. -/
structure Scenario where
  hazards : Hazards
  catalog : Catalog
  files : FileSystem
  before : Inventory
  sound : before.Sound

namespace Scenario

/-- The names that pipelines of the run may have. -/
def Named (sc : Scenario) : String → Prop := sc.catalog.Names sc.files sc.before

/-- What the run may have done to what the managers hold, given what its outputs say and what is
known about the objects. -/
structure Tracks (sc : Scenario) (known : Option (ObjectPath → Option Bytes)) (o : Outputs)
    (inv : Inventory) : Prop where
  sound : inv.Sound
  defaultLocation : inv.defaultLocation = sc.before.defaultLocation
  locations : inv.locations = sc.before.locations
  jobs : ∀ id, id ∉ sc.catalog.jobIds → inv.jobs.get? id = sc.before.jobs.get? id
  /-- Of a job record that was there before, only the status may have changed. -/
  records : ∀ id record, sc.before.jobs.get? id = some record →
    ∃ status, inv.jobs.get? id = some { record with status }
  /-- A job record that was not there before is the one that the run writes. -/
  drafts : sc.before.jobs.get? sc.catalog.jobEntry.jobId = none →
    ∀ record, inv.jobs.get? sc.catalog.jobEntry.jobId = some record →
      ∃ createdAt status, record = { sc.catalog.jobEntry.record createdAt with status }
  /-- The run says only of a record that was not there before that it has written it. -/
  registered : o.jobEntry.registered = true →
    sc.before.jobs.get? sc.catalog.jobEntry.jobId = none ∧
      (inv.jobs.get? sc.catalog.jobEntry.jobId).isSome
  /-- The run says only of a record that is there that it has marked it as running. -/
  marked : o.jobCompletion.updated = true →
    (inv.jobs.get? sc.catalog.jobCompletion.jobId).isSome
  resources : ∀ id, id ∉ sc.catalog.jobIds → inv.resources.get? id = sc.before.resources.get? id
  buckets : Table.Claims sc.hazards.Exact sc.before.buckets inv.buckets
    sc.catalog.stagingStore.bucketName sc.catalog.stagingStore.bucket o.stagingStore.bucketCreated
  /-- Where the run stages nothing, the objects are as they were. -/
  objects : ∀ path, sc.catalog.stagingStore.stagedAt sc.files path = none →
    inv.object? path = sc.before.object? path
  known : ∀ objects ∈ known, ∀ path, inv.object? path = objects path
  /-- Where nothing has to be staged, nothing is. -/
  idle : sc.catalog.stagingStore.stagingRequired = false →
    o.stagingStore.bucketCreated = false ∧ inv.buckets = sc.before.buckets ∧
      inv.objects = sc.before.objects
  feeds : Table.Claims sc.hazards.Exact sc.before.feeds inv.feeds sc.catalog.changeFeed.feedName
    sc.catalog.changeFeed.options o.changeFeed.created
  databases : Table.Claims sc.hazards.Exact sc.before.databases inv.databases
    sc.catalog.metadataStore.databaseUri () o.metadataStore.created
  launches : Launches sc.hazards.Exact sc.Named sc.before
    (fun role => (sc.catalog.pipeline role).parameters) o.pipeline inv

variable {sc : Scenario} {known : Option (ObjectPath → Option Bytes)} {o : Outputs}
  {inv : Inventory}

/-- Before a run nothing has happened. -/
theorem tracks_before (sc : Scenario) : sc.Tracks (some sc.before.object?) {} sc.before where
  sound := sc.sound
  defaultLocation := rfl
  locations := rfl
  jobs := fun _ _ => rfl
  records := fun _ record h => ⟨record.status, h⟩
  drafts := by
    intro hnone record hrecord
    rw [hnone] at hrecord
    simp at hrecord
  registered := by
    intro hregistered
    simp at hregistered
  marked := by
    intro hmarked
    simp at hmarked
  resources := fun _ _ => rfl
  buckets := .refl rfl
  objects := fun _ _ => rfl
  known := by
    intro objects hknown path
    rw [Option.mem_some_iff.1 hknown]
  idle := fun _ => ⟨rfl, rfl, rfl⟩
  feeds := .refl rfl
  databases := .refl rfl
  launches := .refl fun role => by cases role <;> rfl

namespace Tracks

/-- What is known about the objects may be forgotten. -/
theorem forget (h : sc.Tracks known o inv) : sc.Tracks none o inv :=
  { h with known := fun _ hnone => nomatch hnone }

/-! ### The job registry -/

/-- The run may say that it has marked its record, when the record is there. -/
theorem mark (h : sc.Tracks known o inv) (x : JobCompletion.Output)
    (hthere : (inv.jobs.get? sc.catalog.jobCompletion.jobId).isSome) :
    sc.Tracks known { o with jobCompletion := x } inv :=
  { h with marked := fun _ => hthere }

/-- A new job record is no resource, so nothing more has to be claimed. -/
theorem createJob (h : sc.Tracks known o inv) (createdAt : Instant)
    (hfree : inv.jobs.get? sc.catalog.jobEntry.jobId = none) :
    sc.Tracks known o { inv with
      jobs := inv.jobs.insert sc.catalog.jobEntry.jobId
        (sc.catalog.jobEntry.record createdAt) } :=
  { h with
    sound := h.sound.congr rfl rfl rfl rfl rfl
    jobs := by
      intro id hid
      rw [Table.get?_insert, if_neg]
      · exact h.jobs id hid
      · rintro rfl
        exact hid (by simp [Catalog.jobIds])
    records := by
      intro id old hold
      obtain ⟨status, hnow⟩ := h.records id old hold
      rw [Table.get?_insert, if_neg]
      · exact ⟨status, hnow⟩
      · rintro rfl
        rw [hfree] at hnow
        simp at hnow
    drafts := by
      intro _ record hrecord
      rw [Table.get?_insert, if_pos rfl] at hrecord
      exact ⟨createdAt, .created, (Option.some.inj hrecord).symm⟩
    registered := by
      intro hregistered
      rw [Table.get?_insert, if_pos rfl]
      exact ⟨(h.registered hregistered).1, rfl⟩
    marked := fun hmarked => Table.isSome_get?_insert (h.marked hmarked)
    launches := h.launches.congr rfl rfl rfl rfl }

/-- What is not in the registry now was not there before. -/
theorem jobs_absent (h : sc.Tracks known o inv) {id : JobId} (hnow : inv.jobs.get? id = none) :
    sc.before.jobs.get? id = none := by
  cases hbefore : sc.before.jobs.get? id with
  | none => rfl
  | some record =>
    obtain ⟨status, hthere⟩ := h.records id record hbefore
    rw [hnow] at hthere
    simp at hthere

/-- The run may say that it has written its record, when the record is there and is new. -/
theorem register (h : sc.Tracks known o inv) (x : JobEntry.Output)
    (hnew : sc.before.jobs.get? sc.catalog.jobEntry.jobId = none)
    (hthere : (inv.jobs.get? sc.catalog.jobEntry.jobId).isSome) :
    sc.Tracks known { o with jobEntry := x } inv :=
  { h with registered := fun _ => ⟨hnew, hthere⟩ }

/-- Nor does marking a record change what has to be claimed. -/
theorem updateJobStatus (h : sc.Tracks known o inv) {id : JobId} {status : JobStatus}
    {record : JobRecord} (hjob : id ∈ sc.catalog.jobIds)
    (hrecord : inv.jobs.get? id = some record) :
    sc.Tracks known o { inv with jobs := inv.jobs.insert id { record with status } } :=
  { h with
    sound := h.sound.congr rfl rfl rfl rfl rfl
    jobs := by
      intro id' hid
      rw [Table.get?_insert, if_neg]
      · exact h.jobs id' hid
      · rintro rfl
        exact hid hjob
    records := by
      intro id' old hold
      obtain ⟨status', hnow⟩ := h.records id' old hold
      rw [Table.get?_insert]
      split
      next heq =>
        subst heq
        rw [hrecord] at hnow
        rw [Option.some.inj hnow]
        exact ⟨status, rfl⟩
      next => exact ⟨status', hnow⟩
    drafts := by
      intro hnone record' hrecord'
      rw [Table.get?_insert] at hrecord'
      split at hrecord'
      next heq =>
        subst heq
        obtain ⟨createdAt, old, rfl⟩ := h.drafts hnone record hrecord
        exact ⟨createdAt, status, (Option.some.inj hrecord').symm⟩
      next => exact h.drafts hnone record' hrecord'
    registered := by
      intro hregistered
      obtain ⟨hnew, hthere⟩ := h.registered hregistered
      exact ⟨hnew, Table.isSome_get?_insert hthere⟩
    marked := fun hmarked => Table.isSome_get?_insert (h.marked hmarked)
    launches := h.launches.congr rfl rfl rfl rfl }

/-- Nor does recording a resource. -/
theorem recordResource (h : sc.Tracks known o inv) {resource : JobResource}
    (hjob : resource.jobId ∈ sc.catalog.jobIds) :
    sc.Tracks known o { inv with
      resources := inv.resources.insert resource.jobId
        (inv.resourcesOf resource.jobId ++ [resource]) } :=
  { h with
    sound := h.sound.congr rfl rfl rfl rfl rfl
    resources := by
      intro id hid
      rw [Table.get?_insert, if_neg]
      · exact h.resources id hid
      · rintro rfl
        exact hid hjob
    launches := h.launches.congr rfl rfl rfl rfl }

/-! ### The object store -/

/-- A bucket that is created is claimed. -/
theorem createBucket (h : sc.Tracks known o inv)
    (hrequired : sc.catalog.stagingStore.stagingRequired = true)
    (hfree : inv.buckets.get? sc.catalog.stagingStore.bucketName = none)
    {x : StagingStore.Output} (hx : x.bucketCreated = true) :
    sc.Tracks known { o with stagingStore := x } { inv with
      buckets := inv.buckets.insert sc.catalog.stagingStore.bucketName
        sc.catalog.stagingStore.bucket } :=
  { h with
    sound := h.sound.withBucket _ _
    buckets := h.buckets.create hfree hx
    idle := by
      intro hidle
      rw [hrequired] at hidle
      simp at hidle
    launches := h.launches.congr rfl rfl rfl rfl }

/-- A bucket that the run created held no objects before. So nothing is lost with it that was
there. -/
theorem deleteBucket (h : sc.Tracks known o inv) (hcreated : o.stagingStore.bucketCreated = true)
    {x : StagingStore.Output} (hx : x.bucketCreated = false) :
    sc.Tracks none { o with stagingStore := x } { inv with
      buckets := inv.buckets.erase sc.catalog.stagingStore.bucketName
      objects := inv.objects.filter fun path =>
        path.bucket ≠ sc.catalog.stagingStore.bucketName } :=
  { h with
    sound := h.sound.withoutBucket _
    buckets := h.buckets.drop hcreated hx
    objects := by
      intro path hpath
      unfold Inventory.object?
      rw [Table.get?_filter]
      split
      next => exact h.objects path hpath
      next hbucket =>
        have hname : path.bucket = sc.catalog.stagingStore.bucketName := by simpa using hbucket
        refine (sc.sound.object?_eq_none ?_).symm
        rw [hname]
        exact h.buckets.fresh hcreated
    known := fun _ hnone => nomatch hnone
    idle := by
      intro hidle
      rw [(h.idle hidle).1] at hcreated
      simp at hcreated
    launches := h.launches.congr rfl rfl rfl rfl }

/-- The claim to a bucket may be given up where nothing is known for sure. -/
theorem forgetBucket (h : sc.Tracks known o inv) (hexact : ¬sc.hazards.Exact)
    {x : StagingStore.Output} (hx : x.bucketCreated = false) :
    sc.Tracks known { o with stagingStore := x } inv :=
  { h with
    buckets := h.buckets.forget hexact hx
    idle := fun hidle => ⟨hx, (h.idle hidle).2⟩ }

/-- An output may change that does not say the bucket was created by the run. -/
theorem relabelBucket (h : sc.Tracks known o inv) {x : StagingStore.Output}
    (hx : x.bucketCreated = o.stagingStore.bucketCreated) :
    sc.Tracks known { o with stagingStore := x } inv :=
  { h with
    buckets := by
      rw [hx]
      exact h.buckets
    idle := by
      rw [hx]
      exact h.idle }

/-- An uploaded file is in the bucket, and is known to be there. -/
theorem writeObject {objects : ObjectPath → Option Bytes} (contents : Bytes)
    (h : sc.Tracks (some objects) o inv)
    (hrequired : sc.catalog.stagingStore.stagingRequired = true) {object : String}
    (hstaged : (sc.catalog.stagingStore.stagedAt sc.files
      ⟨sc.catalog.stagingStore.bucketName, object⟩).isSome)
    (hbucket : (inv.buckets.get? sc.catalog.stagingStore.bucketName).isSome) :
    sc.Tracks
      (some fun path =>
        if path = ⟨sc.catalog.stagingStore.bucketName, object⟩ then some contents
        else objects path)
      o { inv with
        objects := inv.objects.insert ⟨sc.catalog.stagingStore.bucketName, object⟩ contents } :=
  { h with
    sound := h.sound.withObject hbucket _
    objects := by
      intro path hpath
      unfold Inventory.object?
      rw [Table.get?_insert, if_neg]
      · exact h.objects path hpath
      · rintro rfl
        rw [hpath] at hstaged
        simp at hstaged
    known := by
      intro objects' hknown path
      obtain rfl := Option.mem_some_iff.1 hknown
      unfold Inventory.object?
      simp only [Table.get?_insert]
      split
      next => rfl
      next => exact h.known objects rfl path
    idle := by
      intro hidle
      rw [hrequired] at hidle
      simp at hidle
    launches := h.launches.congr rfl rfl rfl rfl }

/-! ### Change feeds -/

/-- A feed that is created is claimed. -/
theorem createFeed (h : sc.Tracks known o inv)
    (hfree : inv.feeds.get? sc.catalog.changeFeed.feedName = none)
    {x : ChangeFeed.Output} (hx : x.created = true) :
    sc.Tracks known { o with changeFeed := x } { inv with
      feeds := inv.feeds.insert sc.catalog.changeFeed.feedName sc.catalog.changeFeed.options } :=
  { h with
    sound := h.sound.congr rfl rfl rfl rfl rfl
    feeds := h.feeds.create hfree hx
    launches := h.launches.congr rfl rfl rfl rfl }

/-- A feed that is claimed may be dropped, and then is claimed no more. -/
theorem dropFeed (h : sc.Tracks known o inv) (hcreated : o.changeFeed.created = true)
    {x : ChangeFeed.Output} (hx : x.created = false) :
    sc.Tracks known { o with changeFeed := x } { inv with
      feeds := inv.feeds.erase sc.catalog.changeFeed.feedName } :=
  { h with
    sound := h.sound.congr rfl rfl rfl rfl rfl
    feeds := h.feeds.drop hcreated hx
    launches := h.launches.congr rfl rfl rfl rfl }

/-- Where the bookkeeping need not be exact, a feed may be there without a claim. -/
theorem forgetFeed (h : sc.Tracks known o inv) (hexact : ¬sc.hazards.Exact)
    {x : ChangeFeed.Output} (hx : x.created = false) :
    sc.Tracks known { o with changeFeed := x } inv :=
  { h with feeds := h.feeds.forget hexact hx }

/-! ### Databases -/

/-- A database that is created is claimed. -/
theorem createDatabase (h : sc.Tracks known o inv)
    (hfree : inv.databases.get? sc.catalog.metadataStore.databaseUri = none)
    {x : MetadataStore.Output} (hx : x.created = true) :
    sc.Tracks known { o with metadataStore := x } { inv with
      databases := inv.databases.insert sc.catalog.metadataStore.databaseUri () } :=
  { h with
    sound := h.sound.congr rfl rfl rfl rfl rfl
    databases := h.databases.create hfree hx
    launches := h.launches.congr rfl rfl rfl rfl }

/-- A database that is claimed may be dropped, and then is claimed no more. -/
theorem dropDatabase (h : sc.Tracks known o inv) (hcreated : o.metadataStore.created = true)
    {x : MetadataStore.Output} (hx : x.created = false) :
    sc.Tracks known { o with metadataStore := x } { inv with
      databases := inv.databases.erase sc.catalog.metadataStore.databaseUri } :=
  { h with
    sound := h.sound.congr rfl rfl rfl rfl rfl
    databases := h.databases.drop hcreated hx
    launches := h.launches.congr rfl rfl rfl rfl }

/-- Where the bookkeeping need not be exact, a database may be there without a claim. -/
theorem forgetDatabase (h : sc.Tracks known o inv) (hexact : ¬sc.hazards.Exact)
    {x : MetadataStore.Output} (hx : x.created = false) :
    sc.Tracks known { o with metadataStore := x } inv :=
  { h with databases := h.databases.forget hexact hx }

/-! ### Pipelines -/

/-- The output of a pipeline may change with what the launcher holds. -/
theorem withPipeline (h : sc.Tracks known o inv) (role : PipelineRole) {x : Pipeline.Output}
    {launched : List Launch} {pipelines : Table String PipelineJob}
    {running : Table String String}
    (hsound : Inventory.Sound { inv with launched, pipelines, running })
    (hlaunches : Launches sc.hazards.Exact sc.Named sc.before
      (fun role => (sc.catalog.pipeline role).parameters)
      ((Outputs.pipelinePart role).set x o).pipeline { inv with launched, pipelines, running }) :
    sc.Tracks known ((Outputs.pipelinePart role).set x o)
      { inv with launched, pipelines, running } := by
  cases role with
  | reader => exact { h with sound := hsound, launches := hlaunches }
  | writer => exact { h with sound := hsound, launches := hlaunches }

/-- A pipeline that is launched is claimed. -/
theorem launch {role : PipelineRole} {x : Pipeline.Output}
    (h : sc.Tracks known ((Outputs.pipelinePart role).set x o) inv) {request : Launch}
    (hfree : inv.running.get? request.jobName = none) (hnamed : sc.Named request.jobName)
    (hparameters : request.parameters = (sc.catalog.pipeline role).parameters)
    (hnone : x.launched = false) :
    sc.Tracks known
      ((Outputs.pipelinePart role).set (.ofLaunch request (inv.start request).1 true) o)
      (inv.start request).2 := by
  rw [← Outputs.pipeline_set role x o] at hnone
  rw [← Outputs.set_pipelinePart_set role x]
  exact h.withPipeline role (h.sound.start request hfree)
    (h.launches.launch h.sound hnamed hparameters hnone (Outputs.pipeline_set role _ _)
      (Outputs.pipeline_set_of_ne _ _))

/-- A pipeline that is claimed may be cancelled, and then is claimed no more. -/
theorem cancel {role : PipelineRole} {x y : Pipeline.Output}
    (h : sc.Tracks known ((Outputs.pipelinePart role).set x o) inv) {job : PipelineJob}
    (hlaunched : x.launched = true) (hjob : inv.pipelines.get? x.pipelineJobId = some job)
    (hy : y.launched = false) :
    sc.Tracks known ((Outputs.pipelinePart role).set y o) (inv.stop x.pipelineJobId job) := by
  have hx := Outputs.pipeline_set role x o
  have hsound := h.sound.stop hjob
  rw [← hx] at hlaunched hjob
  rw [← Outputs.pipeline_set role y ((Outputs.pipelinePart role).set x o)] at hy
  have hstopped := h.launches.cancel h.sound sc.sound hlaunched hjob hy
    (Outputs.pipeline_set_of_ne _ _)
  rw [hx] at hstopped
  rw [← Outputs.set_pipelinePart_set role x]
  exact h.withPipeline role hsound hstopped

/-- The output of a pipeline may change if it is known to hide no launch. -/
theorem relabelPipeline {role : PipelineRole} {x y : Pipeline.Output}
    (h : sc.Tracks known ((Outputs.pipelinePart role).set x o) inv)
    (hx : sc.hazards.Exact → x.launched = false) (hy : y.launched = false) :
    sc.Tracks known ((Outputs.pipelinePart role).set y o) inv := by
  rw [← Outputs.pipeline_set role x o] at hx
  rw [← Outputs.pipeline_set role y ((Outputs.pipelinePart role).set x o)] at hy
  rw [← Outputs.set_pipelinePart_set role x]
  exact h.withPipeline role h.sound
    (h.launches.relabel hy (Outputs.pipeline_set_of_ne _ _) hx)

end Tracks

end Scenario

end ReverseReplication
