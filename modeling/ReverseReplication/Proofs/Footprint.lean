import ReverseReplication.Proofs.Ownership.Run

/-!
# A run owns only what it creates

Whatever goes wrong around it, a run keeps all that was there (`Inventory.Retained`), and it changes
nothing but what is named after it: its `Footprint`. Both hold of every run, whether it succeeds or
fails, and whether it is rolled back or not (`DisturbedWorld.provision_frame`).
-/

namespace ReverseReplication

/-- Anything may go wrong: every call may be made to fail with any error, the run may be cancelled
at any moment, and replies may be lost. -/
def Hazards.any : Hazards where
  fails _ _ := True
  cancels := True
  loses _ := True

/-- The keys that belong to a run. -/
structure Footprint where
  bucket : String → Prop
  object : ObjectPath → Prop
  feed : FeedName → Prop
  database : String → Prop
  job : JobId → Prop
  /-- The names of its pipelines. -/
  pipeline : String → Prop

/-- The keys that belong to the run of a request. Its pipelines have the names that their tuning
resolves to, be it a local file, an object that was there before, or a file that the run stages. -/
def JobRequest.footprint (r : JobRequest) (run : RunId) (settings : Settings) (files : FileSystem)
    (before : Inventory) : Footprint where
  bucket name := r.needsStaging = true ∧ name = stagingBucketOf run
  object path := r.needsStaging = true ∧ path.bucket = stagingBucketOf run ∧
    (path.object = sessionObject ∨ path.object = sourceConnectionObject)
  feed f := f = ⟨(r.fill run).targetDatabase, (r.fill run).request.changeStreamName⟩
  database uri := uri = (r.fill run).metadataDatabase
  job id := id = jobIdOf run
  pipeline := ((r.fill run).catalog settings).Names files before

namespace Inventory

/-- Every resource that was there is still there as it was, and of the job records only the status
may differ. -/
structure Retained (before after : Inventory) : Prop where
  buckets : ∀ name bucket, before.buckets.get? name = some bucket →
    after.buckets.get? name = some bucket
  feeds : ∀ feed options, before.feeds.get? feed = some options →
    after.feeds.get? feed = some options
  databases : ∀ uri, before.databases.get? uri = some () → after.databases.get? uri = some ()
  running : ∀ name id, before.running.get? name = some id → after.running.get? name = some id
  pipelines : ∀ id job, before.pipelines.get? id = some job → after.pipelines.get? id = some job
  records : ∀ id record, before.jobs.get? id = some record →
    ∃ status, after.jobs.get? id = some { record with status }

/-- All that is there is kept where nothing happens. -/
theorem Retained.refl (inv : Inventory) : inv.Retained inv where
  buckets := fun _ _ h => h
  feeds := fun _ _ h => h
  databases := fun _ h => h
  running := fun _ _ h => h
  pipelines := fun _ _ h => h
  records := fun _ record h => ⟨record.status, h⟩

/-- Two inventories agree at every key outside a footprint. -/
structure AgreesOutside (own : Footprint) (before after : Inventory) : Prop where
  defaultLocation : after.defaultLocation = before.defaultLocation
  locations : after.locations = before.locations
  stamp : after.stamp = before.stamp
  jobs : ∀ id, ¬own.job id → after.jobs.get? id = before.jobs.get? id
  resources : ∀ id, ¬own.job id → after.resources.get? id = before.resources.get? id
  buckets : ∀ name, ¬own.bucket name → after.buckets.get? name = before.buckets.get? name
  objects : ∀ path, ¬own.object path → after.object? path = before.object? path
  feeds : ∀ feed, ¬own.feed feed → after.feeds.get? feed = before.feeds.get? feed
  databases : ∀ uri, ¬own.database uri → after.databases.get? uri = before.databases.get? uri
  running : ∀ name, ¬own.pipeline name → after.running.get? name = before.running.get? name
  /-- Pipeline jobs are never forgotten, and the new ones have names of the footprint. -/
  pipelines : ∀ id job, ¬own.pipeline job.name →
    (after.pipelines.get? id = some job ↔ before.pipelines.get? id = some job)
  launched : ∃ more, after.launched = before.launched ++ more ∧
    ∀ request ∈ more, own.pipeline request.jobName

/-- What is outside a footprint is as it was where nothing happens. -/
theorem AgreesOutside.refl (own : Footprint) (inv : Inventory) : inv.AgreesOutside own inv where
  defaultLocation := rfl
  locations := rfl
  stamp := rfl
  jobs := fun _ _ => rfl
  resources := fun _ _ => rfl
  buckets := fun _ _ => rfl
  objects := fun _ _ => rfl
  feeds := fun _ _ => rfl
  databases := fun _ _ => rfl
  running := fun _ _ => rfl
  pipelines := fun _ _ _ => Iff.rfl
  launched := ⟨[], (List.append_nil _).symm, fun _ h => nomatch h⟩

end Inventory

namespace Scenario

/-- The keys that the activities of a run write at. -/
def footprint (sc : Scenario) : Footprint where
  bucket name := sc.catalog.stagingStore.stagingRequired = true ∧
    name = sc.catalog.stagingStore.bucketName
  object path := sc.catalog.stagingStore.stagingRequired = true ∧
    sc.catalog.stagingStore.Stages path
  feed f := f = sc.catalog.changeFeed.feedName
  database uri := uri = sc.catalog.metadataStore.databaseUri
  job id := id ∈ sc.catalog.jobIds
  pipeline := sc.Named

namespace Tracks

variable {sc : Scenario} {o : Outputs} {inv : Inventory}
  {known : Option (ObjectPath → Option Text.Bytes)}

/-- A run that keeps to its flags keeps all that was there before it. -/
theorem retained (h : sc.Tracks known o inv) : sc.before.Retained inv where
  buckets := fun _ _ => h.buckets.retained
  feeds := fun _ _ => h.feeds.retained
  databases := fun _ => h.databases.retained
  running := fun _ _ => h.launches.running_retained h.sound sc.sound
  pipelines := h.launches.retained
  records := h.records

/-- What a run has done stays within its footprint. -/
theorem agreesOutside (h : sc.Tracks known o inv) :
    Inventory.AgreesOutside sc.footprint sc.before inv where
  defaultLocation := h.defaultLocation
  locations := h.locations
  stamp := h.launches.stamp
  jobs := h.jobs
  resources := h.resources
  buckets := by
    intro name hname
    cases hrequired : sc.catalog.stagingStore.stagingRequired with
    | false => rw [(h.idle hrequired).2.1]
    | true => exact h.buckets.others name fun hself => hname ⟨hrequired, hself⟩
  objects := by
    intro path hpath
    cases hrequired : sc.catalog.stagingStore.stagingRequired with
    | false =>
      unfold Inventory.object?
      rw [(h.idle hrequired).2.2]
    | true =>
      refine h.objects path (StagingStore.stagedAt_eq_none fun hstages => ?_)
      exact hpath ⟨hrequired, hstages⟩
  feeds := h.feeds.others
  databases := h.databases.others
  running := by
    intro name hname
    exact h.launches.running_agrees h.sound sc.sound hname
  pipelines := by
    intro id job hname
    constructor
    · intro hnow
      exact (h.launches.added id job hnow).resolve_right hname
    · exact h.launches.retained id job
  launched := h.launches.launched

end Tracks

end Scenario

/-! ## The footprint of a request

The location of a run is looked up when the run starts. Its keys do not depend on it.
-/

/-- What a pipeline is called depends on where its tuning is, and on the stem and suffix of its
name. -/
theorem Pipeline.jobName?_congr {p q : Pipeline} (hpath : p.target.tuningPath = q.target.tuningPath)
    (hstem : p.defaults.stem = q.defaults.stem) (hsuffix : p.target.suffix = q.target.suffix)
    (files : FileSystem) (objects : ObjectPath → Option Text.Bytes) :
    p.jobName? files objects = q.jobName? files objects := by
  unfold Pipeline.jobName? Pipeline.resolve Tuning.resolve
  rw [hpath, hstem, hsuffix]

/-- Where an instance is makes no difference to how the pipelines are called. -/
theorem names_withLocation (n : NormalizedRequest) (location : String) (settings : Settings)
    (files : FileSystem) (before : Inventory) (name : String) :
    (({ n with location } : NormalizedRequest).catalog settings).Names files before name ↔
      (n.catalog settings).Names files before name := by
  have hstaged : (({ n with location } : NormalizedRequest).catalog settings).stagingStore.objectAt
      files before.object? = (n.catalog settings).stagingStore.objectAt files before.object? := by
    unfold NormalizedRequest.catalog
    rfl
  unfold Catalog.Names
  rw [hstaged]
  refine exists_congr fun role => ?_
  rw [Pipeline.jobName?_congr (q := (n.catalog settings).pipeline role)]
  all_goals cases role <;> simp only [Catalog.pipeline, NormalizedRequest.catalog,
    NormalizedRequest.target]

/-- The run of a request writes where its request says, wherever it is located. -/
theorem scenario_footprint (hz : Hazards) (r : JobRequest) (run : RunId) (settings : Settings)
    (files : FileSystem) {before : Inventory} (sound : before.Sound) (location : String) :
    (({ r.fill run with location } : NormalizedRequest).scenario hz settings files before
      sound).footprint = r.footprint run settings files before := by
  have hbucket : r.needsStaging = true → r.stagingBucket run = stagingBucketOf run :=
    fun hrequired => if_pos hrequired
  rw [Footprint.mk.injEq]
  refine ⟨?_, ?_, ?_, ?_, ?_, ?_⟩
  · funext name
    refine propext (and_congr_right fun hrequired => ?_)
    rw [← hbucket hrequired]
    rfl
  · funext path
    refine propext (and_congr_right fun hrequired => ?_)
    rw [← hbucket hrequired]
    rfl
  · rfl
  · rfl
  · funext id
    exact propext (NormalizedRequest.mem_catalog_jobIds _ _)
  · funext name
    exact propext (names_withLocation _ _ _ _ _ _)

namespace DisturbedWorld

/-- A run owns only what it creates. -/
theorem provision_frame {d : DisturbedWorld} (hwithin : d.Within .any)
    (hreachable : d.inventory.Reachable) (r : JobRequest) (run : RunId) (rollback : Bool)
    (settings : Settings) (startedAt : Instant) :
    let after := (d.provision r run rollback settings startedAt).2.inventory
    d.inventory.Retained after ∧
      Inventory.AgreesOutside (r.footprint run settings d.world.files d.inventory) d.inventory
        after := by
  intro after
  rcases provision_ends hwithin hreachable r run rollback settings startedAt with
    ⟨hsame, -⟩ | ⟨location, result, o, hended, -⟩
  · rw [show after = d.inventory from hsame]
    exact ⟨.refl _, .refl _ _⟩
  · rw [← scenario_footprint .any r run settings d.world.files hreachable.sound location]
    exact ⟨hended.tracks.retained, hended.tracks.agreesOutside⟩

/-- A run that can launch nothing is rolled back, and keeps the metadata database that it found. -/
theorem provision_frame_of_rollback :
    let uri := "projects/p1/instances/inst/databases/smt-rr-metadata-abc"
    let before := Sample.inventory.insertDatabase uri
    let failing := [(.launch, .unavailable "down")]
    let after := (Sample.run before failing).2.inventory
    after.databases.get? uri = some () ∧
      before.AgreesOutside (Sample.request.footprint "abc" Sample.settings
        (Sample.world before failing).world.files before) after := by
  intro uri before failing after
  have hwithin : (Sample.world before failing).Within .any := Sample.within fun _ _ => trivial
  have hbefore : before.databases.get? uri = some () := by
    show (Table.insert _ uri ()).get? uri = some ()
    rw [Table.get?_insert, if_pos rfl]
  obtain ⟨hretained, hagrees⟩ := provision_frame hwithin (.database uri Sample.reachable)
    Sample.request "abc" true Sample.settings .epoch
  exact ⟨hretained.databases uri hbefore, hagrees⟩

end DisturbedWorld

end ReverseReplication
