import ReverseReplication.Proofs.Settlement.Run

/-!
# What the pipelines are told exists

The parameters of the pipelines name a change feed, databases, files and a directory. Those names
reach them by other ways than they reach the activities that set these things up. `Wired` says that
the names meet again: what the parameters name is there, the reader writes where the writer reads,
and the two agree on what they share. It holds after every run in calm that succeeds
(`DisturbedWorld.provision_wires`).

The statement is about the parameters that the run gives its pipelines. A pipeline that the run
found running under the name may have been started with others.
-/

namespace ReverseReplication

/-! ## Looking up parameters -/

namespace Parameters

/-- A parameter that is not empty is inserted, an empty one is left out. -/
theorem get?_insertNonEmpty (p : Parameters) (key value k : String) :
    (p.insertNonEmpty key value).get? k =
      if k = key ∧ value ≠ "" then some value else p.get? k := by
  unfold insertNonEmpty
  by_cases hvalue : value = ""
  · simp [hvalue]
  · simp [hvalue, Table.get?_insert]

/-- The database of a project that parameters name. -/
def database? (p : Parameters) (instanceKey databaseKey : String) : Option String := do
  pure (databaseUri (← p.get? "spannerProjectId") (← p.get? instanceKey) (← p.get? databaseKey))

/-- The change feed that parameters name. -/
def feed? (p : Parameters) : Option FeedName := do
  pure ⟨← p.database? "instanceId" "databaseId", ← p.get? "changeStreamName"⟩

/-- The metadata database that parameters name. -/
def metadataDatabase? (p : Parameters) : Option String :=
  p.database? "metadataInstance" "metadataDatabase"

/-- The keys on which the reader and the writer have to agree. -/
def sharedKeys : List String := [
  "sessionFilePath", "sourceShardsFilePath", "metadataTableSuffix", "startTimestamp",
  "windowDuration", "runIdentifier"]

end Parameters

namespace NormalizedRequest

open Parameters

variable (n : NormalizedRequest)

/-- The reader is told the feed that the run prepares. -/
theorem feed?_readerParameters :
    n.readerParameters.feed? = some ⟨n.targetDatabase, n.request.changeStreamName⟩ := by
  simp [feed?, database?, readerParameters, get?_insertNonEmpty, Table.get?_ofList, targetDatabase]

/-- The reader is told the database for metadata that the run prepares. -/
theorem metadataDatabase?_readerParameters :
    n.readerParameters.metadataDatabase? = some n.metadataDatabase := by
  simp [metadataDatabase?, database?, readerParameters, get?_insertNonEmpty, Table.get?_ofList,
    metadataDatabase]

/-- The writer is told the same database. -/
theorem metadataDatabase?_writerParameters :
    n.writerParameters.metadataDatabase? = some n.metadataDatabase := by
  simp [metadataDatabase?, database?, writerParameters, Table.get?_ofList, metadataDatabase]

/-- The reader writes into the data directory, and the writer reads from it. -/
theorem dataDirectory_parameters :
    n.readerParameters.get? "gcsOutputDirectory" = some n.request.gcsDataDirectory ∧
      n.writerParameters.get? "GCSInputDirectoryPath" = some n.request.gcsDataDirectory := by
  simp [readerParameters, writerParameters, get?_insertNonEmpty, Table.get?_ofList]

/-- Both pipelines are told the same values of the keys that they share. -/
theorem sharedKeys_parameters {key : String} (h : key ∈ sharedKeys) :
    ∃ value, n.readerParameters.get? key = some value ∧
      n.writerParameters.get? key = some value := by
  simp only [sharedKeys, List.mem_cons, List.not_mem_nil, or_false] at h
  rcases h with rfl | rfl | rfl | rfl | rfl | rfl
  all_goals
    simp [readerParameters, writerParameters, get?_insertNonEmpty, Table.get?_ofList]

end NormalizedRequest

/-! ## The statement -/

/-- The paths of a request that a run may put its own in the place of, by the parameters of the
reader that carry them. -/
def JobRequest.paths (r : JobRequest) : List (String × String) := [
  ("gcsOutputDirectory", r.gcsDataDirectory), ("sessionFilePath", r.sessionFilePath),
  ("sourceShardsFilePath", r.sourceConnectionConfig)]

/-- What the parameters of the pipelines name is there when a run has succeeded, and the pipelines
run. -/
structure Wired (r : JobRequest) (run : RunId) (reader writer : Parameters) (p : Provisioned)
    (after : Inventory) : Prop where
  /-- The change feed is there, with the options that the reader needs. -/
  feed : ∃ feed, reader.feed? = some feed ∧ after.feeds.get? feed = some {}
  metadata : ∀ parameters ∈ [reader, writer], ∃ uri,
    parameters.metadataDatabase? = some uri ∧ after.databases.contains uri = true
  directory : ∃ directory, reader.get? "gcsOutputDirectory" = some directory ∧
    writer.get? "GCSInputDirectoryPath" = some directory
  shared : ∀ key ∈ Parameters.sharedKeys, ∃ value, reader.get? key = some value ∧
    writer.get? key = some value
  /-- A path that is not the caller's is one in the staging bucket, which is there. -/
  staged : ∀ key given value, (key, given) ∈ r.paths → reader.get? key = some value →
    value ≠ given →
      (∃ object, value = ObjectPath.render ⟨stagingBucketOf run, object⟩) ∧
        after.buckets.contains (stagingBucketOf run) = true
  record : ∃ id record, reader.get? "runIdentifier" = some id ∧ after.jobs.get? id = some record ∧
    record.status = .running
  running : ∀ pipeline ∈ [p.reader, p.writer], pipeline.pipelineJobId ≠ "" ∧
    after.running.get? pipeline.jobName = some pipeline.pipelineJobId

/-! ## The parts -/

/-- Only options that are the expected ones do not mismatch them. -/
theorem Inventory.eq_of_feedMismatch? {actual expected : FeedOptions}
    (h : feedMismatch? actual expected = none) : actual = expected := by
  unfold feedMismatch? at h
  split at h
  next => cases h
  next hretention =>
    split at h
    next => cases h
    next hcapture =>
      cases actual
      cases expected
      rw [FeedOptions.mk.injEq]
      exact ⟨Decidable.not_not.1 hretention, Decidable.not_not.1 hcapture⟩

/-- No pipeline id is empty. -/
theorem Inventory.pipelineId_ne_empty (inv : Inventory) (n : Nat) : inv.pipelineId n ≠ "" := by
  intro h
  have hchars := congrArg String.toList h
  simp [pipelineId] at hchars

/-- A running job has an id that is not empty. -/
theorem Inventory.Sound.running_ne_empty {inv : Inventory} (h : inv.Sound) {name id : String}
    (hrunning : inv.running.get? name = some id) : id ≠ "" := by
  rw [h.running] at hrunning
  obtain ⟨inv', k, -, rfl⟩ := h.numbered id (Option.isSome_of_mem hrunning)
  exact inv'.pipelineId_ne_empty k

namespace JobRequest

variable (r : JobRequest) (run : RunId)

/-- A hosted path that is not the caller's is one in the staging bucket of the run. -/
theorem hostedPath_staged {path object value : String}
    (hneeds : isHosted path = false → r.needsStaging = true)
    (hvalue : hostedPath (r.stagingBucket run) path object = value) (hne : value ≠ path) :
    r.needsStaging = true ∧ value = ObjectPath.render ⟨stagingBucketOf run, object⟩ := by
  unfold hostedPath at hvalue
  split at hvalue
  next => exact absurd hvalue.symm hne
  next hlocal =>
    have hstaging := hneeds (Bool.eq_false_iff.2 hlocal)
    rw [stagingBucket, if_pos hstaging] at hvalue
    exact ⟨hstaging, hvalue.symm⟩

/-- A path that the run puts in the place of the caller's is one in its staging bucket. -/
theorem staged_of_paths {key given value : String} (hpath : (key, given) ∈ r.paths)
    (hvalue : (r.fill run).readerParameters.get? key = some value) (hne : value ≠ given) :
    r.needsStaging = true ∧ ∃ object, value = ObjectPath.render ⟨stagingBucketOf run, object⟩ := by
  unfold paths at hpath
  rw [List.mem_cons, List.mem_cons, List.mem_singleton] at hpath
  rcases hpath with hpath | hpath | hpath <;> cases hpath
  · rw [(r.fill run).dataDirectory_parameters.1] at hvalue
    have hdirectory : orElse r.gcsDataDirectory (dataDirectoryOf run) = value :=
      Option.some.inj hvalue
    unfold orElse at hdirectory
    split at hdirectory
    next hempty =>
      refine ⟨?_, _, hdirectory.symm⟩
      simp [needsStaging, hempty]
    next => exact absurd hdirectory.symm hne
  · have hsession : (r.fill run).readerParameters.get? "sessionFilePath" =
        some (r.fill run).sessionFile := by
      simp [NormalizedRequest.readerParameters, Parameters.get?_insertNonEmpty, Table.get?_ofList]
    rw [hsession] at hvalue
    obtain ⟨hneeds, hrender⟩ := r.hostedPath_staged run
      (fun hlocal => by simp [needsStaging, hlocal]) (Option.some.inj hvalue) hne
    exact ⟨hneeds, _, hrender⟩
  · have hsource : (r.fill run).readerParameters.get? "sourceShardsFilePath" =
        some (r.fill run).sourceConnection := by
      simp [NormalizedRequest.readerParameters, Parameters.get?_insertNonEmpty, Table.get?_ofList]
    rw [hsource] at hvalue
    obtain ⟨hneeds, hrender⟩ := r.hostedPath_staged run
      (fun hlocal => by simp [needsStaging, hlocal]) (Option.some.inj hvalue) hne
    exact ⟨hneeds, _, hrender⟩

end JobRequest

namespace Catalog

variable (c : Catalog) {files : FileSystem} {inv : Inventory} (startedAt : Instant)

/-- The change feed has the options that are needed, whoever has created it. -/
theorem get?_feeds_settled (hready : c.Ready files inv) :
    (c.settled files startedAt inv).feeds.get? c.changeFeed.feedName =
      some c.changeFeed.options := by
  rw [settled_feeds, Table.get?_insertNew, if_pos rfl]
  cases hfeed : inv.feeds.get? c.changeFeed.feedName with
  | some actual => rw [Option.getD_some, Inventory.eq_of_feedMismatch? (hready.fits actual hfeed)]
  | none => rfl

/-- A pipeline runs under the name and the id that are reported. -/
theorem get?_running_reported (files : FileSystem) (inv : Inventory) (role : PipelineRole) :
    (c.settled files startedAt inv).running.get?
        ((c.settle files startedAt inv).outputs role).running.jobName =
      some ((c.settle files startedAt inv).outputs role).running.pipelineJobId := by
  have hrunning := c.get?_running_settled files startedAt inv role
  cases role with
  | reader => exact hrunning
  | writer => exact hrunning

end Catalog

/-! ## Successful runs -/

namespace DisturbedWorld

/-- After a run in calm that succeeds, what the pipelines are told about exists. -/
theorem provision_wires {d : DisturbedWorld} (hwithin : d.Within .calm)
    (hreachable : d.inventory.Reachable) (r : JobRequest) (run : RunId) (rollback : Bool)
    (settings : Settings) (startedAt : Instant) {p : Provisioned}
    (hok : (d.provision r run rollback settings startedAt).1 = .ok p) :
    Wired r run ((r.fill run).catalog settings).reader.parameters
      ((r.fill run).catalog settings).writer.parameters p
      (d.provision r run rollback settings startedAt).2.inventory := by
  have hsound := (provision_reachable hwithin hreachable r run rollback settings startedAt).sound
  obtain ⟨location, -, hready, rfl, hafter⟩ := settled_of_ok hwithin hok
  rw [hafter] at hsound ⊢
  have hrunning := (r.catalogAt run settings location).get?_running_reported startedAt
    d.world.files d.inventory
  refine ⟨⟨_, (r.fill run).feed?_readerParameters,
    (r.catalogAt run settings location).get?_feeds_settled startedAt hready⟩, ?_,
    ⟨_, (r.fill run).dataDirectory_parameters⟩,
    fun key hkey => (r.fill run).sharedKeys_parameters hkey, ?_, ?_, ?_⟩
  · have hdatabase : ((r.catalogAt run settings location).settled d.world.files startedAt
        d.inventory).databases.contains (r.fill run).metadataDatabase = true := by
      rw [Catalog.settled_databases]
      exact Table.contains_insertNew ..
    intro parameters hparameters
    rw [List.mem_cons, List.mem_singleton] at hparameters
    rcases hparameters with rfl | rfl
    · exact ⟨_, (r.fill run).metadataDatabase?_readerParameters, hdatabase⟩
    · exact ⟨_, (r.fill run).metadataDatabase?_writerParameters, hdatabase⟩
  -- A path that is not the given one lies in the bucket, so there are files to be staged.
  · intro key given value hpath hvalue hne
    obtain ⟨hneeds, hobject⟩ := r.staged_of_paths run hpath hvalue hne
    have hrequired : (r.catalogAt run settings location).stagingStore.stagingRequired = true :=
      hneeds
    have hname : (r.catalogAt run settings location).stagingStore.bucketName =
        stagingBucketOf run := if_pos hneeds
    refine ⟨hobject, ?_⟩
    rw [Catalog.settled_buckets, if_pos hrequired, ← hname]
    exact Table.contains_insertNew ..
  · refine ⟨jobIdOf run, _, ?_,
      (r.catalogAt run settings location).get?_jobs_settled d.world.files startedAt d.inventory rfl,
      rfl⟩
    show (r.fill run).readerParameters.get? "runIdentifier" = _
    simp [NormalizedRequest.readerParameters, Parameters.get?_insertNonEmpty, Table.get?_ofList,
      JobRequest.fill]
  · intro pipeline hpipeline
    rw [List.mem_cons, List.mem_singleton] at hpipeline
    rcases hpipeline with rfl | rfl
    · exact ⟨hsound.running_ne_empty (hrunning .reader), hrunning .reader⟩
    · exact ⟨hsound.running_ne_empty (hrunning .writer), hrunning .writer⟩

/-- It does so for a run that has to stage a file. -/
theorem provision_wires_of_sample :
    ∃ p, (Sample.run Sample.inventory []).1 = .ok p ∧
      Wired Sample.request "abc"
        ((Sample.request.fill "abc").catalog Sample.settings).reader.parameters
        ((Sample.request.fill "abc").catalog Sample.settings).writer.parameters p
        (Sample.run Sample.inventory []).2.inventory := by
  obtain ⟨p, hp⟩ := Sample.succeeds
  exact ⟨p, hp, provision_wires (Sample.within_nil _) Sample.reachable Sample.request "abc" true
    Sample.settings .epoch hp⟩

end DisturbedWorld

end ReverseReplication
