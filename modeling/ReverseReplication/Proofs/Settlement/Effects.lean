import ReverseReplication.Proofs.Ownership.Tracks

/-!
# What activities set up

What each activity leaves behind where nothing goes wrong, as a function of what it finds
(`Catalog.effect`), and what it needs for that (`Catalog.Admits`). An activity adds what is missing
and keeps what is there already, so its effect is built from `Table.insertNew`.

Each effect changes some fields of an inventory, and what a field becomes is said in the field. So
that the other fields stay the same is true by definition.
-/

namespace ReverseReplication

open ReverseReplication.Text (Bytes)

/-! ## Putting in what is missing -/

namespace Table

variable {κ α : Type} [Ord κ] {t : Table κ α} {k k' : κ} {v v' : α}

/-- A key with a value is there. -/
theorem contains_of_get? (h : t.get? k = some v) : t.contains k = true := by
  rw [contains, h]
  rfl

/-- A key is there exactly if it has a value. -/
theorem contains_iff : t.contains k = true ↔ ∃ v, t.get? k = some v := Option.isSome_iff_exists

/-- A key that is not there has no value. -/
theorem get?_of_not_contains (h : t.contains k = false) : t.get? k = none := by
  rwa [contains, Option.isSome_eq_false_iff, Option.isNone_iff_eq_none] at h

variable [Std.TransOrd κ] [Std.LawfulEqOrd κ]

/-- Stores `v` under `k`, unless something stands there. -/
def insertNew (t : Table κ α) (k : κ) (v : α) : Table κ α :=
  if t.contains k then t else t.insert k v

/-- Changes the value under `k`, if there is one. -/
def adjust (t : Table κ α) (k : κ) (f : α → α) : Table κ α :=
  match t.get? k with
  | some v => t.insert k (f v)
  | none => t

/-- A value that is there already stays. -/
theorem insertNew_of_contains (h : t.contains k = true) : t.insertNew k v = t := if_pos h

/-- A value that is not there yet is inserted. -/
theorem insertNew_of_free (h : t.contains k = false) : t.insertNew k v = t.insert k v :=
  if_neg (Bool.eq_false_iff.1 h)

/-- A value that is there is adjusted. -/
theorem adjust_of_some {f : α → α} (h : t.get? k = some v) : t.adjust k f = t.insert k (f v) := by
  rw [adjust, h]

/-- Where there is no value, there is none to adjust. -/
theorem adjust_of_none {f : α → α} (h : t.get? k = none) : t.adjust k f = t := by
  rw [adjust, h]

variable [DecidableEq κ]

/-- Only the key itself may get a new value, and keeps an old one. -/
theorem get?_insertNew (t : Table κ α) (k k' : κ) (v : α) :
    (t.insertNew k v).get? k' = if k' = k then some ((t.get? k).getD v) else t.get? k' := by
  cases hk : t.contains k with
  | true =>
    obtain ⟨v', hv'⟩ := contains_iff.1 hk
    rw [insertNew_of_contains hk, hv', Option.getD_some]
    split
    next heq => rw [heq, hv']
    next => rfl
  | false => rw [insertNew_of_free hk, get?_insert, get?_of_not_contains hk, Option.getD_none]

/-- Then the key is there. -/
theorem contains_insertNew (t : Table κ α) (k : κ) (v : α) :
    (t.insertNew k v).contains k = true := by
  rw [contains, get?_insertNew, if_pos rfl]
  rfl

/-- Only the value of the key itself is adjusted. -/
theorem get?_adjust (t : Table κ α) (k k' : κ) (f : α → α) :
    (t.adjust k f).get? k' = if k' = k then (t.get? k).map f else t.get? k' := by
  cases hk : t.get? k with
  | some v =>
    rw [adjust_of_some hk]
    exact get?_insert t k k' (f v)
  | none =>
    rw [adjust_of_none hk, Option.map_none]
    split
    next heq => rw [heq, hk]
    next => rfl

/-- Storing what stands there already changes nothing. -/
theorem insert_of_get? (h : t.get? k = some v) : t.insert k v = t := by
  refine ext_get? fun k' => ?_
  rw [get?_insert]
  split
  next heq => rw [heq, h]
  next => rfl

/-- So does a change that keeps the value. -/
theorem adjust_of_fixed {f : α → α} (h : ∀ v, t.get? k = some v → f v = v) : t.adjust k f = t := by
  cases hk : t.get? k with
  | some v => rw [adjust_of_some hk, h v hk, insert_of_get? hk]
  | none => exact adjust_of_none hk

end Table

/-- The resources recorded for jobs, with one more unless it was `there` already. -/
def Inventory.recordingUnless (inv : Inventory) (there : Bool) (resource : JobResource) :
    Table JobId (List JobResource) :=
  if there then inv.resources
  else inv.resources.insert resource.jobId (inv.resourcesOf resource.jobId ++ [resource])

/-! ## The effects of the activities -/

/-- The record is there. -/
def JobEntry.settle (e : JobEntry) (startedAt : Instant) (inv : Inventory) : Inventory :=
  { inv with jobs := inv.jobs.insertNew e.jobId (e.record startedAt) }

/-- A record that is there already stays. -/
theorem JobEntry.settle_of_contains {e : JobEntry} {startedAt : Instant} {inv : Inventory}
    (h : inv.jobs.contains e.jobId = true) : e.settle startedAt inv = inv := by
  rw [settle, Table.insertNew_of_contains h]

/-- The record says that the job is running. -/
def JobCompletion.settle (f : JobCompletion) (inv : Inventory) : Inventory :=
  { inv with jobs := inv.jobs.adjust f.jobId fun record => { record with status := .running } }

/-- A job that is marked as running already stays. -/
theorem JobCompletion.settle_of_running {f : JobCompletion} {inv : Inventory}
    (h : ∀ record, inv.jobs.get? f.jobId = some record → record.status = .running) :
    f.settle inv = inv := by
  rw [settle, Table.adjust_of_fixed]
  intro record hrecord
  rw [← h record hrecord]

namespace StagingStore

variable (s : StagingStore) (files : FileSystem)

/-- A file that is not hosted can be read. -/
def CanRead (files : FileSystem) (path : String) : Prop :=
  isHosted path = false → ∃ contents, files path = .ok contents

/-- The files that have to be staged can be read. -/
def Readable : Prop :=
  s.stagingRequired = true →
    CanRead files s.sessionFilePath ∧ CanRead files s.sourceConnectionConfig

/-- The objects once a local file is staged under a name. -/
def stageFile (path object : String) (objects : Table ObjectPath Bytes) : Table ObjectPath Bytes :=
  if isHosted path then objects
  else
    match files path with
    | .ok contents => objects.insert ⟨s.bucketName, object⟩ contents
    | .error _ => objects

/-- The objects once the local files are staged. -/
def stageFiles (objects : Table ObjectPath Bytes) : Table ObjectPath Bytes :=
  s.stageFile files s.sourceConnectionConfig sourceConnectionObject
    (s.stageFile files s.sessionFilePath sessionObject objects)

/-- The bucket is there, and the local files are in it. -/
def settle (inv : Inventory) : Inventory :=
  { inv with
    buckets := if s.stagingRequired then inv.buckets.insertNew s.bucketName s.bucket
      else inv.buckets
    resources := if s.stagingRequired then
        inv.recordingUnless (inv.buckets.contains s.bucketName) s.resource
      else inv.resources
    objects := if s.stagingRequired then s.stageFiles files inv.objects else inv.objects }

variable {s files}

/-- Staging one file gives its path the contents, and changes no other path. -/
theorem get?_stageFile {file object : String} (objects : Table ObjectPath Bytes)
    (path : ObjectPath) :
    (s.stageFile files file object objects).get? path =
      (s.fileAt files file object path).or (objects.get? path) := by
  unfold stageFile fileAt
  cases hhosted : isHosted file with
  | true =>
    rw [if_pos rfl, if_neg fun h => nomatch h.1]
    rfl
  | false =>
    rw [if_neg Bool.false_ne_true]
    cases hfile : files file with
    | ok contents =>
      dsimp only
      rw [Table.get?_insert]
      by_cases hpath : path = ⟨s.bucketName, object⟩
      · rw [if_pos hpath, if_pos ⟨rfl, hpath⟩]
        rfl
      · rw [if_neg hpath, if_neg fun h => hpath h.2]
        rfl
    | error e =>
      show objects.get? path = _
      rw [show (Except.error e : Except FileError Bytes).toOption = none from rfl, ite_self]
      rfl

/-- Staging puts its contents where it does, and leaves the other objects alone. -/
theorem object?_settle (inv : Inventory) (path : ObjectPath) :
    (s.settle files inv).object? path = (s.stagedAt files path).or (inv.object? path) := by
  unfold settle stagedAt Inventory.object?
  cases hrequired : s.stagingRequired with
  | true => simp only [if_true, stageFiles, get?_stageFile, Option.or_assoc]
  | false => rfl

/-- When everything is staged, staging changes nothing. -/
theorem settle_of_staged {inv : Inventory}
    (hbucket : s.stagingRequired = true → inv.buckets.contains s.bucketName = true)
    (hobjects : ∀ path, (s.stagedAt files path).or (inv.object? path) = inv.object? path) :
    s.settle files inv = inv := by
  have hsame : (s.settle files inv).objects = inv.objects := by
    refine Table.ext_get? fun path => ?_
    exact (object?_settle inv path).trans (hobjects path)
  unfold settle at hsame ⊢
  cases hrequired : s.stagingRequired with
  | true =>
    rw [hrequired] at hsame
    simp only [if_true] at hsame ⊢
    rw [Table.insertNew_of_contains (hbucket hrequired), hbucket hrequired, hsame]
    rfl
  | false => rfl

end StagingStore

namespace ChangeFeed

/-- If the feed is there already, it has the options that are needed. -/
def Fits (f : ChangeFeed) (inv : Inventory) : Prop :=
  ∀ actual, inv.feeds.get? f.feedName = some actual →
    Inventory.feedMismatch? actual f.options = none

/-- The feed is there. -/
def settle (f : ChangeFeed) (inv : Inventory) : Inventory :=
  { inv with
    feeds := inv.feeds.insertNew f.feedName f.options
    resources := inv.recordingUnless (inv.feeds.contains f.feedName) f.resource }

/-- A feed that is there already stays. -/
theorem settle_of_contains {f : ChangeFeed} {inv : Inventory}
    (h : inv.feeds.contains f.feedName = true) : f.settle inv = inv := by
  rw [settle, Table.insertNew_of_contains h, h]
  rfl

end ChangeFeed

/-- The database is there. -/
def MetadataStore.settle (d : MetadataStore) (inv : Inventory) : Inventory :=
  { inv with
    databases := inv.databases.insertNew d.databaseUri ()
    resources := inv.recordingUnless (inv.databases.contains d.databaseUri) d.resource }

/-- A database that is there already stays. -/
theorem MetadataStore.settle_of_contains {d : MetadataStore} {inv : Inventory}
    (h : inv.databases.contains d.databaseUri = true) : d.settle inv = inv := by
  rw [settle, Table.insertNew_of_contains h, h]
  rfl

/-- What the managers hold once a job runs under the name of a launch. -/
def Inventory.ensureRunning (inv : Inventory) (request : Launch) : Inventory :=
  if inv.running.contains request.jobName then inv else (inv.start request).2

namespace Pipeline

variable (p : Pipeline) (files : FileSystem)

/-- There is a tuning to launch the pipeline with. -/
def Launchable (objects : ObjectPath → Option Bytes) : Prop :=
  ∃ tuning, tuningAt? files objects p.target.tuningPath = some tuning ∧
    Launch.fault? (p.resolve tuning) = none

/-- What the pipeline is launched with, where there is a tuning to launch it with. -/
def request (objects : ObjectPath → Option Bytes) : Launch :=
  .ofTuning p.parameters (p.resolve ((tuningAt? files objects p.target.tuningPath).getD {}))

/-- The pipeline runs. -/
def settle (inv : Inventory) : Inventory :=
  let request := p.request files inv.object?
  let started := inv.ensureRunning request
  { inv with
    resources := inv.recordingUnless (inv.running.contains request.jobName)
      (p.resource (.ofLaunch request (inv.start request).1 true))
    launched := started.launched
    pipelines := started.pipelines
    running := started.running }

variable {p files} in
/-- If a pipeline of the name runs already, none is launched. -/
theorem settle_of_running {inv : Inventory}
    (h : inv.running.contains (p.request files inv.object?).jobName = true) :
    p.settle files inv = inv := by
  unfold settle Inventory.ensureRunning
  simp only [h, if_true]
  rfl

/-- What the activity reports of the pipeline when it runs. -/
def settledOutput (inv : Inventory) : Output :=
  let request := p.request files inv.object?
  .ofLaunch request (((p.settle files inv).running.get? request.jobName).getD "")
    (!inv.running.contains request.jobName)

end Pipeline

/-! ## The effect of an activity of a run -/

/-- The activity that launches a pipeline. -/
def PipelineRole.kind : PipelineRole → ActivityKind
  | .reader => .launchReader
  | .writer => .launchWriter

/-- How far a run has come: what is reported of the pipelines, and what the managers hold. -/
structure Standing where
  outputs : PipelineRole → Pipeline.Output
  inventory : Inventory

namespace Catalog

variable (c : Catalog) (files : FileSystem) (startedAt : Instant)

/-- What an activity needs. -/
def Admits (k : ActivityKind) (inv : Inventory) : Prop :=
  match k with
  | .registerJob => True
  | .prepareStagingStore => c.stagingStore.Readable files
  | .prepareChangeFeed => c.changeFeed.Fits inv
  | .prepareMetadataStore => True
  | .launchReader => c.reader.Launchable files inv.object?
  | .launchWriter => c.writer.Launchable files inv.object?
  | .finalizeJob => inv.jobs.contains c.jobCompletion.jobId = true

/-- What the managers hold once an activity is done. -/
def effect (k : ActivityKind) : Inventory → Inventory :=
  match k with
  | .registerJob => c.jobEntry.settle startedAt
  | .prepareStagingStore => c.stagingStore.settle files
  | .prepareChangeFeed => c.changeFeed.settle
  | .prepareMetadataStore => c.metadataStore.settle
  | .launchReader => c.reader.settle files
  | .launchWriter => c.writer.settle files
  | .finalizeJob => c.jobCompletion.settle

/-- How far a run has come once an activity is done. -/
def advance (p : Standing) (k : ActivityKind) : Standing where
  outputs role :=
    if role.kind = k then (c.pipeline role).settledOutput files p.inventory else p.outputs role
  inventory := c.effect files startedAt k p.inventory

/-- Each of some activities has what it needs when its turn comes. -/
def Admitted : List ActivityKind → Standing → Prop
  | [], _ => True
  | k :: rest, p => c.Admits files k p.inventory ∧ Admitted rest (c.advance files startedAt p k)

/-- How far a run has come when all its activities are done. -/
def settle (inv : Inventory) : Standing :=
  ActivityKind.all.foldl (c.advance files startedAt) ⟨fun _ => {}, inv⟩

end Catalog

end ReverseReplication
