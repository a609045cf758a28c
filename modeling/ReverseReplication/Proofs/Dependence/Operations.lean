import ReverseReplication.Proofs.Dependence.History
import ReverseReplication.Provision.Catalog

/-!
# The operations of activities

An activity makes calls of its own operations only (`ActivityKind.operations`), when it is carried
out (`Catalog.asksOnly_transaction`) and when it is undone (`Catalog.asksOnly_compensation`). Only
the activities of the pipelines launch and cancel, and no activity undoes what another has prepared.
-/

namespace ReverseReplication

variable {ctx : Context} {σ : Type}

namespace ActivityKind

/-- What the activities of the pipelines ask for. -/
def launching : List Operation := [.readObject, .launch, .findActive, .recordResource, .cancel]

/-- What an activity asks for, to be carried out and to be undone. -/
def operations : ActivityKind → List Operation
  | .registerJob => [.createJob, .updateJobStatus]
  | .prepareStagingStore => [.createBucket, .recordResource, .writeObject, .deleteBucket]
  | .prepareChangeFeed =>
    [.feedExists, .validateFeedOptions, .createFeed, .recordResource, .dropFeed]
  | .prepareMetadataStore => [.databaseExists, .createDatabase, .recordResource, .dropDatabase]
  | .launchReader => launching
  | .launchWriter => launching
  | .finalizeJob => [.updateJobStatus]

end ActivityKind

open ActivityKind (operations launching)
open Step (asksOnly_pure asksOnly_throw asksOnly_get asksOnly_set asksOnly_modify asksOnly_bind
  asksOnly_undoing asksOnly_call asksOnly_need asksOnly_remove asksOnly_readFile asksOnly_within)

/-- Removing what an output claims, and giving up the claim. -/
theorem Step.asksOnly_takeBack {ops : List Operation} {claims : σ → Bool} {doing : σ → String}
    {c : σ → Call} {cleared : σ → σ} (op : Operation) (hc : ∀ s, (c s).operation = op)
    (hop : op ∈ ops) :
    (do
      let s ← get
      if claims s then
        remove ctx (doing s) (c s)
        set (cleared s) : Step σ Unit).AsksOnly ops := by
  refine asksOnly_bind asksOnly_get fun s => ?_
  split
  next => exact asksOnly_bind (asksOnly_remove op (hc s) hop) fun _ => asksOnly_set _
  next => exact asksOnly_pure ()

/-- Reading a tuning asks the object store, if anybody. -/
theorem Step.asksOnly_loadTuning {ops : List Operation} (hop : .readObject ∈ ops) (path : String) :
    (loadTuning ctx path : Step σ Tuning).AsksOnly ops := by
  have hread : (readTuningFile ctx path : Step σ _).AsksOnly ops := by
    unfold readTuningFile
    dsimp only
    split
    next => exact asksOnly_need .readObject rfl hop
    next => exact asksOnly_readFile
  unfold loadTuning
  split
  next => exact asksOnly_pure _
  next =>
    refine asksOnly_bind hread fun contents => ?_
    split
    next => exact asksOnly_pure _
    next => exact asksOnly_throw _

open Step (asksOnly_takeBack asksOnly_loadTuning)

namespace JobEntry

variable (e : JobEntry)

/-- Writing the job record asks for nothing but that. -/
theorem asksOnly_transaction : (e.transaction ctx).AsksOnly (operations .registerJob) := by
  refine asksOnly_bind (asksOnly_call .createJob rfl (by decide)) fun reply => ?_
  split
  next => exact asksOnly_set _
  next => exact asksOnly_pure ()
  next => exact asksOnly_throw _

/-- Marking it as failed asks for nothing but a change of its status. -/
theorem asksOnly_compensation : (e.compensation ctx).AsksOnly (operations .registerJob) := by
  refine asksOnly_bind asksOnly_get fun o => ?_
  split
  next => exact asksOnly_need .updateJobStatus rfl (by decide)
  next => exact asksOnly_pure ()

end JobEntry

namespace StagingStore

variable (d : StagingStore)

/-- Taking the bucket back asks for nothing but its deletion. -/
theorem asksOnly_compensation : (d.compensation ctx).AsksOnly (operations .prepareStagingStore) :=
  asksOnly_takeBack .deleteBucket (fun _ => rfl) (by decide)

/-- Uploading a file asks for nothing but to write an object. -/
theorem asksOnly_upload {ops : List Operation} (hop : .writeObject ∈ ops) (path object : String) :
    (d.upload ctx path object).AsksOnly ops := by
  unfold upload
  split
  next =>
    refine asksOnly_bind asksOnly_readFile fun contents => ?_
    exact asksOnly_bind (asksOnly_need .writeObject rfl hop) fun _ => asksOnly_modify _
  next => exact asksOnly_pure ()

/-- Staging asks for the bucket, for its record, for the objects and, when it fails, for the
deletion. -/
theorem asksOnly_transaction :
    (d.transaction ctx).AsksOnly (operations .prepareStagingStore) := by
  have hbucket : (d.ensureBucket ctx).AsksOnly (operations .prepareStagingStore) := by
    refine asksOnly_bind (asksOnly_call .createBucket rfl (by decide)) fun reply => ?_
    split
    next =>
      refine asksOnly_bind (asksOnly_modify _) fun _ => ?_
      exact asksOnly_need .recordResource rfl (by decide)
    next => exact asksOnly_pure ()
    next => exact asksOnly_throw _
  unfold transaction
  split
  next =>
    refine asksOnly_undoing d.asksOnly_compensation (asksOnly_bind hbucket fun _ => ?_)
    refine asksOnly_bind (d.asksOnly_upload (by decide) _ _) fun _ => ?_
    exact d.asksOnly_upload (by decide) _ _
  next => exact asksOnly_pure ()

end StagingStore

namespace ChangeFeed

variable (f : ChangeFeed)

/-- Taking the feed back asks for nothing but to drop it. -/
theorem asksOnly_compensation : (f.compensation ctx).AsksOnly (operations .prepareChangeFeed) :=
  asksOnly_takeBack .dropFeed (fun _ => rfl) (by decide)

/-- Validating a feed asks for nothing but its options. -/
theorem asksOnly_validateExisting :
    (f.validateExisting ctx).AsksOnly (operations .prepareChangeFeed) := by
  refine asksOnly_bind (asksOnly_call .validateFeedOptions rfl (by decide)) fun reply => ?_
  split
  next => exact asksOnly_pure ()
  next => exact asksOnly_throw _
  next => exact asksOnly_throw _

/-- Preparing the feed asks for the operations of its activity, those of its undoing among them. -/
theorem asksOnly_transaction : (f.transaction ctx).AsksOnly (operations .prepareChangeFeed) := by
  refine asksOnly_bind (asksOnly_need .feedExists rfl (by decide)) fun found => ?_
  split
  next => exact f.asksOnly_validateExisting
  next =>
    refine asksOnly_bind (asksOnly_call .createFeed rfl (by decide)) fun reply => ?_
    split
    next =>
      refine asksOnly_bind (asksOnly_set _) fun _ => asksOnly_undoing f.asksOnly_compensation ?_
      exact asksOnly_need .recordResource rfl (by decide)
    next => exact f.asksOnly_validateExisting
    next => exact asksOnly_throw _

end ChangeFeed

namespace MetadataStore

variable (d : MetadataStore)

/-- Taking the database back asks for nothing but to drop it. -/
theorem asksOnly_compensation :
    (d.compensation ctx).AsksOnly (operations .prepareMetadataStore) :=
  asksOnly_takeBack .dropDatabase (fun _ => rfl) (by decide)

/-- Preparing the database asks for the operations of its activity, those of its undoing among
them. -/
theorem asksOnly_transaction :
    (d.transaction ctx).AsksOnly (operations .prepareMetadataStore) := by
  refine asksOnly_bind (asksOnly_need .databaseExists rfl (by decide)) fun found => ?_
  split
  next =>
    refine asksOnly_bind (asksOnly_call .createDatabase rfl (by decide)) fun reply => ?_
    split
    next =>
      refine asksOnly_bind (asksOnly_set _) fun _ => asksOnly_undoing d.asksOnly_compensation ?_
      exact asksOnly_need .recordResource rfl (by decide)
    next => exact asksOnly_pure ()
    next => exact asksOnly_throw _
  next => exact asksOnly_pure ()

end MetadataStore

namespace Pipeline

variable (p : Pipeline)

/-- Taking a pipeline back asks for nothing but to cancel it. -/
theorem asksOnly_compensation {ops : List Operation} (hop : .cancel ∈ ops) :
    (p.compensation ctx).AsksOnly ops :=
  asksOnly_takeBack .cancel (fun _ => rfl) hop

/-- Recording a pipeline asks for its record and, if that fails, to cancel it. -/
theorem asksOnly_record : (p.record ctx).AsksOnly launching := by
  refine asksOnly_bind asksOnly_get fun o => ?_
  refine asksOnly_undoing (p.asksOnly_compensation (by decide)) ?_
  exact asksOnly_need .recordResource rfl (by decide)

/-- Launching a pipeline asks for its tuning, for the launch, for its record and for the undoing. -/
theorem asksOnly_transaction : (p.transaction ctx).AsksOnly launching := by
  refine asksOnly_bind (asksOnly_loadTuning (by decide) _) fun tuning => ?_
  split
  next request _ =>
    refine asksOnly_bind (asksOnly_call .launch rfl (by decide)) fun reply => ?_
    split
    next => exact asksOnly_bind (asksOnly_set _) fun _ => p.asksOnly_record
    next =>
      refine asksOnly_bind (asksOnly_need .findActive rfl (by decide)) fun running => ?_
      exact asksOnly_set _
    next => exact asksOnly_throw _
  next => exact asksOnly_throw _

end Pipeline

namespace JobCompletion

variable (f : JobCompletion)

/-- Marking the job as running asks for nothing but a change of its status. -/
theorem asksOnly_transaction : (f.transaction ctx).AsksOnly (operations .finalizeJob) :=
  asksOnly_bind (asksOnly_need .updateJobStatus rfl (by decide)) fun _ => asksOnly_set _

/-- Marking it as created again asks for nothing but that. -/
theorem asksOnly_compensation : (f.compensation ctx).AsksOnly (operations .finalizeJob) := by
  refine asksOnly_bind asksOnly_get fun o => ?_
  split
  next =>
    exact asksOnly_bind (asksOnly_need .updateJobStatus rfl (by decide)) fun _ => asksOnly_set _
  next => exact asksOnly_pure ()

end JobCompletion

namespace Catalog

variable (c : Catalog) (k : ActivityKind)

/-- Carrying out an activity takes its operations only. -/
theorem asksOnly_transaction (o : Outputs) :
    (((c.activity k).transaction ctx).run o).AsksOnly k.operations := by
  cases k with
  | registerJob => exact asksOnly_within c.jobEntry.asksOnly_transaction o
  | prepareStagingStore => exact asksOnly_within c.stagingStore.asksOnly_transaction o
  | prepareChangeFeed => exact asksOnly_within c.changeFeed.asksOnly_transaction o
  | prepareMetadataStore => exact asksOnly_within c.metadataStore.asksOnly_transaction o
  | launchReader => exact asksOnly_within c.reader.asksOnly_transaction o
  | launchWriter => exact asksOnly_within c.writer.asksOnly_transaction o
  | finalizeJob => exact asksOnly_within c.jobCompletion.asksOnly_transaction o

/-- So does undoing it. -/
theorem asksOnly_compensation (o : Outputs) :
    (((c.activity k).compensation ctx).run o).AsksOnly k.operations := by
  cases k with
  | registerJob => exact asksOnly_within c.jobEntry.asksOnly_compensation o
  | prepareStagingStore => exact asksOnly_within c.stagingStore.asksOnly_compensation o
  | prepareChangeFeed => exact asksOnly_within c.changeFeed.asksOnly_compensation o
  | prepareMetadataStore => exact asksOnly_within c.metadataStore.asksOnly_compensation o
  | launchReader => exact asksOnly_within (c.reader.asksOnly_compensation (by decide)) o
  | launchWriter => exact asksOnly_within (c.writer.asksOnly_compensation (by decide)) o
  | finalizeJob => exact asksOnly_within c.jobCompletion.asksOnly_compensation o

end Catalog

end ReverseReplication
