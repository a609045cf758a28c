import ReverseReplication.Proofs.Commutation.Mirrored

/-!
# Activities on inventories that look the same

The steps of activities do not tell apart inventories that look the same at their keys
(`Step.Indifferent`): they end in the same way, their outputs differ in nothing but the ids of
pipeline jobs (`Outputs.Like`), and the inventories still look the same. That takes activities that
read and write at the keys of the footprint only, and tuning from local files (`Catalog.Confined`).
It carries over to the saga of a run (`Catalog.alike_execute`).
-/

namespace ReverseReplication

open Inventory (Mirrored SameLaunch)
open Inventory.Mirrored
open Step (alike_pure alike_throw alike_get alike_set alike_modify alike_bind alike_ite alike_call
  alike_need alike_takeBack alike_readFile alike_undoing)

variable {files : FileSystem} {own : Footprint} {start start' : Inventory} {σ : Type}

/-- The step does not tell apart inventories that look the same: it ends in the same way, whatever
context it is given, and the inventories still look the same. -/
def Step.Indifferent (files : FileSystem) (own : Footprint) (start start' : Inventory)
    (O : σ → σ → Prop) (x : Context → Step σ Unit) : Prop :=
  ∀ ctx ctx', Alike files (Mirrored own start start') O (fun _ _ => True) (x ctx) (x ctx')

/-! ## The job record -/

namespace JobEntry

variable {e : JobEntry} (hown : own.job e.jobId)

include hown

/-- Writing the job record ends in the same way on inventories that look the same to the run. -/
theorem indifferent_transaction : Step.Indifferent files own start start' Eq e.transaction := by
  intro ctx ctx'
  -- The two records may be created at different times.
  refine alike_bind (alike_call (served_createJob hown rfl)) fun reply reply' hreply => ?_
  cases hreply with
  | ok h => exact alike_set rfl
  | error error =>
    cases error with
    | alreadyExists what => exact alike_pure trivial
    | _ => exact alike_throw _

/-- So does marking it as failed, where the run has written it. -/
theorem indifferent_compensation : Step.Indifferent files own start start' Eq e.compensation := by
  intro ctx ctx'
  refine alike_bind alike_get ?_
  rintro o _ rfl
  refine alike_ite (fun _ => ?_) fun _ => alike_pure trivial
  exact alike_need (served_updateJobStatus hown .failed)

end JobEntry

namespace JobCompletion

variable {f : JobCompletion} (hown : own.job f.jobId)

include hown

/-- Marking the job as running ends in the same way, too. -/
theorem indifferent_transaction : Step.Indifferent files own start start' Eq f.transaction := by
  intro ctx ctx'
  exact alike_bind (alike_need (served_updateJobStatus hown .running)) fun _ _ _ => alike_set rfl

/-- So does marking it as created again. -/
theorem indifferent_compensation : Step.Indifferent files own start start' Eq f.compensation := by
  intro ctx ctx'
  refine alike_bind alike_get ?_
  rintro o _ rfl
  refine alike_ite (fun _ => ?_) fun _ => alike_pure trivial
  exact alike_bind (alike_need (served_updateJobStatus hown .created)) fun _ _ _ => alike_set rfl

end JobCompletion

/-! ## The staging bucket -/

namespace StagingStore

variable {s : StagingStore} (hown : own.bucket s.bucketName)

include hown

/-- Whether the bucket is there or not depends on the key of the run only. -/
theorem indifferent_ensureBucket : Step.Indifferent files own start start' Eq s.ensureBucket := by
  intro ctx ctx'
  refine alike_bind (alike_call (served_createBucket s.projectId hown)) ?_
  intro reply reply' hreply
  cases hreply with
  | ok h =>
    refine alike_bind (alike_modify fun o o' ho => by rw [ho]) fun _ _ _ => ?_
    exact alike_need (served_recordResource rfl)
  | error error =>
    cases error with
    | alreadyExists what => exact alike_pure trivial
    | _ => exact alike_throw _

/-- What is uploaded is a local file, and local files do not change. -/
theorem indifferent_upload (path object : String) :
    Step.Indifferent files own start start' Eq fun ctx => s.upload ctx path object := by
  intro ctx ctx'
  refine alike_ite (fun _ => ?_) fun _ => alike_pure trivial
  refine alike_bind alike_readFile ?_
  rintro contents _ ⟨rfl, -⟩
  refine alike_bind (alike_need (served_writeObject hown object contents)) fun _ _ _ => ?_
  exact alike_modify fun o o' ho => by rw [ho]

/-- The bucket is deleted in both runs or in neither, since the outputs agree. -/
theorem indifferent_compensation : Step.Indifferent files own start start' Eq s.compensation := by
  intro ctx ctx'
  refine alike_takeBack (fun _ => removes_deleteBucket) ?_ ?_ fun _ _ _ => rfl
  · rintro o _ rfl
    rfl
  · rintro o _ rfl -
    exact fun _ _ => without_bucket hown

/-- Creating the bucket and uploading both files ends in the same way. -/
theorem indifferent_stage : Step.Indifferent files own start start' Eq s.stage := by
  intro ctx ctx'
  refine alike_bind (indifferent_ensureBucket hown ctx ctx') fun _ _ _ => ?_
  refine alike_bind (indifferent_upload hown s.sessionFilePath sessionObject ctx ctx') ?_
  exact fun _ _ _ =>
    indifferent_upload hown s.sourceConnectionConfig sourceConnectionObject ctx ctx'

/-- So does the whole staging, with the deletion of the bucket when it fails. -/
theorem indifferent_transaction : Step.Indifferent files own start start' Eq s.transaction := by
  intro ctx ctx'
  refine alike_ite (fun _ => ?_) fun _ => alike_pure trivial
  exact alike_undoing (indifferent_compensation hown _ _) (indifferent_stage hown ctx ctx')

end StagingStore

/-! ## The change feed -/

namespace ChangeFeed

variable {f : ChangeFeed} (hown : own.feed f.feedName)

include hown

/-- Whether a feed is accepted depends on its options only. -/
theorem indifferent_validateExisting :
    Step.Indifferent files own start start' Eq f.validateExisting := by
  intro ctx ctx'
  refine alike_bind (alike_call (served_validateFeedOptions hown f.options)) ?_
  intro reply reply' hreply
  cases hreply with
  | ok h => exact alike_pure trivial
  | error error =>
    cases error with
    | invalidState detail => exact alike_throw _
    | _ => exact alike_throw _

/-- The feed is dropped in both runs or in neither. -/
theorem indifferent_compensation : Step.Indifferent files own start start' Eq f.compensation := by
  intro ctx ctx'
  refine alike_takeBack (fun _ => removes_dropFeed) ?_ ?_ fun _ _ _ => rfl
  · rintro o _ rfl
    rfl
  · rintro o _ rfl -
    exact fun _ _ => without_feed hown

/-- Recording the feed cannot be told apart, nor can dropping it when that fails. -/
theorem indifferent_record : Step.Indifferent files own start start' Eq f.record := by
  intro ctx ctx'
  refine alike_undoing (indifferent_compensation hown _ _) ?_
  exact alike_need (served_recordResource rfl)

/-- Creating the feed ends in the same way: it is new in both runs or in neither. -/
theorem indifferent_create : Step.Indifferent files own start start' Eq f.create := by
  intro ctx ctx'
  refine alike_bind (alike_call (served_createFeed hown f.options)) fun reply reply' hreply => ?_
  cases hreply with
  | ok h => exact alike_bind (alike_set rfl) fun _ _ _ => indifferent_record hown ctx ctx'
  | error error =>
    cases error with
    | alreadyExists what => exact indifferent_validateExisting hown ctx ctx'
    | _ => exact alike_throw _

/-- From looking for the feed to recording it, its activity cannot tell the inventories apart. -/
theorem indifferent_transaction : Step.Indifferent files own start start' Eq f.transaction := by
  intro ctx ctx'
  refine alike_bind (alike_need (served_feedExists hown)) ?_
  rintro there _ rfl
  exact alike_ite (fun _ => indifferent_validateExisting hown ctx ctx')
    fun _ => indifferent_create hown ctx ctx'

end ChangeFeed

/-! ## The metadata database -/

namespace MetadataStore

variable {d : MetadataStore} (hown : own.database d.databaseUri)

include hown

/-- The database is dropped in both runs or in neither. -/
theorem indifferent_compensation : Step.Indifferent files own start start' Eq d.compensation := by
  intro ctx ctx'
  refine alike_takeBack (fun _ => removes_dropDatabase) ?_ ?_ fun _ _ _ => rfl
  · rintro o _ rfl
    rfl
  · rintro o _ rfl -
    exact fun _ _ => without_database hown

/-- Recording the database cannot be told apart, nor can dropping it when that fails. -/
theorem indifferent_record : Step.Indifferent files own start start' Eq d.record := by
  intro ctx ctx'
  refine alike_undoing (indifferent_compensation hown _ _) ?_
  exact alike_need (served_recordResource rfl)

/-- Creating the database ends in the same way: it is new in both runs or in neither. -/
theorem indifferent_create : Step.Indifferent files own start start' Eq d.create := by
  intro ctx ctx'
  refine alike_bind (alike_call (served_createDatabase hown)) fun reply reply' hreply => ?_
  cases hreply with
  | ok h => exact alike_bind (alike_set rfl) fun _ _ _ => indifferent_record hown ctx ctx'
  | error error =>
    cases error with
    | alreadyExists what => exact alike_pure trivial
    | _ => exact alike_throw _

/-- From looking for the database to recording it, its activity cannot tell the inventories
apart. -/
theorem indifferent_transaction : Step.Indifferent files own start start' Eq d.transaction := by
  intro ctx ctx'
  refine alike_bind (alike_need (served_databaseExists hown)) ?_
  rintro there _ rfl
  exact alike_ite (fun _ => indifferent_create hown ctx ctx') fun _ => alike_pure trivial

end MetadataStore

/-! ## The pipelines -/

/-- Tuning that is not hosted is read in the same way whatever the objects are. -/
theorem Step.alike_loadTuning {σ' : Type} {S : Inventory → Inventory → Prop} {O : σ → σ' → Prop}
    {path : String} (hlocal : isHosted path = false) (ctx ctx' : Context) :
    Step.Alike files S O (fun tuning tuning' => tuning = tuning' ∧
        ∀ objects, tuningAt? files objects path = some tuning)
      (loadTuning ctx path) (loadTuning ctx' path) := by
  refine alike_ite (fun hempty => alike_pure ⟨rfl, fun _ => if_pos hempty⟩) fun hpath => ?_
  have hread : Step.Alike files S O
      (fun contents contents' => contents = contents' ∧ files path = .ok contents)
      (readTuningFile ctx path) (readTuningFile ctx' path) := by
    simp only [readTuningFile, hlocal]
    exact alike_readFile
  refine alike_bind hread ?_
  rintro contents _ ⟨rfl, hfile⟩
  cases hparse : Tuning.parse contents with
  | error e => exact alike_throw _
  | ok tuning =>
    refine alike_pure ⟨rfl, fun objects => ?_⟩
    rw [tuningAt?, if_neg hpath, tuningFile?, hlocal, hfile]
    simp [Except.toOption, hparse]

/-- What a pipeline's activity has done in two runs: the same, but for the id of the pipeline job.
The ids of jobs that the runs have launched belong to the same launch. -/
structure Pipeline.Output.Like (start start' : Inventory) (o o' : Pipeline.Output) : Prop where
  same : o' = { o with pipelineJobId := o'.pipelineJobId }
  launched : o.launched = true → SameLaunch start start' o.pipelineJobId o'.pipelineJobId

namespace Pipeline

variable {p : Pipeline}

/-- Outputs for the same launch are alike if the ids correspond where something was launched. -/
theorem Output.like_ofLaunch (request : Launch) {id id' : String} {launched : Bool}
    (h : launched = true → SameLaunch start start' id id') :
    Output.Like start start' (.ofLaunch request id launched) (.ofLaunch request id' launched) :=
  ⟨rfl, h⟩

/-- The pipelines that are cancelled are those that correspond to each other. -/
theorem indifferent_compensation :
    Step.Indifferent files own start start' (Output.Like start start') p.compensation := by
  intro ctx ctx'
  refine alike_takeBack (fun _ => removes_cancel) ?_ ?_ ?_
  · intro o o' ho
    rw [ho.same]
  · intro o o' ho hlaunched inv inv' h
    rw [ho.same]
    exact without_pipeline (ho.launched hlaunched) h
  · intro o o' ho
    rw [ho.same]
    exact ⟨rfl, fun h => nomatch h⟩

/-- A pipeline is recorded by its id, so the records are the same but for that. -/
theorem indifferent_record (hkind : p.kind.isPipeline = true) :
    Step.Indifferent files own start start' (Output.Like start start') p.record := by
  intro ctx ctx'
  refine alike_bind alike_get fun o o' ho => ?_
  refine alike_undoing (indifferent_compensation _ _) ?_
  have hresource : (p.resource o).withoutId = (p.resource o').withoutId := by
    rw [ho.same]
    simp [JobResource.withoutId, resource, hkind]
  exact alike_need (served_recordResource hresource)

/-- The launches of two runs correspond. A pipeline that is found running may have any id. -/
theorem indifferent_launch (hkind : p.kind.isPipeline = true) {request : Launch}
    (hown : own.pipeline request.jobName) :
    Step.Indifferent files own start start' (Output.Like start start')
      fun ctx => p.launch ctx request := by
  intro ctx ctx'
  refine alike_bind (alike_call (served_launch hown)) fun reply reply' hreply => ?_
  cases hreply with
  | ok h =>
    refine alike_bind (alike_set (Output.like_ofLaunch request fun _ => h)) fun _ _ _ => ?_
    exact indifferent_record hkind ctx ctx'
  | error error =>
    cases error with
    | alreadyExists what =>
      refine alike_bind (alike_need (served_findActive _ _ _)) fun id id' _ => ?_
      exact alike_set (Output.like_ofLaunch request fun h => nomatch h)
    | _ => exact alike_throw _

/-- From reading a local tuning to recording the pipeline, its activity ends in the same way, but
for the id of the job. -/
theorem indifferent_transaction (hkind : p.kind.isPipeline = true)
    (hlocal : isHosted p.target.tuningPath = false)
    (hown : ∀ name objects, p.jobName? files objects = some name → own.pipeline name) :
    Step.Indifferent files own start start' (Output.Like start start') p.transaction := by
  intro ctx ctx'
  refine alike_bind (Step.alike_loadTuning hlocal ctx ctx') ?_
  rintro tuning _ ⟨rfl, htuning⟩
  cases hmake : Launch.make p.parameters (p.resolve tuning) with
  | error e => exact alike_throw _
  | ok request =>
    refine indifferent_launch hkind (hown _ (fun _ => none) ?_) ctx ctx'
    unfold jobName?
    rw [htuning, Launch.eq_ofTuning hmake]
    rfl

end Pipeline

/-! ## All activities -/

/-- What the activities have done in two runs: the same, but for the ids of pipeline jobs. -/
structure Outputs.Like (start start' : Inventory) (o o' : Outputs) : Prop where
  same : o' = { o with reader := o'.reader, writer := o'.writer }
  pipeline : ∀ role, (o.pipeline role).Like start start' (o'.pipeline role)

/-- The part has nothing to do with the pipelines. -/
def Outputs.Aside (part : Step.Part Outputs σ) : Prop :=
  ∀ (o : Outputs) x reader writer, part.get { o with reader, writer } = part.get o ∧
    part.set x { o with reader, writer } = { part.set x o with reader, writer }

namespace Outputs

variable {part : Step.Part Outputs σ} {o o' : Outputs}

/-- Changing such a part changes no output of a pipeline. -/
theorem Aside.pipeline_set (h : Aside part) (x : σ) (o : Outputs) :
    (part.set x o).pipeline = o.pipeline := by
  have heq : part.set x o = { part.set x o with reader := o.reader, writer := o.writer } :=
    (h o x o.reader o.writer).2
  rw [heq]
  funext role
  cases role with
  | reader => rfl
  | writer => rfl

namespace Like

/-- Outside the outputs of the pipelines, like outputs are equal. -/
theorem get_aside (ho : Like start start' o o') (h : Aside part) : part.get o = part.get o' := by
  rw [ho.same]
  exact (h o (part.get o) _ _).1.symm

/-- Changing such a part in the same way keeps outputs alike. -/
theorem set_aside (ho : Like start start' o o') (h : Aside part) (x : σ) :
    Like start start' (part.set x o) (part.set x o') where
  same := by
    have heq := (h o x o'.reader o'.writer).2
    rw [← ho.same] at heq
    rw [heq]
  pipeline := by
    rw [h.pipeline_set, h.pipeline_set]
    exact ho.pipeline

/-- The outputs of each pipeline are alike in like outputs. -/
theorem get_pipelinePart (ho : Like start start' o o') (role : PipelineRole) :
    ((pipelinePart role).get o).Like start start' ((pipelinePart role).get o') := by
  cases role with
  | reader => exact ho.pipeline .reader
  | writer => exact ho.pipeline .writer

/-- Changing the output of a pipeline in like ways keeps outputs alike. -/
theorem set_pipelinePart (ho : Like start start' o o') (role : PipelineRole)
    {x x' : Pipeline.Output} (hx : x.Like start start' x') :
    Like start start' ((pipelinePart role).set x o) ((pipelinePart role).set x' o') where
  same := by
    rw [ho.same]
    cases role with
    | reader => rfl
    | writer => rfl
  pipeline role' := by
    by_cases hrole : role' = role
    · subst hrole
      rw [pipeline_set, pipeline_set]
      exact hx
    · rw [pipeline_set_of_ne x o _ hrole, pipeline_set_of_ne x' o' _ hrole]
      exact ho.pipeline role'

end Like

end Outputs

/-- The activities read and write at the keys of a footprint only, and read no hosted tuning. -/
structure Catalog.Confined (c : Catalog) (files : FileSystem) (own : Footprint) : Prop where
  registered : own.job c.jobEntry.jobId
  completed : own.job c.jobCompletion.jobId
  bucket : own.bucket c.stagingStore.bucketName
  feed : own.feed c.changeFeed.feedName
  database : own.database c.metadataStore.databaseUri
  kind : ∀ role, (c.pipeline role).kind.isPipeline = true
  tuning : ∀ role, isHosted (c.pipeline role).target.tuningPath = false
  pipeline : ∀ role name objects,
    (c.pipeline role).jobName? files objects = some name → own.pipeline name

namespace Catalog

variable {c : Catalog}

/-- An activity on a part that has nothing to do with the pipelines. -/
theorem alike_aside {name : String} {part : Step.Part Outputs σ}
    {transaction compensation : Context → Step σ Unit} (hpart : Outputs.Aside part)
    (htransaction : Step.Indifferent files own start start' Eq transaction)
    (hcompensation : Step.Indifferent files own start start' Eq compensation) :
    Saga.Alike files (Mirrored own start start') (Outputs.Like start start')
      (activityOn name part transaction compensation) := by
  have hset : ∀ o o' x x', Outputs.Like start start' o o' → x = x' →
      Outputs.Like start start' (part.set x o) (part.set x' o') := by
    rintro o o' x _ ho rfl
    exact ho.set_aside hpart x
  exact ⟨fun ctx ctx' => Step.alike_within (htransaction ctx ctx')
      (fun _ _ ho => ho.get_aside hpart) hset,
    fun ctx ctx' => Step.alike_within (hcompensation ctx ctx')
      (fun _ _ ho => ho.get_aside hpart) hset⟩

/-- The activity of a pipeline. -/
theorem alike_pipeline (h : c.Confined files own) (role : PipelineRole) (name : String) :
    Saga.Alike files (Mirrored own start start') (Outputs.Like start start')
      (activityOn name (Outputs.pipelinePart role) (c.pipeline role).transaction
        (c.pipeline role).compensation) := by
  have htransaction : Step.Indifferent files own start start' (Pipeline.Output.Like start start')
      (c.pipeline role).transaction :=
    Pipeline.indifferent_transaction (h.kind role) (h.tuning role) (h.pipeline role)
  exact ⟨fun ctx ctx' => Step.alike_within (htransaction ctx ctx')
      (fun _ _ ho => ho.get_pipelinePart role) fun _ _ _ _ ho hx => ho.set_pipelinePart role hx,
    fun ctx ctx' => Step.alike_within (Pipeline.indifferent_compensation ctx ctx')
      (fun _ _ ho => ho.get_pipelinePart role) fun _ _ _ _ ho hx => ho.set_pipelinePart role hx⟩

/-- Every activity is alike on inventories that look the same at its keys. -/
theorem alike_activity (h : c.Confined files own) (kind : ActivityKind) :
    Saga.Alike files (Mirrored own start start') (Outputs.Like start start') (c.activity kind) := by
  cases kind with
  | registerJob =>
    exact alike_aside (fun _ _ _ _ => ⟨rfl, rfl⟩)
      (JobEntry.indifferent_transaction h.registered)
      (JobEntry.indifferent_compensation h.registered)
  | prepareStagingStore =>
    exact alike_aside (fun _ _ _ _ => ⟨rfl, rfl⟩)
      (StagingStore.indifferent_transaction h.bucket)
      (StagingStore.indifferent_compensation h.bucket)
  | prepareChangeFeed =>
    exact alike_aside (fun _ _ _ _ => ⟨rfl, rfl⟩)
      (ChangeFeed.indifferent_transaction h.feed)
      (ChangeFeed.indifferent_compensation h.feed)
  | prepareMetadataStore =>
    exact alike_aside (fun _ _ _ _ => ⟨rfl, rfl⟩)
      (MetadataStore.indifferent_transaction h.database)
      (MetadataStore.indifferent_compensation h.database)
  | launchReader => exact alike_pipeline h .reader _
  | launchWriter => exact alike_pipeline h .writer _
  | finalizeJob =>
    exact alike_aside (fun _ _ _ _ => ⟨rfl, rfl⟩)
      (JobCompletion.indifferent_transaction h.completed)
      (JobCompletion.indifferent_compensation h.completed)

/-- So is the saga of a run. -/
theorem alike_execute (h : c.Confined files own) (rollback : Bool) (ctx ctx' : Context) :
    AlikeFrom files (Mirrored own start start') (Outputs.Like start start') Eq
      (Saga.execute rollback ctx c.activities) (Saga.execute rollback ctx' c.activities) := by
  refine Saga.alike_execute (fun activity hmem => ?_) ctx ctx'
  obtain ⟨kind, -, rfl⟩ := List.mem_map.1 hmem
  exact alike_activity h kind

end Catalog

end ReverseReplication
