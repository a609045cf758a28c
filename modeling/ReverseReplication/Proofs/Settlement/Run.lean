import ReverseReplication.Proofs.Ownership.Run
import ReverseReplication.Proofs.Settlement.Activities

/-!
# Runs in calm

In calm, the saga of a run advances from activity to activity as long as each has what it needs
(`Catalog.ensures_executeFrom_calm`). What all of them need can be said of the inventory before the
run (`Catalog.Ready`, `Catalog.admitted_iff`). So a run in calm succeeds exactly if its request is
located and ready, and then its answer and the inventory after it are those of `Catalog.settle`
(`DisturbedWorld.provision_settles`).
-/

namespace ReverseReplication

variable {files : FileSystem} {inv : Inventory} {ctx : Context}

namespace Catalog

variable (c : Catalog)

/-! ## The saga -/

/-- How a saga ends in calm that has `executed` some activities and has the `rest` to carry out. -/
def Settled (files : FileSystem) (startedAt : Instant) (executed : Nat) (rest : List ActivityKind)
    (p : Standing) : Except SagaError Nat → Outputs → Inventory → Prop
  | .ok n, o', inv' => c.Admitted files startedAt rest p ∧ n = executed + rest.length ∧
    ⟨o'.pipeline, inv'⟩ = rest.foldl (c.advance files startedAt) p
  | .error _, _, _ => ¬c.Admitted files startedAt rest p

/-- In calm, an activity is carried out when its turn comes. -/
theorem ensures_attempt_calm (k : ActivityKind) (o : Outputs) :
    EnsuresFrom (Hazards.calm.rule files) (Saga.attempt ctx (c.activity k)) o inv
      (c.Advanced files ctx.startedAt k ⟨o.pipeline, inv⟩) := by
  unfold Saga.attempt
  rw [EnsuresFrom.bind_iff, EnsuresFrom.isCancelled_iff]
  rintro seen inv' ⟨rfl, hseen⟩
  cases seen with
  | true => exact absurd (hseen rfl) Hazards.not_givesUp_calm
  | false => exact c.ensures_advance k o

/-- Carrying out the activities that are left. -/
theorem ensures_executeFrom_calm {rollback : Bool} (done rest : List ActivityKind) (o : Outputs) :
    EnsuresFrom (Hazards.calm.rule files)
      (Saga.executeFrom rollback ctx (done.map c.activity) (rest.map c.activity)) o inv
      (c.Settled files ctx.startedAt done.length rest ⟨o.pipeline, inv⟩) := by
  -- The prediction advances with the run: what is left to predict is what is left to do.
  induction rest generalizing done o inv with
  | nil => exact ⟨trivial, List.length_map .., rfl⟩
  | cons k rest ih =>
    apply ensuresFrom_executeFrom
    refine (c.ensures_attempt_calm k o).mono ?_
    rintro (cause | u) o₁ inv₁ hends
    · exact EnsuresFrom.of_forall fun failures o₂ inv₂ hadmitted => hends hadmitted.1
    · obtain ⟨hadmits, hadvance⟩ := hends
      refine (ih (k :: done) o₁).mono ?_
      rw [hadvance]
      rintro (e | n) o₂ inv₂ hsettled
      · exact fun hadmitted => hsettled hadmitted.2
      · obtain ⟨hadmitted, hn, hstanding⟩ := hsettled
        refine ⟨⟨hadmits, hadmitted⟩, ?_, hstanding⟩
        rw [hn, List.length_cons, List.length_cons]
        omega

/-- Carrying out all activities. -/
theorem ensures_execute_calm {rollback : Bool} :
    EnsuresFrom (Hazards.calm.rule files) (Saga.execute rollback ctx c.activities) {} inv
      (c.Settled files ctx.startedAt 0 ActivityKind.all ⟨fun _ => {}, inv⟩) := by
  have hstart : ({} : Outputs).pipeline = fun _ => {} := by
    funext role
    cases role <;> rfl
  rw [← hstart]
  exact c.ensures_executeFrom_calm [] ActivityKind.all {}

/-! ## What a run needs -/

/-- What the activities of a run need, said of the inventory before the run. -/
structure Ready (files : FileSystem) (inv : Inventory) : Prop where
  readable : c.stagingStore.Readable files
  fits : c.changeFeed.Fits inv
  launchable : ∀ role, (c.pipeline role).Launchable files (c.stagingStore.settle files inv).object?

variable {c} {startedAt : Instant}

/-- The activities have what they need when their turn comes, if it is there before the run. The
record that the last one marks is written by the first. -/
theorem admitted_iff (hjob : c.jobCompletion.jobId = c.jobEntry.jobId)
    {outputs : PipelineRole → Pipeline.Output} :
    c.Admitted files startedAt ActivityKind.all ⟨outputs, inv⟩ ↔ c.Ready files inv := by
  constructor
  · rintro ⟨-, hreadable, hfits, -, hreader, hwriter, -⟩
    refine ⟨hreadable, hfits, fun role => ?_⟩
    cases role with
    | reader => exact hreader
    | writer => exact hwriter
  · rintro ⟨hreadable, hfits, hlaunchable⟩
    refine ⟨trivial, hreadable, hfits, trivial, hlaunchable .reader, hlaunchable .writer, ?_,
      trivial⟩
    show (inv.jobs.insertNew c.jobEntry.jobId (c.jobEntry.record startedAt)).contains
      c.jobCompletion.jobId = true
    rw [hjob]
    exact Table.contains_insertNew ..

/-- What the managers hold when all activities are done. -/
def settled (c : Catalog) (files : FileSystem) (startedAt : Instant) (inv : Inventory) :
    Inventory :=
  (c.settle files startedAt inv).inventory

/-! ## What the managers hold in the end -/

variable (c) (files : FileSystem) (startedAt : Instant) (inv : Inventory)

/-- A run that succeeds leaves the job's record, marked as running. -/
theorem settled_jobs :
    (c.settled files startedAt inv).jobs =
      (inv.jobs.insertNew c.jobEntry.jobId (c.jobEntry.record startedAt)).adjust
        c.jobCompletion.jobId fun record => { record with status := .running } := rfl

/-- It leaves the bucket, if files are to be staged. -/
theorem settled_buckets :
    (c.settled files startedAt inv).buckets =
      if c.stagingStore.stagingRequired then
        inv.buckets.insertNew c.stagingStore.bucketName c.stagingStore.bucket
      else inv.buckets := rfl

/-- The objects it leaves are those that were staged. -/
theorem settled_object? :
    (c.settled files startedAt inv).object? = (c.stagingStore.settle files inv).object? := rfl

/-- It leaves the feed. -/
theorem settled_feeds :
    (c.settled files startedAt inv).feeds =
      inv.feeds.insertNew c.changeFeed.feedName c.changeFeed.options := rfl

/-- It leaves the database. -/
theorem settled_databases :
    (c.settled files startedAt inv).databases =
      inv.databases.insertNew c.metadataStore.databaseUri () := rfl

/-- The record of the run says that the job is running. -/
theorem get?_jobs_settled (hjob : c.jobCompletion.jobId = c.jobEntry.jobId) :
    (c.settled files startedAt inv).jobs.get? c.jobEntry.jobId =
      some { (inv.jobs.get? c.jobEntry.jobId).getD (c.jobEntry.record startedAt) with
        status := .running } := by
  rw [settled_jobs, hjob, Table.get?_adjust, if_pos rfl, Table.get?_insertNew, if_pos rfl]
  rfl

end Catalog

/-! ## The pipelines in the end -/

namespace Inventory

/-- A job that runs goes on running. -/
theorem get?_running_ensureRunning {name id : String} (request : Launch)
    (h : inv.running.get? name = some id) :
    (inv.ensureRunning request).running.get? name = some id := by
  unfold ensureRunning
  split
  next => exact h
  next hfree =>
    rw [get?_running_start, if_neg]
    · exact h
    · rintro rfl
      exact hfree (Table.contains_of_get? h)

/-- A job runs then under the name of the launch, and under no other name that was free. -/
theorem contains_running_ensureRunning (inv : Inventory) (request : Launch) (name : String) :
    (inv.ensureRunning request).running.contains name = true ↔
      name = request.jobName ∨ inv.running.contains name = true := by
  unfold ensureRunning
  split
  next hthere =>
    refine ⟨.inr, ?_⟩
    rintro (rfl | hrunning)
    · exact hthere
    · exact hrunning
  next =>
    rw [Table.contains, get?_running_start]
    split
    next hname => exact ⟨fun _ => .inl hname, fun _ => rfl⟩
    next hname => exact ⟨.inr, fun h => h.resolve_left hname⟩

end Inventory

namespace Pipeline

/-- The pipeline runs under the id that is reported. -/
theorem get?_running_settle (p : Pipeline) (files : FileSystem) (inv : Inventory) :
    (p.settle files inv).running.get? (p.request files inv.object?).jobName =
      some (p.settledOutput files inv).pipelineJobId := by
  obtain ⟨id, hid⟩ := Table.contains_iff.1
    ((inv.contains_running_ensureRunning (p.request files inv.object?) _).2 (.inl rfl))
  have hrunning : (p.settle files inv).running.get? (p.request files inv.object?).jobName =
      some id := hid
  simp only [settledOutput, hrunning]
  rfl

/-- What is reported of a pipeline that runs. -/
def report (p : Pipeline) (files : FileSystem) (inv : Inventory) : RunningPipeline :=
  let request := p.request files inv.object?
  (Output.ofLaunch request ((inv.running.get? request.jobName).getD "") false).running

end Pipeline

namespace Catalog

variable (c : Catalog) (files : FileSystem) (startedAt : Instant) (inv : Inventory)

/-- In the end, a pipeline runs under the name that its tuning resolves to then, and under the id
that is reported. -/
theorem get?_running_settled (role : PipelineRole) :
    (c.settled files startedAt inv).running.get?
        ((c.pipeline role).request files (c.settled files startedAt inv).object?).jobName =
      some ((c.settle files startedAt inv).outputs role).pipelineJobId := by
  cases role with
  | reader =>
    -- What the writer's launch changes is not the reader's job.
    exact Inventory.get?_running_ensureRunning _ (c.reader.get?_running_settle files _)
  | writer => exact c.writer.get?_running_settle files _

/-- In the end, a job runs under a name if one did before, or if it is that of a pipeline. -/
theorem contains_running_settled (name : String) :
    (c.settled files startedAt inv).running.contains name = true ↔
      (∃ role, name =
        ((c.pipeline role).request files (c.settled files startedAt inv).object?).jobName) ∨
        inv.running.contains name = true := by
  have hwriter := Inventory.contains_running_ensureRunning
    (c.reader.settle files (c.metadataStore.settle (c.changeFeed.settle (c.stagingStore.settle files
      (c.jobEntry.settle startedAt inv)))))
    (c.writer.request files (c.settled files startedAt inv).object?) name
  have hreader := Inventory.contains_running_ensureRunning
    (c.metadataStore.settle (c.changeFeed.settle (c.stagingStore.settle files
      (c.jobEntry.settle startedAt inv))))
    (c.reader.request files (c.settled files startedAt inv).object?) name
  refine hwriter.trans ?_
  constructor
  · rintro (hname | hrunning)
    · exact .inl ⟨.writer, hname⟩
    · rcases hreader.1 hrunning with hname | hrunning
      · exact .inl ⟨.reader, hname⟩
      · exact .inr hrunning
  · rintro (⟨role, hname⟩ | hrunning)
    · cases role with
      | reader => exact .inr (hreader.2 (.inl hname))
      | writer => exact .inl hname
    · exact .inr (hreader.2 (.inr hrunning))

/-- It reports the pipelines that run then. -/
theorem running_settle (role : PipelineRole) :
    ((c.settle files startedAt inv).outputs role).running =
      (c.pipeline role).report files (c.settled files startedAt inv) := by
  unfold Pipeline.report
  dsimp only
  rw [get?_running_settled, Option.getD_some]
  cases role with
  | reader => rfl
  | writer => rfl

end Catalog

/-! ## The run -/

/-- What the outputs of the pipelines say. -/
def Standing.pipelines (p : Standing) : Outputs where
  reader := p.outputs .reader
  writer := p.outputs .writer

/-- The catalog of a request at a location. -/
def JobRequest.catalogAt (r : JobRequest) (run : RunId) (settings : Settings) (location : String) :
    Catalog :=
  (r.fillAt run location).catalog settings

namespace DisturbedWorld

variable {d : DisturbedWorld} {r : JobRequest} {run : RunId} {settings : Settings}
  {location : String}

/-- How a run ends in calm: it is located and ready, answers, and leaves behind what its activities
set up; or it is not, and fails. -/
theorem provision_settles (hwithin : d.Within .calm) (r : JobRequest) (run : RunId)
    (rollback : Bool) (settings : Settings) (startedAt : Instant) :
    let ended := d.provision r run rollback settings startedAt
    (∃ location, r.Located run d.inventory location ∧
      (r.catalogAt run settings location).Ready d.world.files d.inventory ∧
      let settle := (r.catalogAt run settings location).settle d.world.files startedAt d.inventory
      ended.1 = .ok ((r.fillAt run location).provisioned settle.pipelines ActivityKind.all.length) ∧
        ended.2.inventory = settle.inventory) ∨
    (∃ e, ended.1 = .error e) ∧ ∀ location, r.Located run d.inventory location →
      ¬(r.catalogAt run settings location).Ready d.world.files d.inventory := by
  have hensures : (r.provision run rollback settings startedAt).Ensures
      (Hazards.calm.rule d.world.files) d.inventory fun outcome inv' =>
        (∃ location, r.Located run d.inventory location ∧
          (r.catalogAt run settings location).Ready d.world.files d.inventory ∧
          let settle :=
            (r.catalogAt run settings location).settle d.world.files startedAt d.inventory
          outcome =
              .ok ((r.fillAt run location).provisioned settle.pipelines ActivityKind.all.length) ∧
            inv' = settle.inventory) ∨
        (∃ e, outcome = .error e) ∧ ∀ location, r.Located run d.inventory location →
          ¬(r.catalogAt run settings location).Ready d.world.files d.inventory := by
    -- Calm leaves one way to fail before the saga: the request cannot be located.
    apply JobRequest.ensures_provision_of_located
    · rintro (hmissing | ⟨cause, hfails⟩) e
      · exact .inr ⟨⟨_, rfl⟩, fun location hlocated => absurd hlocated (hmissing location)⟩
      · exact hfails.elim
    · intro location hlocated
      refine EnsuresFrom.mono (r.catalogAt run settings location).ensures_execute_calm ?_
      rintro (e | n) o inv' hsettled
      · refine .inr ⟨⟨_, rfl⟩, fun location' hlocated' hready => hsettled ?_⟩
        rw [← hlocated.unique hlocated'] at hready
        exact (Catalog.admitted_iff rfl).2 hready
      · obtain ⟨hadmitted, rfl, hstanding⟩ := hsettled
        refine .inl ⟨location, hlocated, (Catalog.admitted_iff rfl).1 hadmitted, ?_, ?_⟩
        · show Except.ok ((r.fillAt run location).provisioned
            (Standing.pipelines ⟨o.pipeline, inv'⟩) ActivityKind.all.length) = _
          rw [hstanding]
          rfl
        · exact congrArg Standing.inventory hstanding
  exact (hensures.run (respects .calm d.world.files) ⟨hwithin, rfl⟩).1

/-- A run that succeeds in calm was located and ready. -/
theorem settled_of_ok {rollback : Bool} {startedAt : Instant} {p : Provisioned}
    (hwithin : d.Within .calm) (hok : (d.provision r run rollback settings startedAt).1 = .ok p) :
    ∃ location, r.Located run d.inventory location ∧
      (r.catalogAt run settings location).Ready d.world.files d.inventory ∧
      p = (r.fillAt run location).provisioned
        ((r.catalogAt run settings location).settle d.world.files startedAt d.inventory).pipelines
        ActivityKind.all.length ∧
      (d.provision r run rollback settings startedAt).2.inventory =
        (r.catalogAt run settings location).settled d.world.files startedAt d.inventory := by
  rcases provision_settles hwithin r run rollback settings startedAt with
    ⟨location, hlocated, hready, hanswer, hafter⟩ | ⟨⟨e, he⟩, -⟩
  · rw [hok] at hanswer
    exact ⟨location, hlocated, hready, Except.ok.inj hanswer, hafter⟩
  · rw [hok] at he
    cases he

/-- A run that is located and ready succeeds in calm. -/
theorem ok_of_ready (hwithin : d.Within .calm) (hlocated : r.Located run d.inventory location)
    (hready : (r.catalogAt run settings location).Ready d.world.files d.inventory)
    (rollback : Bool) (startedAt : Instant) :
    (d.provision r run rollback settings startedAt).1 =
        .ok ((r.fillAt run location).provisioned
          ((r.catalogAt run settings location).settle d.world.files startedAt d.inventory).pipelines
          ActivityKind.all.length) ∧
      (d.provision r run rollback settings startedAt).2.inventory =
        (r.catalogAt run settings location).settled d.world.files startedAt d.inventory := by
  rcases provision_settles hwithin r run rollback settings startedAt with
    ⟨location', hlocated', -, hanswer, hafter⟩ | ⟨-, hnot⟩
  · obtain rfl := hlocated.unique hlocated'
    exact ⟨hanswer, hafter⟩
  · exact absurd hready (hnot location hlocated)

end DisturbedWorld

/-! ## A run that succeeds -/

namespace Sample

/-- The sample run succeeds. -/
theorem succeeds : ∃ p, (run inventory []).1 = .ok p := exists_of_toBool (by decide +kernel)

end Sample

end ReverseReplication
