import ReverseReplication.Proofs.Settlement.Calm

/-!
# Activities in calm

In calm, every transaction of a run succeeds exactly where `Catalog.Admits` says that it has what it
needs, and then it has the effect `Catalog.effect` (`Catalog.ensures_advance`).
-/

namespace ReverseReplication

open ReverseReplication.Text (Bytes)

variable {files : FileSystem} {inv : Inventory} {ctx : Context}

/-- Recording a resource always succeeds. -/
theorem ensures_recordResource {σ : Type} {s : σ} {doing : String} {resource : JobResource}
    {post : Except ActivityError Unit → σ → Inventory → Prop}
    (hpost : post (.ok ()) s { inv with resources := inv.recordingUnless false resource }) :
    (Step.need ctx doing (.recordResource resource)).Ensures (Hazards.calm.rule files) s inv post :=
  Step.ensures_need_performed rfl hpost

/-! ## The job record -/

/-- Writing the job record always succeeds, and leaves a record that is there alone. -/
theorem JobEntry.ensures_settle (e : JobEntry) (x : Output) :
    (e.transaction ctx).Ensures (Hazards.calm.rule files) x inv
      (Step.Settles True (fun _ => True) (e.settle ctx.startedAt inv)) := by
  unfold transaction
  rw [Step.ensures_bind]
  cases hjob : inv.jobs.contains e.jobId with
  | true =>
    refine Step.ensures_call_refused (e := .alreadyExists e.jobId) (if_pos hjob) ?_
    exact ⟨trivial, trivial, (settle_of_contains hjob).symm⟩
  | false =>
    refine Step.ensures_call_performed (if_neg (Bool.eq_false_iff.1 hjob)) ?_
    refine ⟨trivial, trivial, ?_⟩
    rw [settle, Table.insertNew_of_free hjob]
    rfl

/-- Marking the job as running succeeds if there is a record. -/
theorem JobCompletion.ensures_settle (f : JobCompletion) (x : Output) :
    (f.transaction ctx).Ensures (Hazards.calm.rule files) x inv
      (Step.Settles (inv.jobs.contains f.jobId = true) (fun _ => True) (f.settle inv)) := by
  unfold transaction
  rw [Step.ensures_bind]
  cases hjob : inv.jobs.get? f.jobId with
  | some record =>
    refine Step.ensures_need_performed (by rw [Inventory.perform, hjob]) ?_
    refine ⟨Table.contains_of_get? hjob, trivial, ?_⟩
    rw [settle, Table.adjust_of_some hjob]
  | none =>
    refine Step.ensures_need_refused (by rw [Inventory.perform, hjob]) ?_
    rw [Step.after_error]
    intro hthere
    rw [Table.contains, hjob] at hthere
    cases hthere

/-! ## The staging bucket -/

namespace StagingStore

variable (s : StagingStore) {x : Output}

/-- Creating the bucket, or finding it. -/
theorem ensures_ensureBucket_calm {post : Except ActivityError Unit → Output → Inventory → Prop}
    (hpost : ∀ x', post (.ok ()) x' { inv with
      buckets := inv.buckets.insertNew s.bucketName s.bucket
      resources := inv.recordingUnless (inv.buckets.contains s.bucketName) s.resource }) :
    (s.ensureBucket ctx).Ensures (Hazards.calm.rule files) x inv post := by
  unfold ensureBucket
  rw [Step.ensures_bind]
  cases hbucket : inv.buckets.contains s.bucketName with
  | true =>
    rw [Table.insertNew_of_contains hbucket, hbucket] at hpost
    refine Step.ensures_call_refused (e := .alreadyExists s.bucketName) (if_pos hbucket) ?_
    exact hpost x
  | false =>
    rw [Table.insertNew_of_free hbucket, hbucket] at hpost
    refine Step.ensures_call_performed (if_neg (Bool.eq_false_iff.1 hbucket)) ?_
    rw [Step.after_ok, Step.ensures_bind, Step.ensures_modify, Step.after_ok]
    exact ensures_recordResource (hpost _)

/-- Staging a local file into a bucket that is there. -/
theorem ensures_stageFile {path object : String}
    (hbucket : inv.buckets.contains s.bucketName = true)
    {post : Except ActivityError Unit → Output → Inventory → Prop}
    (staged : CanRead files path → ∀ x',
      post (.ok ()) x' { inv with objects := s.stageFile files path object inv.objects })
    (failed : ¬CanRead files path → ∀ e, post (.error e) x inv) :
    (s.upload ctx path object).Ensures (Hazards.calm.rule files) x inv post := by
  unfold upload
  cases hhosted : isHosted path with
  | true =>
    have hstage : s.stageFile files path object inv.objects = inv.objects := if_pos hhosted
    rw [hstage] at staged
    refine staged (fun hlocal => ?_) x
    rw [hhosted] at hlocal
    cases hlocal
  | false =>
    rw [Bool.not_false, if_pos rfl, Step.ensures_bind]
    apply Step.ensures_readFile_calm
    cases hfile : files path with
    | ok contents =>
      have hstage : s.stageFile files path object inv.objects =
          inv.objects.insert ⟨s.bucketName, object⟩ contents := by
        rw [stageFile, if_neg (Bool.eq_false_iff.1 hhosted), hfile]
      rw [hstage] at staged
      show (Step.Ensures _ _ _ _ _)
      rw [Step.ensures_bind]
      refine Step.ensures_need_performed (if_pos hbucket) ?_
      exact staged (fun _ => ⟨contents, hfile⟩) _
    | error e =>
      refine failed (fun hread => ?_) _
      obtain ⟨contents, hcontents⟩ := hread hhosted
      rw [hfile] at hcontents
      cases hcontents

/-- Staging what has to be staged. -/
theorem ensures_settle :
    (s.transaction ctx).Ensures (Hazards.calm.rule files) x inv
      (Step.Settles (s.Readable files) (fun _ => True) (s.settle files inv)) := by
  unfold transaction
  cases hrequired : s.stagingRequired with
  | false =>
    refine ⟨fun hneeded => ?_, trivial, ?_⟩
    · rw [hrequired] at hneeded
      cases hneeded
    · simp only [settle, hrequired, Bool.false_eq_true, if_false]
  | true =>
    have hbucket := inv.buckets.contains_insertNew s.bucketName s.bucket
    rw [if_pos rfl, Step.ensures_undoing]
    unfold stage
    rw [Step.ensures_bind]
    refine s.ensures_ensureBucket_calm fun x₁ => ?_
    rw [Step.after_ok, Step.ensures_bind]
    refine s.ensures_stageFile hbucket (fun hsession x₂ => ?_) fun hnot e => ?_
    · rw [Step.after_ok]
      refine s.ensures_stageFile hbucket (fun hsource x₃ => ?_) fun hnot e => ?_
      · refine ⟨fun _ => ⟨hsession, hsource⟩, trivial, ?_⟩
        simp only [settle, hrequired, if_true, stageFiles]
      · exact Step.undone_settles fun hreadable => hnot (hreadable hrequired).2
    · exact Step.undone_settles fun hreadable => hnot (hreadable hrequired).1

end StagingStore

/-! ## The change feed -/

namespace ChangeFeed

variable (f : ChangeFeed) {x : Output}

/-- Looking at a feed that is there already. -/
theorem ensures_validateExisting_calm {actual : FeedOptions}
    (hfeed : inv.feeds.get? f.feedName = some actual) :
    (f.validateExisting ctx).Ensures (Hazards.calm.rule files) x inv
      (Step.Settles (f.Fits inv) (fun _ => True) inv) := by
  unfold validateExisting
  rw [Step.ensures_bind]
  cases hmismatch : Inventory.feedMismatch? actual f.options with
  | none =>
    have haccepted : inv.perform (.validateFeedOptions f.feedName f.options) = .ok ((), inv) := by
      simp only [Inventory.perform, hfeed, hmismatch]
    refine Step.ensures_call_performed haccepted ⟨fun actual' hactual => ?_, trivial, rfl⟩
    rw [hfeed] at hactual
    cases hactual
    exact hmismatch
  | some detail =>
    refine Step.ensures_call_refused (e := .invalidState detail) ?_ ?_
    · simp only [Inventory.perform, hfeed, hmismatch]
    · intro hfits
      rw [hfits actual hfeed] at hmismatch
      cases hmismatch

/-- Creating the feed, or finding it. -/
theorem ensures_settle :
    (f.transaction ctx).Ensures (Hazards.calm.rule files) x inv
      (Step.Settles (f.Fits inv) (fun _ => True) (f.settle inv)) := by
  unfold transaction
  rw [Step.ensures_bind]
  refine Step.ensures_need_performed rfl ?_
  rw [Step.after_ok]
  cases hfeed : inv.feeds.contains f.feedName with
  | true =>
    obtain ⟨actual, hactual⟩ := Table.contains_iff.1 hfeed
    rw [settle_of_contains hfeed]
    exact f.ensures_validateExisting_calm hactual
  | false =>
    have hfits : f.Fits inv := by
      intro actual hactual
      rw [Table.get?_of_not_contains hfeed] at hactual
      cases hactual
    rw [if_neg Bool.false_ne_true]
    unfold create
    rw [Step.ensures_bind]
    refine Step.ensures_call_performed (if_neg (Bool.eq_false_iff.1 hfeed)) ?_
    rw [Step.after_ok, Step.ensures_bind, Step.ensures_set, Step.after_ok, record,
      Step.ensures_undoing]
    apply ensures_recordResource
    refine ⟨hfits, trivial, ?_⟩
    rw [settle, Table.insertNew_of_free hfeed, hfeed]
    rfl

end ChangeFeed

/-! ## The metadata database -/

/-- Creating the database, or finding it. -/
theorem MetadataStore.ensures_settle (d : MetadataStore) {x : Output} :
    (d.transaction ctx).Ensures (Hazards.calm.rule files) x inv
      (Step.Settles True (fun _ => True) (d.settle inv)) := by
  unfold transaction
  rw [Step.ensures_bind]
  refine Step.ensures_need_performed rfl ?_
  rw [Step.after_ok]
  cases hdatabase : inv.databases.contains d.databaseUri with
  | true => exact ⟨trivial, trivial, (settle_of_contains hdatabase).symm⟩
  | false =>
    rw [Bool.not_false, if_pos rfl]
    unfold create
    rw [Step.ensures_bind]
    refine Step.ensures_call_performed (if_neg (Bool.eq_false_iff.1 hdatabase)) ?_
    rw [Step.after_ok, Step.ensures_bind, Step.ensures_set, Step.after_ok, record,
      Step.ensures_undoing]
    apply ensures_recordResource
    refine ⟨trivial, trivial, ?_⟩
    rw [settle, Table.insertNew_of_free hdatabase, hdatabase]
    rfl

/-! ## The pipelines -/

/-- Reading a tuning file yields what is there. -/
theorem ensures_readTuningFile_calm {σ : Type} {s : σ} {path : String}
    {post : Except ActivityError Bytes → σ → Inventory → Prop}
    (read : ∀ contents, tuningFile? files inv.object? path = some contents →
      post (.ok contents) s inv)
    (failed : tuningFile? files inv.object? path = none → ∀ e, post (.error e) s inv) :
    (Step.readTuningFile ctx path).Ensures (Hazards.calm.rule files) s inv post := by
  unfold tuningFile? at read failed
  unfold Step.readTuningFile
  cases hhosted : isHosted path with
  | true =>
    simp only [hhosted, if_true] at read failed ⊢
    cases hpath : ObjectPath.parse? path with
    | none =>
      refine Step.ensures_need_refused (by rw [Inventory.perform, hpath]) ?_
      exact failed (by rw [hpath]; rfl) _
    | some p =>
      rw [hpath, Option.bind_some] at read failed
      cases hobject : inv.object? p with
      | none =>
        refine Step.ensures_need_refused (e := .notFound path)
          (by simp only [Inventory.perform, hpath, hobject]) ?_
        exact failed hobject _
      | some contents =>
        have hread : inv.perform (.readObject path) = .ok (contents, inv) := by
          simp only [Inventory.perform, hpath, hobject]
        exact Step.ensures_need_performed hread (read contents hobject)
  | false =>
    simp only [hhosted, Bool.false_eq_true, if_false] at read failed ⊢
    apply Step.ensures_readFile_calm
    cases hfile : files path with
    | ok contents => exact read contents (by rw [hfile]; rfl)
    | error e => exact failed (by rw [hfile]; rfl) _

/-- So does reading a tuning. -/
theorem ensures_loadTuning_calm {σ : Type} {s : σ} {path : String}
    {post : Except ActivityError Tuning → σ → Inventory → Prop}
    (read : ∀ tuning, tuningAt? files inv.object? path = some tuning → post (.ok tuning) s inv)
    (failed : tuningAt? files inv.object? path = none → ∀ e, post (.error e) s inv) :
    (Step.loadTuning ctx path).Ensures (Hazards.calm.rule files) s inv post := by
  unfold tuningAt? at read failed
  unfold Step.loadTuning
  split
  next hempty =>
    rw [if_pos hempty] at read
    exact read {} rfl
  next hpath =>
    rw [if_neg hpath] at read failed
    rw [Step.ensures_bind]
    apply ensures_readTuningFile_calm
    · intro contents hcontents
      rw [hcontents, Option.bind_some] at read failed
      rw [Step.after_ok]
      cases htuning : Tuning.parse contents with
      | ok tuning =>
        refine read tuning ?_
        rw [htuning]
        rfl
      | error e =>
        refine failed ?_ _
        rw [htuning]
        rfl
    · intro hnone e
      rw [hnone] at failed
      exact failed rfl e

namespace Pipeline

variable (p : Pipeline) {x : Output}

/-- Launching what the tuning says, or finding that it runs. -/
theorem ensures_launch_calm {request : Launch} (hrequest : p.request files inv.object? = request) :
    (p.launch ctx request).Ensures (Hazards.calm.rule files) x inv
      fun r x' inv' => r = .ok () ∧ x' = p.settledOutput files inv ∧ inv' = p.settle files inv := by
  unfold launch
  rw [Step.ensures_bind]
  cases hrunning : inv.running.contains request.jobName with
  | true =>
    have hsettled : p.settle files inv = inv := by
      rw [← hrequest] at hrunning
      exact settle_of_running hrunning
    refine Step.ensures_call_refused (e := .alreadyExists request.jobName) (if_pos hrunning) ?_
    show (Step.Ensures _ _ _ _ _)
    rw [Step.ensures_bind]
    refine Step.ensures_need_performed rfl ?_
    rw [Step.after_ok, Step.ensures_set]
    refine ⟨rfl, ?_, hsettled.symm⟩
    simp only [settledOutput, hsettled, hrequest, hrunning, Bool.not_true]
  | false =>
    have hfree : ¬inv.running.contains request.jobName = true := Bool.eq_false_iff.1 hrunning
    have hstarted : inv.ensureRunning request = (inv.start request).2 := if_neg hfree
    have hid : (inv.start request).2.running.get? request.jobName =
        some (inv.start request).1 := by
      rw [Inventory.get?_running_start, if_pos rfl]
    refine Step.ensures_call_performed (if_neg hfree) ?_
    rw [Step.after_ok, Step.ensures_bind, Step.ensures_set, Step.after_ok]
    unfold record
    rw [Step.ensures_bind, Step.ensures_get, Step.after_ok, Step.ensures_undoing]
    apply ensures_recordResource
    refine ⟨rfl, ?_, ?_⟩
    · simp only [settledOutput, settle, hrequest, hstarted, hrunning, hid, Option.getD_some,
        Bool.not_false]
      rfl
    · simp only [settle, hrequest, hstarted, hrunning]
      rfl

/-- Launching the pipeline, or finding it. -/
theorem ensures_settle :
    (p.transaction ctx).Ensures (Hazards.calm.rule files) x inv
      (Step.Settles (p.Launchable files inv.object?) (· = p.settledOutput files inv)
        (p.settle files inv)) := by
  unfold transaction
  rw [Step.ensures_bind]
  apply ensures_loadTuning_calm
  · intro tuning htuning
    rw [Step.after_ok, Launch.make]
    cases hfault : Launch.fault? (p.resolve tuning) with
    | none =>
      have hrequest : p.request files inv.object? = .ofTuning p.parameters (p.resolve tuning) := by
        rw [request, htuning, Option.getD_some]
      refine (p.ensures_launch_calm hrequest).mono ?_
      rintro r x' inv' ⟨rfl, hx', hinv'⟩
      exact ⟨⟨tuning, htuning, hfault⟩, hx', hinv'⟩
    | some e =>
      rintro ⟨tuning', htuning', hnone⟩
      rw [htuning] at htuning'
      cases htuning'
      rw [hfault] at hnone
      cases hnone
  · rintro hnone e ⟨tuning, htuning, -⟩
    rw [hnone] at htuning
    cases htuning

end Pipeline

/-! ## An activity of a run -/

namespace Catalog

variable (c : Catalog)

/-- How an activity ends in calm. -/
def Advanced (files : FileSystem) (startedAt : Instant) (k : ActivityKind) (p : Standing) :
    Except ActivityError Unit → Outputs → Inventory → Prop
  | .ok _, o', inv' => c.Admits files k p.inventory ∧
    ⟨o'.pipeline, inv'⟩ = c.advance files startedAt p k
  | .error _, _, _ => ¬c.Admits files k p.inventory

/-- An activity that launches nothing leaves the outputs of the pipelines as they are. -/
theorem advanced_of_within {σ : Type} {part : Step.Part Outputs σ} {x : Step σ Unit}
    {k : ActivityKind} {o : Outputs} {reports : σ → Prop} {startedAt : Instant}
    (hpart : ∀ y o, (part.set y o).pipeline = o.pipeline)
    (hkind : ∀ role, PipelineRole.kind role ≠ k)
    (h : x.Ensures (Hazards.calm.rule files) (part.get o) inv
      (Step.Settles (c.Admits files k inv) reports (c.effect files startedAt k inv))) :
    EnsuresFrom (Hazards.calm.rule files) (Step.within part x) o inv
      (c.Advanced files startedAt k ⟨o.pipeline, inv⟩) := by
  rw [Step.ensuresFrom_within]
  apply h.mono
  rintro (e | u) y inv' hends
  · exact hends
  · obtain ⟨hadmits, -, rfl⟩ := hends
    refine ⟨hadmits, ?_⟩
    unfold advance
    simp only [hpart, hkind, if_false]

/-- An activity that launches a pipeline changes the output of that pipeline only. -/
theorem advanced_of_launch (role : PipelineRole) {x : Step Pipeline.Output Unit} {o : Outputs}
    {startedAt : Instant}
    (h : x.Ensures (Hazards.calm.rule files) (o.pipeline role) inv
      (Step.Settles (c.Admits files role.kind inv)
        (· = (c.pipeline role).settledOutput files inv) (c.effect files startedAt role.kind inv))) :
    EnsuresFrom (Hazards.calm.rule files) (Step.within (Outputs.pipelinePart role) x) o inv
      (c.Advanced files startedAt role.kind ⟨o.pipeline, inv⟩) := by
  have hget : (Outputs.pipelinePart role).get o = o.pipeline role := by cases role <;> rfl
  rw [Step.ensuresFrom_within, hget]
  apply h.mono
  rintro (e | u) y inv' hends
  · exact hends
  · obtain ⟨hadmits, rfl, rfl⟩ := hends
    refine ⟨hadmits, ?_⟩
    unfold advance
    congr 1
    funext role'
    split
    next hkind =>
      have hrole : role' = role := by
        cases role <;> cases role' <;> first | rfl | cases hkind
      rw [hrole, Outputs.pipeline_set]
    next hkind =>
      refine Outputs.pipeline_set_of_ne _ _ _ ?_
      rintro rfl
      exact hkind rfl

/-- In calm, an activity that has what it needs advances the run, and any other fails. -/
theorem ensures_advance (k : ActivityKind) (o : Outputs) :
    EnsuresFrom (Hazards.calm.rule files) ((c.activity k).transaction ctx) o inv
      (c.Advanced files ctx.startedAt k ⟨o.pipeline, inv⟩) := by
  cases k with
  | registerJob =>
    exact c.advanced_of_within (fun _ _ => rfl) (fun role => by cases role <;> decide)
      (c.jobEntry.ensures_settle _)
  | prepareStagingStore =>
    exact c.advanced_of_within (fun _ _ => rfl) (fun role => by cases role <;> decide)
      c.stagingStore.ensures_settle
  | prepareChangeFeed =>
    exact c.advanced_of_within (fun _ _ => rfl) (fun role => by cases role <;> decide)
      c.changeFeed.ensures_settle
  | prepareMetadataStore =>
    exact c.advanced_of_within (fun _ _ => rfl) (fun role => by cases role <;> decide)
      c.metadataStore.ensures_settle
  | launchReader =>
    exact c.advanced_of_launch .reader c.reader.ensures_settle
  | launchWriter =>
    exact c.advanced_of_launch .writer c.writer.ensures_settle
  | finalizeJob =>
    exact c.advanced_of_within (fun _ _ => rfl) (fun role => by cases role <;> decide)
      (c.jobCompletion.ensures_settle _)

end Catalog

end ReverseReplication
