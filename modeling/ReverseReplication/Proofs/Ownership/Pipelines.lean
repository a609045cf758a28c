import ReverseReplication.Proofs.Ownership.Activities

/-!
# What the activities of the pipelines ensure

The transaction of a pipeline reads its tuning, so the name it launches is known beforehand from the
local files and from what is known about the objects (`Pipeline.jobName?`). It launches under that
name or uses what runs under it; a launch that cannot be recorded is cancelled at once.
-/

namespace ReverseReplication

open ReverseReplication.Text (Bytes)

variable {sc : Scenario} {known : Option (ObjectPath → Option Bytes)} {o : Outputs}
  {inv : Inventory} {ctx : Context}

/-! ## Reading the tuning -/

/-- Reading a tuning file changes nothing, and reads what is there. -/
theorem ensures_readTuningFile {σ : Type} {s : σ} {path : String}
    {post : Except ActivityError Bytes → σ → Inventory → Prop}
    (read : ∀ contents, tuningFile? sc.files inv.object? path = some contents →
      post (.ok contents) s inv)
    (failed : ∀ e, post (.error e) s inv) :
    (Step.readTuningFile ctx path).Ensures sc.rule s inv post := by
  unfold tuningFile? at read
  unfold Step.readTuningFile
  split
  next hhosted =>
    rw [if_pos hhosted] at read
    apply Step.ensures_need
    · intro contents inv' hperformed
      cases hperformed with
      | readObject hparse hobject =>
        refine read contents ?_
        rw [hparse]
        exact hobject
    · intro e
      exact failed e
    · intro _ contents inv' hperformed
      cases hperformed
      exact failed _
  next hlocal =>
    rw [if_neg hlocal] at read
    apply Step.ensures_readFile
    · intro contents hcontents
      refine read contents ?_
      rw [hcontents]
      rfl
    · intro e
      exact failed e

/-- So does reading a tuning. -/
theorem ensures_loadTuning {σ : Type} {s : σ} {path : String}
    {post : Except ActivityError Tuning → σ → Inventory → Prop}
    (read : ∀ tuning, tuningAt? sc.files inv.object? path = some tuning → post (.ok tuning) s inv)
    (failed : ∀ e, post (.error e) s inv) :
    (Step.loadTuning ctx path).Ensures sc.rule s inv post := by
  unfold tuningAt? at read
  unfold Step.loadTuning
  split
  next hempty =>
    rw [if_pos hempty] at read
    exact read {} rfl
  next hpath =>
    rw [if_neg hpath] at read
    rw [Step.ensures_bind]
    apply ensures_readTuningFile
    · intro contents hcontents
      rw [Step.after_ok]
      split
      next tuning htuning =>
        refine read tuning ?_
        rw [hcontents, Option.bind_some, htuning]
        rfl
      next e herror => exact failed _
    · intro e
      exact failed e

/-- A launch that is made has the fields that the tuning gives. -/
theorem Launch.eq_ofTuning {parameters : Parameters} {tuning : Tuning} {request : Launch}
    (h : Launch.make parameters tuning = .ok request) :
    request = Launch.ofTuning parameters tuning := by
  unfold make at h
  split at h
  · simp at h
  · cases h
    rfl

/-! ## Launching and cancelling -/

namespace Pipeline

variable (role : PipelineRole) {x : Output}

/-- Pipelines are recorded for the job of the run. -/
theorem jobId_mem (sc : Scenario) (role : PipelineRole) :
    (sc.catalog.pipeline role).target.jobId ∈ sc.catalog.jobIds := by
  cases role with
  | reader => simp [Catalog.jobIds, Catalog.pipeline]
  | writer => simp [Catalog.jobIds, Catalog.pipeline]

/-- Cancelling the pipeline. -/
theorem ensures_compensation (hctx : ctx.scope = .detached)
    (h : sc.Tracks none ((Outputs.pipelinePart role).set x o) inv) :
    ((sc.catalog.pipeline role).compensation ctx).Ensures sc.rule x inv
      (sc.CompensationEnds (Outputs.pipelinePart role) o Output.launched
        (sc.MayFail .cancel)) := by
  unfold compensation
  rw [Step.ensures_bind, Step.ensures_get, Step.after_ok]
  split
  next hlaunched =>
    refine ensures_takeBack hctx rfl (by decide) rfl h ?_ ?_ ?_
    · intro r inv' hperformed
      cases hperformed with
      | cancel hjob => exact h.cancel hlaunched hjob rfl
    · -- The job that the output claims is there, so cancelling it is not refused.
      intro e hrefused
      have hclaim : (((Outputs.pipelinePart role).set x o).pipeline role).launched = true := by
        rw [Outputs.pipeline_set]
        exact hlaunched
      have hjob := (h.launches.owned role hclaim).2
      rw [Outputs.pipeline_set, (Inventory.cancel_refused hrefused).2] at hjob
      simp at hjob
    · intro hexact
      exact h.relabelPipeline (fun hexact' => absurd hexact' hexact) rfl
  next hnone => exact ⟨h, Bool.eq_false_iff.2 hnone⟩

/-- Launching under a name that the run may use. -/
theorem ensures_launch (h : sc.Tracks known ((Outputs.pipelinePart role).set x o) inv)
    (hnone : x.launched = false) {request : Launch} (hnamed : sc.Named request.jobName)
    (hparameters : request.parameters = (sc.catalog.pipeline role).parameters) :
    ((sc.catalog.pipeline role).launch ctx request).Ensures sc.rule x inv
      (sc.TransactionEnds (Outputs.pipelinePart role) o Output.launched (sc.MayFail .cancel)
        known) := by
  have hleaves : sc.Leaves (Outputs.pipelinePart role) o Output.launched (sc.MayFail .cancel) x
      inv := .of_unclaimed h hnone
  unfold launch
  rw [Step.ensures_bind]
  apply Step.ensures_call
  · intro e _
    -- The launch is refused. If that is for a job that runs under the name, this one is looked up.
    rw [Step.after_ok]
    split
    next heq => simp at heq
    next =>
      rw [Step.ensures_bind]
      apply Step.ensures_need
      · intro running inv' hperformed
        cases hperformed
        exact h.relabelPipeline (fun _ => hnone) rfl
      · intro e'
        exact hleaves
      · intro _ running inv' hperformed
        cases hperformed
        exact hleaves
    next =>
      rw [Step.ensures_throw]
      exact hleaves
  · intro id inv' hperformed
    cases hperformed with
    | launch hfree =>
      have hlaunched := h.launch hfree hnamed hparameters hnone
      unfold record
      exact ensures_recorded (jobId_mem sc role) hlaunched fun inv' h' =>
        ensures_compensation role rfl h'
  · intro _
    exact hleaves
  · intro _ hloses id inv' hperformed
    cases hperformed with
    | launch hfree =>
      have hlaunched := h.launch hfree hnamed hparameters hnone
      have hlost := hlaunched.relabelPipeline (y := x)
        (fun hexact => absurd hloses (hexact.replies .launch (by decide))) hnone
      rw [Step.after_error]
      exact Scenario.Leaves.of_unclaimed hlost hnone

/-- Launching the pipeline, or finding it. -/
theorem ensures_transaction
    (h : sc.Tracks
      (some (sc.catalog.stagingStore.objectAt sc.files sc.before.object?))
      ((Outputs.pipelinePart role).set x o) inv)
    (hnone : x.launched = false) :
    ((sc.catalog.pipeline role).transaction ctx).Ensures sc.rule x inv
      (sc.TransactionEnds (Outputs.pipelinePart role) o Output.launched (sc.MayFail .cancel)
        (some (sc.catalog.stagingStore.objectAt sc.files sc.before.object?))) := by
  have hleaves : sc.Leaves (Outputs.pipelinePart role) o Output.launched (sc.MayFail .cancel) x
      inv := .of_unclaimed h hnone
  have hobjects : inv.object? = sc.catalog.stagingStore.objectAt sc.files sc.before.object? :=
    funext fun path => h.known _ rfl path
  unfold transaction
  rw [Step.ensures_bind]
  apply ensures_loadTuning
  · intro tuning htuning
    rw [hobjects] at htuning
    rw [Step.after_ok]
    split
    next request hrequest =>
      obtain rfl := Launch.eq_ofTuning hrequest
      refine ensures_launch role h hnone ⟨role, ?_⟩ rfl
      unfold jobName?
      rw [htuning]
      rfl
    next e herror =>
      rw [Step.ensures_throw]
      exact hleaves
  · intro e
    exact hleaves

end Pipeline

end ReverseReplication
