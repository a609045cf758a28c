import ReverseReplication.Proofs.Calls
import ReverseReplication.Proofs.Ownership.Tracks

/-!
# What the activities of a run ensure

Every transaction and every compensation of a run keeps `Scenario.Tracks`, however its calls are
answered. A transaction that fails has undone what it did, unless the undoing was made to fail; then
its output still claims what is left behind. A compensation gives up the claim of its output, unless
it was made to fail, and then it says so.
-/

namespace ReverseReplication

open ReverseReplication.Text (Bytes)

namespace Scenario

/-- How queries may be answered around the run. -/
def rule (sc : Scenario) : Plan.Rule Inventory := sc.hazards.rule sc.files

/-- An operation may be made to fail. -/
def MayFail (sc : Scenario) (op : Operation) : Prop := ∃ e, sc.hazards.fails op e

/-- Some operation may be made to fail. -/
def Faulty (sc : Scenario) : Prop := ∃ op, sc.MayFail op

/-! ## How steps may end -/

section ends

variable {σ : Type} (sc : Scenario) (part : Step.Part Outputs σ) (o : Outputs)
  (claims : σ → Bool) (undoFails : Prop)

/-- What is left when a step on a part of the outputs has failed: whatever it still claims could
not be undone. -/
structure Leaves (x : σ) (inv : Inventory) : Prop where
  tracks : sc.Tracks none (part.set x o) inv
  stuck : claims x = true → undoFails

/-- How a transaction may end. -/
def TransactionEnds (known : Option (ObjectPath → Option Bytes)) :
    Except ActivityError Unit → σ → Inventory → Prop
  | .ok _, x, inv => sc.Tracks known (part.set x o) inv
  | .error _, x, inv => sc.Leaves part o claims undoFails x inv

/-- How a compensation may end. If it succeeds, nothing is claimed any more, and it fails only where
calls may be made to fail. -/
def CompensationEnds : Except ActivityError Unit → σ → Inventory → Prop
  | .ok _, x, inv => sc.Tracks none (part.set x o) inv ∧ claims x = false
  | .error _, x, inv => sc.Leaves part o claims undoFails x inv ∧ sc.Faulty

variable {sc part o claims undoFails} {known : Option (ObjectPath → Option Bytes)}

/-- An output that claims nothing leaves nothing behind. -/
theorem Leaves.of_unclaimed {x : σ} {inv : Inventory} (h : sc.Tracks known (part.set x o) inv)
    (hnone : claims x = false) : sc.Leaves part o claims undoFails x inv := by
  refine ⟨h.forget, fun hclaims => ?_⟩
  rw [hnone] at hclaims
  cases hclaims

/-- However a compensation ends, what is still claimed could not be undone. -/
theorem CompensationEnds.leaves {r : Except ActivityError Unit} {x : σ} {inv : Inventory}
    (h : sc.CompensationEnds part o claims undoFails r x inv) :
    sc.Leaves part o claims undoFails x inv := by
  cases r with
  | ok u => exact .of_unclaimed h.1 h.2
  | error e => exact h.1

end ends

end Scenario

variable {sc : Scenario} {known : Option (ObjectPath → Option Bytes)} {o : Outputs}
  {inv : Inventory} {ctx : Context}

/-- Recording a resource, and undoing what was done if that fails. -/
theorem ensures_recorded {σ : Type} {part : Step.Part Outputs σ} {claims : σ → Bool}
    {undoFails : Prop} {undo : Step σ Unit} {x : σ} {doing : String} {resource : JobResource}
    (hjob : resource.jobId ∈ sc.catalog.jobIds) (h : sc.Tracks known (part.set x o) inv)
    (hundo : ∀ inv', sc.Tracks none (part.set x o) inv' →
      undo.Ensures sc.rule x inv' (sc.CompensationEnds part o claims undoFails)) :
    (Step.undoing undo (Step.need ctx doing (.recordResource resource))).Ensures sc.rule x inv
      (sc.TransactionEnds part o claims undoFails known) := by
  rw [Step.ensures_undoing]
  apply Step.ensures_need
  · intro r inv' hperformed
    cases hperformed
    exact h.recordResource hjob
  · intro e
    exact (hundo inv h.forget).mono fun r x' inv' hends => hends.leaves
  · intro _ r inv' hperformed
    cases hperformed
    exact (hundo _ (h.recordResource hjob).forget).mono fun r x' inv' hends => hends.leaves

/-- Taking back what an output claims, with an operation that is refused only where nothing is
there to be taken back. -/
theorem ensures_takeBack {σ : Type} {part : Step.Part Outputs σ} {claims : σ → Bool} {x y : σ}
    {doing : String} {c : Call} {op : Operation} (hctx : ctx.scope = .detached)
    (hc : c.operation = op) (hop : op ∈ Hazards.undoings) (hy : claims y = false)
    (h : sc.Tracks none (part.set x o) inv)
    (performed : ∀ r inv', Inventory.Performed inv c r inv' → sc.Tracks none (part.set y o) inv')
    (refused : ∀ e, inv.perform c = .error e → (∃ what, e = .notFound what) ∧ ¬sc.hazards.Exact)
    (forgotten : ¬sc.hazards.Exact → sc.Tracks none (part.set y o) inv) :
    (do Step.remove ctx doing c; set y : Step σ Unit).Ensures sc.rule x inv
      (sc.CompensationEnds part o claims (sc.MayFail op)) := by
  subst hc
  rw [Step.ensures_bind]
  refine Step.ensures_remove hctx ?_ ?_ ?_
  · intro r inv' hperformed
    rw [Step.after_ok, Step.ensures_set]
    exact ⟨performed r inv' hperformed, hy⟩
  · intro what hdenied
    rw [Step.after_ok, Step.ensures_set]
    refine ⟨forgotten ?_, hy⟩
    rcases hdenied with hfails | hrefused
    · exact fun hexact => hexact.removals _ hop what hfails
    · exact (refused _ hrefused).2
  · intro e err hother hdenied
    rw [Step.after_error]
    rcases hdenied with hfails | hrefused
    · exact ⟨⟨h, fun _ => ⟨e, hfails⟩⟩, c.operation, e, hfails⟩
    · obtain ⟨⟨what, rfl⟩, -⟩ := refused e hrefused
      cases hother

/-! ## The change feed -/

namespace ChangeFeed

variable {x : Output}

/-- Dropping the feed. -/
theorem ensures_compensation (hctx : ctx.scope = .detached)
    (h : sc.Tracks none { o with changeFeed := x } inv) :
    (sc.catalog.changeFeed.compensation ctx).Ensures sc.rule x inv
      (sc.CompensationEnds Outputs.changeFeedPart o Output.created (sc.MayFail .dropFeed)) := by
  unfold compensation
  rw [Step.ensures_bind, Step.ensures_get, Step.after_ok]
  split
  next hcreated =>
    refine ensures_takeBack hctx rfl (by decide) rfl h ?_ ?_ ?_
    · intro r inv' hperformed
      cases hperformed
      exact h.dropFeed hcreated rfl
    · intro e hrefused
      obtain ⟨he, hgone⟩ := Inventory.dropFeed_refused hrefused
      exact ⟨⟨_, he⟩, h.feeds.not_exact_of_gone hcreated hgone⟩
    · intro hexact
      exact h.forgetFeed hexact rfl
  next hnone => exact ⟨h, Bool.eq_false_iff.2 hnone⟩

/-- Looking at a feed that is there already changes nothing. -/
theorem ensures_validateExisting {post : Except ActivityError Unit → Output → Inventory → Prop}
    (hpost : ∀ r, post r x inv) :
    (sc.catalog.changeFeed.validateExisting ctx).Ensures sc.rule x inv post := by
  unfold validateExisting
  rw [Step.ensures_bind]
  apply Step.ensures_call
  · intro e _
    rw [Step.after_ok]
    split
    next => exact hpost _
    next => exact hpost _
    next => exact hpost _
  · intro r inv' hperformed
    cases hperformed
    exact hpost _
  · intro _
    exact hpost _
  · intro _ _ r inv' hperformed
    cases hperformed
    exact hpost _

/-- Creating the feed, or finding that somebody else did. -/
theorem ensures_create (h : sc.Tracks known { o with changeFeed := x } inv)
    (hnone : x.created = false) :
    (sc.catalog.changeFeed.create ctx).Ensures sc.rule x inv
      (sc.TransactionEnds Outputs.changeFeedPart o Output.created (sc.MayFail .dropFeed)
        known) := by
  have hleaves : sc.Leaves Outputs.changeFeedPart o Output.created (sc.MayFail .dropFeed) x inv :=
    .of_unclaimed h hnone
  unfold create
  rw [Step.ensures_bind]
  apply Step.ensures_call
  · intro e _
    rw [Step.after_ok]
    split
    next heq => simp at heq
    next =>
      apply ensures_validateExisting
      rintro (e' | u)
      · exact hleaves
      · exact h
    next =>
      rw [Step.ensures_throw]
      exact hleaves
  · intro r inv' hperformed
    cases hperformed with
    | createFeed hfree =>
      have hcreated := h.createFeed hfree (x := ⟨true⟩) rfl
      unfold record
      exact ensures_recorded (by simp [resource, Catalog.jobIds]) hcreated fun inv' h' =>
        ensures_compensation rfl h'
  · intro _
    exact hleaves
  · intro _ hloses r inv' hperformed
    cases hperformed with
    | createFeed hfree =>
      have hcreated := h.createFeed hfree (x := ⟨true⟩) rfl
      have hlost := hcreated.forgetFeed
        (fun hexact => hexact.replies .createFeed (by decide) hloses) hnone
      rw [Step.after_error]
      exact Scenario.Leaves.of_unclaimed hlost hnone

/-- Creating the feed, or finding it. -/
theorem ensures_transaction (h : sc.Tracks known { o with changeFeed := x } inv)
    (hnone : x.created = false) :
    (sc.catalog.changeFeed.transaction ctx).Ensures sc.rule x inv
      (sc.TransactionEnds Outputs.changeFeedPart o Output.created (sc.MayFail .dropFeed)
        known) := by
  have hleaves : sc.Leaves Outputs.changeFeedPart o Output.created (sc.MayFail .dropFeed) x inv :=
    .of_unclaimed h hnone
  unfold transaction
  rw [Step.ensures_bind]
  apply Step.ensures_need
  · intro found inv' hperformed
    cases hperformed
    rw [Step.after_ok]
    split
    next =>
      apply ensures_validateExisting
      rintro (e | u)
      · exact hleaves
      · exact h
    next => exact ensures_create h hnone
  · intro e
    exact hleaves
  · intro _ r inv' hperformed
    cases hperformed
    exact hleaves

end ChangeFeed

/-! ## The metadata database -/

namespace MetadataStore

variable {x : Output}

/-- Dropping the database. -/
theorem ensures_compensation (hctx : ctx.scope = .detached)
    (h : sc.Tracks none { o with metadataStore := x } inv) :
    (sc.catalog.metadataStore.compensation ctx).Ensures sc.rule x inv
      (sc.CompensationEnds Outputs.metadataStorePart o Output.created
        (sc.MayFail .dropDatabase)) := by
  unfold compensation
  rw [Step.ensures_bind, Step.ensures_get, Step.after_ok]
  split
  next hcreated =>
    refine ensures_takeBack hctx rfl (by decide) rfl h ?_ ?_ ?_
    · intro r inv' hperformed
      cases hperformed
      exact h.dropDatabase hcreated rfl
    · intro e hrefused
      obtain ⟨he, hgone⟩ := Inventory.dropDatabase_refused hrefused
      exact ⟨⟨_, he⟩, h.databases.not_exact_of_gone hcreated hgone⟩
    · intro hexact
      exact h.forgetDatabase hexact rfl
  next hnone => exact ⟨h, Bool.eq_false_iff.2 hnone⟩

/-- Creating the database, or finding that somebody else did. -/
theorem ensures_create (h : sc.Tracks known { o with metadataStore := x } inv)
    (hnone : x.created = false) :
    (sc.catalog.metadataStore.create ctx).Ensures sc.rule x inv
      (sc.TransactionEnds Outputs.metadataStorePart o Output.created (sc.MayFail .dropDatabase)
        known) := by
  have hleaves : sc.Leaves Outputs.metadataStorePart o Output.created (sc.MayFail .dropDatabase)
      x inv := .of_unclaimed h hnone
  unfold create
  rw [Step.ensures_bind]
  apply Step.ensures_call
  · intro e _
    rw [Step.after_ok]
    split
    next heq => simp at heq
    next =>
      rw [Step.ensures_pure]
      exact h
    next =>
      rw [Step.ensures_throw]
      exact hleaves
  · intro r inv' hperformed
    cases hperformed with
    | createDatabase hfree =>
      have hcreated := h.createDatabase hfree (x := ⟨true⟩) rfl
      unfold record
      exact ensures_recorded (by simp [resource, Catalog.jobIds]) hcreated fun inv' h' =>
        ensures_compensation rfl h'
  · intro _
    exact hleaves
  · intro _ hloses r inv' hperformed
    cases hperformed with
    | createDatabase hfree =>
      have hcreated := h.createDatabase hfree (x := ⟨true⟩) rfl
      have hlost := hcreated.forgetDatabase
        (fun hexact => hexact.replies .createDatabase (by decide) hloses) hnone
      rw [Step.after_error]
      exact Scenario.Leaves.of_unclaimed hlost hnone

/-- Creating the database, or finding it. -/
theorem ensures_transaction (h : sc.Tracks known { o with metadataStore := x } inv)
    (hnone : x.created = false) :
    (sc.catalog.metadataStore.transaction ctx).Ensures sc.rule x inv
      (sc.TransactionEnds Outputs.metadataStorePart o Output.created (sc.MayFail .dropDatabase)
        known) := by
  have hleaves : sc.Leaves Outputs.metadataStorePart o Output.created (sc.MayFail .dropDatabase)
      x inv := .of_unclaimed h hnone
  unfold transaction
  rw [Step.ensures_bind]
  apply Step.ensures_need
  · intro found inv' hperformed
    cases hperformed
    rw [Step.after_ok]
    split
    next => exact ensures_create h hnone
    next => exact h
  · intro e
    exact hleaves
  · intro _ r inv' hperformed
    cases hperformed
    exact hleaves

end MetadataStore

/-! ## The staging bucket -/

namespace StagingStore

variable {x : Output} {objects : ObjectPath → Option Bytes}

/-- Deleting the bucket. -/
theorem ensures_compensation (hctx : ctx.scope = .detached)
    (h : sc.Tracks none { o with stagingStore := x } inv) :
    (sc.catalog.stagingStore.compensation ctx).Ensures sc.rule x inv
      (sc.CompensationEnds Outputs.stagingStorePart o Output.bucketCreated
        (sc.MayFail .deleteBucket)) := by
  unfold compensation
  rw [Step.ensures_bind, Step.ensures_get, Step.after_ok]
  split
  next hcreated =>
    refine ensures_takeBack hctx rfl (by decide) rfl h ?_ ?_ ?_
    · intro r inv' hperformed
      cases hperformed
      exact h.deleteBucket hcreated rfl
    · intro e hrefused
      obtain ⟨he, hgone⟩ := Inventory.deleteBucket_refused hrefused
      exact ⟨⟨_, he⟩, h.buckets.not_exact_of_gone hcreated hgone⟩
    · intro hexact
      exact h.forgetBucket hexact rfl
  next hnone => exact ⟨h, Bool.eq_false_iff.2 hnone⟩

/-- Creating the bucket, or finding it. -/
theorem ensures_ensureBucket (h : sc.Tracks known { o with stagingStore := x } inv)
    (hrequired : sc.catalog.stagingStore.stagingRequired = true)
    (hnone : x.bucketCreated = false) :
    (sc.catalog.stagingStore.ensureBucket ctx).Ensures sc.rule x inv fun _ x' inv' =>
      sc.Tracks known { o with stagingStore := x' } inv' := by
  have hjob : sc.catalog.stagingStore.resource.jobId ∈ sc.catalog.jobIds := by
    simp [resource, Catalog.jobIds]
  unfold ensureBucket
  rw [Step.ensures_bind]
  apply Step.ensures_call
  · intro e _
    rw [Step.after_ok]
    split
    next heq => simp at heq
    next => exact h
    next => exact h
  · intro r inv' hperformed
    cases hperformed with
    | createBucket hfree =>
      have hcreated := h.createBucket hrequired hfree (x := { x with bucketCreated := true }) rfl
      rw [Step.after_ok, Step.ensures_bind, Step.ensures_modify, Step.after_ok]
      apply Step.ensures_need
      · intro r inv' hperformed
        cases hperformed
        exact hcreated.recordResource hjob
      · intro e
        exact hcreated
      · intro _ r inv' hperformed
        cases hperformed
        exact hcreated.recordResource hjob
  · intro _
    exact h
  · intro _ hloses r inv' hperformed
    cases hperformed with
    | createBucket hfree =>
      have hcreated := h.createBucket hrequired hfree (x := { x with bucketCreated := true }) rfl
      exact hcreated.forgetBucket
        (fun hexact => hexact.replies .createBucket (by decide) hloses) hnone

/-- Uploading a local file. -/
theorem ensures_upload (h : sc.Tracks (some objects) { o with stagingStore := x } inv)
    (hrequired : sc.catalog.stagingStore.stagingRequired = true) {path object : String}
    (huploads : sc.catalog.stagingStore.Uploads path object) :
    (sc.catalog.stagingStore.upload ctx path object).Ensures sc.rule x inv
      fun r x' inv' => match r with
        | .ok _ => sc.Tracks
            (some (sc.catalog.stagingStore.afterUpload sc.files path object objects))
            { o with stagingStore := x' } inv'
        | .error _ => sc.Tracks none { o with stagingStore := x' } inv' := by
  unfold upload
  split
  next hlocal =>
    rw [Step.ensures_bind]
    apply Step.ensures_readFile
    · intro contents hcontents
      have hstaged := StagingStore.stagedAt_isSome hrequired huploads (by simpa using hlocal)
        hcontents
      rw [Step.after_ok, Step.ensures_bind]
      apply Step.ensures_need
      · intro r inv' hperformed
        cases hperformed with
        | writeObject hbucket =>
          have hwritten := h.writeObject contents hrequired hstaged hbucket
          have hafter : sc.catalog.stagingStore.afterUpload sc.files path object objects =
              fun p => if p = ⟨sc.catalog.stagingStore.bucketName, object⟩ then some contents
                else objects p := by
            unfold afterUpload
            rw [if_neg (by simpa using hlocal), hcontents]
            rfl
          rw [Step.after_ok, Step.ensures_modify, hafter]
          exact hwritten.relabelBucket rfl
      · intro e
        exact h.forget
      · intro _ r inv' hperformed
        cases hperformed with
        | writeObject hbucket =>
          -- Cut off, the upload has happened or not, so what the bucket holds is no longer known.
          exact (h.writeObject contents hrequired hstaged hbucket).forget
    · intro e
      exact h.forget
  next hhosted =>
    have hafter : sc.catalog.stagingStore.afterUpload sc.files path object objects = objects := by
      unfold afterUpload
      rw [if_pos (by simpa using hhosted)]
    rw [Step.ensures_pure, hafter]
    exact h

/-- Staging what has to be staged. -/
theorem ensures_transaction (h : sc.Tracks (some objects) { o with stagingStore := x } inv)
    (hnone : x.bucketCreated = false) :
    (sc.catalog.stagingStore.transaction ctx).Ensures sc.rule x inv
      (sc.TransactionEnds Outputs.stagingStorePart o Output.bucketCreated
        (sc.MayFail .deleteBucket)
        (some (sc.catalog.stagingStore.objectAt sc.files objects))) := by
  unfold transaction
  split
  next hrequired =>
    have hundo : ∀ e x' inv', sc.Tracks none { o with stagingStore := x' } inv' →
        Step.Undone sc.rule (sc.catalog.stagingStore.compensation ctx.detach)
          (sc.TransactionEnds Outputs.stagingStorePart o Output.bucketCreated
            (sc.MayFail .deleteBucket)
            (some (sc.catalog.stagingStore.objectAt sc.files objects))) (.error e) x' inv' := by
      intro e x' inv' h'
      exact (ensures_compensation rfl h').mono fun r x'' inv'' hends => hends.leaves
    rw [Step.ensures_undoing]
    unfold stage
    rw [Step.ensures_bind]
    refine (ensures_ensureBucket h hrequired hnone).mono ?_
    rintro (e | u) x₁ inv₁ h₁
    · exact hundo e x₁ inv₁ h₁.forget
    rw [Step.after_ok, Step.ensures_bind]
    refine (ensures_upload h₁ hrequired (.inl ⟨rfl, rfl⟩)).mono ?_
    rintro (e | u) x₂ inv₂ h₂
    · exact hundo e x₂ inv₂ h₂
    rw [Step.after_ok]
    refine (ensures_upload h₂ hrequired (.inr ⟨rfl, rfl⟩)).mono ?_
    rintro (e | u) x₃ inv₃ h₃
    · exact hundo e x₃ inv₃ h₃
    show sc.Tracks (some (sc.catalog.stagingStore.objectAt sc.files objects))
      { o with stagingStore := x₃ } inv₃
    rw [objectAt_of_required hrequired]
    exact h₃
  next hidle =>
    rw [Step.ensures_pure, objectAt_of_idle hidle]
    exact h

end StagingStore

/-! ## The job record

The activities of the job record claim nothing: the record stays behind whatever happens. -/

/-- Setting the status of a job of the run back, when its record is there. -/
theorem ensures_restoreJobStatus {σ : Type} {s : σ} {doing : String} {id : JobId}
    {status : JobStatus} (hctx : ctx.scope = .detached) (hjob : id ∈ sc.catalog.jobIds)
    (hthere : (inv.jobs.get? id).isSome) (h : sc.Tracks known o inv)
    {post : Except ActivityError Unit → σ → Inventory → Prop}
    (performed : ∀ inv', sc.Tracks known o inv' → (inv'.jobs.get? id).isSome → post (.ok ()) s inv')
    (failed : sc.Faulty → ∀ e, post (.error e) s inv) :
    (Step.need ctx doing (.updateJobStatus id status)).Ensures sc.rule s inv post := by
  apply Step.ensures_need_detached hctx
  · intro r inv' hperformed
    cases hperformed with
    | updateJobStatus hrecord =>
      exact performed _ (h.updateJobStatus hjob hrecord) (Table.isSome_get?_insert hthere)
  · rintro e err (hfails | hrefused)
    · exact failed ⟨_, e, hfails⟩ err
    · rw [Inventory.updateJobStatus_refused hrefused] at hthere
      simp at hthere

namespace JobEntry

variable {x : Output}

/-- Writing the job record leaves the resources alone, and the output claims none of them. -/
theorem ensures_transaction (h : sc.Tracks known { o with jobEntry := x } inv) :
    (sc.catalog.jobEntry.transaction ctx).Ensures sc.rule x inv
      (sc.TransactionEnds Outputs.jobEntryPart o (fun _ => false) False known) := by
  have hleaves : sc.Leaves Outputs.jobEntryPart o (fun _ => false) False x inv :=
    .of_unclaimed h rfl
  unfold transaction
  rw [Step.ensures_bind]
  apply Step.ensures_call
  · intro e _
    rw [Step.after_ok]
    split
    next heq => simp at heq
    next =>
      rw [Step.ensures_pure]
      exact h
    next =>
      rw [Step.ensures_throw]
      exact hleaves
  · intro r inv' hperformed
    cases hperformed with
    | createJob hfree =>
      refine (h.createJob ctx.startedAt hfree).register _ (h.jobs_absent hfree) ?_
      rw [Table.get?_insert, if_pos rfl]
      rfl
  · intro _
    exact hleaves
  · intro _ _ r inv' hperformed
    cases hperformed with
    | createJob hfree =>
      have hlost := h.createJob ctx.startedAt hfree
      rw [Step.after_error]
      exact Scenario.Leaves.of_unclaimed hlost rfl

/-- So does marking the record as failed. -/
theorem ensures_compensation (hctx : ctx.scope = .detached)
    (h : sc.Tracks none { o with jobEntry := x } inv) :
    (sc.catalog.jobEntry.compensation ctx).Ensures sc.rule x inv
      (sc.CompensationEnds Outputs.jobEntryPart o (fun _ => false) False) := by
  unfold compensation
  rw [Step.ensures_bind, Step.ensures_get, Step.after_ok]
  split
  next hregistered =>
    refine ensures_restoreJobStatus hctx (by simp [Catalog.jobIds]) (h.registered hregistered).2 h
      ?_ ?_
    · intro inv' h' _
      exact ⟨h', rfl⟩
    · intro hfaulty e
      exact ⟨.of_unclaimed h rfl, hfaulty⟩
  next => exact ⟨h, rfl⟩

end JobEntry

namespace JobCompletion

variable {x : Output}

/-- Marking the job as running leaves the resources alone. -/
theorem ensures_transaction (h : sc.Tracks known { o with jobCompletion := x } inv) :
    (sc.catalog.jobCompletion.transaction ctx).Ensures sc.rule x inv
      (sc.TransactionEnds Outputs.jobCompletionPart o (fun _ => false) False known) := by
  unfold transaction
  have hjob : sc.catalog.jobCompletion.jobId ∈ sc.catalog.jobIds := by simp [Catalog.jobIds]
  rw [Step.ensures_bind]
  apply Step.ensures_need
  · intro r inv' hperformed
    cases hperformed with
    | updateJobStatus hrecord =>
      refine (h.updateJobStatus hjob hrecord).mark _ ?_
      rw [Table.get?_insert, if_pos rfl]
      rfl
  · intro e
    exact Scenario.Leaves.of_unclaimed h rfl
  · intro _ r inv' hperformed
    cases hperformed with
    | updateJobStatus hrecord =>
      rw [Step.after_error]
      exact Scenario.Leaves.of_unclaimed (h.updateJobStatus hjob hrecord) rfl

/-- So does taking the mark back. -/
theorem ensures_compensation (hctx : ctx.scope = .detached)
    (h : sc.Tracks none { o with jobCompletion := x } inv) :
    (sc.catalog.jobCompletion.compensation ctx).Ensures sc.rule x inv
      (sc.CompensationEnds Outputs.jobCompletionPart o (fun _ => false) False) := by
  unfold compensation
  rw [Step.ensures_bind, Step.ensures_get, Step.after_ok]
  split
  next hmarked =>
    rw [Step.ensures_bind]
    refine ensures_restoreJobStatus hctx (by simp [Catalog.jobIds]) (h.marked hmarked) h ?_ ?_
    · intro inv' h' hthere
      exact ⟨h'.mark _ hthere, rfl⟩
    · intro hfaulty e
      exact ⟨.of_unclaimed h rfl, hfaulty⟩
  next => exact ⟨h, rfl⟩

end JobCompletion

end ReverseReplication
