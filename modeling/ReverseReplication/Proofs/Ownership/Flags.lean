import ReverseReplication.Proofs.Accounting

/-!
# What the flags of activities say

Five activities create something, and each keeps a flag that says so (`Outputs.claims`). Where
nothing is hidden, what is held and was not before is what the flags claim
(`Scenario.Tracks.new_iff`), and what was held before still is (`Scenario.Tracks.still_holds`).

A compensation that has something to undo makes one call, and clears the flag if it succeeds
(`Catalog.ensures_compensate`). Where no reply is lost, it gives up the claim of its activity
together with what is claimed, or it fails and nothing has happened
(`Scenario.Tracks.ensures_retraction`), whatever its context is.
-/

namespace ReverseReplication

open Inventory (Performed)

/-- What an activity is to create. How a pipeline is called, and its id, are in the output. -/
def Catalog.product (c : Catalog) (o : Outputs) : ActivityKind → Option Holding
  | .prepareStagingStore => some (.bucket c.stagingStore.bucketName)
  | .prepareChangeFeed => some (.feed c.changeFeed.feedName)
  | .prepareMetadataStore => some (.database c.metadataStore.databaseUri)
  | .launchReader => some (.pipeline o.reader.jobName o.reader.pipelineJobId)
  | .launchWriter => some (.pipeline o.writer.jobName o.writer.pipelineJobId)
  | .registerJob => none
  | .finalizeJob => none

/-- The call that undoes what an activity has created. -/
def Catalog.undoing? (c : Catalog) (o : Outputs) : ActivityKind → Option Call
  | .prepareStagingStore => some (.deleteBucket c.stagingStore.bucketName)
  | .prepareChangeFeed => some (.dropFeed c.changeFeed.feedName)
  | .prepareMetadataStore => some (.dropDatabase c.metadataStore.databaseUri)
  | .launchReader => some (.cancel o.reader.projectId o.reader.location o.reader.pipelineJobId)
  | .launchWriter => some (.cancel o.writer.projectId o.writer.location o.writer.pipelineJobId)
  | .registerJob => none
  | .finalizeJob => none

/-- What the outputs say when an activity has undone what it had created. -/
def Outputs.cleared (o : Outputs) : ActivityKind → Outputs
  | .prepareStagingStore => { o with stagingStore := {} }
  | .prepareChangeFeed => { o with changeFeed := {} }
  | .prepareMetadataStore => { o with metadataStore := {} }
  | .launchReader => { o with reader := { o.reader with launched := false } }
  | .launchWriter => { o with writer := { o.writer with launched := false } }
  | .registerJob => o
  | .finalizeJob => o

/-- An activity whose output is cleared claims nothing. -/
theorem Outputs.claims_cleared (o : Outputs) (k : ActivityKind) :
    (o.cleared k).claims k = false := by
  cases k <;> rfl

/-- Clearing the output of one activity changes no claim of another. -/
theorem Outputs.claims_cleared_of_ne {o : Outputs} {k k' : ActivityKind} (h : k' ≠ k) :
    (o.cleared k).claims k' = o.claims k' := by
  cases k <;> cases k' <;> first | rfl | exact absurd rfl h

/-! ## What is new by the flags -/

namespace Scenario

variable {sc : Scenario} {known : Option (ObjectPath → Option Text.Bytes)} {o : Outputs}
  {inv : Inventory} {x : Holding}

/-- A pipeline that an output claims is running, and is new. -/
theorem Tracks.pipeline_new (h : sc.Tracks known o inv) (role : PipelineRole)
    (hclaim : (o.pipeline role).launched = true) :
    inv.Holds (.pipeline (o.pipeline role).jobName (o.pipeline role).pipelineJobId) ∧
      ¬sc.before.Holds (.pipeline (o.pipeline role).jobName (o.pipeline role).pipelineJobId) := by
  obtain ⟨hsince, hjob⟩ := h.launches.owned role hclaim
  have hfresh := hsince.fresh sc.sound
  refine ⟨(h.sound.running _ _).2 hjob, fun hbefore => ?_⟩
  have hthere := (sc.sound.running _ _).1 hbefore
  rw [hfresh] at hthere
  cases hthere

/-- A running pipeline that is new is the one that some output claims. -/
theorem Tracks.pipeline_claimed (h : sc.Tracks known o inv) (hexact : sc.hazards.Exact)
    {name id : String} (hnow : inv.Holds (.pipeline name id))
    (hnew : ¬sc.before.Holds (.pipeline name id)) :
    ∃ role, (o.pipeline role).launched = true ∧ (o.pipeline role).jobName = name ∧
      (o.pipeline role).pipelineJobId = id := by
  obtain ⟨role, hclaim, hid⟩ := (h.launches.covered hexact name id hnow).resolve_left hnew
  obtain ⟨-, hjob⟩ := h.launches.owned role hclaim
  have hrunning : inv.pipelines.get? id = some ⟨name, false⟩ := (h.sound.running name id).1 hnow
  rw [hid, hrunning] at hjob
  cases hjob
  exact ⟨role, hclaim, rfl, hid⟩

/-- Where nothing is hidden, what is held and was not before is what the outputs claim. -/
theorem Tracks.new_iff (h : sc.Tracks known o inv) (hexact : sc.hazards.Exact) :
    inv.Holds x ∧ ¬sc.before.Holds x ↔
      ∃ k, o.claims k = true ∧ sc.catalog.product o k = some x := by
  constructor
  · rintro ⟨hnow, hnew⟩
    cases x with
    | bucket name =>
      obtain ⟨rfl, hclaim⟩ := h.buckets.claimed_of_new hexact hnow hnew
      exact ⟨.prepareStagingStore, hclaim, rfl⟩
    | feed feed =>
      obtain ⟨rfl, hclaim⟩ := h.feeds.claimed_of_new hexact hnow hnew
      exact ⟨.prepareChangeFeed, hclaim, rfl⟩
    | database uri =>
      obtain ⟨rfl, hclaim⟩ := h.databases.claimed_of_new hexact hnow hnew
      exact ⟨.prepareMetadataStore, hclaim, rfl⟩
    | pipeline name id =>
      obtain ⟨role, hclaim, rfl, rfl⟩ := h.pipeline_claimed hexact hnow hnew
      cases role with
      | reader => exact ⟨.launchReader, hclaim, rfl⟩
      | writer => exact ⟨.launchWriter, hclaim, rfl⟩
  · rintro ⟨k, hclaim, hx⟩
    cases k with
    | prepareStagingStore =>
      cases hx
      exact h.buckets.held_new hexact hclaim
    | prepareChangeFeed =>
      cases hx
      exact h.feeds.held_new hexact hclaim
    | prepareMetadataStore =>
      cases hx
      exact h.databases.held_new hexact hclaim
    | launchReader =>
      cases hx
      exact h.pipeline_new .reader hclaim
    | launchWriter =>
      cases hx
      exact h.pipeline_new .writer hclaim
    | registerJob => cases hclaim
    | finalizeJob => cases hclaim

/-- What was held before is still held. -/
theorem Tracks.still_holds (h : sc.Tracks known o inv) (hx : sc.before.Holds x) : inv.Holds x := by
  cases x with
  | bucket name =>
    obtain ⟨bucket, hbucket⟩ := Option.isSome_iff_exists.1 hx
    exact Option.isSome_of_eq_some (h.buckets.retained hbucket)
  | feed feed =>
    obtain ⟨options, hoptions⟩ := Option.isSome_iff_exists.1 hx
    exact Option.isSome_of_eq_some (h.feeds.retained hoptions)
  | database uri =>
    obtain ⟨_, hdatabase⟩ := Option.isSome_iff_exists.1 hx
    exact Option.isSome_of_eq_some (h.databases.retained hdatabase)
  | pipeline name id => exact h.launches.running_retained h.sound sc.sound hx

end Scenario

/-! ## Compensations under any context -/

section compensations

variable {hz : Hazards} {files : FileSystem} {inv inv' : Inventory} {ctx : Context}

/-- Taking back what an output claims: it is taken back, or gone already, or nothing has happened.
It may have been taken back as well if the reply is lost. -/
theorem Step.ensures_takeBack {τ σ : Type} {part : Step.Part τ σ} {whole : τ} {claims : σ → Bool}
    {doing : σ → String} {c : σ → Call} {cleared : σ → σ}
    {post : Except ActivityError Unit × τ → Inventory → Prop}
    (hclaim : claims (part.get whole) = true)
    (performed : ∀ r inv', Performed inv (c (part.get whole)) r inv' →
      post (.ok (), part.set (cleared (part.get whole)) whole) inv')
    (gone : ∀ what, hz.Denies inv (c (part.get whole)) (.notFound what) →
      post (.ok (), part.set (cleared (part.get whole)) whole) inv)
    (failed : ∀ e, post (.error e, part.set (part.get whole) whole) inv)
    (lost : hz.loses (c (part.get whole)).operation → ∀ r inv',
      Performed inv (c (part.get whole)) r inv' →
      post (.error .cancelled, part.set (part.get whole) whole) inv') :
    ((Step.within part do
      let s ← get
      if claims s then
        Step.remove ctx (doing s) (c s)
        set (cleared s)).run whole).Ensures (hz.rule files) inv post := by
  show EnsuresFrom _ (Step.within part _) whole inv fun r o' inv' => post (r, o') inv'
  rw [Step.ensuresFrom_within, Step.ensures_bind, Step.ensures_get, Step.after_ok, if_pos hclaim]
  unfold Step.remove
  rw [Step.ensures_bind, Step.ensures_bind]
  apply Step.ensures_call
  · intro e hdenies
    rw [Step.after_ok]
    split
    next heq => cases heq
    next what heq =>
      cases heq
      exact gone what hdenies
    next => exact failed _
  · intro r inv' hperformed
    exact performed r inv' hperformed
  · intro _
    exact failed _
  · intro _
    exact lost

namespace Catalog

variable (c : Catalog) (k : ActivityKind) (ctx : Context) (o : Outputs)

/-- The transaction of an activity, given what the outputs say. -/
def transact : Plan (Except ActivityError Unit × Outputs) :=
  ((c.activity k).transaction ctx).run o

/-- The compensation of an activity, given what the outputs say. -/
def compensate : Plan (Except ActivityError Unit × Outputs) :=
  ((c.activity k).compensation ctx).run o

variable {c k ctx o} {call : Call} {x : Holding}

/-- A compensation that has nothing to undo asks nothing. -/
theorem compensate_of_unclaimed (hk : k.undo?.isSome = true) (hnone : o.claims k = false) :
    c.compensate k ctx o = pure (.ok (), o) := by
  obtain ⟨jobEntry, ⟨bucketCreated, staged⟩, ⟨feedCreated⟩, ⟨databaseCreated⟩,
    ⟨readerLaunched, _, _, _, _, _⟩, ⟨writerLaunched, _, _, _, _, _⟩, jobCompletion⟩ := o
  cases k with
  | registerJob => cases hk
  | finalizeJob => cases hk
  | prepareStagingStore =>
    obtain rfl : bucketCreated = false := hnone
    rfl
  | prepareChangeFeed =>
    obtain rfl : feedCreated = false := hnone
    rfl
  | prepareMetadataStore =>
    obtain rfl : databaseCreated = false := hnone
    rfl
  | launchReader =>
    obtain rfl : readerLaunched = false := hnone
    rfl
  | launchWriter =>
    obtain rfl : writerLaunched = false := hnone
    rfl

/-- A compensation that has something to undo makes the call that undoes it. -/
theorem ensures_compensate {post : Except ActivityError Unit × Outputs → Inventory → Prop}
    (hclaim : o.claims k = true) (hcall : c.undoing? o k = some call)
    (performed : ∀ r inv', Performed inv call r inv' → post (.ok (), o.cleared k) inv')
    (gone : ∀ what, hz.Denies inv call (.notFound what) → post (.ok (), o.cleared k) inv)
    (failed : ∀ e, post (.error e, o) inv)
    (lost : hz.loses call.operation → ∀ r inv', Performed inv call r inv' →
      post (.error .cancelled, o) inv') :
    (c.compensate k ctx o).Ensures (hz.rule files) inv post := by
  cases k with
  | registerJob => cases hclaim
  | finalizeJob => cases hclaim
  | prepareStagingStore =>
    cases hcall
    exact Step.ensures_takeBack hclaim performed gone failed lost
  | prepareChangeFeed =>
    cases hcall
    exact Step.ensures_takeBack hclaim performed gone failed lost
  | prepareMetadataStore =>
    cases hcall
    exact Step.ensures_takeBack hclaim performed gone failed lost
  | launchReader =>
    cases hcall
    exact Step.ensures_takeBack hclaim performed gone failed lost
  | launchWriter =>
    cases hcall
    exact Step.ensures_takeBack hclaim performed gone failed lost

/-- The call that undoes what an activity has made is among those that undo. -/
theorem operation_undoing (hcall : c.undoing? o k = some call) :
    call.operation ∈ Hazards.undoings := by
  cases k <;> cases hcall <;> simp [Call.operation, Hazards.undoings]

/-- What is held can be undone. -/
theorem undoing_accepted (hsound : inv.Sound) (hcall : c.undoing? o k = some call)
    (hx : c.product o k = some x) (hheld : inv.Holds x) (e : ManagerError) :
    inv.perform call ≠ .error e := by
  have hpipeline : ∀ {projectId location name id : String},
      inv.running.get? name = some id → inv.perform (.cancel projectId location id) ≠ .error e := by
    intro projectId location name id hrun hrefused
    have hjob := (hsound.running name id).1 hrun
    rw [(Inventory.cancel_refused hrefused).2] at hjob
    cases hjob
  intro hrefused
  cases k with
  | registerJob => cases hcall
  | finalizeJob => cases hcall
  | prepareStagingStore =>
    cases hcall
    cases hx
    simp [Inventory.Holds, (Inventory.deleteBucket_refused hrefused).2] at hheld
  | prepareChangeFeed =>
    cases hcall
    cases hx
    simp [Inventory.Holds, (Inventory.dropFeed_refused hrefused).2] at hheld
  | prepareMetadataStore =>
    cases hcall
    cases hx
    simp [Inventory.Holds, (Inventory.dropDatabase_refused hrefused).2] at hheld
  | launchReader =>
    cases hcall
    cases hx
    exact hpipeline hheld hrefused
  | launchWriter =>
    cases hcall
    cases hx
    exact hpipeline hheld hrefused

/-- So it is not found to be gone, where nothing is made to look gone. -/
theorem undoing_not_gone
    (hremovals : ∀ op ∈ Hazards.undoings, ∀ what, ¬hz.fails op (.notFound what))
    (hsound : inv.Sound) (hcall : c.undoing? o k = some call) (hx : c.product o k = some x)
    (hheld : inv.Holds x) (what : String) : ¬hz.Denies inv call (.notFound what) := by
  rintro (hfails | hrefused)
  · exact hremovals _ (operation_undoing hcall) what hfails
  · exact undoing_accepted hsound hcall hx hheld _ hrefused

end Catalog

namespace Scenario

variable {sc : Scenario} {o : Outputs} {k : ActivityKind} {call : Call}

/-- Undoing what an activity claims gives up the claim with it. -/
theorem Tracks.undone (h : sc.Tracks none o inv) (hclaim : o.claims k = true)
    (hcall : sc.catalog.undoing? o k = some call) {r : call.Reply}
    (hperformed : Performed inv call r inv') : sc.Tracks none (o.cleared k) inv' := by
  cases k with
  | registerJob => cases hclaim
  | finalizeJob => cases hclaim
  | prepareStagingStore =>
    cases hcall
    cases hperformed
    exact h.deleteBucket hclaim rfl
  | prepareChangeFeed =>
    cases hcall
    cases hperformed
    exact h.dropFeed hclaim rfl
  | prepareMetadataStore =>
    cases hcall
    cases hperformed
    exact h.dropDatabase hclaim rfl
  | launchReader =>
    have htracks : sc.Tracks none ((Outputs.pipelinePart .reader).set o.reader o) inv := h
    cases hcall
    cases hperformed with
    | cancel hjob => exact htracks.cancel (y := { o.reader with launched := false }) hclaim hjob rfl
  | launchWriter =>
    have htracks : sc.Tracks none ((Outputs.pipelinePart .writer).set o.writer o) inv := h
    cases hcall
    cases hperformed with
    | cancel hjob => exact htracks.cancel (y := { o.writer with launched := false }) hclaim hjob rfl

/-- Compensating an activity that claims something, where nothing was hidden from it: the claim is
given up with what was claimed, or nothing has happened. The compensation may have hazards of its
own, as long as it learns whether it has undone something. -/
theorem Tracks.ensures_retraction (h : sc.Tracks none o inv) (hexact : sc.hazards.Exact)
    (hremovals : ∀ op ∈ Hazards.undoings, ∀ what, ¬hz.fails op (.notFound what))
    (hreplies : ∀ op ∈ Hazards.undoings, ¬hz.loses op) (hclaim : o.claims k = true) :
    (sc.catalog.compensate k ctx o).Ensures (hz.rule files) inv fun result inv' =>
      (result = (.ok (), o.cleared k) ∧ sc.Tracks none (o.cleared k) inv') ∨
        ((∃ e, result = (.error e, o)) ∧ inv' = inv) := by
  obtain ⟨call, hcall⟩ : ∃ call, sc.catalog.undoing? o k = some call := by
    cases k <;> first | exact ⟨_, rfl⟩ | cases hclaim
  obtain ⟨x, hx⟩ : ∃ x, sc.catalog.product o k = some x := by
    cases k <;> first | exact ⟨_, rfl⟩ | cases hclaim
  have hheld := ((h.new_iff hexact).2 ⟨k, hclaim, hx⟩).1
  apply Catalog.ensures_compensate hclaim hcall
  · intro r inv' hperformed
    exact .inl ⟨rfl, h.undone hclaim hcall hperformed⟩
  · intro what hdenies
    exact absurd hdenies
      (Catalog.undoing_not_gone hremovals h.sound hcall hx hheld what)
  · intro e
    exact .inr ⟨⟨e, rfl⟩, rfl⟩
  · intro hloses
    exact absurd hloses (hreplies _ (Catalog.operation_undoing hcall))

end Scenario

end compensations

end ReverseReplication
