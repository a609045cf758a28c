import ReverseReplication.Proofs.Halting.Steps

/-!
# How failing transactions of activities end

Every activity that begins with its output as at first ends as it should (`Trace.Ends`): if its
transaction succeeds, it has undone nothing; if it fails, it has halted, and its output is as at
first unless something has come to pass that sticks.

An activity that creates one thing creates it, records it, and takes it back if that fails
(`Step.ensures_recorded`). Only the one that stages has more to do in between
(`StagingStore.Stages`).
-/

namespace ReverseReplication

variable {hz : Hazards} {files : FileSystem} {t : Trace} {start : Inventory} {blank blank' : Prop}
  {x : Holding} {σ : Type} {s : σ} {ctx : Context} {r : Except ActivityError Unit}

namespace Trace

/-- How a transaction ends that began with `start`, where `blank` says that its output is as at
first. -/
structure Ends (t : Trace) (start : Inventory) (blank : Prop) (r : Except ActivityError Unit) :
    Prop where
  forward : r = .ok () → ∀ e ∈ t.events, ¬e.Undoes
  halted : ∀ cause, r = .error cause → t.Halted start blank

/-- A transaction that has created nothing may succeed or fail. -/
theorem Begun.ends (h : t.Begun start blank) (r : Except ActivityError Unit) :
    t.Ends start blank r :=
  ⟨fun _ => h.undoesNothing, fun _ _ => h.halted⟩

/-- A transaction that has undone nothing may succeed. -/
theorem Builds.ends_ok (h : t.Builds start blank) : t.Ends start blank' (.ok ()) :=
  ⟨fun _ => h.undoesNothing, nofun⟩

/-- A transaction that has halted has failed. -/
theorem Halted.ends_error (h : t.Halted start blank) (cause : ActivityError) :
    t.Ends start blank (.error cause) :=
  ⟨nofun, fun _ _ => h⟩

/-- A transaction that has created nothing, and has not changed its output. -/
theorem Begun.ends_same (h : t.Begun start True) (s : σ) (r : Except ActivityError Unit) :
    t.Ends start (s = s) r :=
  (h.congr (eq_self_iff_true s)).ends r

/-- A transaction that has halted, and has not changed its output. -/
theorem Halted.ends_same (h : t.Halted start True) (s : σ) (cause : ActivityError) :
    t.Ends start (s = s) (.error cause) :=
  (h.congr (eq_self_iff_true s)).ends_error cause

/-- What is said of the output may be put in other words. -/
theorem Ends.congr (h : t.Ends start blank r) (hblank : blank' ↔ blank) : t.Ends start blank' r :=
  ⟨h.forward, fun cause hcause => (h.halted cause hcause).congr hblank⟩

end Trace

open Trace (kept_begun kept_made)

/-- Recording what was created. If that fails, it is taken back, and then `blank` says whether the
output is as at first again. -/
theorem Step.ensures_recorded {claims : σ → Bool} {doing : σ → String} {c : σ → Call}
    {cleared : σ → σ} {initial : σ} {what : String} {resource : JobResource}
    (hmade : t.Made start x (c s) blank) (hclaim : claims s = true)
    (hcleared : cleared s = initial ↔ blank) :
    (undoing (do
        let s ← get
        if claims s then
          remove ctx.detach (doing s) (c s)
          set (cleared s))
      (need ctx what (.recordResource resource))).Ensures (Hazards.abrupt.rule files).traced s t
      fun r s' t' => t'.Ends start (s' = initial) r := by
  rw [ensures_undoing]
  apply ensures_plain_need (kept_made _ _ _ _) hmade
  · simp [Call.operation, Hazards.plain]
  · rintro (cause | u) t' hmade'
    · refine (ensures_takeBack_traced rfl hmade' hclaim).mono ?_
      rintro _ s' t'' ⟨rfl, hhalted⟩
      exact (hhalted.congr hcleared).ends_error cause
    · exact hmade'.toBuilds.ends_ok

/-- Creating one thing, and recording it. `next` is what the reply to the creating call leads to. -/
theorem Step.ensures_created {c : Call} {next : Except ManagerError c.Reply → Step σ Unit}
    {claims : σ → Bool} {doing : σ → String} {undo : σ → Call} {cleared : σ → σ} {made : σ}
    {what : String} {resource : JobResource} (h : t.Begun start True)
    (hc : c.operation ∈ Hazards.creations) (hsticks : ¬c.Sticks start)
    (hnext : ∀ r, next (.ok r) = do
      set made
      undoing (do
          let s ← get
          if claims s then
            remove ctx.detach (doing s) (undo s)
            set (cleared s))
        (need ctx what (.recordResource resource)))
    (hreverts : ∀ r, c.Reverts r x (undo made)) (hclaim : claims made = true)
    (hcleared : cleared made = s)
    (denied : ∀ e t', t'.Begun start True →
      (next (.error e)).Ensures (Hazards.abrupt.rule files).traced s t'
        fun r s' t' => t'.Ends start (s' = s) r) :
    (call ctx c >>= next).Ensures (Hazards.abrupt.rule files).traced s t
      fun r s' t' => t'.Ends start (s' = s) r := by
  rw [ensures_bind]
  apply ensures_creating h hc hreverts ⟨fun hblank => ⟨hblank, hsticks⟩, And.left⟩ denied
  · intro r after t' _ hmade
    rw [after_ok, hnext]
    simp only [ensures_bind, ensures_set, after_ok]
    exact ensures_recorded hmade hclaim (iff_of_true hcleared trivial)
  · intro t' hhalted
    exact hhalted.ends_same _ _

/-! ## Activities that make one call -/

namespace JobEntry

/-- The first activity writes the job record, or finds it. It undoes nothing, whatever happens. -/
theorem ensures_ends (e : JobEntry) (h : t.Begun start True) :
    (e.transaction ctx).Ensures (hz.rule files).traced {} t
      fun r o t' => t'.Ends start (o = {}) r := by
  have hforth : ¬(Call.createJob (e.record ctx.startedAt)).Undoes := by
    simp [Call.Undoes, Call.operation, Hazards.undoings]
  unfold transaction
  rw [Step.ensures_bind]
  apply Step.ensures_lasting h
  · simp [Call.operation, Hazards.lasting, Hazards.creations]
  · exact hforth
  · intro error t' hbegun
    rw [Step.after_ok]
    split
    next heq => cases heq
    next => exact hbegun.ends_same _ _
    next => exact hbegun.ends_same _ _
  · intro _ after _
    refine (h.toBuilds.push ?_ Iff.rfl).ends_ok
    rintro _ ⟨⟩
    exact hforth
  · intro t' hhalted
    exact hhalted.ends_same _ _

end JobEntry

namespace JobCompletion

/-- The last activity marks the job as running. It undoes nothing, whatever happens. -/
theorem ensures_ends (f : JobCompletion) (h : t.Begun start True) :
    (f.transaction ctx).Ensures (hz.rule files).traced {} t
      fun r o t' => t'.Ends start (o = {}) r := by
  have hforth : ¬(Call.updateJobStatus f.jobId .running).Undoes := fun hother => hother rfl
  unfold transaction Step.need
  rw [Step.ensures_bind, Step.ensures_bind]
  apply Step.ensures_lasting h
  · simp [Call.operation, Hazards.lasting]
  · exact hforth
  · intro error t' hbegun
    exact hbegun.ends_same _ _
  · intro _ after _
    refine (h.toBuilds.push ?_ Iff.rfl).ends_ok
    rintro _ ⟨⟩
    exact hforth
  · intro t' hhalted
    exact hhalted.ends_same _ _

end JobCompletion

/-! ## Activities that create one thing -/

namespace ChangeFeed

variable (f : ChangeFeed)

/-- Accepting a feed or not changes nothing. -/
theorem ensures_validateExisting_begun (h : t.Begun start True) :
    (f.validateExisting ctx).Ensures (hz.rule files).traced {} t
      fun r o t' => t'.Ends start (o = {}) r := by
  unfold validateExisting
  rw [Step.ensures_bind]
  apply Step.ensures_plain_call (kept_begun _ _) h
  · simp [Call.operation, Hazards.plain]
  · intro result t' hbegun
    have hends := hbegun.ends_same ({} : Output)
    cases result with
    | error cause => exact hends _
    | ok reply =>
      rw [Step.after_ok]
      split
      next => exact hends _
      next => exact hends _
      next => exact hends _

/-- Creating the feed ends well: it is recorded, or dropped at once, or was there already. -/
theorem ensures_create_ends (h : t.Begun start True) :
    (f.create ctx).Ensures (Hazards.abrupt.rule files).traced {} t
      fun r o t' => t'.Ends start (o = {}) r := by
  unfold create
  apply Step.ensures_created h
  · simp [Call.operation, Hazards.creations]
  · exact id
  · exact fun _ => rfl
  · exact fun _ => .feed
  · rfl
  · rfl
  · intro error t' hbegun
    split
    next heq => cases heq
    next => exact f.ensures_validateExisting_begun hbegun
    next => exact hbegun.ends_same _ _

/-- The activity finds the feed, and has nothing to undo, or goes on to create it. -/
theorem ensures_ends (h : t.Begun start True) :
    (f.transaction ctx).Ensures (Hazards.abrupt.rule files).traced {} t
      fun r o t' => t'.Ends start (o = {}) r := by
  unfold transaction
  rw [Step.ensures_bind]
  apply Step.ensures_plain_need (kept_begun _ _) h
  · simp [Call.operation, Hazards.plain]
  · rintro (cause | exists?) t' hbegun
    · exact hbegun.ends_same _ _
    · rw [Step.after_ok]
      split
      next => exact f.ensures_validateExisting_begun hbegun
      next => exact f.ensures_create_ends hbegun

end ChangeFeed

namespace MetadataStore

variable (d : MetadataStore)

/-- Creating the database ends well: it is recorded, or dropped at once, or was there already. -/
theorem ensures_create_ends (h : t.Begun start True) :
    (d.create ctx).Ensures (Hazards.abrupt.rule files).traced {} t
      fun r o t' => t'.Ends start (o = {}) r := by
  unfold create
  apply Step.ensures_created h
  · simp [Call.operation, Hazards.creations]
  · exact id
  · exact fun _ => rfl
  · exact fun _ => .database
  · rfl
  · rfl
  · intro error t' hbegun
    split
    next heq => cases heq
    next => exact hbegun.ends_same _ _
    next => exact hbegun.ends_same _ _

/-- The activity finds the database, and has nothing to undo, or goes on to create it. -/
theorem ensures_ends (h : t.Begun start True) :
    (d.transaction ctx).Ensures (Hazards.abrupt.rule files).traced {} t
      fun r o t' => t'.Ends start (o = {}) r := by
  unfold transaction
  rw [Step.ensures_bind]
  apply Step.ensures_plain_need (kept_begun _ _) h
  · simp [Call.operation, Hazards.plain]
  · rintro (cause | exists?) t' hbegun
    · exact hbegun.ends_same _ _
    · rw [Step.after_ok]
      split
      next => exact d.ensures_create_ends hbegun
      next => exact hbegun.ends_same _ _

end MetadataStore

namespace Pipeline

variable (p : Pipeline)

/-- The output of a launch has the id of a pipeline, also when the launch has been undone. -/
theorem cleared_ne_default {inv : Inventory} {request : Launch} {n : Nat} :
    { Output.ofLaunch request (inv.pipelineId n) true with launched := false } ≠ {} := by
  intro heq
  have hid : inv.stamp ++ "-" ++ String.ofList (Text.Decimal.digits n) = "" :=
    congrArg Output.pipelineJobId heq
  have hlength := congrArg String.length hid
  simp only [String.length_append] at hlength
  have hhyphen : ("-" : String).length = 1 := rfl
  have hempty : ("" : String).length = 0 := rfl
  omega

/-- Launching a pipeline ends well. If it is cancelled at once, its id stays in the output: so the
output is as at first only where nothing was launched. -/
theorem ensures_launch_ends {request : Launch} (h : t.Begun start True) :
    (p.launch ctx request).Ensures (Hazards.abrupt.rule files).traced {} t
      fun r o t' => t'.Ends start (o = {}) r := by
  have hreverts : ∀ id, (Call.launch request).Reverts id (.pipeline request.jobName id)
      (.cancel request.projectId request.location id) := fun _ => .pipeline
  have hsticks : False ↔ True ∧ ¬(Call.launch request).Sticks start := by simp [Call.Sticks]
  unfold launch
  rw [Step.ensures_bind]
  apply Step.ensures_creating h (by simp [Call.operation, Hazards.creations]) hreverts hsticks
  · intro error t' hbegun
    rw [Step.after_ok]
    split
    next heq => cases heq
    next =>
      rw [Step.ensures_bind]
      apply Step.ensures_plain_need (kept_begun _ _) hbegun
      · simp [Call.operation, Hazards.plain]
      · rintro (cause | running) t'' hbegun'
        · exact hbegun'.ends_same _ _
        · exact hbegun'.toBuilds.ends_ok
    next => exact hbegun.ends_same _ _
  · intro id after t' hlaunched hmade
    obtain ⟨n, rfl⟩ : ∃ n, id = t.now.pipelineId n := by
      cases hlaunched
      exact ⟨_, rfl⟩
    rw [Step.after_ok]
    unfold record
    simp only [Step.ensures_bind, Step.ensures_set, Step.ensures_get, Step.after_ok]
    exact Step.ensures_recorded hmade rfl (iff_of_false cleared_ne_default id)
  · intro t' hhalted
    exact hhalted.ends_same _ _

/-- The activity fails before the launch if it cannot use its tuning, and has nothing to undo
then. -/
theorem ensures_ends (h : t.Begun start True) :
    (p.transaction ctx).Ensures (Hazards.abrupt.rule files).traced {} t
      fun r o t' => t'.Ends start (o = {}) r := by
  unfold transaction
  rw [Step.ensures_bind]
  apply Step.ensures_plain_loadTuning (kept_begun _ _) h
  rintro (cause | tuning) t' hbegun
  · exact hbegun.ends_same _ _
  · rw [Step.after_ok]
    split
    next => exact p.ensures_launch_ends hbegun
    next => exact hbegun.ends_same _ _

end Pipeline

/-! ## Staging -/

namespace StagingStore

variable (s : StagingStore) {o : Output}

/-- Where staging stands with its output. -/
inductive Stands (start : Inventory) : Except ActivityError Unit → Output → Trace → Prop
  /-- The bucket was there already, or is not there yet. -/
  | begun {r : Except ActivityError Unit} {o : Output} {t : Trace} : o.bucketCreated = false →
    t.Begun start (o = {}) → Stands start r o t
  | made {r : Except ActivityError Unit} {o : Output} {t : Trace} : o.bucketCreated = true →
    t.Made start (.bucket s.bucketName) (.deleteBucket s.bucketName) True → Stands start r o t
  /-- The creation of the bucket was given up. -/
  | cut {cause : ActivityError} {o : Output} {t : Trace} : o.bucketCreated = false →
    t.Halted start (o = {}) → Stands start (.error cause) o t

variable {s}

/-- What goes on may fail just as well. -/
theorem Stands.of_ok (h : s.Stands start (.ok ()) o t) (r : Except ActivityError Unit) :
    s.Stands start r o t := by
  cases h with
  | begun hflag hbegun => exact .begun hflag hbegun
  | made hflag hmade => exact .made hflag hmade

/-- Looking something up, or recording it, does not change where staging stands. -/
theorem kept_stands (o : Output) : Trace.Kept (s.Stands start (.ok ()) o) := by
  intro t q answer after hq hsteady h
  cases h with
  | begun hflag hbegun => exact .begun hflag (kept_begun _ _ t q answer after hq hsteady hbegun)
  | made hflag hmade => exact .made hflag (kept_made _ _ _ _ t q answer after hq hsteady hmade)

variable (s)

/-- Creating the bucket, or finding it. -/
theorem ensures_ensureBucket_stands (h : t.Begun start True) :
    (s.ensureBucket ctx).Ensures (hz.rule files).traced {} t (s.Stands start) := by
  have hsticks : True ↔ True ∧ ¬(Call.createBucket s.projectId s.bucket).Sticks start := by
    simp [Call.Sticks]
  unfold ensureBucket
  rw [Step.ensures_bind]
  apply Step.ensures_creating h (by simp [Call.operation, Hazards.creations]) (fun _ => .bucket)
    hsticks
  · intro error t' hbegun
    rw [Step.after_ok]
    split
    next heq => cases heq
    next => exact .begun rfl (hbegun.congr (eq_self_iff_true _))
    next => exact .begun rfl (hbegun.congr (eq_self_iff_true _))
  · intro _ after t' _ hmade
    rw [Step.after_ok]
    simp only [Step.ensures_bind, Step.ensures_modify, Step.after_ok]
    apply Step.ensures_plain_need (kept_made _ _ _ _) hmade
    · simp [Call.operation, Hazards.plain]
    · intro r t' hmade'
      exact .made rfl hmade'
  · intro t' hhalted
    exact .cut rfl (hhalted.congr (eq_self_iff_true _))

/-- A write into the bucket that has not succeeded. -/
theorem Stands.push_failed {object : String} {contents : Text.Bytes} {after : Inventory}
    {scope : Scope}
    {answer : (Query.guarded scope (.writeObject s.bucketName object contents)).Answer}
    (h : s.Stands start (.ok ()) o t) (hsteady : t.now.Steady after)
    (hfailed : ¬(⟨_, answer, t.now, after⟩ : Event).Succeeds) :
    s.Stands start (.ok ()) o (t.push _ answer after) := by
  have hforth : ∀ c, (Query.guarded scope (.writeObject s.bucketName object contents)).call? =
      some c → ¬c.Undoes := by
    rintro _ ⟨⟩
    simp [Call.Undoes, Call.operation, Hazards.undoings]
  have hlast : ¬(⟨_, answer, t.now, after⟩ : Event).Sticks start := fun hsticks =>
    hfailed hsticks.1
  cases h with
  | begun hflag hbegun =>
    exact .begun hflag ⟨hbegun.toBuilds.push_same hforth hlast,
      hbegun.untouched.trans hsteady.toUntouched⟩
  | made hflag hmade =>
    exact .made hflag ⟨hmade.toBuilds.push_same hforth hlast, hmade.creator_push,
      hmade.created.steady hsteady⟩

/-- A write into the bucket that has succeeded sticks, unless the bucket is new. -/
theorem Stands.push_written {object : String} {contents : Text.Bytes} {after : Inventory}
    {scope : Scope} {r : (Call.writeObject s.bucketName object contents).Reply}
    (h : s.Stands start (.ok ()) o t)
    (hwritten : Inventory.Performed t.now (.writeObject s.bucketName object contents) r after) :
    s.Stands start (.ok ()) { o with stagedObjects := o.stagedObjects ++ [object] }
      (t.push (.guarded scope (.writeObject s.bucketName object contents)) (some (.ok r))
        after) := by
  have hforth : ∀ c, (Query.guarded scope (.writeObject s.bucketName object contents)).call? =
      some c → ¬c.Undoes := by
    rintro _ ⟨⟩
    simp [Call.Undoes, Call.operation, Hazards.undoings]
  have hsteady := hwritten.steady List.mem_cons_self
  cases h with
  | begun hflag hbegun =>
    have hthere : (start.buckets.get? s.bucketName).isSome := by
      rw [← hbegun.untouched.buckets]
      cases hwritten
      assumption
    refine .begun hflag ⟨hbegun.toBuilds.push hforth ?_,
      hbegun.untouched.trans hsteady.toUntouched⟩
    constructor
    · intro heq
      have hstaged := congrArg Output.stagedObjects heq
      exact absurd hstaged (List.append_ne_nil_of_right_ne_nil _ (List.cons_ne_nil _ _))
    · rintro ⟨-, hlast⟩
      exact absurd ⟨trivial, _, rfl, hthere⟩ hlast
  | made hflag hmade =>
    refine .made hflag ⟨hmade.toBuilds.push_same hforth (Event.not_sticks ?_), hmade.creator_push,
      hmade.created.steady hsteady⟩
    rintro _ ⟨⟩ hsticks
    exact hmade.created.fresh hsticks

/-- Putting a file into the bucket. -/
theorem ensures_upload_stands {path object : String} (h : s.Stands start (.ok ()) o t) :
    (s.upload ctx path object).Ensures (hz.rule files).traced o t (s.Stands start) := by
  unfold upload
  split
  next =>
    rw [Step.ensures_bind]
    apply Step.ensures_plain_readFile (kept_stands o) h
    rintro (cause | contents) t' hstands
    · exact hstands.of_ok _
    · rw [Step.after_ok, Step.ensures_bind]
      apply Step.ensures_need_traced
      · intro r after hwritten _
        rw [Step.after_ok, Step.ensures_modify]
        exact hstands.push_written s hwritten
      · intro e _
        exact (hstands.push_failed s (.refl _) id).of_ok _
      · intro _
        exact (hstands.push_failed s (.refl _) id).of_ok _
      · intro _ _ r after hwritten _
        exact (hstands.push_failed s (hwritten.steady List.mem_cons_self) id).of_ok _
  next => exact h

/-- Staging may stand in any of these ways when it stops, since each upload may be the last. -/
theorem ensures_stage_stands (h : t.Begun start True) :
    (s.stage ctx).Ensures (hz.rule files).traced {} t (s.Stands start) := by
  have hafter : ∀ {next : Step Output Unit},
      (∀ {o t}, s.Stands start (.ok ()) o t →
        next.Ensures (hz.rule files).traced o t (s.Stands start)) →
      ∀ r o t, s.Stands start r o t →
        Step.After (hz.rule files).traced (fun _ => next) (s.Stands start) r o t := by
    rintro next hnext (cause | u) o t hstands
    · exact hstands
    · exact hnext hstands
  unfold stage
  rw [Step.ensures_bind]
  refine (s.ensures_ensureBucket_stands h).mono (hafter fun hstands => ?_)
  rw [Step.ensures_bind]
  refine (s.ensures_upload_stands hstands).mono (hafter fun hstands' => ?_)
  exact s.ensures_upload_stands hstands'

/-- If staging fails, the activity deletes its own bucket. In a bucket of somebody else, the files
that were uploaded stay, and so does their list in the output. -/
theorem ensures_ends (h : t.Begun start True) :
    (s.transaction ctx).Ensures (Hazards.abrupt.rule files).traced {} t
      fun r o t' => t'.Ends start (o = {}) r := by
  unfold transaction
  split
  next =>
    rw [Step.ensures_undoing]
    refine (s.ensures_stage_stands h).mono ?_
    rintro (cause | u) o t' hstands
    · -- Whatever has failed, the undo looks at the flag only.
      have hidle : o.bucketCreated = false → t'.Halted start (o = {}) →
          (s.compensation ctx.detach).Ensures (Hazards.abrupt.rule files).traced o t'
            fun _ o' t'' => t''.Ends start (o' = {}) (.error cause) := by
        intro hflag hhalted
        unfold compensation
        rw [Step.ensures_bind, Step.ensures_get, Step.after_ok, hflag]
        exact hhalted.ends_error cause
      cases hstands with
      | begun hflag hbegun => exact hidle hflag hbegun.halted
      | cut hflag hhalted => exact hidle hflag hhalted
      | made hflag hmade =>
        refine Step.Ensures.mono (Step.ensures_takeBack_traced rfl hmade hflag) ?_
        rintro _ o' t'' ⟨rfl, hhalted⟩
        exact hhalted.ends_same _ cause
    · cases hstands with
      | begun _ hbegun => exact hbegun.toBuilds.ends_ok
      | made _ hmade => exact hmade.toBuilds.ends_ok
  next => exact h.ends_same _ _

end StagingStore

/-! ## Every activity -/

namespace Outputs

/-- The output of an activity is as at first. -/
def Blank (o : Outputs) : ActivityKind → Prop
  | .registerJob => o.jobEntry = {}
  | .prepareStagingStore => o.stagingStore = {}
  | .prepareChangeFeed => o.changeFeed = {}
  | .prepareMetadataStore => o.metadataStore = {}
  | .launchReader => o.reader = {}
  | .launchWriter => o.writer = {}
  | .finalizeJob => o.jobCompletion = {}

/-- The outputs, with that of an activity as at first. -/
def reset (o : Outputs) : ActivityKind → Outputs
  | .registerJob => { o with jobEntry := {} }
  | .prepareStagingStore => { o with stagingStore := {} }
  | .prepareChangeFeed => { o with changeFeed := {} }
  | .prepareMetadataStore => { o with metadataStore := {} }
  | .launchReader => { o with reader := {} }
  | .launchWriter => { o with writer := {} }
  | .finalizeJob => { o with jobCompletion := {} }

variable {o o' : Outputs} {k k' : ActivityKind}

/-- At first every output is blank. -/
theorem blank_default (k : ActivityKind) : ({} : Outputs).Blank k := by
  cases k <;> rfl

/-- Resetting a blank output changes nothing. -/
theorem reset_of_blank (h : o.Blank k) : o.reset k = o := by
  cases o
  cases k <;> cases h <;> rfl

/-- Where only the output of one activity is not as at first, it decides. -/
theorem eq_default_iff (h : o.reset k = {}) : o = {} ↔ o.Blank k := by
  constructor
  · rintro rfl
    exact blank_default k
  · intro hblank
    rw [← reset_of_blank hblank, h]

/-- What an activity does to its own output does not change the others. -/
theorem blank_iff_of_reset_eq (h : o'.reset k = o.reset k) (hne : k' ≠ k) :
    o'.Blank k' ↔ o.Blank k' := by
  have hreset : ∀ o : Outputs, (o.reset k).Blank k' ↔ o.Blank k' := by
    intro o
    cases k <;> cases k' <;> first | exact Iff.rfl | exact absurd rfl hne
  rw [← hreset o', h, hreset o]

end Outputs

namespace Catalog

variable {c : Catalog} {k : ActivityKind} {o : Outputs}

/-- A transaction on a part of the outputs ends as it does on that part. -/
theorem ensures_within_ends {part : Step.Part Outputs σ} {step : Step σ Unit} {initial : σ}
    (hstep : step.Ensures (Hazards.abrupt.rule files).traced initial t
      fun r s t' => t'.Ends start (s = initial) r)
    (hget : part.get o = initial)
    (hblank : ∀ s, (part.set s o).Blank k ↔ s = initial)
    (hreset : ∀ s, (part.set s o).reset k = o.reset k) :
    ((Step.within part step).run o).Ensures (Hazards.abrupt.rule files).traced t
      fun result t' => t'.Ends start (result.2.Blank k) result.1 ∧
        result.2.reset k = o.reset k := by
  show EnsuresFrom _ (Step.within part step) o t fun r o' t' =>
    t'.Ends start (o'.Blank k) r ∧ o'.reset k = o.reset k
  rw [Step.ensuresFrom_within, hget]
  refine hstep.mono fun r s t' hends => ⟨hends.congr (hblank s), hreset s⟩

/-- The transaction of every activity that begins with its output as at first ends as it should,
and leaves the outputs of the others alone. -/
theorem ensures_transact_ends (hblank : o.Blank k) (h : t.Begun start True) :
    (c.transact k ctx o).Ensures (Hazards.abrupt.rule files).traced t
      fun result t' => t'.Ends start (result.2.Blank k) result.1 ∧
        result.2.reset k = o.reset k := by
  unfold transact
  cases k with
  | registerJob =>
    exact ensures_within_ends (c.jobEntry.ensures_ends h) hblank (fun _ => Iff.rfl) fun _ => rfl
  | prepareStagingStore =>
    exact ensures_within_ends (c.stagingStore.ensures_ends h) hblank (fun _ => Iff.rfl) fun _ => rfl
  | prepareChangeFeed =>
    exact ensures_within_ends (c.changeFeed.ensures_ends h) hblank (fun _ => Iff.rfl) fun _ => rfl
  | prepareMetadataStore =>
    exact ensures_within_ends (c.metadataStore.ensures_ends h) hblank (fun _ => Iff.rfl)
      fun _ => rfl
  | launchReader =>
    exact ensures_within_ends (c.reader.ensures_ends h) hblank (fun _ => Iff.rfl) fun _ => rfl
  | launchWriter =>
    exact ensures_within_ends (c.writer.ensures_ends h) hblank (fun _ => Iff.rfl) fun _ => rfl
  | finalizeJob =>
    exact ensures_within_ends (c.jobCompletion.ensures_ends h) hblank (fun _ => Iff.rfl)
      fun _ => rfl

/-- So it does if the cancellation of the run is looked at first. -/
theorem ensures_attempt_ends (hblank : o.Blank k) (h : t.Begun start True) :
    ((Saga.attempt ctx (c.activity k)).run o).Ensures (Hazards.abrupt.rule files).traced t
      fun result t' => t'.Ends start (result.2.Blank k) result.1 ∧
        result.2.reset k = o.reset k := by
  show EnsuresFrom _ (Saga.attempt ctx (c.activity k)) o t fun r o' t' =>
    t'.Ends start (o'.Blank k) r ∧ o'.reset k = o.reset k
  unfold Saga.attempt
  rw [EnsuresFrom.bind_iff, EnsuresFrom.isCancelled_iff]
  rintro seen t' ⟨hanswer, hpush⟩
  have hbegun : t'.Begun start True := by
    rw [hpush]
    exact kept_begun _ _ t _ seen _ nofun (Hazards.rule_steady hanswer nofun) h
  cases seen with
  | true => exact ⟨(hbegun.congr (iff_true_intro hblank)).ends _, rfl⟩
  | false => exact c.ensures_transact_ends hblank hbegun

end Catalog

end ReverseReplication
