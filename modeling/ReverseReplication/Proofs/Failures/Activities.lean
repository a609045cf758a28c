import ReverseReplication.Proofs.Failures.Steps
import ReverseReplication.Proofs.Ownership.Flags

/-!
# What each activity does about errors

Each transaction accounts for its failures, and each compensation makes one call at most. Only a
pipeline can fail for a reason of its own, before any call of it has failed
(`Pipeline.reported_transaction`).

So an error on the way forward is absorbed or is the cause of the failure of its activity
(`Catalog.reported_attempt`), and an error on the way back is absorbed or is that of a failed
compensation (`Catalog.compensate_at_error`).
-/

namespace ReverseReplication

variable {ctx : Context}

/-! ## Compensations -/

section compensations

open Step (retracts_claimed callsOnce_remove callsOnce_updateJobStatus)

/-- Marking the record as failed is all there is to be undone of it. -/
theorem JobEntry.retracts_compensation (e : JobEntry) :
    (e.compensation ctx).Retracts ctx.scope :=
  retracts_claimed fun o => callsOnce_updateJobStatus e.jobId .failed o

/-- Deleting the bucket is all there is to be undone of the staging. -/
theorem StagingStore.retracts_compensation (s : StagingStore) :
    (s.compensation ctx).Retracts ctx.scope :=
  retracts_claimed fun o => (callsOnce_remove .deleteBucket rfl (by decide) o).then_set {}

/-- Dropping the feed is all there is to be undone of it. -/
theorem ChangeFeed.retracts_compensation (f : ChangeFeed) :
    (f.compensation ctx).Retracts ctx.scope :=
  retracts_claimed fun o => (callsOnce_remove .dropFeed rfl (by decide) o).then_set _

/-- Dropping the database is all there is to be undone of it. -/
theorem MetadataStore.retracts_compensation (m : MetadataStore) :
    (m.compensation ctx).Retracts ctx.scope :=
  retracts_claimed fun o => (callsOnce_remove .dropDatabase rfl (by decide) o).then_set _

/-- Cancelling the pipeline is all there is to be undone of it. -/
theorem Pipeline.retracts_compensation (p : Pipeline) :
    (p.compensation ctx).Retracts ctx.scope :=
  retracts_claimed fun o => (callsOnce_remove .cancel rfl (by decide) o).then_set _

/-- Marking the record as created again is all there is to be undone of the last marking. -/
theorem JobCompletion.retracts_compensation (f : JobCompletion) :
    (f.compensation ctx).Retracts ctx.scope :=
  retracts_claimed fun o => (callsOnce_updateJobStatus f.jobId .created o).then_set _

end compensations

/-! ## Transactions -/

/-- A pipeline has to give up its tuning: the file holds none, or no launch can be made of it. -/
def Pipeline.Rejects (p : Pipeline) (cause : ActivityError) : Prop :=
  (∃ detail, cause = .serialization detail) ∨
    ∃ tuning e, Launch.make p.parameters (p.resolve tuning) = .error e ∧
      cause = .external "invalid tuning config" (.launch e)

/-- What an activity can fail for on its own. -/
def Catalog.Rejects (c : Catalog) (cause : ActivityError) : ActivityKind → Prop
  | .launchReader => c.reader.Rejects cause
  | .launchWriter => c.writer.Rejects cause
  | _ => False

section transactions

variable (hctx : ctx.scope = .cancellable)

open Step (accounts_pure accounts_get accounts_set accounts_modify accounts_bind accounts_call
  accounts_create accounts_need accounts_readFile accounts_undoing)

include hctx

/-- A record that is there already is absorbed, and any other error of its writing is the cause. -/
theorem JobEntry.accounts_transaction (e : JobEntry) : (e.transaction ctx).Accounts := by
  refine accounts_create hctx .createJob rfl (by decide) ?_ ?_ ?_
  · exact fun _ => accounts_set _
  · exact fun _ => ⟨accounts_pure (), nofun⟩
  · intro err hother
    cases err with
    | alreadyExists what => cases hother
    | _ => exact ⟨_, rfl⟩

namespace StagingStore

/-- A bucket that is there already is absorbed, and any other error of its creation is the cause. -/
theorem accounts_ensureBucket (s : StagingStore) : (s.ensureBucket ctx).Accounts := by
  refine accounts_create hctx .createBucket rfl (by decide) ?_ ?_ ?_
  · exact fun _ => accounts_bind (accounts_modify _) fun _ =>
      accounts_need hctx .recordResource rfl (by decide)
  · exact fun _ => ⟨accounts_pure (), nofun⟩
  · intro err hother
    cases err with
    | alreadyExists what => cases hother
    | _ => exact ⟨_, rfl⟩

/-- An upload fails if the file cannot be read, or with the error of its call. -/
theorem accounts_upload (s : StagingStore) (path object : String) :
    (s.upload ctx path object).Accounts := by
  unfold upload
  split
  next =>
    refine accounts_bind (accounts_readFile hctx) fun contents => ?_
    exact accounts_bind (accounts_need hctx .writeObject rfl (by decide)) fun _ => accounts_modify _
  next => exact accounts_pure ()

/-- Staging fails with the first of its calls that does, and the deletion of the bucket does not
change that. -/
theorem accounts_transaction (s : StagingStore) : (s.transaction ctx).Accounts := by
  unfold transaction
  split
  next =>
    refine accounts_undoing ?_ s.retracts_compensation.not_forward
    refine accounts_bind (s.accounts_ensureBucket hctx) fun _ => ?_
    exact accounts_bind (s.accounts_upload hctx _ _) fun _ => s.accounts_upload hctx _ _
  next => exact accounts_pure ()

end StagingStore

namespace ChangeFeed

/-- A feed with other options is in an invalid state. -/
theorem accounts_validateExisting (f : ChangeFeed) : (f.validateExisting ctx).Accounts := by
  refine accounts_call hctx ?_ ?_ ?_
  · exact fun _ => accounts_pure ()
  · intro err habsorbs
    have hcreates := habsorbs.1
    simp [Call.operation, Hazards.creations] at hcreates
  · intro err _
    cases err with
    | invalidState detail => exact ⟨_, rfl, Call.blames_invalidState rfl detail _⟩
    | _ => exact ⟨_, rfl, Call.blames_ofManager fun _ _ he => by cases he⟩

/-- Recording a feed fails with the error of its call, and dropping the feed does not change
that. -/
theorem accounts_record (f : ChangeFeed) : (f.record ctx).Accounts :=
  accounts_undoing (accounts_need hctx .recordResource rfl (by decide))
    f.retracts_compensation.not_forward

/-- A feed that is there already is validated next. -/
theorem accounts_create (f : ChangeFeed) : (f.create ctx).Accounts := by
  refine Step.accounts_create hctx .createFeed rfl (by decide) ?_ ?_ ?_
  · exact fun _ => accounts_bind (accounts_set _) fun _ => f.accounts_record hctx
  · intro what
    refine ⟨f.accounts_validateExisting hctx, fun q hq o => ?_⟩
    cases hq
    rw [← hctx]
    exact ⟨_, rfl⟩
  · intro err hother
    cases err with
    | alreadyExists what => cases hother
    | _ => exact ⟨_, rfl⟩

/-- A feed that turns out to be there when it is created is validated, like one that was found. -/
theorem accounts_transaction (f : ChangeFeed) : (f.transaction ctx).Accounts := by
  refine accounts_bind (accounts_need hctx .feedExists rfl (by decide)) fun found => ?_
  cases found with
  | true => exact f.accounts_validateExisting hctx
  | false => exact f.accounts_create hctx

end ChangeFeed

namespace MetadataStore

/-- Recording a database fails with the error of its call, and dropping the database does not change
that. -/
theorem accounts_record (m : MetadataStore) : (m.record ctx).Accounts :=
  accounts_undoing (accounts_need hctx .recordResource rfl (by decide))
    m.retracts_compensation.not_forward

/-- A database that turns out to be there when it is created is absorbed. -/
theorem accounts_create (m : MetadataStore) : (m.create ctx).Accounts := by
  refine Step.accounts_create hctx .createDatabase rfl (by decide) ?_ ?_ ?_
  · exact fun _ => accounts_bind (accounts_set _) fun _ => m.accounts_record hctx
  · exact fun _ => ⟨accounts_pure (), nofun⟩
  · intro err hother
    cases err with
    | alreadyExists what => cases hother
    | _ => exact ⟨_, rfl⟩

/-- Looking for the database fails with the error of its call, and so does creating it. -/
theorem accounts_transaction (m : MetadataStore) : (m.transaction ctx).Accounts := by
  refine accounts_bind (accounts_need hctx .databaseExists rfl (by decide)) fun found => ?_
  cases found with
  | true => exact accounts_pure ()
  | false => exact m.accounts_create hctx

end MetadataStore

namespace Pipeline

/-- Recording a pipeline fails with the error of its call, and cancelling the pipeline does not
change that. -/
theorem accounts_record (p : Pipeline) : (p.record ctx).Accounts :=
  accounts_bind accounts_get fun _ =>
    accounts_undoing (accounts_need hctx .recordResource rfl (by decide))
      p.retracts_compensation.not_forward

/-- To read a tuning file creates nothing. -/
theorem accounts_readTuningFile (path : String) :
    (Step.readTuningFile ctx path : Step Output _).Accounts ∧
      (Step.readTuningFile ctx path : Step Output _).AsksOnly [.readObject] := by
  unfold Step.readTuningFile
  dsimp only
  split
  next =>
    exact ⟨accounts_need hctx .readObject rfl (by decide),
      Step.asksOnly_need .readObject rfl (.head _)⟩
  next => exact ⟨accounts_readFile hctx, Step.asksOnly_readFile⟩

/-- A tuning file may hold no tuning although it could be read. -/
theorem reported_loadTuning (path : String) (o : Output) (d : DisturbedWorld) :
    let step : Step Output Tuning := Step.loadTuning ctx path
    (Passed (step.events o d) ∧ ∀ cause, (step.ended o d).1.1 = .error cause →
        ∃ detail, cause = .serialization detail) ∨
      ∃ cause, (step.ended o d).1.1 = .error cause ∧ Accounted (step.events o d) (some cause) := by
  intro step
  unfold step Step.loadTuning
  split
  next => exact .inl ⟨List.forall_mem_nil _, nofun⟩
  next =>
    obtain ⟨haccounts, hasks⟩ := accounts_readTuningFile hctx path
    have hread := haccounts o d
    rcases hended : (Step.readTuningFile ctx path).ended o d with ⟨⟨r, o'⟩, d'⟩
    rw [hended] at hread
    cases r with
    | error cause =>
      rw [Step.events_bind_of_error hended, Step.ended_bind_of_error hended]
      exact .inr ⟨cause, rfl, hread⟩
    | ok contents =>
      rw [Step.events_bind_of_ok hended, Step.ended_bind_of_ok hended]
      have hpassed := hread.passed_of_plain fun event hevent c hc => by
        have hop := (hasks o).operation_mem hevent hc
        rw [List.mem_singleton.1 hop]
        decide
      left
      split
      next =>
        rw [show Step.events _ o' d' = [] from rfl, List.append_nil]
        exact ⟨hpassed, nofun⟩
      next =>
        rw [show Step.events _ o' d' = [] from rfl, List.append_nil]
        refine ⟨hpassed, fun cause hcause => ?_⟩
        cases hcause
        exact ⟨_, rfl⟩

/-- A running pipeline is looked up next. -/
theorem accounts_launch (p : Pipeline) (request : Launch) : (p.launch ctx request).Accounts := by
  refine accounts_create hctx .launch rfl (by decide) ?_ ?_ ?_
  · exact fun _ => accounts_bind (accounts_set _) fun _ => p.accounts_record hctx
  · intro what
    constructor
    · exact accounts_bind (accounts_need hctx .findActive rfl (by decide)) fun _ => accounts_set _
    · intro q hq o
      cases hq
      rw [← hctx]
      exact ⟨_, rfl⟩
  · intro err hother
    cases err with
    | alreadyExists what => cases hother
    | _ => exact ⟨_, rfl⟩

/-- A pipeline accounts for its failure, unless its tuning is of no use: then no call has failed. -/
theorem reported_transaction (p : Pipeline) (o : Output) (d : DisturbedWorld) :
    Reported p.Rejects ((p.transaction ctx).events o d)
      (Step.failure? ((p.transaction ctx).ended o d).1.1) := by
  unfold transaction
  have hload := reported_loadTuning hctx p.target.tuningPath o d
  dsimp only at hload
  rcases hended : (Step.loadTuning ctx p.target.tuningPath).ended o d with ⟨⟨r, o'⟩, d'⟩
  rw [hended] at hload
  cases r with
  | error cause =>
    rw [Step.events_bind_of_error hended, Step.ended_bind_of_error hended]
    rcases hload with ⟨hpassed, hown⟩ | ⟨cause', hcause, haccounted⟩
    · refine .inl ⟨hpassed, fun cause' hcause => ?_⟩
      cases hcause
      exact .inl (hown cause rfl)
    · cases hcause
      exact .inr haccounted
  | ok tuning =>
    have hpassed : Passed ((Step.loadTuning ctx p.target.tuningPath).events o d) := by
      rcases hload with ⟨hpassed, -⟩ | ⟨_, hcause, -⟩
      · exact hpassed
      · cases hcause
    rw [Step.events_bind_of_ok hended, Step.ended_bind_of_ok hended]
    refine .prepend hpassed ?_
    split
    next request _ => exact .inr (p.accounts_launch hctx request o' d')
    next e hmake =>
      refine .inl ⟨List.forall_mem_nil _, fun cause hcause => ?_⟩
      cases hcause
      exact .inr ⟨tuning, e, hmake, rfl⟩

end Pipeline

/-- Marking the job as running fails with the error of its only call. -/
theorem JobCompletion.accounts_transaction (f : JobCompletion) : (f.transaction ctx).Accounts :=
  accounts_bind (accounts_need hctx .updateJobStatus rfl (by decide)) fun _ => accounts_set _

end transactions

/-! ## The activities of a run -/

namespace Catalog

variable {c : Catalog} {k : ActivityKind} {o : Outputs} {d : DisturbedWorld}

section within

variable {σ : Type} {part : Step.Part Outputs σ} {x : Step σ Unit}

/-- A step on a part of the outputs has the events of the step. -/
theorem events_within :
    DisturbedWorld.events ((Step.within part x).run o) d = x.events (part.get o) d := by
  have hplan : (Step.within part x).run o = x.run.run (part.get o) >>= fun result =>
      pure (result.1, part.set result.2 o) := rfl
  rw [hplan, DisturbedWorld.events_bind]
  exact List.append_nil _

/-- A step on a part of the outputs has the result of the step. -/
theorem result_within :
    (((Step.within part x).run o).run DisturbedWorld.answer d).1.1 =
      (x.ended (part.get o) d).1.1 := by
  have hplan : (Step.within part x).run o = x.run.run (part.get o) >>= fun result =>
      pure (result.1, part.set result.2 o) := rfl
  rw [hplan, Plan.run_bind]
  rfl

/-- A step on part of the outputs has the events and the failure that it has by itself. -/
theorem reported_within {own : ActivityError → Prop}
    (h : ∀ s d, Reported own (x.events s d) (Step.failure? (x.ended s d).1.1)) (o : Outputs)
    (d : DisturbedWorld) :
    let plan := (Step.within part x).run o
    Reported own (DisturbedWorld.events plan d)
      (Step.failure? (plan.run DisturbedWorld.answer d).1.1) := by
  intro plan
  rw [events_within, result_within]
  exact h (part.get o) d

end within

/-- The transaction of every activity reports its failure. The tuning of a pipeline may be the
activity's own reason to fail. -/
theorem reported_transact (hctx : ctx.scope = .cancellable) (k : ActivityKind) (o : Outputs)
    (d : DisturbedWorld) :
    let plan := c.transact k ctx o
    Reported (c.Rejects · k) (DisturbedWorld.events plan d)
      (Step.failure? (plan.run DisturbedWorld.answer d).1.1) := by
  cases k with
  | registerJob =>
    exact reported_within (fun s d => .inr (c.jobEntry.accounts_transaction hctx s d)) o d
  | prepareStagingStore =>
    exact reported_within (fun s d => .inr (c.stagingStore.accounts_transaction hctx s d)) o d
  | prepareChangeFeed =>
    exact reported_within (fun s d => .inr (c.changeFeed.accounts_transaction hctx s d)) o d
  | prepareMetadataStore =>
    exact reported_within (fun s d => .inr (c.metadataStore.accounts_transaction hctx s d)) o d
  | launchReader => exact reported_within (c.reader.reported_transaction hctx) o d
  | launchWriter => exact reported_within (c.writer.reported_transaction hctx) o d
  | finalizeJob =>
    exact reported_within (fun s d => .inr (c.jobCompletion.accounts_transaction hctx s d)) o d

/-- Carrying out an activity, unless the run is cancelled by then. -/
theorem reported_attempt (hctx : ctx.scope = .cancellable) (k : ActivityKind) (o : Outputs)
    (d : DisturbedWorld) :
    let plan := (Saga.attempt ctx (c.activity k)).run o
    Reported (c.Rejects · k) (DisturbedWorld.events plan d)
      (Step.failure? (plan.run DisturbedWorld.answer d).1.1) := by
  intro plan
  have hplan : plan = .ask (.cancelled ctx.scope) fun seen =>
      if seen then .done (.error .cancelled, o) else c.transact k ctx o := by
    refine congrArg (Plan.ask _) (funext fun seen => ?_)
    cases seen with
    | true => rfl
    | false => rfl
  rw [hplan, hctx, DisturbedWorld.events, Plan.run]
  generalize DisturbedWorld.answer _ d = answered
  obtain ⟨seen, d'⟩ := answered
  cases seen with
  | true => exact .inr (.stopped rfl rfl (.inl rfl) (List.forall_mem_nil _))
  | false => exact .cons rfl rfl (reported_transact hctx k o d')

/-- What becomes of an error on the way back. -/
theorem compensate_at_error {event : Event} {call : Call} {err : ManagerError}
    (hevent : event ∈ DisturbedWorld.events (c.compensate k ctx o) d)
    (hcall : event.query.call? = some call) (herr : event.error? = some err) :
    let result := ((c.compensate k ctx o).run DisturbedWorld.answer d).1.1
    (call.Absorbs err .compensation ∧ result = .ok ()) ∨
      (¬call.Absorbs err .compensation ∧
        ∃ cause, result = .error cause ∧ call.Blames err cause) := by
  have hstep : ∀ {σ : Type} {part : Step.Part Outputs σ} {x : Step σ Unit},
      x.Retracts ctx.scope → c.compensate k ctx o = (Step.within part x).run o →
      let result := ((c.compensate k ctx o).run DisturbedWorld.answer d).1.1
      (call.Absorbs err .compensation ∧ result = .ok ()) ∨
        (¬call.Absorbs err .compensation ∧
          ∃ cause, result = .error cause ∧ call.Blames err cause) := by
    intro σ part x hretracts hplan
    rw [hplan, events_within] at hevent
    rw [hplan, result_within]
    exact hretracts.at_error hevent hcall herr
  cases k with
  | registerJob => exact hstep c.jobEntry.retracts_compensation rfl
  | prepareStagingStore => exact hstep c.stagingStore.retracts_compensation rfl
  | prepareChangeFeed => exact hstep c.changeFeed.retracts_compensation rfl
  | prepareMetadataStore => exact hstep c.metadataStore.retracts_compensation rfl
  | launchReader => exact hstep c.reader.retracts_compensation rfl
  | launchWriter => exact hstep c.writer.retracts_compensation rfl
  | finalizeJob => exact hstep c.jobCompletion.retracts_compensation rfl

end Catalog

end ReverseReplication
