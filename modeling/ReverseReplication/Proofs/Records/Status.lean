import ReverseReplication.Proofs.Footprint
import ReverseReplication.Proofs.Saga.Phases

/-!
# The job record of a run

A run writes the record of its job at its begin, unless there is one, and marks it as running at its
end. If it fails, then a record that was there before is as it was. One that the run has written is
marked as failed by the rollback, or stays as it was written: where the rollback is switched off, or
could not mark it (`JobRecord.Left`).

All this holds however calls fail and whenever the run is cancelled, as long as the registry's reply
to the writing or the marking is not lost (`DisturbedWorld.provision_marks`). It may be lost, since
a call is given up as soon as a cancellation is noticed. Then a run may fail with the record marked
as running (`DisturbedWorld.provision_marks_early`).
-/

namespace ReverseReplication

open Inventory (Performed)

/-- The operations that change job records. -/
def Operation.registering : List Operation := [.createJob, .updateJobStatus]

open Operation (registering)

/-- Anything may go wrong, but no reply about job records is lost. -/
def Hazards.registered : Hazards := any.replying registering

/-- Only two operations change what is stored of a job. -/
theorem Inventory.Performed.jobs_eq {inv inv' : Inventory} {c : Call} {reply : c.Reply}
    (h : Performed inv c reply inv') (hc : c.operation ∉ registering) : inv'.jobs = inv.jobs := by
  cases h with
  | createJob => simp [Call.operation, registering] at hc
  | updateJobStatus => simp [Call.operation, registering] at hc
  | _ => rfl

/-- A job record is written. -/
def Event.Writes (e : Event) : Prop := ∃ record, e.Performs (.createJob record) ()

/-- The registry is asked to mark a job with a status. -/
def Event.Marks (jobId : JobId) (status : JobStatus) (e : Event) : Prop :=
  e.query.call? = some (.updateJobStatus jobId status)

/-- What is stored under the id of a run's job when the run has failed. The record that the run
writes is `entry`, and `before` is what was stored before. -/
inductive JobRecord.Left (entry : JobRecord) (rollback : Bool) (before : Option JobRecord)
    (events : List Event) : Option JobRecord → Prop
  /-- There was a record, and it is as it was. -/
  | kept {record : JobRecord} : before = some record →
    Left entry rollback before events (some record)
  /-- There was none, and none was written. -/
  | unwritten : before = none → (∀ e ∈ events, ¬e.Writes) → Left entry rollback before events none
  /-- The rollback has marked the record that was written. -/
  | failed : before = none → (∃ e ∈ events, e.Writes) → rollback = true →
    (∀ e ∈ events, e.Marks entry.jobId .failed → e.error? = none) →
    Left entry rollback before events (some { entry with status := .failed })
  /-- There was no rollback, or it could not mark the record. -/
  | created : before = none → (∃ e ∈ events, e.Writes) →
    (rollback = true → ∃ e ∈ events, e.Marks entry.jobId .failed ∧ e.error? ≠ none) →
    Left entry rollback before events (some { entry with status := .created })

namespace Catalog

variable {α : Type} {c : Catalog} {ctx : Context} {files : FileSystem} {before inv' : Inventory}
  {o o' : Outputs} {t : Trace} {q : Query} {answer : q.Answer} {k : ActivityKind}

/-! ## Until the record is marked -/

/-- What is stored until the record is marked: what the run has written, or what was there. -/
structure Drafted (c : Catalog) (ctx : Context) (before : Inventory) (o : Outputs) (t : Trace) :
    Prop where
  record : t.now.jobs.get? c.jobEntry.jobId =
    if o.jobEntry.registered then some (c.jobEntry.record ctx.startedAt)
    else before.jobs.get? c.jobEntry.jobId
  fresh : o.jobEntry.registered = true → before.jobs.get? c.jobEntry.jobId = none
  written : o.jobEntry.registered = true ↔ ∃ e ∈ t.events, e.Writes
  unmarked : ∀ e ∈ t.events, ¬e.Marks c.jobEntry.jobId .failed

/-- The record is marked as running. -/
def Running (c : Catalog) (t : Trace) : Prop :=
  ∃ record, t.now.jobs.get? c.jobEntry.jobId = some record ∧ record.status = .running

/-- Of the outputs, only that of the first activity matters. -/
theorem Drafted.congr (h : c.Drafted ctx before o t) (ho : o'.jobEntry = o.jobEntry) :
    c.Drafted ctx before o' t where
  record := ho ▸ h.record
  fresh := ho ▸ h.fresh
  written := ho ▸ h.written
  unmarked := h.unmarked

/-- An event that changes no job record, and is no attempt to mark one as failed. -/
theorem Drafted.push (h : c.Drafted ctx before o t) (hjobs : inv'.jobs = t.now.jobs)
    (hwrites : ¬Event.Writes ⟨q, answer, t.now, inv'⟩)
    (hmarks : ¬Event.Marks c.jobEntry.jobId .failed ⟨q, answer, t.now, inv'⟩) :
    c.Drafted ctx before o (t.push q answer inv') where
  record := by
    rw [Trace.now_push, hjobs]
    exact h.record
  fresh := h.fresh
  written := by
    rw [Trace.exists_event_push, or_iff_left hwrites]
    exact h.written
  unmarked := by
    intro e he
    rcases Trace.mem_events_push.1 he with hmem | rfl
    · exact h.unmarked e hmem
    · exact hmarks

/-- An event that changes nothing. -/
theorem Drafted.push_same (h : c.Drafted ctx before o t)
    (hq : q.call? ≠ some (.updateJobStatus c.jobEntry.jobId .failed)) :
    c.Drafted ctx before o (t.push q answer t.now) :=
  h.push rfl (fun ⟨_, hperforms⟩ => Event.not_performs_of_unchanged rfl hperforms) hq

/-- What does not ask the registry for records leaves them alone. -/
theorem Drafted.ensures {p : Plan α} {ops : List Operation} (h : c.Drafted ctx before o t)
    (hp : p.AsksOnly ops) (hops : ∀ op ∈ ops, op ∉ registering) :
    p.Ensures (Hazards.registered.rule files).traced t
      fun _ t' => c.Drafted ctx before o t' := by
  refine hp.ensures_traced ?_ h
  intro q t answer inv' hasked hrule hdrafted
  have hcall : ∀ call, q.call? = some call → call.operation ∉ registering :=
    fun call hcall => hops _ (hasked call hcall)
  have hmark : .updateJobStatus ∈ registering := by decide
  refine hdrafted.push ?_ ?_ fun hmarks => hcall _ hmarks hmark
  · rcases Hazards.rule_performs hrule with hsame | ⟨call, r, hmade, hperform⟩
    · rw [hsame]
    · exact (Inventory.performed_of_perform hperform).jobs_eq (hcall call hmade)
  · rintro ⟨record, hperforms⟩
    exact hcall _ hperforms.asked List.mem_cons_self

/-! ## The activities -/

/-- Only the first activity touches its output. -/
theorem keeps_jobEntry {ω : Type} {R : Plan.Rule ω} {w : ω} (hk : k ≠ .registerJob) :
    EnsuresFrom R ((c.activity k).transaction ctx) o w (fun _ o' _ => o'.jobEntry = o.jobEntry) ∧
      EnsuresFrom R ((c.activity k).compensation ctx) o w
        fun _ o' _ => o'.jobEntry = o.jobEntry := by
  have hwithin : ∀ {σ : Type} (part : Step.Part Outputs σ) (step : Step σ Unit),
      (∀ x, (part.set x o).jobEntry = o.jobEntry) →
        EnsuresFrom R (Step.within part step) o w fun _ o' _ => o'.jobEntry = o.jobEntry :=
    fun part step hpart => Step.ensuresFrom_within.2 (Step.ensures_of_forall fun _ x _ => hpart x)
  cases k with
  | registerJob => exact absurd rfl hk
  | prepareStagingStore =>
    exact ⟨hwithin Outputs.stagingStorePart _ fun _ => rfl,
      hwithin Outputs.stagingStorePart _ fun _ => rfl⟩
  | prepareChangeFeed =>
    exact ⟨hwithin Outputs.changeFeedPart _ fun _ => rfl,
      hwithin Outputs.changeFeedPart _ fun _ => rfl⟩
  | prepareMetadataStore =>
    exact ⟨hwithin Outputs.metadataStorePart _ fun _ => rfl,
      hwithin Outputs.metadataStorePart _ fun _ => rfl⟩
  | launchReader =>
    exact ⟨hwithin Outputs.readerPart _ fun _ => rfl, hwithin Outputs.readerPart _ fun _ => rfl⟩
  | launchWriter =>
    exact ⟨hwithin Outputs.writerPart _ fun _ => rfl, hwithin Outputs.writerPart _ fun _ => rfl⟩
  | finalizeJob =>
    exact ⟨hwithin Outputs.jobCompletionPart _ fun _ => rfl,
      hwithin Outputs.jobCompletionPart _ fun _ => rfl⟩

/-- An activity that is neither the first nor the last one leaves the record alone. -/
theorem Drafted.ensures_activity (h : c.Drafted ctx before o t) (hfirst : k ≠ .registerJob)
    (hlast : k ≠ .finalizeJob) {ctx' : Context} :
    EnsuresFrom (Hazards.registered.rule files).traced
        ((c.activity k).transaction ctx') o t (fun _ o' t' => c.Drafted ctx before o' t' ∧
          o'.jobEntry = o.jobEntry) ∧
      EnsuresFrom (Hazards.registered.rule files).traced
        ((c.activity k).compensation ctx') o t fun _ o' t' => c.Drafted ctx before o' t' := by
  have hops : ∀ op ∈ k.operations, op ∉ registering := by
    cases k <;> first | exact absurd rfl hfirst | exact absurd rfl hlast | decide
  constructor
  · have hdrafted : EnsuresFrom (Hazards.registered.rule files).traced
        ((c.activity k).transaction ctx') o t fun _ _ t' => c.Drafted ctx before o t' :=
      h.ensures (c.asksOnly_transaction k o) hops
    refine (hdrafted.and (keeps_jobEntry hfirst).1).mono ?_
    rintro r o' t' ⟨hdrafted', ho⟩
    exact ⟨hdrafted'.congr ho, ho⟩
  · have hdrafted : EnsuresFrom (Hazards.registered.rule files).traced
        ((c.activity k).compensation ctx') o t fun _ _ t' => c.Drafted ctx before o t' :=
      h.ensures (c.asksOnly_compensation k o) hops
    refine (hdrafted.and (keeps_jobEntry hfirst).2).mono ?_
    rintro r o' t' ⟨hdrafted', ho⟩
    exact hdrafted'.congr ho

/-- Writing the record. -/
theorem Drafted.ensures_register (h : c.Drafted ctx before o t)
    (hnone : o.jobEntry.registered = false) :
    (c.jobEntry.transaction ctx).Ensures (Hazards.registered.rule files).traced o.jobEntry t
      fun r x t' => c.Drafted ctx before { o with jobEntry := x } t' ∧
        ∀ e, r = .error e → x.registered = false := by
  have hcall : ∀ answer, c.Drafted ctx before o (t.push
      (.guarded ctx.scope (.createJob (c.jobEntry.record ctx.startedAt))) answer t.now) :=
    fun answer => h.push_same nofun
  unfold JobEntry.transaction
  rw [Step.ensures_bind]
  apply Step.ensures_call_traced
  · intro e _
    rw [Step.after_ok]
    split
    next heq => simp at heq
    next => exact ⟨hcall _, fun e he => nomatch he⟩
    next => exact ⟨hcall _, fun _ _ => hnone⟩
  · intro r inv' hperformed hperform
    cases hperformed with
    | createJob hfree =>
      have hfree : t.now.jobs.get? c.jobEntry.jobId = none := hfree
      have hrecord := h.record
      rw [hnone] at hrecord
      have hstored : (t.now.jobs.insert c.jobEntry.jobId (c.jobEntry.record ctx.startedAt)).get?
          c.jobEntry.jobId = some (c.jobEntry.record ctx.startedAt) := by
        rw [Table.get?_insert, if_pos rfl]
      -- The event counts as a write only if it has changed something.
      have hchanged :
          { t.now with
            jobs := t.now.jobs.insert c.jobEntry.jobId (c.jobEntry.record ctx.startedAt) } ≠
          t.now := by
        intro heq
        have hthere := congrArg (fun inv => Table.get? inv.jobs c.jobEntry.jobId) heq
        rw [hstored, hfree] at hthere
        cases hthere
      rw [Step.after_ok, Step.ensures_set]
      refine ⟨⟨hstored, fun _ => hrecord.symm.trans hfree, iff_of_true rfl ?_, fun e he => ?_⟩,
        fun e he => nomatch he⟩
      · exact Trace.exists_event_push.2 (.inr ⟨_, rfl, hperform, hchanged⟩)
      · rcases Trace.mem_events_push.1 he with hmem | rfl
        · exact h.unmarked e hmem
        · exact nofun
  · intro _
    exact ⟨hcall _, fun _ _ => hnone⟩
  · intro _ hloses
    exact absurd List.mem_cons_self hloses.1

/-- Marking it as running. -/
theorem Drafted.ensures_finalize (h : c.Drafted ctx before o t)
    (hjob : c.jobCompletion.jobId = c.jobEntry.jobId) :
    (c.jobCompletion.transaction ctx).Ensures (Hazards.registered.rule files).traced
      o.jobCompletion t fun r x t' => match r with
        | .ok _ => c.Running t'
        | .error _ => c.Drafted ctx before { o with jobCompletion := x } t' := by
  have hcall : ∀ answer, c.Drafted ctx before o (t.push
      (.guarded ctx.scope (.updateJobStatus c.jobCompletion.jobId .running)) answer t.now) :=
    fun answer => h.push_same (by simp [Query.call?])
  unfold JobCompletion.transaction
  rw [Step.ensures_bind]
  apply Step.ensures_need_traced
  · intro r inv' hperformed _
    cases hperformed with
    | @updateJobStatus _ _ record hrecord =>
      rw [Step.after_ok, Step.ensures_set]
      refine ⟨{ record with status := .running }, ?_, rfl⟩
      rw [Trace.now_push, ← hjob, Table.get?_insert, if_pos rfl]
  · intro e _
    exact (hcall _).congr rfl
  · intro _
    exact (hcall _).congr rfl
  · intro _ hloses
    exact absurd (List.mem_cons_of_mem _ List.mem_cons_self) hloses.1

/-- A run that has not written the record leaves what was there. -/
theorem Drafted.left_of_unregistered (h : c.Drafted ctx before o t)
    (hnone : o.jobEntry.registered = false) (rollback : Bool) :
    JobRecord.Left (c.jobEntry.record ctx.startedAt) rollback
      (before.jobs.get? c.jobEntry.jobId) t.events (t.now.jobs.get? c.jobEntry.jobId) := by
  have hrecord := h.record
  rw [hnone] at hrecord
  rw [hrecord]
  cases hbefore : before.jobs.get? c.jobEntry.jobId with
  | some record => exact .kept rfl
  | none =>
    refine .unwritten rfl fun e he hwrites => ?_
    rw [h.written.2 ⟨e, he, hwrites⟩] at hnone
    cases hnone

/-- Without a rollback, the record stays as it was written. -/
theorem Drafted.left (h : c.Drafted ctx before o t) :
    JobRecord.Left (c.jobEntry.record ctx.startedAt) false
      (before.jobs.get? c.jobEntry.jobId) t.events (t.now.jobs.get? c.jobEntry.jobId) := by
  cases hregistered : o.jobEntry.registered with
  | false => exact h.left_of_unregistered hregistered false
  | true =>
    have hrecord := h.record
    rw [hregistered] at hrecord
    rw [hrecord]
    exact .created (h.fresh hregistered) (h.written.1 hregistered) nofun

/-- The rollback marks it as failed. -/
theorem Drafted.ensures_mark (h : c.Drafted ctx before o t) :
    (c.jobEntry.compensation ctx.detach).Ensures (Hazards.registered.rule files).traced
      o.jobEntry t fun _ _ t' => JobRecord.Left (c.jobEntry.record ctx.startedAt) true
        (before.jobs.get? c.jobEntry.jobId) t'.events (t'.now.jobs.get? c.jobEntry.jobId) := by
  have hkept : ¬Hazards.registered.GivesUp ctx.detach.scope :=
    Hazards.not_givesUp_of_detached rfl
  unfold JobEntry.compensation
  rw [Step.ensures_bind, Step.ensures_get, Step.after_ok]
  split
  next hregistered =>
    have hrecord := h.record
    rw [if_pos hregistered] at hrecord
    have hbefore := h.fresh hregistered
    have hwritten := h.written.1 hregistered
    apply Step.ensures_need_traced
    · intro r inv' hperformed _
      cases hperformed with
      | updateJobStatus hthere =>
        rw [hrecord] at hthere
        cases hthere
        rw [Trace.now_push, Table.get?_insert, if_pos rfl]
        refine .failed hbefore (Trace.exists_event_push.2 (.inl hwritten)) rfl fun e he hmarks => ?_
        rcases Trace.mem_events_push.1 he with hmem | rfl
        · exact absurd hmarks (h.unmarked e hmem)
        · rfl
    · intro e _
      rw [Trace.now_push, hrecord]
      refine .created hbefore (Trace.exists_event_push.2 (.inl hwritten)) fun _ => ?_
      exact Trace.exists_event_push.2 (.inr ⟨rfl, nofun⟩)
    · intro hgives
      exact absurd hgives hkept
    · intro hgives
      exact absurd hgives hkept
  next hnone => exact h.left_of_unregistered (Bool.eq_false_iff.2 hnone) true

/-! ## The saga -/

/-- The record is not marked yet, and nothing is written before the first activity is done. -/
structure Pending (c : Catalog) (ctx : Context) (before : Inventory) (done : List ActivityKind)
    (o : Outputs) (t : Trace) : Prop where
  drafted : c.Drafted ctx before o t
  unbegun : .registerJob ∉ done → o.jobEntry.registered = false

/-- On the way forward, only the last activity marks the record. -/
def Forward (c : Catalog) (ctx : Context) (before : Inventory) (done : List ActivityKind)
    (o : Outputs) (t : Trace) : Prop :=
  if .finalizeJob ∈ done then c.Running t else c.Pending ctx before done o t

/-- On the way back, only the first activity marks it. -/
def Back (c : Catalog) (ctx : Context) (before : Inventory) (done : List ActivityKind)
    (o : Outputs) (t : Trace) : Prop :=
  if .registerJob ∈ done then c.Drafted ctx before o t
  else JobRecord.Left (c.jobEntry.record ctx.startedAt) true
    (before.jobs.get? c.jobEntry.jobId) t.events (t.now.jobs.get? c.jobEntry.jobId)

variable {done : List ActivityKind}

/-- Before the last activity, the record is not marked. -/
theorem Forward.pending (h : c.Forward ctx before done o t)
    (hnext : done.reverse ++ [k] <+: ActivityKind.all) : c.Pending ctx before done o t := by
  have hlast : .finalizeJob ∉ done := by
    rw [ActivityKind.mem_iff_of_prefix hnext]
    cases k <;> decide
  rw [Forward, if_neg hlast] at h
  exact h

/-- Before the last activity is done, being on the way forward is being pending. -/
theorem Pending.forward (h : c.Pending ctx before (k :: done) o t)
    (hnext : done.reverse ++ [k] <+: ActivityKind.all) (hk : k ≠ .finalizeJob) :
    c.Forward ctx before (k :: done) o t := by
  have hlast : .finalizeJob ∉ k :: done := by
    rw [List.mem_cons, not_or, ActivityKind.mem_iff_of_prefix hnext]
    refine ⟨hk.symm, ?_⟩
    cases k <;> decide
  rw [Forward, if_neg hlast]
  exact h

/-- What is known on the way forward is enough to go back. -/
theorem Pending.back (h : c.Pending ctx before done o t) : c.Back ctx before done o t := by
  unfold Back
  split
  next => exact h.drafted
  next hfirst => exact h.drafted.left_of_unregistered (h.unbegun hfirst) true

/-- Carrying out an activity. -/
theorem Pending.ensures_transaction (h : c.Pending ctx before done o t)
    (hjob : c.jobCompletion.jobId = c.jobEntry.jobId)
    (hnext : done.reverse ++ [k] <+: ActivityKind.all) :
    EnsuresFrom (Hazards.registered.rule files).traced ((c.activity k).transaction ctx)
      o t fun r o' t' => match r with
        | .ok _ => c.Forward ctx before (k :: done) o' t'
        | .error _ => c.Pending ctx before done o' t' := by
  by_cases hfirst : k = .registerJob
  · subst hfirst
    have hnone := h.unbegun (ActivityKind.not_mem_of_prefix hnext ∘ List.mem_reverse.2)
    refine Step.ensuresFrom_within.2 ((h.drafted.ensures_register hnone).mono ?_)
    rintro (e | u) x t' ⟨hdrafted, hfailed⟩
    · exact ⟨hdrafted, fun _ => hfailed e rfl⟩
    · exact Pending.forward ⟨hdrafted, fun hfirst => absurd List.mem_cons_self hfirst⟩ hnext
        (by decide)
  by_cases hlast : k = .finalizeJob
  · subst hlast
    refine Step.ensuresFrom_within.2 ((h.drafted.ensures_finalize hjob).mono ?_)
    rintro (e | u) x t' hstep
    · exact ⟨hstep, h.unbegun⟩
    · show c.Forward ctx before (.finalizeJob :: done) _ t'
      rw [Forward, if_pos List.mem_cons_self]
      exact hstep
  · refine (h.drafted.ensures_activity hfirst hlast).1.mono ?_
    rintro r o' t' ⟨hdrafted, ho⟩
    have hunbegun : .registerJob ∉ done → o'.jobEntry.registered = false := by
      rw [ho]
      exact h.unbegun
    cases r with
    | error e => exact ⟨hdrafted, hunbegun⟩
    | ok u =>
      refine Pending.forward ⟨hdrafted, fun hmem => hunbegun fun hdone => ?_⟩ hnext hlast
      exact hmem (List.mem_cons_of_mem k hdone)

/-- Undoing an activity. -/
theorem Back.ensures_compensation (h : c.Back ctx before (k :: done) o t)
    (hnext : done.reverse ++ [k] <+: ActivityKind.all) (hlast : k ≠ .finalizeJob) :
    EnsuresFrom (Hazards.registered.rule files).traced
      ((c.activity k).compensation ctx.detach) o t
      fun _ o' t' => c.Back ctx before done o' t' := by
  have hmem : .registerJob ∈ k :: done := by
    rw [List.mem_cons, ActivityKind.mem_iff_of_prefix hnext]
    cases k <;> decide
  rw [Back, if_pos hmem] at h
  by_cases hfirst : k = .registerJob
  · subst hfirst
    have hdone : .registerJob ∉ done := ActivityKind.not_mem_of_prefix hnext ∘ List.mem_reverse.2
    refine Step.ensuresFrom_within.2 (h.ensures_mark.mono ?_)
    intro r x t' hleft
    rw [Back, if_neg hdone]
    exact hleft
  · refine (h.ensures_activity hfirst hlast).2.mono ?_
    intro r o' t' hdrafted
    have hdone : .registerJob ∈ done :=
      (List.mem_cons.1 hmem).resolve_left fun heq => hfirst heq.symm
    rw [Back, if_pos hdone]
    exact hdrafted

/-- What is known of the job record through a saga. -/
theorem phases_of_status (hjob : c.jobCompletion.jobId = c.jobEntry.jobId) :
    c.Phases (Hazards.registered.rule files).traced ctx (c.Forward ctx before)
      (c.Pending ctx before) (c.Back ctx before) where
  checked := by
    rintro done o t seen t' ⟨⟨hsame, -⟩, hpush⟩ hforward
    rw [hpush, hsame]
    unfold Forward at hforward ⊢
    split
    next hlast =>
      rw [if_pos hlast] at hforward
      exact hforward
    next hlast =>
      rw [if_neg hlast] at hforward
      exact ⟨hforward.drafted.push_same nofun, hforward.unbegun⟩
  halted := fun hnext hforward => hforward.pending hnext
  transacted := fun hnext hforward => (hforward.pending hnext).ensures_transaction hjob hnext
  turned := Pending.back
  compensated := fun hnext hlast hback => hback.ensures_compensation hnext hlast

end Catalog

namespace DisturbedWorld

/-- Of every run that loses no reply about job records: if it succeeds, the record of its job is
marked as running. If its saga has failed, the record is left as `JobRecord.Left` says. -/
theorem provision_marks {d : DisturbedWorld} (hwithin : d.Within .any) (r : JobRequest)
    (run : RunId) (rollback : Bool) (settings : Settings) (startedAt : Instant)
    (hanswered : ∀ e ∈ events (r.provision run rollback settings startedAt) d,
      e.Asks registering → ¬e.Lost) :
    let ended := d.provision r run rollback settings startedAt
    let id := (r.fill run).jobId
    (∀ p, ended.1 = .ok p →
      ∃ record, ended.2.inventory.jobs.get? id = some record ∧ record.status = .running) ∧
    ∀ e, ended.1 = .error (.saga e) → ∃ location, r.Located run d.inventory location ∧
      JobRecord.Left (((r.fillAt run location).catalog settings).jobEntry.record startedAt)
        rollback (d.inventory.jobs.get? id)
        (events (r.provision run rollback settings startedAt) d)
        (ended.2.inventory.jobs.get? id) := by
  intro ended id
  have hensures : (r.provision run rollback settings startedAt).Ensures
      (Hazards.registered.rule d.world.files).traced ⟨d.inventory, []⟩
      fun outcome t' =>
        (∀ p, outcome = .ok p →
          ∃ record, t'.now.jobs.get? id = some record ∧ record.status = .running) ∧
        ∀ e, outcome = .error (.saga e) → ∃ location, r.Located run d.inventory location ∧
          JobRecord.Left (((r.fillAt run location).catalog settings).jobEntry.record startedAt)
            rollback (d.inventory.jobs.get? id) t'.events (t'.now.jobs.get? id) := by
    apply JobRequest.ensures_provision_traced
    · intro v
      exact ⟨nofun, nofun⟩
    · intro e reply
      exact ⟨nofun, nofun⟩
    · intro location reply hlocated
      let c := (r.fillAt run location).catalog settings
      let ctx : Context := ⟨run, startedAt, .cancellable⟩
      have hdrafted : c.Drafted ctx d.inventory {} ⟨d.inventory, []⟩ :=
        ⟨rfl, nofun, iff_of_false Bool.false_ne_true (by simp), by simp⟩
      have hbegun : c.Forward ctx d.inventory [] {} (Trace.push ⟨d.inventory, []⟩
          (.call (.leaderLocation (r.fill run).targetInstance)) reply d.inventory) :=
        ⟨hdrafted.push_same nofun, fun _ => rfl⟩
      refine ((Catalog.phases_of_status rfl).ensures_execute rollback hbegun).mono ?_
      rintro (e | n) o t' hends
      · refine ⟨nofun, fun _ _ => ⟨location, hlocated, ?_⟩⟩
        cases rollback with
        | true => exact hends
        | false =>
          obtain ⟨done, hpending⟩ := hends
          exact hpending.drafted.left
      · exact ⟨fun _ _ => hends, nofun⟩
  exact ensured_traced hensures (events_keep_replying hwithin hanswered)

end DisturbedWorld

namespace Sample

/-- A record of the job that was there before. -/
def record : JobRecord :=
  ⟨"smt-job-abc", "earlier", "p1", "inst", "db", "", .created, .epoch⟩

/-- A run that is cancelled while it waits for the record to be marked as running. -/
def unansweredRun : Except RunError Provisioned × DisturbedWorld :=
  (cutting (inventory.insertJob record) .updateJobStatus).provision request "abc" true settings
    .epoch

end Sample

namespace DisturbedWorld

open Sample (request settings)

/-- The pipelines could not be launched, so the record that the run had written is marked as
failed. -/
theorem provision_marks_failed :
    let ended := Sample.run Sample.inventory [(.launch, .unavailable "down")]
    (∃ e, ended.1 = .error (.saga e)) ∧
      ∃ location, request.Located "abc" Sample.inventory location ∧
        ended.2.inventory.jobs.get? "smt-job-abc" =
          some { ((request.fillAt "abc" location).catalog settings).jobEntry.record .epoch with
            status := .failed } := by
  intro ended
  have hreplied : (Sample.world Sample.inventory [(.launch, .unavailable "down")]).Within
      .registered := Sample.within fun _ _ => trivial
  have hfailed : (Sample.sagaError? ended.1).any (fun _ => true) = true := by decide +kernel
  have hstatus : (ended.2.inventory.jobs.get? "smt-job-abc").map JobRecord.status =
      some .failed := by decide +kernel
  obtain ⟨e, he, -⟩ := Sample.exists_of_sagaError? _ hfailed
  obtain ⟨-, hsaga⟩ := provision_marks (Sample.within fun _ _ => trivial) request "abc" true
    settings .epoch (events_not_lost hreplied)
  obtain ⟨location, hlocated, hleft⟩ := hsaga e he
  refine ⟨⟨e, he⟩, location, hlocated, ?_⟩
  change JobRecord.Left _ _ _ _ (ended.2.inventory.jobs.get? "smt-job-abc") at hleft
  generalize ended.2.inventory.jobs.get? "smt-job-abc" = now at hstatus hleft ⊢
  cases hleft with
  | kept hbefore => cases hbefore
  | unwritten => cases hstatus
  | failed => rfl
  | created => cases hstatus

/-- If the registry's reply to the last marking is lost since the run is cancelled, the run fails
with a record marked as running that was there before. For this the registry has to give way to
others between the marking and its reply, as one does that keeps its records elsewhere. -/
theorem provision_marks_early :
    let before := Sample.inventory.insertJob Sample.record
    (Sample.cutting before .updateJobStatus).Within .any ∧ before.Reachable ∧
      (∃ e, Sample.unansweredRun.1 = .error (.saga e)) ∧
      before.jobs.get? (request.fill "abc").jobId = some Sample.record ∧
      Sample.unansweredRun.2.inventory.jobs.get? (request.fill "abc").jobId =
        some { Sample.record with status := .running } := by
  have hfailed : (Sample.sagaError? Sample.unansweredRun.1).any (fun _ => true) = true := by
    decide +kernel
  obtain ⟨e, he, -⟩ := Sample.exists_of_sagaError? _ hfailed
  exact ⟨Sample.within_cutting trivial trivial, .job _ Sample.reachable, ⟨e, he⟩,
    by decide +kernel, by decide +kernel⟩

end DisturbedWorld

end ReverseReplication
