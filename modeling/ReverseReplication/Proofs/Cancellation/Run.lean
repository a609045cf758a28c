import ReverseReplication.Proofs.Cancellation.Heeds
import ReverseReplication.Proofs.Restoration

/-!
# A cancelled run cleans up

When a run is cancelled before one of its checks, whichever that is, its saga fails as cancelled, at
the activity that the check belongs to. What follows undoes what the run has created, marks the
record as failed if the run has written it, and does nothing else. It never fails, and it leaves the
resources as they were before the run (`WatchedWorld.provision_cancelled`).

The checks are those that the same run comes to when it is not cancelled. It need not succeed then:
a run that fails comes to its checks up to the failure, and can be cancelled before each of them.
-/

namespace ReverseReplication

/-- Nothing is done after the last activity. -/
theorem ActivityKind.finalizeJob_not_mem {k : ActivityKind} {earlier rest : List ActivityKind}
    (h : all = earlier ++ k :: rest) : .finalizeJob ∉ earlier := by
  have hnodup : (earlier ++ k :: rest).Nodup := by
    rw [← h]
    decide
  have hlast : (earlier ++ k :: rest).getLast? = some .finalizeJob := by
    rw [← h]
    rfl
  rw [List.getLast?_append, List.getLast?_cons, Option.some_or, ← List.getLast?_cons] at hlast
  intro hmem
  exact (List.nodup_append.1 hnodup).2.2 _ hmem _ (List.mem_of_getLast? hlast) rfl

/-! ## The saga -/

namespace Catalog

variable {c : Catalog} {k : ActivityKind} {o o' : Outputs} {w : WatchedWorld} {ctx : Context}

/-- Compensations do what they do by the report on the record. -/
theorem Compensates.congr {call : Call} (h : c.Compensates o call)
    (hentry : o.jobEntry = o'.jobEntry) : c.Compensates o' call := by
  unfold Compensates at h ⊢
  rw [← hentry]
  exact h

/-- Carrying out one activity heeds the cancellation, too. -/
theorem heeds_attempt (hctx : ctx.scope = .cancellable) (h : w.Live) :
    EnsuresFrom Step.watched (Saga.attempt ctx (c.activity k)) o w (Heeded (w.begun + 1)) := by
  have hcheck : Query.isCheck (.cancelled ctx.scope) = true := by
    rw [Query.isCheck, hctx]
    rfl
  unfold Saga.attempt
  rw [EnsuresFrom.bind_iff, EnsuresFrom.isCancelled_iff]
  intro seen w' hanswer
  have hchecked := h.check hcheck
  rw [show WatchedWorld.answer _ w = (seen, w') from hanswer] at hchecked
  obtain ⟨hbegun, hends⟩ := hchecked
  have hbegun' : w'.begun = w.begun + 1 := hbegun
  rcases hends with hlive | ⟨hhalted, hseen⟩
  · cases seen with
    | true => exact ⟨hbegun', .inl hlive⟩
    | false =>
      rw [← hbegun']
      exact heeds_transaction hctx hlive
  · obtain rfl : seen = true := hseen
    exact ⟨hbegun', .inr ⟨hhalted, rfl⟩⟩

/-- Compensating activities that stand before the last one. -/
theorem aftermath_compensate (hctx : ctx.scope = .detached) {done : List ActivityKind}
    (hdone : .finalizeJob ∉ done) :
    EnsuresFrom Step.watched (Saga.compensate ctx (done.map c.activity)) o w fun _ o' w' =>
      o'.jobEntry = o.jobEntry ∧ WatchedWorld.Aftermath (c.Compensates o) w w' := by
  induction done generalizing o w with
  | nil => exact ⟨rfl, .refl w⟩
  | cons k earlier ih =>
    rw [List.mem_cons, not_or] at hdone
    rw [List.map_cons, Saga.compensate, EnsuresFrom.bind_iff]
    refine (aftermath_compensation hctx (Ne.symm hdone.1)).mono ?_
    rintro r o₁ w₁ ⟨hentry, hafter⟩
    rw [EnsuresFrom.bind_iff]
    refine (ih hdone.2).mono ?_
    rintro failures o₂ w₂ ⟨hentry', hafter'⟩
    have hboth : o₂.jobEntry = o.jobEntry ∧ WatchedWorld.Aftermath (c.Compensates o) w w₂ :=
      ⟨hentry'.trans hentry, hafter.trans (hafter'.mono fun _ hcall => hcall.congr hentry)⟩
    cases r with
    | ok u => exact hboth
    | error e => exact hboth

/-- How a saga ends that was cancelled on its way. -/
structure Interrupted (c : Catalog) (e : SagaError) (o : Outputs) (w : WatchedWorld) : Prop where
  cancelled : e.isCancelled = true
  index : e.index + 1 = w.begun
  calls : ∀ call ∈ w.callsSince, c.Compensates o call

/-- Carrying out the activities that are left: if the run is cancelled meanwhile, the saga is
interrupted. -/
theorem interrupted_executeFrom (hctx : ctx.scope = .cancellable) (done : List ActivityKind)
    {rest : List ActivityKind} (hsplit : ActivityKind.all = done.reverse ++ rest) (h : w.Live)
    (hbegun : w.begun = done.length) :
    EnsuresFrom Step.watched
      (Saga.executeFrom true ctx (done.map c.activity) (rest.map c.activity)) o w
      fun r o' w' => w'.world.cancelled = true → ∃ e, r = .error e ∧ c.Interrupted e o' w' := by
  -- As long as the run is live, each activity begun is one that is done: this ties the index of the
  -- error to the number of transactions begun.
  induction rest generalizing done o w with
  | nil =>
    intro hcancelled
    rw [h.running] at hcancelled
    cases hcancelled
  | cons k rest ih =>
    rw [List.map_cons]
    refine ensuresFrom_executeFrom ((heeds_attempt hctx h).mono ?_)
    rintro (cause | u) o₁ w₁ ⟨hbegun₁, hends⟩
    · have hdone : .finalizeJob ∉ done := fun hmem =>
        ActivityKind.finalizeJob_not_mem hsplit (List.mem_reverse.2 hmem)
      refine (aftermath_compensate rfl hdone).mono ?_
      rintro failures o₂ w₂ ⟨hentry, hafter⟩ hcancelled
      rcases hends with hlive | ⟨hhalted, hcause⟩
      · rw [(hafter.live hlive).running] at hcancelled
        cases hcancelled
      · cases hcause
        refine ⟨_, rfl, rfl, ?_, fun call hcall => ?_⟩
        · rw [hafter.begun_eq, hbegun₁, hbegun, List.length_map]
        · rcases hafter.calls call hcall with hmem | ⟨-, hcompensates⟩
          · exact .inl (hhalted.calls call hmem)
          · exact hcompensates.congr hentry.symm
    · rcases hends with hlive | ⟨-, hcause⟩
      · refine ih (k :: done) ?_ hlive ?_
        · rw [hsplit, List.reverse_cons, List.append_assoc, List.singleton_append]
        · rw [hbegun₁, hbegun, List.length_cons]
      · cases hcause

/-- Carrying out all activities. -/
theorem interrupted_execute (c : Catalog) (hctx : ctx.scope = .cancellable) (h : w.Live)
    (hbegun : w.begun = 0) :
    EnsuresFrom Step.watched (Saga.execute true ctx c.activities) {} w
      fun r o w' => w'.world.cancelled = true → ∃ e, r = .error e ∧ c.Interrupted e o w' :=
  interrupted_executeFrom hctx [] rfl h hbegun

end Catalog

/-! ## The run -/

/-- A run that is only cancelled knows what its calls have done. -/
theorem Hazards.exact_interruption : Hazards.interruption.Exact where
  replies := fun _ _ => id
  removals := fun _ _ _ hfails => hfails

/-- Carries out a run for a request. -/
def WatchedWorld.provision (w : WatchedWorld) (r : JobRequest) (run : RunId) (rollback : Bool)
    (settings : Settings) (startedAt : Instant) : Except RunError Provisioned × WatchedWorld :=
  (r.provision run rollback settings startedAt).run answer w

/-- The run of the sample request, to be cancelled before a check, if any. -/
def Sample.watchedRun (cancelAt : Option Nat) : Except RunError Provisioned × WatchedWorld :=
  WatchedWorld.provision { world := (world inventory []).world, cancelAt } request "abc" true
    settings .epoch

namespace WatchedWorld

/-- How a run ends that was cancelled on its way: as cancelled, at the activity that was begun last,
and with everything undone. -/
structure CleanedUp (before : Inventory) (jobId : JobId) (e : SagaError) (w : WatchedWorld) :
    Prop where
  cancelled : e.isCancelled = true
  index : e.index + 1 = w.begun
  /-- No compensation has failed. -/
  faultless : e.compensationFailures = []
  /-- Since the run was cancelled, it has undone what it could, and marked its own record. -/
  calls : ∀ call ∈ w.callsSince, call.operation ∈ Hazards.undoings ∨
    call = .updateJobStatus jobId .failed ∧ before.jobs.get? jobId = none ∧
      (w.inventory.jobs.get? jobId).isSome
  resources : before.SameResources w.inventory

variable {w : WatchedWorld}

/-- A saga that was cancelled on its way has cleaned up. -/
theorem cleanedUp_saga (hlive : w.Live) (hbegun : w.begun = 0)
    (hwithin : w.world.Within .interruption) (hreachable : w.inventory.Reachable) (r : JobRequest)
    (run : RunId) (settings : Settings) (startedAt : Instant) (location : String) :
    EnsuresFrom Step.watched (r.saga run true settings startedAt location) {} w
      fun result o w' => w'.world.cancelled = true →
        ∃ e, r.answer run location result o = .error (.saga e) ∧
          CleanedUp w.inventory (jobIdOf run) e w' := by
  have hends := (Scenario.ensures_execute ((r.fillAt run location).scenario .interruption settings
    w.world.files w.inventory hreachable.sound) true ⟨run, startedAt, .cancellable⟩).lift
    (respects w.world.files) ⟨hwithin, rfl⟩
  refine (hends.and (Catalog.interrupted_execute _ rfl hlive hbegun)).mono ?_
  rintro result o w' ⟨⟨hended, -⟩, hthen⟩ hcancelled
  obtain ⟨e, rfl, hinterrupted⟩ := hthen hcancelled
  have hundone := Scenario.claims_eq_false (hended.accounts e rfl rfl) fun _ _ ⟨_, hfails⟩ => hfails
  refine ⟨e, rfl, hinterrupted.cancelled, hinterrupted.index, ?_, fun call hcall => ?_,
    hended.tracks.sameResources Hazards.exact_interruption hundone⟩
  · refine Decidable.byContradiction fun hne => ?_
    obtain ⟨op, cause, hfails⟩ := hended.faulty e rfl hne
    exact hfails
  · refine (hinterrupted.calls call hcall).imp_right ?_
    rintro ⟨rfl, hregistered⟩
    exact ⟨rfl, hended.tracks.registered hregistered⟩

/-- If a run is cancelled on its way, it cleans up. -/
theorem cleanedUp_provision (hlive : w.Live) (hbegun : w.begun = 0)
    (hwithin : w.world.Within .interruption) (hreachable : w.inventory.Reachable) (r : JobRequest)
    (run : RunId) (settings : Settings) (startedAt : Instant) :
    let ended := w.provision r run true settings startedAt
    ended.2.world.cancelled = true →
      ∃ e, ended.1 = .error (.saga e) ∧ CleanedUp w.inventory (jobIdOf run) e ended.2 := by
  have hensures : (r.provision run true settings startedAt).Ensures Step.watched w
      fun outcome w' => w'.world.cancelled = true →
        ∃ e, outcome = .error (.saga e) ∧ CleanedUp w.inventory (jobIdOf run) e w' := by
    apply JobRequest.ensures_provision
    · intro v _ hcancelled
      rw [hlive.running] at hcancelled
      cases hcancelled
    · intro hvalid reply w₁ hreply
      let asked : Query := .call (.leaderLocation (r.fill run).targetInstance)
      have hrespects := respects w.world.files
      have hanswered := hrespects.answers asked w ⟨hwithin, rfl⟩
      have hgood := hrespects.stays asked w ⟨hwithin, rfl⟩
      have hafter := aftermath_answer (w := w) (q := asked) rfl
      rw [show answer asked w = (reply, w₁) from hreply] at hanswered hgood hafter
      -- The look-up changes nothing, so the saga begins in what was there before.
      have hsame : w₁.inventory = w.inventory := (JobRequest.checkLocation_cases hvalid hanswered).1
      have hlive₁ := hafter.live hlive
      constructor
      · intro e _ hcancelled
        rw [hlive₁.running] at hcancelled
        cases hcancelled
      · intro location _
        have hsaga := cleanedUp_saga hlive₁ (hafter.begun_eq.trans hbegun) hgood.1
          (hsame ▸ hreachable) r run settings startedAt location
        rw [hsame] at hsaga
        exact hsaga
  exact Plan.ensures_of_iff.1 hensures

/-- A run that is cancelled before a check that it would have come to fails as cancelled, at the
activity that the check belongs to, and cleans up. Until then it comes to the same checks. -/
theorem provision_cancelled {w : World} (hlive : w.cancelled = false)
    (hfailures : ∀ op, w.managers.probe.failures op = none)
    (hreachable : w.managers.inventory.Reachable) (r : JobRequest) (run : RunId)
    (settings : Settings) (startedAt : Instant) {k : Nat} :
    let undisturbed := provision { world := w } r run true settings startedAt
    let cancelled := provision { world := w, cancelAt := some k } r run true settings startedAt
    k < undisturbed.2.checks.length →
      ∃ e, cancelled.1 = .error (.saga e) ∧
        cancelled.2.checks = undisturbed.2.checks.take (k + 1) ∧
        CleanedUp w.managers.inventory (jobIdOf run) e cancelled.2 := by
  intro undisturbed cancelled hk
  obtain ⟨hcancelled, hchecks⟩ := run_cancelled (w := { world := w })
    (r.provision run true settings startedAt) hlive rfl (Nat.zero_le k) hk
  have hwithin : w.Within .interruption := by
    refine ⟨fun op nth e hfails => ?_, fun _ => trivial⟩
    rw [hfailures op] at hfails
    cases hfails
  obtain ⟨e, he, hcleaned⟩ := cleanedUp_provision (w := { world := w, cancelAt := some k })
    ⟨hlive, rfl⟩ rfl hwithin hreachable r run settings startedAt hcancelled
  exact ⟨e, he, hchecks, hcleaned⟩

/-- A run that is cancelled when its reader is launched and not yet recorded. -/
theorem provision_cancelled_of_launched_reader :
    17 < (Sample.watchedRun none).2.checks.length ∧
      ∃ e, (Sample.watchedRun (some 17)).1 = .error (.saga e) ∧
        (Sample.watchedRun (some 17)).2.checks = (Sample.watchedRun none).2.checks.take (17 + 1) ∧
        CleanedUp Sample.inventory (jobIdOf "abc") e (Sample.watchedRun (some 17)).2 := by
  have hcheck : 17 < (Sample.watchedRun none).2.checks.length := by decide +kernel
  have hcancelled := provision_cancelled (w := (Sample.world Sample.inventory []).world) (k := 17)
    rfl (fun _ => rfl) Sample.reachable Sample.request "abc" Sample.settings .epoch
  dsimp only at hcancelled
  unfold Sample.watchedRun at hcheck ⊢
  exact ⟨hcheck, hcancelled hcheck⟩

end WatchedWorld

end ReverseReplication
