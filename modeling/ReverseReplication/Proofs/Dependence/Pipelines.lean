import ReverseReplication.Proofs.Dependence.Dependencies

/-!
# The pipelines that activities launch

An activity that launches a pipeline claims it in its output when it succeeds. When it fails, it has
cancelled it (`Pipeline.runsOnly_transaction`), unless the launch was not answered: then the
activity does not know of it. Undoing the activity cancels what its output claims
(`Pipeline.runsOnly_compensation`).
-/

namespace ReverseReplication

open Hazards (truthful refused_of_undoing)

variable {files : FileSystem} {ctx : Context} {s : Snapshot} {allowed : String → Prop}

/-- A pipeline that the run knows to have launched is not the one that is launched next. -/
theorem Snapshot.Sound.running_of_start (hsound : s.Sound) {request : Launch} {id name : String}
    (hid : id ∈ s.launched) (hrun : (s.inventory.start request).2.Holds (.pipeline name id)) :
    s.inventory.Holds (.pipeline name id) := by
  have hstarted := Inventory.get?_running_start s.inventory request name
  rw [show (s.inventory.start request).2.running.get? name = some id from hrun] at hstarted
  split at hstarted
  next =>
    have hknown := hsound.known id hid
    rw [Option.some.inj hstarted, hsound.inventory.fresh request] at hknown
    cases hknown
  next => exact hstarted.symm

/-- A launch under a free name is not refused. -/
theorem Inventory.perform_launch {inv : Inventory} {request : Launch}
    (hfree : inv.running.get? request.jobName = none) :
    inv.perform (.launch request) = .ok (inv.start request) := by
  simp [perform, Table.contains, hfree]

namespace Pipeline

variable (p : Pipeline) {x : Output}

/-- The output claims to have launched the pipeline of the id. -/
def Output.Claims (x : Output) (id : String) : Prop := x.launched = true ∧ x.pipelineJobId = id

/-- Cancelling the pipeline of an id under a detached context: it does not run any more. -/
theorem ensures_cancel (hctx : ctx.scope = .detached) (hsound : s.Sound)
    {doing project location id : String} :
    (Step.remove ctx doing (.cancel project location id)).Ensures (truthful.telling files) x s
      fun _ _ s' => ∀ name, ¬s'.inventory.Holds (.pipeline name id) := by
  have hcancel : Operation.cancel ∈ Hazards.undoings := by decide
  have hstopped : (Step.remove ctx doing (.cancel project location id)).Ensures
      (truthful.rule files) x s.inventory fun _ _ inv' =>
        ∀ name, ¬inv'.Holds (.pipeline name id) := by
    apply Step.ensures_remove hctx
    · intro r inv' hperformed name hrun
      cases hperformed with
      | cancel hjob =>
        have hrunning := hsound.inventory.running_stop hjob name
        rw [show (s.inventory.stop _ _).running.get? name = some id from hrun] at hrunning
        split at hrunning
        next => cases hrunning
        next hother => exact hother hrunning.symm
    · intro what hdenied name hrun
      obtain ⟨-, hgone⟩ := Inventory.cancel_refused (refused_of_undoing hcancel hdenied)
      rw [(hsound.inventory.running name id).1 hrun] at hgone
      cases hgone
    · intro e err hother hdenied
      obtain ⟨rfl, -⟩ := Inventory.cancel_refused (refused_of_undoing hcancel hdenied)
      cases hother
  exact hstopped.telling

/-- Undoing the activity cancels what its output claims. -/
theorem runsOnly_compensation (hctx : ctx.scope = .detached) (hsound : s.Sound)
    (h : s.RunsOnly fun id => allowed id ∨ x.Claims id) :
    (p.compensation ctx).Ensures (truthful.telling files) x s fun _ _ s' =>
      s'.Sound ∧ s'.RunsOnly allowed := by
  unfold compensation
  rw [Step.ensures_bind, Step.ensures_get, Step.after_ok]
  split
  next =>
    have hkept : ∀ {doing : String},
        (Step.remove ctx doing (.cancel x.projectId x.location x.pipelineJobId)).Ensures
          (truthful.telling files) x s fun _ _ s' =>
            s'.Sound ∧ s'.RunsOnly fun id => allowed id ∨ x.Claims id :=
      (Step.asksOnly_remove .cancel rfl (List.mem_singleton_self _)).telling
        (Snapshot.keptBy_runsOnly (by decide) _) ⟨hsound, h⟩
    rw [Step.ensures_bind]
    refine ((ensures_cancel hctx hsound).and hkept).mono ?_
    rintro r x' s' ⟨hstopped, hsound', hruns⟩
    have hends : s'.Sound ∧ s'.RunsOnly allowed := by
      refine ⟨hsound', fun id hid name hrun => ?_⟩
      rcases hruns id hid name hrun with hallowed | ⟨-, rfl⟩
      · exact hallowed
      · exact absurd hrun (hstopped name)
    cases r with
    | ok u => exact hends
    | error e => exact hends
  next hnone =>
    refine ⟨hsound, h.mono ?_⟩
    rintro id (hallowed | ⟨hlaunched, -⟩)
    · exact hallowed
    · exact absurd hlaunched hnone

/-- How the activity ends: a pipeline that it has launched runs only if it has succeeded, and then
its output claims it. -/
def LaunchEnds (allowed : String → Prop) (r : Except ActivityError Unit) (x : Output)
    (s : Snapshot) : Prop :=
  s.Sound ∧ s.RunsOnly fun id => allowed id ∨ r = .ok () ∧ x.Claims id

/-- An activity whose pipeline does not run may end in any way. -/
theorem launchEnds_of_runsOnly {r : Except ActivityError Unit} (hsound : s.Sound)
    (h : s.RunsOnly allowed) : LaunchEnds allowed r x s :=
  ⟨hsound, h.mono fun _ => .inl⟩

/-- Recording the pipeline that was launched. If that fails, it is cancelled. -/
theorem runsOnly_record (hsound : s.Sound)
    (h : s.RunsOnly fun id => allowed id ∨ x.Claims id) :
    (p.record ctx).Ensures (truthful.telling files) x s (LaunchEnds allowed) := by
  have hsame : ∀ {doing : String}, (Step.need ctx doing (.recordResource (p.resource x))).Ensures
      (truthful.rule files) x s.inventory fun _ x' _ => x' = x :=
    Step.ensures_need (fun _ _ _ => rfl) (fun _ => rfl) (fun _ _ _ _ => rfl)
  have hkept : ∀ {doing : String}, (Step.need ctx doing (.recordResource (p.resource x))).Ensures
      (truthful.telling files) x s
        fun _ _ s' => s'.Sound ∧ s'.RunsOnly fun id => allowed id ∨ x.Claims id :=
    (Step.asksOnly_need .recordResource rfl (List.mem_singleton_self _)).telling
      (Snapshot.keptBy_runsOnly (by decide) _) ⟨hsound, h⟩
  unfold record
  rw [Step.ensures_bind, Step.ensures_get, Step.after_ok, Step.ensures_undoing]
  refine (hsame.telling.and hkept).mono ?_
  rintro (e | u) x' s' ⟨rfl, hsound', hruns⟩
  · refine (p.runsOnly_compensation rfl hsound' hruns).mono ?_
    rintro r x'' s'' ⟨hsound'', hruns'⟩
    exact launchEnds_of_runsOnly hsound'' hruns'
  · exact ⟨hsound', hruns.mono fun id => Or.imp_right fun hclaims => ⟨rfl, hclaims⟩⟩

/-- Launching the pipeline, or finding it. -/
theorem runsOnly_launch (hsound : s.Sound) (h : s.RunsOnly allowed) (request : Launch) :
    (p.launch ctx request).Ensures (truthful.telling files) x s (LaunchEnds allowed) := by
  unfold launch
  rw [Step.ensures_bind]
  apply Step.ensures_call_telling
  · intro e _
    rw [Step.after_ok]
    split
    next heq => cases heq
    next =>
      have hkept : ∀ {doing : String}, (Step.need ctx doing
          (.findActive request.projectId request.location request.jobName)).Ensures
          (truthful.telling files) x s fun _ _ s' => s'.Sound ∧ s'.RunsOnly allowed :=
        (Step.asksOnly_need .findActive rfl (List.mem_singleton_self _)).telling
          (Snapshot.keptBy_runsOnly (by decide) _) ⟨hsound, h⟩
      rw [Step.ensures_bind]
      refine hkept.mono ?_
      rintro (e | running) x' s' ⟨hsound', hruns⟩
      · exact launchEnds_of_runsOnly hsound' hruns
      · exact launchEnds_of_runsOnly hsound' hruns
    next => exact launchEnds_of_runsOnly hsound h
  · intro id inv' hperformed
    cases hperformed with
    | launch hfree =>
      rw [Step.after_ok, Step.ensures_bind, Step.ensures_set, Step.after_ok]
      refine p.runsOnly_record (hsound.follows (.answered (Inventory.perform_launch hfree))) ?_
      intro id hid name hrun
      rcases List.mem_append.1 hid with hid | hid
      · exact .inl (h id hid name (hsound.running_of_start hid hrun))
      · exact .inr ⟨rfl, (List.mem_singleton.1 hid).symm⟩
  · exact launchEnds_of_runsOnly hsound h
  · intro id inv' hperformed
    cases hperformed with
    | launch hfree =>
      refine launchEnds_of_runsOnly (hsound.follows (.unanswered (Inventory.perform_launch hfree)))
        fun id hid name hrun => ?_
      exact h id hid name (hsound.running_of_start hid hrun)

/-- Carrying out the activity. -/
theorem runsOnly_transaction (hsound : s.Sound) (h : s.RunsOnly allowed) :
    (p.transaction ctx).Ensures (truthful.telling files) x s (LaunchEnds allowed) := by
  have hkept : ∀ {x : Output}, (Step.loadTuning ctx p.target.tuningPath).Ensures
      (truthful.telling files) x s fun _ _ s' => s'.Sound ∧ s'.RunsOnly allowed :=
    (Step.asksOnly_loadTuning (List.mem_singleton_self _) _).telling
      (Snapshot.keptBy_runsOnly (by decide) _) ⟨hsound, h⟩
  unfold transaction
  rw [Step.ensures_bind]
  refine hkept.mono ?_
  rintro (e | tuning) x' s' ⟨hsound', hruns⟩
  · exact launchEnds_of_runsOnly hsound' hruns
  · rw [Step.after_ok]
    split
    next request _ => exact p.runsOnly_launch hsound' hruns request
    next => exact launchEnds_of_runsOnly hsound' hruns

end Pipeline

end ReverseReplication
