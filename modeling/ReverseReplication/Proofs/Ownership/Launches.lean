import ReverseReplication.Proofs.Reachable
import ReverseReplication.Provision.Pipeline

/-!
# Pipelines that a run launches

A run may launch pipelines, one for each of its outputs at most, and cancel them again.
`Launches` says what the launcher may hold then: every job that was there before stays as it was,
every new one has a name that the run may use, and every output that says it launched a job is
right. Where replies are not lost, a new running job has such an output.

Ids are never given twice, so cancelling a job by its id touches no other.
-/

namespace ReverseReplication

namespace Inventory

/-- A launch after the first `n` had the parameters, and started a job of the name and id. -/
def LaunchedSince (inv : Inventory) (n : Nat) (parameters : Parameters) (name id : String) : Prop :=
  ∃ m request, n ≤ m ∧ inv.launched[m]? = some request ∧ id = inv.pipelineId (m + 1) ∧
    request.jobName = name ∧ request.parameters = parameters

/-- The id of a pipeline that was launched since is new. -/
theorem LaunchedSince.fresh {inv before : Inventory} {parameters : Parameters} {name id : String}
    (h : inv.LaunchedSince before.launched.length parameters name id) (hbefore : before.Sound) :
    before.pipelines.get? id = none := by
  obtain ⟨m, request, hm, -, rfl, -, -⟩ := h
  exact hbefore.get?_pipelineId inv (Nat.lt_succ_of_le hm)

/-- Launching another pipeline does not make the launch undone. -/
theorem LaunchedSince.start {inv : Inventory} {n : Nat} {parameters : Parameters}
    {name id : String} (h : inv.LaunchedSince n parameters name id) (request : Launch) :
    (inv.start request).2.LaunchedSince n parameters name id := by
  obtain ⟨m, request', hm, hrequest, hid, hname, hparameters⟩ := h
  refine ⟨m, request', hm, ?_, hid, hname, hparameters⟩
  obtain ⟨hlt, -⟩ := List.getElem?_eq_some_iff.1 hrequest
  unfold Inventory.start
  rw [List.getElem?_append_left hlt]
  exact hrequest

/-- A launch is one that was made since, with its own name and id. -/
theorem launchedSince_start (inv : Inventory) {n : Nat} (hn : n ≤ inv.launched.length)
    (request : Launch) :
    (inv.start request).2.LaunchedSince n request.parameters request.jobName
      (inv.start request).1 := by
  refine ⟨inv.launched.length, request, hn, ?_, rfl, rfl, rfl⟩
  unfold Inventory.start
  rw [List.getElem?_concat_length]

end Inventory

variable {ι : Type} {exact : Prop} {named : String → Prop} {before inv : Inventory}
  {parameters : ι → Parameters} {outputs outputs' : ι → Pipeline.Output}

/-- What the launcher may hold when a run has launched and cancelled pipelines, given what its
outputs say. -/
structure Launches (exact : Prop) (named : String → Prop) (before : Inventory)
    (parameters : ι → Parameters) (outputs : ι → Pipeline.Output) (inv : Inventory) : Prop where
  stamp : inv.stamp = before.stamp
  launched : ∃ more, inv.launched = before.launched ++ more ∧
    ∀ request ∈ more, named request.jobName
  retained : ∀ id job, before.pipelines.get? id = some job → inv.pipelines.get? id = some job
  added : ∀ id job, inv.pipelines.get? id = some job →
    before.pipelines.get? id = some job ∨ named job.name
  owned : ∀ i, (outputs i).launched = true →
    inv.LaunchedSince before.launched.length (parameters i) (outputs i).jobName
        (outputs i).pipelineJobId ∧
      inv.pipelines.get? (outputs i).pipelineJobId = some ⟨(outputs i).jobName, false⟩
  distinct : ∀ i j, i ≠ j → (outputs i).launched = true → (outputs j).launched = true →
    (outputs i).pipelineJobId ≠ (outputs j).pipelineJobId
  covered : exact → ∀ name id, inv.running.get? name = some id →
    before.running.get? name = some id ∨
      ∃ i, (outputs i).launched = true ∧ (outputs i).pipelineJobId = id

namespace Launches

/-- At first nothing is launched. -/
theorem refl (h : ∀ i, (outputs i).launched = false) :
    Launches exact named before parameters outputs before where
  stamp := rfl
  launched := ⟨[], (List.append_nil _).symm, fun _ h => nomatch h⟩
  retained := fun _ _ h => h
  added := fun _ _ h => .inl h
  owned := by
    intro i hi
    rw [h i] at hi
    simp at hi
  distinct := by
    intro i j _ hi
    rw [h i] at hi
    simp at hi
  covered := fun _ _ _ h => .inl h

/-- Only the launcher matters. -/
theorem congr {inv' : Inventory} (h : Launches exact named before parameters outputs inv)
    (hstamp : inv'.stamp = inv.stamp) (hlaunched : inv'.launched = inv.launched)
    (hpipelines : inv'.pipelines = inv.pipelines) (hrunning : inv'.running = inv.running) :
    Launches exact named before parameters outputs inv' where
  stamp := hstamp.trans h.stamp
  launched := by
    rw [hlaunched]
    exact h.launched
  retained := by
    rw [hpipelines]
    exact h.retained
  added := by
    rw [hpipelines]
    exact h.added
  owned := by
    unfold Inventory.LaunchedSince Inventory.pipelineId
    rw [hlaunched, hpipelines, hstamp]
    exact h.owned
  distinct := h.distinct
  covered := by
    rw [hrunning]
    exact h.covered

/-- Launches are never forgotten. -/
theorem length_le (h : Launches exact named before parameters outputs inv) :
    before.launched.length ≤ inv.launched.length := by
  obtain ⟨more, hmore, -⟩ := h.launched
  rw [hmore, List.length_append]
  exact Nat.le_add_right _ _

/-- When the output of `i` says that it launched nothing, an output that says it did is one of the
others. -/
theorem other_of_launched {i j : ι} (hthen : (outputs' i).launched = false)
    (hothers : ∀ j, j ≠ i → outputs' j = outputs j) (hj : (outputs' j).launched = true) :
    j ≠ i ∧ outputs' j = outputs j := by
  have hji : j ≠ i := by
    rintro rfl
    rw [hthen] at hj
    simp at hj
  exact ⟨hji, hothers j hji⟩

/-- If one output gives up its pipeline, the others still claim different ones. -/
theorem distinct_of_others {i : ι} (h : Launches exact named before parameters outputs inv)
    (hthen : (outputs' i).launched = false) (hothers : ∀ j, j ≠ i → outputs' j = outputs j) :
    ∀ j k, j ≠ k → (outputs' j).launched = true → (outputs' k).launched = true →
      (outputs' j).pipelineJobId ≠ (outputs' k).pipelineJobId := by
  intro j k hjk hj hk
  obtain ⟨-, hj'⟩ := other_of_launched hthen hothers hj
  obtain ⟨-, hk'⟩ := other_of_launched hthen hothers hk
  rw [hj'] at hj ⊢
  rw [hk'] at hk ⊢
  exact h.distinct j k hjk hj hk

/-- An output may change that says it launched nothing. -/
theorem relabel {i : ι} (h : Launches exact named before parameters outputs inv)
    (hthen : (outputs' i).launched = false) (hothers : ∀ j, j ≠ i → outputs' j = outputs j)
    (hbefore : exact → (outputs i).launched = false) :
    Launches exact named before parameters outputs' inv where
  stamp := h.stamp
  launched := h.launched
  retained := h.retained
  added := h.added
  owned := by
    intro j hj
    obtain ⟨-, hsame⟩ := other_of_launched hthen hothers hj
    rw [hsame] at hj ⊢
    exact h.owned j hj
  distinct := h.distinct_of_others hthen hothers
  covered := by
    intro he name id hrun
    rcases h.covered he name id hrun with hold | ⟨j, hj, hid⟩
    · exact .inl hold
    · refine .inr ⟨j, ?_⟩
      have hji : j ≠ i := by
        rintro rfl
        rw [hbefore he] at hj
        simp at hj
      rw [hothers j hji]
      exact ⟨hj, hid⟩

/-- A job is started of which no output says anything. -/
theorem start (h : Launches exact named before parameters outputs inv) (hsound : inv.Sound)
    {request : Launch} (hnamed : named request.jobName) :
    Launches False named before parameters outputs (inv.start request).2 where
  stamp := h.stamp
  launched := by
    obtain ⟨more, hmore, hall⟩ := h.launched
    refine ⟨more ++ [request], ?_, ?_⟩
    · unfold Inventory.start
      rw [hmore, List.append_assoc]
    · intro request' hmem
      rcases List.mem_append.1 hmem with hmem | hmem
      · exact hall request' hmem
      · rw [List.mem_singleton.1 hmem]
        exact hnamed
  retained := by
    intro id job hjob
    have hstill := h.retained id job hjob
    rw [Inventory.get?_pipelines_start, if_neg]
    · exact hstill
    · rintro rfl
      rw [hsound.fresh request] at hstill
      simp at hstill
  added := by
    intro id job hjob
    rw [Inventory.get?_pipelines_start] at hjob
    split at hjob
    · cases hjob
      exact .inr hnamed
    · exact h.added id job hjob
  owned := by
    intro i hi
    obtain ⟨hsince, hjob⟩ := h.owned i hi
    refine ⟨hsince.start request, ?_⟩
    rw [Inventory.get?_pipelines_start, if_neg]
    · exact hjob
    · intro hid
      rw [hid, hsound.fresh request] at hjob
      simp at hjob
  distinct := h.distinct
  covered := False.elim

/-- A job is started, and an output says so. -/
theorem launch {i : ι} {request : Launch}
    (h : Launches exact named before parameters outputs inv) (hsound : inv.Sound)
    (hnamed : named request.jobName) (hparameters : request.parameters = parameters i)
    (hnone : (outputs i).launched = false)
    (hi : outputs' i = .ofLaunch request (inv.start request).1 true)
    (hothers : ∀ j, j ≠ i → outputs' j = outputs j) :
    Launches exact named before parameters outputs' (inv.start request).2 := by
  have hstart := h.start hsound hnamed
  -- The id is new, so no other output has it.
  have hnew : ∀ j, (outputs j).launched = true →
      (outputs j).pipelineJobId ≠ (inv.start request).1 := by
    intro j hj hid
    have hjob := (h.owned j hj).2
    rw [hid, hsound.fresh request] at hjob
    simp at hjob
  refine { hstart with owned := ?_, distinct := ?_, covered := ?_ }
  · intro j hj
    by_cases hji : j = i
    · subst hji
      rw [hi, ← hparameters]
      refine ⟨Inventory.launchedSince_start inv h.length_le request, ?_⟩
      rw [Inventory.get?_pipelines_start]
      exact if_pos rfl
    · rw [hothers j hji] at hj ⊢
      exact hstart.owned j hj
  · intro j k hjk hj hk
    by_cases hji : j = i
    · subst hji
      rw [hothers k (Ne.symm hjk)] at hk ⊢
      rw [hi]
      exact Ne.symm (hnew k hk)
    · rw [hothers j hji] at hj ⊢
      by_cases hki : k = i
      · subst hki
        rw [hi]
        exact hnew j hj
      · rw [hothers k hki] at hk ⊢
        exact h.distinct j k hjk hj hk
  · intro he name id hrun
    rw [Inventory.get?_running_start] at hrun
    split at hrun
    · refine .inr ⟨i, ?_⟩
      rw [hi]
      exact ⟨rfl, Option.some.inj hrun⟩
    · rcases h.covered he name id hrun with hold | ⟨j, hj, hid⟩
      · exact .inl hold
      · refine .inr ⟨j, ?_⟩
        have hji : j ≠ i := by
          rintro rfl
          rw [hnone] at hj
          simp at hj
        rw [hothers j hji]
        exact ⟨hj, hid⟩

/-- The job of an output is cancelled. -/
theorem cancel {i : ι} {job : PipelineJob}
    (h : Launches exact named before parameters outputs inv) (hsound : inv.Sound)
    (hbefore : before.Sound) (hlaunched : (outputs i).launched = true)
    (hjob : inv.pipelines.get? (outputs i).pipelineJobId = some job)
    (hi : (outputs' i).launched = false) (hothers : ∀ j, j ≠ i → outputs' j = outputs j) :
    Launches exact named before parameters outputs'
      (inv.stop (outputs i).pipelineJobId job) where
  stamp := h.stamp
  launched := h.launched
  retained := by
    intro id job' hjob'
    -- The id was given during the run, so no job that was there before has it.
    rw [Inventory.get?_pipelines_stop, if_neg]
    · exact h.retained id job' hjob'
    · rintro rfl
      rw [(h.owned i hlaunched).1.fresh hbefore] at hjob'
      simp at hjob'
  added := by
    intro id job' hjob'
    rw [Inventory.get?_pipelines_stop] at hjob'
    split at hjob'
    next hid =>
      cases hjob'
      rcases h.added _ job hjob with hold | hnamed
      · rw [(h.owned i hlaunched).1.fresh hbefore] at hold
        simp at hold
      · exact .inr hnamed
    next => exact h.added id job' hjob'
  owned := by
    intro j hj
    obtain ⟨hji, hsame⟩ := other_of_launched hi hothers hj
    rw [hsame] at hj ⊢
    obtain ⟨hsince, hrunning⟩ := h.owned j hj
    refine ⟨hsince, ?_⟩
    rw [Inventory.get?_pipelines_stop, if_neg (h.distinct j i hji hj hlaunched)]
    exact hrunning
  distinct := h.distinct_of_others hi hothers
  covered := by
    intro he name id hrun
    rw [hsound.running_stop hjob] at hrun
    split at hrun
    next => simp at hrun
    next hne =>
      rcases h.covered he name id hrun with hold | ⟨j, hj, hid⟩
      · exact .inl hold
      · refine .inr ⟨j, ?_⟩
        have hji : j ≠ i := by
          rintro rfl
          rw [hid] at hne
          exact hne hrun
        rw [hothers j hji]
        exact ⟨hj, hid⟩

/-! ### Running jobs -/

/-- Whatever was running still runs under its name and id. -/
theorem running_retained (h : Launches exact named before parameters outputs inv)
    (hsound : inv.Sound) (hbefore : before.Sound) {name id : String}
    (hrun : before.running.get? name = some id) : inv.running.get? name = some id := by
  rw [hbefore.running] at hrun
  rw [hsound.running]
  exact h.retained id _ hrun

/-- Under a name that the run may not use, nothing has changed. -/
theorem running_agrees (h : Launches exact named before parameters outputs inv)
    (hsound : inv.Sound) (hbefore : before.Sound) {name : String} (hname : ¬named name) :
    inv.running.get? name = before.running.get? name := by
  cases hrun : inv.running.get? name with
  | some id =>
    rw [hsound.running] at hrun
    rcases h.added id _ hrun with hold | hnamed
    · rw [← hbefore.running] at hold
      exact hold.symm
    · exact absurd hnamed hname
  | none =>
    cases hold : before.running.get? name with
    | none => rfl
    | some id =>
      rw [h.running_retained hsound hbefore hold] at hrun
      simp at hrun

/-- When no reply is lost, a job that was not running before was launched for an output that says
so. -/
theorem launched_of_new (h : Launches exact named before parameters outputs inv)
    (hsound : inv.Sound) (he : exact) {name id : String} (hrun : inv.running.get? name = some id)
    (hnew : before.running.get? name ≠ some id) :
    ∃ i, (outputs i).launched = true ∧
      inv.LaunchedSince before.launched.length (parameters i) name id := by
  obtain ⟨i, hi, hid⟩ := (h.covered he name id hrun).resolve_left hnew
  obtain ⟨hlaunched, hjob⟩ := h.owned i hi
  rw [hid] at hlaunched hjob
  rw [hsound.running, hjob, Option.some.injEq, PipelineJob.mk.injEq] at hrun
  rw [hrun.1] at hlaunched
  exact ⟨i, hi, hlaunched⟩

/-- When no reply is lost and every launched job is cancelled again, what runs is what ran
before. -/
theorem running_eq (h : Launches exact named before parameters outputs inv) (hsound : inv.Sound)
    (hbefore : before.Sound) (he : exact) (hnone : ∀ i, (outputs i).launched = false) :
    inv.running = before.running := by
  refine Table.ext_get? fun name => ?_
  cases hrun : inv.running.get? name with
  | some id =>
    rcases h.covered he name id hrun with hold | ⟨i, hi, -⟩
    · exact hold.symm
    · rw [hnone i] at hi
      simp at hi
  | none =>
    cases hold : before.running.get? name with
    | none => rfl
    | some id =>
      rw [h.running_retained hsound hbefore hold] at hrun
      simp at hrun

end Launches

end ReverseReplication
