import ReverseReplication.Pipeline.Tuning

/-!
# Completed tunings

What completing a tuning does is stated here field by field (`Tuning.Completes`): scalars are kept
where they are set and filled where they are not, networks and accounts stay as they are, the label
of the run and the experiment that every pipeline needs are added to those of the caller, and the
streaming engine is on. This determines the completed tuning (`Tuning.completes_iff`).

What is complete completes itself, whatever the surroundings of the run are by then, so a tuning may
be completed again (`Tuning.resolve_completes`).
-/

namespace ReverseReplication

/-! ## Tables -/

namespace Table

variable {κ α : Type} [Ord κ] [Std.TransOrd κ] [Std.LawfulEqOrd κ]

/-- Sets are equal if they have the same members. -/
theorem ext_contains {s t : Table κ Unit}
    (h : ∀ k, s.contains k = true ↔ t.contains k = true) : s = t := by
  refine ext_get? fun k => ?_
  have hk := h k
  unfold contains at hk
  cases hs : s.get? k <;> cases ht : t.get? k <;> simp [hs, ht] at hk ⊢

/-- What is there after inserting a key is the key and what was there before. -/
theorem contains_insert [DecidableEq κ] {t : Table κ α} {k k' : κ} (v : α) :
    (t.insert k v).contains k' = true ↔ k' = k ∨ t.contains k' = true := by
  rw [contains, get?_insert]
  split
  next h => exact ⟨fun _ => .inl h, fun _ => rfl⟩
  next h => exact ⟨.inr, fun hthere => hthere.resolve_left h⟩

end Table

namespace Tuning

/-! ## Filling a field -/

variable {α : Type} {unset given fallback fallback' result : α}

/-- The field is kept where it is set, and filled where it is not. -/
structure Filled (unset given fallback result : α) : Prop where
  kept : given ≠ unset → result = given
  filled : given = unset → result = fallback

/-- A value can be filled in only in one way. -/
theorem Filled.unique {result' : α} (h : Filled unset given fallback result)
    (h' : Filled unset given fallback result') : result' = result := by
  by_cases hset : given = unset
  · rw [h.filled hset, h'.filled hset]
  · rw [h.kept hset, h'.kept hset]

/-- A field that is unset even now was filled with an unset default. -/
theorem Filled.filled_of_unset (h : Filled unset given fallback result) (hunset : result = unset) :
    result = fallback := by
  by_cases hset : given = unset
  · exact h.filled hset
  · exact absurd ((h.kept hset).symm.trans hunset) hset

/-- A field that was filled is left alone by the same default. -/
theorem Filled.again (h : Filled unset given fallback result) :
    Filled unset result fallback result :=
  ⟨fun _ => rfl, h.filled_of_unset⟩

/-- A field is set where its default is. -/
theorem Filled.ne_unset (h : Filled unset given fallback result) (hfallback : fallback ≠ unset) :
    result ≠ unset :=
  fun hunset => hfallback ((h.filled_of_unset hunset).symm.trans hunset)

/-- It is left alone then by any default. -/
theorem Filled.settled (h : Filled unset given fallback result) (hfallback : fallback ≠ unset) :
    Filled unset result fallback' result where
  kept := fun _ => rfl
  filled := fun hunset => absurd hunset (h.ne_unset hfallback)

/-- An empty text is filled in, any other is kept. -/
theorem filled_orText (s fallback : String) : Filled "" s fallback (orText s fallback) :=
  ⟨fun h => if_neg h, fun h => if_pos h⟩

/-- A count of zero is filled in, any other is kept. -/
theorem filled_orCount (n fallback : Int32) : Filled 0 n fallback (orCount n fallback) :=
  ⟨fun h => if_neg h, fun h => if_pos h⟩

/-! ## Completing a tuning -/

/-- The tuning `u` completes `t` for a run with these defaults and surroundings. -/
structure Completes (t : Tuning) (d : Defaults) (projectId location label suffix : String)
    (u : Tuning) : Prop where
  projectId : Filled "" t.projectId projectId u.projectId
  jobName : Filled "" t.jobName (d.stem ++ "-" ++ suffix) u.jobName
  location : Filled "" t.location location u.location
  maxWorkers : Filled 0 t.maxWorkers d.maxWorkers u.maxWorkers
  numWorkers : Filled 0 t.numWorkers d.numWorkers u.numWorkers
  machineType : Filled "" t.machineType d.machineType u.machineType
  templatePath : Filled "" t.templatePath d.templatePath u.templatePath
  vpcHostProjectId : u.vpcHostProjectId = t.vpcHostProjectId
  network : u.network = t.network
  subnetwork : u.subnetwork = t.subnetwork
  serviceAccountEmail : u.serviceAccountEmail = t.serviceAccountEmail
  kmsKeyName : u.kmsKeyName = t.kmsKeyName
  labels : ∀ key, u.labels.get? key = if key = d.stem then some label else t.labels.get? key
  experiments : ∀ name, u.experiments.contains name = true ↔
    name = "use_runner_v2" ∨ t.experiments.contains name = true
  streamingEngine : u.streamingEngine = true

variable {t u : Tuning} {d : Defaults} {projectId location label suffix : String}

/-- Resolving a tuning completes it. -/
theorem completes_resolve (t : Tuning) (d : Defaults)
    (projectId location label suffix : String) :
    t.Completes d projectId location label suffix
      (t.resolve d projectId location label suffix) where
  projectId := filled_orText _ _
  jobName := filled_orText _ _
  location := filled_orText _ _
  maxWorkers := filled_orCount _ _
  numWorkers := filled_orCount _ _
  machineType := filled_orText _ _
  templatePath := filled_orText _ _
  vpcHostProjectId := rfl
  network := rfl
  subnetwork := rfl
  serviceAccountEmail := rfl
  kmsKeyName := rfl
  labels := fun key => Table.get?_insert t.labels d.stem key label
  experiments := fun _ => Table.contains_insert ()
  streamingEngine := rfl

/-- There is one completed tuning only. -/
theorem Completes.unique {u' : Tuning} (h : t.Completes d projectId location label suffix u)
    (h' : t.Completes d projectId location label suffix u') : u' = u := by
  have hlabels : u'.labels = u.labels :=
    Table.ext_get? fun key => (h'.labels key).trans (h.labels key).symm
  have hexperiments : u'.experiments = u.experiments :=
    Table.ext_contains fun name => (h'.experiments name).trans (h.experiments name).symm
  cases u
  cases u'
  rw [mk.injEq]
  exact ⟨h.projectId.unique h'.projectId, h.jobName.unique h'.jobName,
    h.location.unique h'.location, h'.vpcHostProjectId.trans h.vpcHostProjectId.symm,
    h'.network.trans h.network.symm, h'.subnetwork.trans h.subnetwork.symm,
    h.maxWorkers.unique h'.maxWorkers, h.numWorkers.unique h'.numWorkers,
    h'.serviceAccountEmail.trans h.serviceAccountEmail.symm,
    h.machineType.unique h'.machineType, hlabels, h'.kmsKeyName.trans h.kmsKeyName.symm,
    h.templatePath.unique h'.templatePath, hexperiments,
    h'.streamingEngine.trans h.streamingEngine.symm⟩

/-- Resolving is the only way to complete a tuning. -/
theorem completes_iff :
    t.Completes d projectId location label suffix u ↔
      u = t.resolve d projectId location label suffix := by
  have hresolve := completes_resolve t d projectId location label suffix
  constructor
  · exact hresolve.unique
  · rintro rfl
    exact hresolve

/-- The name of a job that the caller does not name. -/
theorem generatedName_ne_empty (d : Defaults) (suffix : String) : d.stem ++ "-" ++ suffix ≠ "" := by
  intro h
  obtain ⟨hstem, -⟩ := String.append_eq_empty_iff.1 h
  have hhyphen : "-" = "" := (String.append_eq_empty_iff.1 hstem).2
  exact absurd hhyphen (by decide)

/-- What is complete completes itself for every run with the same label. -/
theorem Completes.again (h : t.Completes d projectId location label suffix u)
    (hproject : projectId ≠ "") (hlocation : location ≠ "")
    (projectId' location' suffix' : String) :
    u.Completes d projectId' location' label suffix' u where
  projectId := h.projectId.settled hproject
  jobName := h.jobName.settled (generatedName_ne_empty d suffix)
  location := h.location.settled hlocation
  maxWorkers := h.maxWorkers.again
  numWorkers := h.numWorkers.again
  machineType := h.machineType.again
  templatePath := h.templatePath.again
  vpcHostProjectId := rfl
  network := rfl
  subnetwork := rfl
  serviceAccountEmail := rfl
  kmsKeyName := rfl
  labels := by
    intro key
    split
    next hkey => rw [h.labels, if_pos hkey]
    next => rfl
  experiments := by
    intro name
    rw [h.experiments, ← or_assoc, or_self]
  streamingEngine := h.streamingEngine

/-- Completing a tuning keeps what the caller has set and fills in the rest. The result is
determined by that, and completing it again for a run with the same label changes nothing. -/
theorem resolve_completes (hproject : projectId ≠ "") (hlocation : location ≠ "") (t : Tuning)
    (d : Defaults) (label suffix projectId' location' suffix' : String) :
    let completed := t.resolve d projectId location label suffix
    (∀ u, t.Completes d projectId location label suffix u ↔ u = completed) ∧
      completed.resolve d projectId' location' label suffix' = completed := by
  intro completed
  refine ⟨fun u => completes_iff, ?_⟩
  have hagain := (completes_resolve t d projectId location label suffix).again hproject hlocation
    projectId' location' suffix'
  exact (completes_iff.1 hagain).symm

/-- A tuning that comes with the experiment, a label of the same key, and a negative count. -/
theorem resolve_completes_of_labelled :
    let t : Tuning := {
      numWorkers := -3
      labels := .ofList [("smt-reverse-replication-reader", "mine"), ("team", "data")]
      experiments := .ofList [("use_runner_v2", ())] }
    let completed := t.resolve (.reader "gs://templates/reader") "p1" "us-central1" "job" "r1"
    "p1" ≠ "" ∧ "us-central1" ≠ "" ∧ completed.numWorkers = -3 ∧ completed.maxWorkers = 50 ∧
      completed.jobName = "smt-reverse-replication-reader-r1" ∧
      completed.labels.get? "smt-reverse-replication-reader" = some "job" ∧
      completed.labels.get? "team" = some "data" ∧
      completed.resolve (.reader "gs://templates/reader") "p2" "eu" "job" "r2" = completed := by
  intro t completed
  have hproject : "p1" ≠ "" := by decide
  have hlocation : "us-central1" ≠ "" := by decide
  have hresolved := resolve_completes hproject hlocation t (.reader "gs://templates/reader") "job"
    "r1" "p2" "eu" "r2"
  have hcompletes := (hresolved.1 completed).2 rfl
  refine ⟨hproject, hlocation, hcompletes.numWorkers.kept (by decide),
    hcompletes.maxWorkers.filled rfl, hcompletes.jobName.filled rfl, ?_, ?_, hresolved.2⟩
  · exact hcompletes.labels _
  · exact hcompletes.labels _

end Tuning

end ReverseReplication
