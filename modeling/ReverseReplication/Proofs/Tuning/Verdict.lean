import ReverseReplication.Naming
import ReverseReplication.Pipeline.Launch
import ReverseReplication.Proofs.Tuning.Completion

/-!
# What a completed tuning can be refused for

A launch is made of a completed tuning. Where the defaults name a template and the run has a project
and a location, nothing that a launch needs is missing by then. What is left is the caller's doing:
worker counts that exceed their bound once the unset ones are filled, and a host project for
networks that are not named. `Launch.Verdict` says which of them is reported when, and what a launch
looks like that is made (`Launch.verdict_resolve`).
-/

namespace ReverseReplication

/-! ## Keys -/

namespace Table

variable {κ α : Type} [Ord κ]

/-- The keys stand in strictly ascending order. -/
theorem pairwise_keys (t : Table κ α) : t.keys.Pairwise fun a b => compare a b = .lt :=
  List.pairwise_map.2 t.ascending

/-- A key that is there is among the keys. -/
theorem mem_keys_of_contains [Std.LawfulEqOrd κ] {t : Table κ α} {k : κ}
    (h : t.contains k = true) : k ∈ t.keys := by
  have hlookup : ∀ es : List (κ × α), (lookup k es).isSome → k ∈ es.map Prod.fst := by
    intro es
    induction es with
    | nil => exact nofun
    | cons e rest ih =>
      intro hsome
      rw [lookup] at hsome
      split at hsome
      next heq =>
        rw [Std.LawfulEqOrd.eq_of_compare heq]
        exact List.mem_cons_self
      next => exact List.mem_cons_of_mem _ (ih hsome)
  exact hlookup t.entries h

end Table

/-- Texts are compared as they are ordered. -/
theorem text_lt_of_compare {s t : String} (h : compare s t = .lt) : s < t :=
  compareOfLessAndEq_eq_lt.1 h

namespace Launch

variable {t u : Tuning} {d : Tuning.Defaults} {projectId location label suffix : String}
  {parameters : Parameters}

/-! ## Faults -/

/-- The number of workers and its bound, where the caller may have left either to the defaults. -/
def workers (t : Tuning) (d : Tuning.Defaults) : Int32 × Int32 :=
  (if t.numWorkers = 0 then d.numWorkers else t.numWorkers,
    if t.maxWorkers = 0 then d.maxWorkers else t.maxWorkers)

/-- There is a bound on the number of workers, and it is exceeded. -/
def Overbooked (t : Tuning) (d : Tuning.Defaults) : Prop :=
  0 < (workers t d).2 ∧ (workers t d).2 < (workers t d).1

/-- The caller names a project for the networks, and neither network. -/
def Dangling (t : Tuning) : Prop :=
  t.vpcHostProjectId ≠ "" ∧ t.network = "" ∧ t.subnetwork = ""

/-- The project that the networks belong to: the one that the caller names for them, or else the one
that the pipeline runs in. -/
def hostProject (t : Tuning) (projectId : String) : String :=
  if t.vpcHostProjectId ≠ "" then t.vpcHostProjectId
  else if t.projectId ≠ "" then t.projectId
  else projectId

/-- The launch carries the parameters, and the networks and experiments of the caller. -/
structure Carries (t : Tuning) (projectId location : String) (parameters : Parameters)
    (l : Launch) : Prop where
  parameters : l.parameters = parameters
  network_eq_empty : l.environment.network = "" ↔ t.network = ""
  network : t.network ≠ "" → l.environment.network =
    "https://www.googleapis.com/compute/v1/projects/" ++ hostProject t projectId
      ++ "/global/networks/" ++ t.network
  subnetwork_eq_empty : l.environment.subnetwork = "" ↔ t.subnetwork = ""
  subnetwork : t.subnetwork ≠ "" → l.environment.subnetwork =
    "https://www.googleapis.com/compute/v1/projects/" ++ hostProject t projectId
      ++ "/regions/" ++ (if t.location = "" then location else t.location)
      ++ "/subnetworks/" ++ t.subnetwork
  ascending : l.environment.experiments.Pairwise (· < ·)
  runner : "use_runner_v2" ∈ l.environment.experiments

/-- What making a launch of the caller's tuning, once it is completed, comes to. -/
structure Verdict (t : Tuning) (d : Tuning.Defaults) (projectId location : String)
    (parameters : Parameters) (made : Except LaunchError Launch) : Prop where
  complete : ∀ field, made ≠ .error (.missingField field)
  overbooked : ∀ num max, made = .error (.workerBounds num max) ↔
    Overbooked t d ∧ workers t d = (num, max)
  dangling : made = .error .danglingVpcHost ↔ ¬Overbooked t d ∧ Dangling t
  accepted : (∃ l, made = .ok l) ↔ ¬Overbooked t d ∧ ¬Dangling t
  carries : ∀ l, made = .ok l → l.Carries t projectId location parameters

/-- What is wrong with a tuning that has all that a launch needs. -/
theorem fault?_of_complete (hproject : u.projectId ≠ "") (hlocation : u.location ≠ "")
    (hname : u.jobName ≠ "") (htemplate : u.templatePath ≠ "") :
    fault? u =
      if 0 < u.maxWorkers ∧ u.maxWorkers < u.numWorkers then
        some (.workerBounds u.numWorkers u.maxWorkers)
      else if u.vpcHostProjectId ≠ "" ∧ u.network = "" ∧ u.subnetwork = "" then
        some .danglingVpcHost
      else none := by
  have hneeded : (needed u).find? (fun f => f.2 = "") = none := by
    simp [needed, hproject, hlocation, hname, htemplate]
  unfold fault?
  rw [hneeded]

/-- What is wrong with a tuning that was completed. -/
theorem fault?_resolve (htemplate : d.templatePath ≠ "") (hproject : projectId ≠ "")
    (hlocation : location ≠ "") (t : Tuning) (label suffix : String) :
    (Overbooked t d ∧ fault? (t.resolve d projectId location label suffix) =
        some (.workerBounds (workers t d).1 (workers t d).2)) ∨
      (¬Overbooked t d ∧ Dangling t ∧
        fault? (t.resolve d projectId location label suffix) = some .danglingVpcHost) ∨
      (¬Overbooked t d ∧ ¬Dangling t ∧
        fault? (t.resolve d projectId location label suffix) = none) := by
  have hcompletes := Tuning.completes_resolve t d projectId location label suffix
  have hfault := fault?_of_complete (hcompletes.projectId.ne_unset hproject)
    (hcompletes.location.ne_unset hlocation)
    (hcompletes.jobName.ne_unset (Tuning.generatedName_ne_empty d suffix))
    (hcompletes.templatePath.ne_unset htemplate)
  rw [hfault]
  by_cases hover : Overbooked t d
  · exact .inl ⟨hover, if_pos hover⟩
  · by_cases hdangling : Dangling t
    · exact .inr (.inl ⟨hover, hdangling, (if_neg hover).trans (if_pos hdangling)⟩)
    · exact .inr (.inr ⟨hover, hdangling, (if_neg hover).trans (if_neg hdangling)⟩)

/-! ## The launch -/

/-- Resolving a tuning does not change the project that hosts its network. -/
theorem networkProject_resolve (t : Tuning) (d : Tuning.Defaults)
    (projectId location label suffix : String) :
    networkProject (t.resolve d projectId location label suffix) = hostProject t projectId := by
  unfold networkProject hostProject Tuning.orText Tuning.resolve Tuning.orText
  by_cases hhost : t.vpcHostProjectId = ""
  · by_cases hproject : t.projectId = "" <;> simp [hhost, hproject]
  · simp [hhost]

/-- An address is not empty, whatever it is the address of. -/
theorem projectAddress_append_ne_empty (projectId rest : String) :
    projectAddress projectId ++ rest ≠ "" :=
  append_ne_empty (append_ne_empty (by decide) projectId) rest

/-- A launch that is made of a completed tuning carries what it is to carry. -/
theorem carries_ofTuning (t : Tuning) (d : Tuning.Defaults)
    (projectId location label suffix : String) (parameters : Parameters) :
    (ofTuning parameters (t.resolve d projectId location label suffix)).Carries t projectId location
      parameters where
  parameters := rfl
  network_eq_empty := by
    show networkAddress _ = "" ↔ _
    unfold networkAddress
    split
    next hunset => exact ⟨fun _ => hunset, fun _ => rfl⟩
    next hset =>
      rw [String.append_assoc]
      exact ⟨fun hempty => absurd hempty (projectAddress_append_ne_empty _ _),
        fun hunset => absurd hunset hset⟩
  network := by
    intro hset
    rw [← networkProject_resolve t d projectId location label suffix]
    exact if_neg hset
  subnetwork_eq_empty := by
    show subnetworkAddress _ = "" ↔ _
    unfold subnetworkAddress
    split
    next hunset => exact ⟨fun _ => hunset, fun _ => rfl⟩
    next hset =>
      rw [String.append_assoc, String.append_assoc, String.append_assoc]
      exact ⟨fun hempty => absurd hempty (projectAddress_append_ne_empty _ _),
        fun hunset => absurd hunset hset⟩
  subnetwork := by
    intro hset
    rw [← networkProject_resolve t d projectId location label suffix]
    exact if_neg hset
  ascending := (Table.pairwise_keys _).imp text_lt_of_compare
  runner :=
    Table.mem_keys_of_contains ((Table.contains_insert (t := t.experiments) ()).2 (.inl rfl))

/-- What making a launch of a completed tuning comes to, where the defaults name a template and the
run has a project and a location. -/
theorem verdict_resolve (htemplate : d.templatePath ≠ "") (hproject : projectId ≠ "")
    (hlocation : location ≠ "") (t : Tuning) (label suffix : String) (parameters : Parameters) :
    Verdict t d projectId location parameters
      (make parameters (t.resolve d projectId location label suffix)) := by
  unfold make
  rcases fault?_resolve htemplate hproject hlocation t label suffix with
    ⟨hover, hfault⟩ | ⟨hover, hdangling, hfault⟩ | ⟨hover, hdangling, hfault⟩
  · rw [hfault]
    constructor <;> simp [hover, Prod.ext_iff]
  · rw [hfault]
    constructor <;> simp [hover, hdangling]
  · rw [hfault]
    constructor
    · simp
    · simp [hover]
    · simp [hdangling]
    · simp [hover, hdangling]
    · rintro l hl
      cases hl
      exact carries_ofTuning t d projectId location label suffix parameters

end Launch

end ReverseReplication
