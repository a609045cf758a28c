import ReverseReplication.Job.Normalize
import ReverseReplication.Proofs.ObjectPaths

/-!
# Which requests are accepted

What a request has to meet is stated here without the checks: as an ordered list of conditions, each
with the field that is named where it fails (`JobRequest.requirements`). The checks decide these
conditions: a request is accepted if it meets all of them, and otherwise the field of the first one
that fails is named (`JobRequest.normalize_decides`). The checks look at the request as the caller
gave it, so that filling in defaults cannot hide a fault or make one.
-/

namespace ReverseReplication

/-- A condition on requests, and the field that is named where it fails. -/
structure Requirement where
  Holds : JobRequest → Prop
  field : JobRequest → String

namespace JobRequest

/-! ## The requirements -/

/-- The path begins with the scheme of the object store. -/
def UnderScheme (path : String) : Prop := ∃ rest, path = "gs://" ++ rest

/-- What a request has to meet, in the order of the complaints. The code of custom sharding is given
by a hosted archive and a class in it, or not at all. -/
def requirements : List Requirement := [
  ⟨fun r => r.instanceId ≠ "", fun _ => "instanceId"⟩,
  ⟨fun r => r.databaseId ≠ "", fun _ => "databaseId"⟩,
  ⟨fun r => r.sessionFilePath ≠ "", fun _ => "sessionFilePath"⟩,
  ⟨fun r => r.sourceConnectionConfig ≠ "", fun _ => "sourceConnectionConfig"⟩,
  ⟨fun r => r.projectId ≠ "", fun _ => "projectId"⟩,
  ⟨fun r => r.sourceType = "" ∨ r.sourceType = "mysql", fun _ => "sourceType"⟩,
  ⟨fun r => r.gcsDataDirectory = "" ∨ UnderScheme r.gcsDataDirectory, fun _ => "gcsDataDirectory"⟩,
  ⟨fun r => r.filtrationMode = "" ∨ r.filtrationMode = "forward_migration" ∨
      r.filtrationMode = "none", fun _ => "filtrationMode"⟩,
  ⟨fun r => (r.shardingCustomJarPath = "" ∧ r.shardingCustomClassName = "") ∨
      (r.shardingCustomJarPath ≠ "" ∧ r.shardingCustomClassName ≠ "" ∧
        UnderScheme r.shardingCustomJarPath),
    fun r => if r.shardingCustomClassName = "" then "shardingCustomClassName"
      else "shardingCustomJarPath"⟩]

/-- The first of the requirements that the request fails names this field. -/
def FirstFailed (r : JobRequest) (cs : List Requirement) (field : String) : Prop :=
  ∃ before c after, cs = before ++ c :: after ∧ (∀ b ∈ before, b.Holds r) ∧ ¬c.Holds r ∧
    field = c.field r

/-! ## Checks that decide requirements -/

/-- The first of the checks that fails. -/
def firstFault? (checks : List (Bool × Violation)) : Option Violation :=
  (checks.find? fun check => !check.1).map Prod.snd

/-- The checks decide the requirements one after another. One requirement may take several checks,
of which each that fails names its field. -/
inductive Decides (r : JobRequest) : List (Bool × Violation) → List Requirement → Prop
  | nil : Decides r [] []
  | cons {group checks : List (Bool × Violation)} {c : Requirement} {cs : List Requirement}
      (passes : c.Holds r → firstFault? group = none)
      (fails : ¬c.Holds r → ∃ v, firstFault? group = some v ∧ v.field = c.field r)
      (others : Decides r checks cs) : Decides r (group ++ checks) (c :: cs)

/-- The first fault of a group comes before those of the checks that follow it. -/
theorem firstFault?_append (group checks : List (Bool × Violation)) :
    firstFault? (group ++ checks) = (firstFault? group).or (firstFault? checks) := by
  rw [firstFault?, firstFault?, firstFault?, List.find?_append]
  cases group.find? fun check => !check.1 <;> rfl

variable {r : JobRequest}

/-- The first requirement fails and is blamed, or it holds and one of the others is blamed. -/
theorem FirstFailed.of_cons {c : Requirement} {cs : List Requirement} {field : String}
    (h : r.FirstFailed (c :: cs) field) :
    (¬c.Holds r ∧ field = c.field r) ∨ (c.Holds r ∧ r.FirstFailed cs field) := by
  obtain ⟨before, c', after, hcs, hbefore, hfails, hfield⟩ := h
  cases before with
  | nil =>
    rw [List.nil_append, List.cons.injEq] at hcs
    exact .inl ⟨hcs.1 ▸ hfails, hcs.1 ▸ hfield⟩
  | cons b before =>
    rw [List.cons_append, List.cons.injEq] at hcs
    rw [List.forall_mem_cons] at hbefore
    exact .inr ⟨hcs.1 ▸ hbefore.1, before, c', after, hcs.2, hbefore.2, hfails, hfield⟩

/-- A requirement that holds is not blamed, whatever follows it. -/
theorem FirstFailed.later {c : Requirement} {cs : List Requirement} {field : String}
    (hc : c.Holds r) (h : r.FirstFailed cs field) : r.FirstFailed (c :: cs) field := by
  obtain ⟨before, c', after, rfl, hbefore, hfails, hfield⟩ := h
  exact ⟨c :: before, c', after, rfl, List.forall_mem_cons.2 ⟨hc, hbefore⟩, hfails, hfield⟩

namespace Decides

variable {checks : List (Bool × Violation)} {cs : List Requirement}

/-- Checks that decide requirements find no fault exactly if all of them hold. -/
theorem firstFault?_eq_none_iff (h : Decides r checks cs) :
    firstFault? checks = none ↔ ∀ c ∈ cs, c.Holds r := by
  induction h with
  | nil => exact ⟨fun _ _ hc => absurd hc List.not_mem_nil, fun _ => rfl⟩
  | @cons group checks c cs passes fails _ ih =>
    rw [firstFault?_append, List.forall_mem_cons, ← ih]
    by_cases hc : c.Holds r
    · rw [passes hc, Option.none_or]
      exact (and_iff_right hc).symm
    · obtain ⟨v, hv, -⟩ := fails hc
      rw [hv]
      exact ⟨nofun, fun hall => absurd hall.1 hc⟩

/-- The fault they find is in the field of the first requirement that fails. -/
theorem firstFault?_eq_some_iff (h : Decides r checks cs) (field : String) :
    (∃ v, firstFault? checks = some v ∧ v.field = field) ↔ r.FirstFailed cs field := by
  induction h with
  | nil =>
    constructor
    · rintro ⟨v, hv, -⟩
      cases hv
    · rintro ⟨before, c, after, hcs, -⟩
      cases before <;> cases hcs
  | @cons group checks c cs passes fails _ ih =>
    rw [firstFault?_append]
    by_cases hc : c.Holds r
    · rw [passes hc, Option.none_or, ih]
      refine ⟨.later hc, fun hfirst => ?_⟩
      rcases hfirst.of_cons with ⟨hfails, -⟩ | ⟨-, hlater⟩
      · exact absurd hc hfails
      · exact hlater
    · obtain ⟨v, hv, hfield⟩ := fails hc
      rw [hv, Option.some_or]
      constructor
      · rintro ⟨v', hv', rfl⟩
        cases hv'
        exact ⟨[], c, cs, rfl, fun _ hb => absurd hb List.not_mem_nil, hc, hfield⟩
      · intro hfirst
        rcases hfirst.of_cons with ⟨-, hnamed⟩ | ⟨hholds, -⟩
        · exact ⟨v, rfl, hfield.trans hnamed.symm⟩
        · exact absurd hholds hc

end Decides

/-! ## The checks of a request -/

/-- The text has a hosted path exactly if it starts with the scheme. -/
theorem isHosted_iff_underScheme {path : String} : isHosted path = true ↔ UnderScheme path :=
  isHosted_iff

/-- A hosted path is not empty. -/
theorem UnderScheme.ne_empty {path : String} (h : UnderScheme path) : path ≠ "" := by
  obtain ⟨rest, rfl⟩ := h
  exact append_ne_empty (by decide) rest

instance : DecidablePred UnderScheme := fun path =>
  decidable_of_iff (isHosted path = true) isHosted_iff_underScheme

/-- A check of its own decides a requirement. -/
theorem Decides.single {test : Bool} {v : Violation} {checks : List (Bool × Violation)}
    {c : Requirement} {cs : List Requirement} (htest : test = true ↔ c.Holds r)
    (hfield : v.field = c.field r) (others : Decides r checks cs) :
    Decides r ((test, v) :: checks) (c :: cs) := by
  have hgroup : Decides r ([(test, v)] ++ checks) (c :: cs) := by
    refine .cons (fun hc => ?_) (fun hc => ⟨v, ?_, hfield⟩) others
    · rw [htest.2 hc]
      rfl
    · rw [Bool.eq_false_iff.2 (mt htest.1 hc)]
      rfl
  exact hgroup

/-- The three checks on custom sharding decide one requirement. -/
theorem decides_sharding (r : JobRequest) :
    Decides r (r.checks.drop 8) (requirements.drop 8) := by
  have hgroup : Decides r (r.checks.drop 8 ++ []) (requirements.drop 8) := by
    refine .cons (fun hc => ?_) (fun hc => ?_) .nil
    · rcases hc with ⟨hjar, hclass⟩ | ⟨hjar, hclass, hhosted⟩
      · simp [checks, firstFault?, hjar, hclass]
      · simp [checks, firstFault?, hclass, hjar, isHosted_iff_underScheme.2 hhosted]
    · by_cases hclass : r.shardingCustomClassName = ""
      · have hjar : r.shardingCustomJarPath ≠ "" := fun hjar => hc (.inl ⟨hjar, hclass⟩)
        exact ⟨.jarWithoutClass, by simp [checks, firstFault?, hclass, hjar],
          (if_pos hclass).symm⟩
      · by_cases hjar : r.shardingCustomJarPath = ""
        · exact ⟨.classWithoutJar, by simp [checks, firstFault?, hclass, hjar],
            (if_neg hclass).symm⟩
        · have hhosted : isHosted r.shardingCustomJarPath = false :=
            Bool.eq_false_iff.2 fun hhosted =>
              hc (.inr ⟨hjar, hclass, isHosted_iff_underScheme.1 hhosted⟩)
          exact ⟨.jarNotHosted, by simp [checks, firstFault?, hclass, hjar, hhosted],
            (if_neg hclass).symm⟩
  exact hgroup

/-- The checks of a request decide its requirements, one after the other. -/
theorem decides_checks (r : JobRequest) : Decides r r.checks requirements := by
  have hsource : (r.sourceType = "" || r.sourceType = supportedSource) = true ↔
      r.sourceType = "" ∨ r.sourceType = "mysql" := by
    rw [Bool.or_eq_true, decide_eq_true_eq, decide_eq_true_eq]
    rfl
  have hdirectory : (r.gcsDataDirectory = "" || isHosted r.gcsDataDirectory) = true ↔
      r.gcsDataDirectory = "" ∨ UnderScheme r.gcsDataDirectory := by
    rw [Bool.or_eq_true, decide_eq_true_eq, isHosted_iff_underScheme]
  have hfilter : (r.filtrationMode = "" || r.filtrationMode = forwardMigrationFilter
      || r.filtrationMode = noFilter) = true ↔ r.filtrationMode = "" ∨
        r.filtrationMode = "forward_migration" ∨ r.filtrationMode = "none" := by
    rw [Bool.or_eq_true, Bool.or_eq_true, decide_eq_true_eq, decide_eq_true_eq, decide_eq_true_eq,
      or_assoc]
    rfl
  iterate 5 refine .single decide_eq_true_iff rfl ?_
  exact .single hsource rfl <| .single hdirectory rfl <| .single hfilter rfl <| decides_sharding r

/-- A request has no violation exactly if it meets all requirements. -/
theorem violation?_eq_none_iff {r : JobRequest} :
    r.violation? = none ↔ ∀ c ∈ requirements, c.Holds r :=
  (decides_checks r).firstFault?_eq_none_iff

/-! ## What an accepted request meets -/

section accepted

variable {r : JobRequest} (h : r.violation? = none)

include h

/-- An accepted request names its instance. -/
theorem instanceId_of_accepted : r.instanceId ≠ "" :=
  violation?_eq_none_iff.1 h requirements[0] (List.getElem_mem _)

/-- An accepted request names its project. -/
theorem projectId_of_accepted : r.projectId ≠ "" :=
  violation?_eq_none_iff.1 h requirements[4] (List.getElem_mem _)

/-- The data directory of an accepted request is hosted, if there is one. -/
theorem gcsDataDirectory_of_accepted : r.gcsDataDirectory = "" ∨ UnderScheme r.gcsDataDirectory :=
  violation?_eq_none_iff.1 h requirements[6] (List.getElem_mem _)

/-- An accepted request has both a jar and a class for sharding, with a hosted jar, or it has
none. -/
theorem sharding_of_accepted :
    (r.shardingCustomJarPath = "" ∧ r.shardingCustomClassName = "") ∨
      (r.shardingCustomJarPath ≠ "" ∧ r.shardingCustomClassName ≠ "" ∧
        UnderScheme r.shardingCustomJarPath) :=
  violation?_eq_none_iff.1 h requirements[8] (List.getElem_mem _)

end accepted

/-! ## Acceptance -/

/-- A request is accepted if it meets all requirements. Otherwise it is refused with a violation of
the field that the first requirement it fails names. -/
theorem normalize_decides (r : JobRequest) (run : RunId) :
    ((∃ n, r.normalize run = .ok n) ↔ ∀ c ∈ requirements, c.Holds r) ∧
      ∀ field, (∃ v, r.normalize run = .error v ∧ v.field = field) ↔
        r.FirstFailed requirements field := by
  have hnamed := (decides_checks r).firstFault?_eq_some_iff
  change ∀ field, (∃ v, r.violation? = some v ∧ v.field = field) ↔ _ at hnamed
  rw [← violation?_eq_none_iff]
  unfold normalize
  cases hviolation : r.violation? with
  | none =>
    rw [hviolation] at hnamed
    refine ⟨⟨fun _ => rfl, fun _ => ⟨_, rfl⟩⟩, fun field => ?_⟩
    rw [← hnamed]
    constructor <;> rintro ⟨v, hv, -⟩ <;> cases hv
  | some v =>
    rw [hviolation] at hnamed
    constructor
    · constructor
      · rintro ⟨n, hn⟩
        cases hn
      · intro hnone
        cases hnone
    · intro field
      rw [← hnamed]
      constructor
      · rintro ⟨v', hv', hfield⟩
        exact ⟨v', congrArg some (Except.error.inj hv'), hfield⟩
      · rintro ⟨v', hv', hfield⟩
        exact ⟨v', congrArg Except.error (Option.some.inj hv'), hfield⟩

end JobRequest

end ReverseReplication
