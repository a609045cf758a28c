import ReverseReplication.Proofs.Tuning.Verdict

/-!
# Which consistent tunings are accepted

The two counts of workers are filled one by one, and compared with each other only when a launch is
made. So a caller who sets one of them is held to the default of the other: a number of workers may
be above the default bound, and a bound may be below the default number. A tuning that fits together
as far as the caller has set it is refused for nothing else (`Launch.make_resolve_of_consistent`).
-/

namespace ReverseReplication

namespace Tuning

/-! ## Consistency -/

/-- What the caller has set fits together. -/
structure Consistent (t : Tuning) : Prop where
  numWorkers_nonneg : 0 ≤ t.numWorkers
  maxWorkers_nonneg : 0 ≤ t.maxWorkers
  bounded : t.numWorkers ≠ 0 → t.maxWorkers ≠ 0 → t.numWorkers ≤ t.maxWorkers
  hosted : t.vpcHostProjectId = "" ∨ t.network ≠ "" ∨ t.subnetwork ≠ ""

/-- The default number of workers is positive and within the default bound. -/
structure Defaults.Ordered (d : Defaults) : Prop where
  numWorkers_pos : 0 < d.numWorkers
  bounded : d.numWorkers ≤ d.maxWorkers

/-- The reader's defaults are in order. -/
theorem Defaults.ordered_reader (templatePath : String) : (reader templatePath).Ordered where
  numWorkers_pos := show (0 : Int32) < 5 by decide
  bounded := show (5 : Int32) ≤ 50 by decide

/-- The writer's defaults are in order. -/
theorem Defaults.ordered_writer (templatePath : String) : (writer templatePath).Ordered where
  numWorkers_pos := show (0 : Int32) < 1 by decide
  bounded := show (1 : Int32) ≤ 50 by decide

/-- Only the number of workers is set, and it is above the default bound. -/
def AboveDefault (t : Tuning) (d : Defaults) : Prop :=
  t.maxWorkers = 0 ∧ d.maxWorkers < t.numWorkers

/-- Only the bound is set, and it is below the default number of workers. -/
def BelowDefault (t : Tuning) (d : Defaults) : Prop :=
  t.numWorkers = 0 ∧ t.maxWorkers ≠ 0 ∧ t.maxWorkers < d.numWorkers

instance (t : Tuning) (d : Defaults) : Decidable (t.AboveDefault d) :=
  inferInstanceAs (Decidable (_ ∧ _))

instance (t : Tuning) (d : Defaults) : Decidable (t.BelowDefault d) :=
  inferInstanceAs (Decidable (_ ∧ _))

/-- No bound is below a default number of one. -/
theorem Consistent.not_belowDefault_writer {t : Tuning} (ht : t.Consistent)
    (templatePath : String) : ¬t.BelowDefault (.writer templatePath) := by
  rintro ⟨-, hset, hbelow⟩
  have hnonneg := ht.maxWorkers_nonneg
  change t.maxWorkers < 1 at hbelow
  rw [ne_eq, ← Int32.toInt_inj] at hset
  simp only [Int32.lt_iff_toInt_lt, Int32.le_iff_toInt_le] at hbelow hnonneg
  simp at hset hbelow hnonneg
  omega

end Tuning

namespace Launch

variable {t : Tuning} {d : Tuning.Defaults} {projectId location : String}

/-- A consistent tuning leaves no bound dangling. -/
theorem not_dangling_of_consistent (ht : t.Consistent) : ¬Dangling t := by
  rintro ⟨hhost, hnetwork, hsubnetwork⟩
  rcases ht.hosted with h | h | h
  · exact hhost h
  · exact h hnetwork
  · exact h hsubnetwork

/-! ## Counts -/

/-- A number of workers above the default bound exceeds that bound. -/
theorem overbooked_of_aboveDefault (hd : d.Ordered) (h : t.AboveDefault d) :
    Overbooked t d ∧ workers t d = (t.numWorkers, d.maxWorkers) := by
  obtain ⟨hmax, habove⟩ := h
  have hpos := hd.numWorkers_pos
  have hbounded := hd.bounded
  have hset : t.numWorkers ≠ 0 := by
    intro hunset
    rw [hunset] at habove
    simp only [Int32.lt_iff_toInt_lt, Int32.le_iff_toInt_le] at hpos hbounded habove
    omega
  have hworkers : workers t d = (t.numWorkers, d.maxWorkers) := by simp [workers, hmax, hset]
  refine ⟨?_, hworkers⟩
  rw [Overbooked, hworkers]
  simp only [Int32.lt_iff_toInt_lt, Int32.le_iff_toInt_le] at hpos hbounded habove ⊢
  omega

/-- A bound below the default number of workers is exceeded by it. -/
theorem overbooked_of_belowDefault (ht : t.Consistent) (h : t.BelowDefault d) :
    Overbooked t d ∧ workers t d = (d.numWorkers, t.maxWorkers) := by
  obtain ⟨hnum, hset, hbelow⟩ := h
  have hnonneg := ht.maxWorkers_nonneg
  have hworkers : workers t d = (d.numWorkers, t.maxWorkers) := by simp [workers, hnum, hset]
  refine ⟨?_, hworkers⟩
  rw [Overbooked, hworkers]
  rw [ne_eq, ← Int32.toInt_inj] at hset
  simp only [Int32.lt_iff_toInt_lt, Int32.le_iff_toInt_le] at hnonneg hbelow ⊢
  simp at hset hnonneg ⊢
  omega

/-- In no other way can a bound be exceeded by a number that fits to it as far as both are set. -/
theorem not_overbooked_of_consistent (ht : t.Consistent) (hd : d.Ordered)
    (habove : ¬t.AboveDefault d) (hbelow : ¬t.BelowDefault d) : ¬Overbooked t d := by
  rintro ⟨-, hexceeded⟩
  unfold workers at hexceeded
  by_cases hnum : t.numWorkers = 0 <;> by_cases hmax : t.maxWorkers = 0
  · simp only [hnum, hmax, if_true] at hexceeded
    exact absurd hd.bounded (Int32.not_le.2 hexceeded)
  · simp only [hnum, hmax, if_true, if_false] at hexceeded
    exact hbelow ⟨hnum, hmax, hexceeded⟩
  · simp only [hnum, hmax, if_true, if_false] at hexceeded
    exact habove ⟨hmax, hexceeded⟩
  · simp only [hnum, hmax, if_false] at hexceeded
    exact absurd (ht.bounded hnum hmax) (Int32.not_le.2 hexceeded)

/-! ## Launches -/

/-- What making a launch of a consistent tuning comes to, once it is completed. -/
theorem make_resolve_of_ordered (ht : t.Consistent) (hd : d.Ordered)
    (htemplate : d.templatePath ≠ "") (hproject : projectId ≠ "") (hlocation : location ≠ "")
    (label suffix : String) (parameters : Parameters) :
    make parameters (t.resolve d projectId location label suffix) =
      if t.AboveDefault d then .error (.workerBounds t.numWorkers d.maxWorkers)
      else if t.BelowDefault d then .error (.workerBounds d.numWorkers t.maxWorkers)
      else .ok (ofTuning parameters (t.resolve d projectId location label suffix)) := by
  have hverdict := verdict_resolve htemplate hproject hlocation t label suffix parameters
  split
  next habove => exact (hverdict.overbooked _ _).2 (overbooked_of_aboveDefault hd habove)
  next habove =>
    split
    next hbelow => exact (hverdict.overbooked _ _).2 (overbooked_of_belowDefault ht hbelow)
    next hbelow =>
      obtain ⟨l, hl⟩ := hverdict.accepted.2
        ⟨not_overbooked_of_consistent ht hd habove hbelow, not_dangling_of_consistent ht⟩
      have hmade := hl
      unfold make at hmade
      split at hmade
      next => cases hmade
      next => rw [hl, ← hmade]

/-- A consistent tuning makes a launch once it is completed, unless only the number of workers is
set and is above 50, or, for the reader, only the bound is set and is below 5. -/
theorem make_resolve_of_consistent {templatePath : String} (ht : t.Consistent)
    (htemplate : templatePath ≠ "") (hproject : projectId ≠ "") (hlocation : location ≠ "")
    (label suffix : String) (parameters : Parameters) :
    let reader := t.resolve (.reader templatePath) projectId location label suffix
    let writer := t.resolve (.writer templatePath) projectId location label suffix
    (make parameters reader =
      if t.maxWorkers = 0 ∧ 50 < t.numWorkers then .error (.workerBounds t.numWorkers 50)
      else if t.numWorkers = 0 ∧ t.maxWorkers ≠ 0 ∧ t.maxWorkers < 5 then
        .error (.workerBounds 5 t.maxWorkers)
      else .ok (ofTuning parameters reader)) ∧
    make parameters writer =
      if t.maxWorkers = 0 ∧ 50 < t.numWorkers then .error (.workerBounds t.numWorkers 50)
      else .ok (ofTuning parameters writer) := by
  have hreader := Tuning.Defaults.ordered_reader templatePath
  have hwriter := Tuning.Defaults.ordered_writer templatePath
  intro reader writer
  constructor
  · exact make_resolve_of_ordered ht hreader htemplate hproject hlocation label suffix parameters
  · have hmade := make_resolve_of_ordered ht hwriter htemplate hproject hlocation label suffix
      parameters
    rw [if_neg (ht.not_belowDefault_writer templatePath)] at hmade
    exact hmade

/-- A number that is set without a bound, and is within the default bound. -/
theorem make_resolve_of_consistent_of_numbered :
    let t : Tuning := { numWorkers := 50, vpcHostProjectId := "host", network := "net" }
    let completed := t.resolve (.reader "gs://templates/reader") "p1" "us-central1" "job" "r1"
    t.Consistent ∧ "gs://templates/reader" ≠ "" ∧ "p1" ≠ "" ∧ "us-central1" ≠ "" ∧
      ∃ l, make .empty completed = .ok l ∧
        l.environment.numWorkers = 50 ∧ l.environment.maxWorkers = 50 := by
  intro t completed
  have ht : t.Consistent :=
    ⟨by decide, by decide, fun _ hmax => absurd rfl hmax, .inr (.inl (by decide))⟩
  have htemplate : "gs://templates/reader" ≠ "" := by decide
  have hproject : "p1" ≠ "" := by decide
  have hlocation : "us-central1" ≠ "" := by decide
  have hmade := (make_resolve_of_consistent ht htemplate hproject hlocation "job" "r1" .empty).1
  exact ⟨ht, htemplate, hproject, hlocation, _, hmade, rfl, rfl⟩

/-- Tunings that fit together as far as they are set, and are refused once they are completed: a
bound of three is below the five workers that a reader is given, and sixty workers are above the
bound that both pipelines are given. -/
theorem not_make_resolve_of_consistent :
    let bounded : Tuning := { maxWorkers := 3 }
    let numbered : Tuning := { numWorkers := 60 }
    let reader : Tuning.Defaults := .reader "gs://templates/reader"
    let writer : Tuning.Defaults := .writer "gs://templates/writer"
    bounded.Consistent ∧ numbered.Consistent ∧
      make .empty (bounded.resolve reader "p1" "us-central1" "job" "r1") =
        .error (.workerBounds 5 3) ∧
      make .empty (numbered.resolve reader "p1" "us-central1" "job" "r1") =
        .error (.workerBounds 60 50) ∧
      make .empty (numbered.resolve writer "p1" "us-central1" "job" "w1") =
        .error (.workerBounds 60 50) := by
  intro bounded numbered reader writer
  have hbounded : bounded.Consistent :=
    ⟨by decide, by decide, fun hnum => absurd rfl hnum, .inl rfl⟩
  have hnumbered : numbered.Consistent :=
    ⟨by decide, by decide, fun _ hmax => absurd rfl hmax, .inl rfl⟩
  exact ⟨hbounded, hnumbered, rfl, rfl, rfl⟩

end Launch

end ReverseReplication
