import ReverseReplication.Proofs.Calls
import ReverseReplication.Provision.Run

/-!
# From the saga of a run to the run

A run checks its request, looks up the location of the instance, carries out its saga and answers.
So what is to be shown of a run comes down to its saga (`JobRequest.ensures_provision`), which is
given the request at its location (`JobRequest.fillAt`). Under hazards, a run gets as far as its
saga if the request is `JobRequest.Located`, unless the look-up is made to fail.
-/

namespace ReverseReplication

namespace JobRequest

/-- The request as the activities of its run are given it. -/
def fillAt (r : JobRequest) (run : RunId) (location : String) : NormalizedRequest :=
  { r.fill run with location }

/-- The request is in order, and its instance is at a location. -/
structure Located (r : JobRequest) (run : RunId) (inv : Inventory) (location : String) : Prop where
  valid : r.violation? = none
  found : inv.location? (r.fill run).targetInstance = some location
  present : Text.isAllBlank location = false

variable {r : JobRequest} {run : RunId} {rollback : Bool} {settings : Settings}
  {startedAt : Instant} {location location' : String}

/-- A request is located in one place only. -/
theorem Located.unique {inv : Inventory} (h : r.Located run inv location)
    (h' : r.Located run inv location') : location = location' := by
  have hfound := h.found
  rw [h'.found] at hfound
  exact (Option.some.inj hfound).symm

/-- There is one location at most. -/
theorem exists_location (r : JobRequest) (run : RunId) (inv : Inventory) :
    ∃ location, ∀ found, r.Located run inv found → found = location := by
  by_cases hlocated : ∃ location, r.Located run inv location
  · obtain ⟨location, hlocated⟩ := hlocated
    exact ⟨location, fun _ hfound => hfound.unique hlocated⟩
  · exact ⟨"", fun found hfound => absurd ⟨found, hfound⟩ hlocated⟩

/-- Only where instances are matters. -/
theorem Located.congr {inv inv' : Inventory} (h : r.Located run inv location)
    (hdefault : inv'.defaultLocation = inv.defaultLocation)
    (hlocations : inv'.locations = inv.locations) : r.Located run inv' location where
  valid := h.valid
  found := by
    rw [Inventory.location?, hdefault, hlocations]
    exact h.found
  present := h.present

/-- The saga of a run. -/
def saga (r : JobRequest) (run : RunId) (rollback : Bool) (settings : Settings)
    (startedAt : Instant) (location : String) : Catalog.Run (Except SagaError Nat) :=
  Saga.execute rollback ⟨run, startedAt, .cancellable⟩
    ((r.fillAt run location).catalog settings).activities

/-- What a run answers when its saga has ended. -/
def answer (r : JobRequest) (run : RunId) (location : String) (result : Except SagaError Nat)
    (o : Outputs) : Except RunError Provisioned :=
  (result.map ((r.fillAt run location).provisioned o)).mapError .saga

/-- A run ensures what its saga ensures. -/
theorem ensures_provision {ω : Type} {R : Plan.Rule ω} {w : ω}
    {post : Except RunError Provisioned → ω → Prop}
    (invalid : ∀ v, r.violation? = some v → post (.error (.request (.invalid v))) w)
    (asked : r.violation? = none → ∀ reply w',
      R (.call (.leaderLocation (r.fill run).targetInstance)) w reply w' →
      (∀ e, checkLocation (r.fill run).targetInstance reply = .error e →
        post (.error (.request e)) w') ∧
      ∀ location, checkLocation (r.fill run).targetInstance reply = .ok location →
        EnsuresFrom R (r.saga run rollback settings startedAt location) {} w'
          fun result o w'' => post (r.answer run location result o) w'') :
    (r.provision run rollback settings startedAt).Ensures R w post := by
  unfold provision
  rw [Plan.ensures_bind]
  unfold locate normalize
  cases hviolation : r.violation? with
  | some v => exact invalid v hviolation
  | none =>
    dsimp only
    rw [Plan.ensures_bind, Plan.ensures_query]
    intro reply w' hreply
    rw [Plan.ensures_pure]
    obtain ⟨refused, located⟩ := asked hviolation reply w' hreply
    cases hlocation : checkLocation (r.fill run).targetInstance reply with
    | error e => exact refused e hlocation
    | ok location =>
      have hsaga := located location hlocation
      unfold EnsuresFrom saga at hsaga
      dsimp only [Except.map]
      rw [Plan.ensures_bind]
      unfold NormalizedRequest.provision
      rw [Plan.ensures_bind]
      exact hsaga

/-- What a look-up yields where it is not made to fail: it finds the location of the instance, and
it fails only if there is none. -/
theorem checkLocation_cases {hz : Hazards} {inv inv' : Inventory}
    {reply : Except ManagerError String} (hvalid : r.violation? = none)
    (hreply : hz.Replies inv (Call.leaderLocation (r.fill run).targetInstance) reply inv') :
    inv' = inv ∧
      (∀ location, checkLocation (r.fill run).targetInstance reply = .ok location →
        r.Located run inv location) ∧
      ∀ e, checkLocation (r.fill run).targetInstance reply = .error e →
        (∀ location, ¬r.Located run inv location) ∨ ∃ cause, hz.fails .leaderLocation cause := by
  rcases Hazards.Replies.cases hreply with ⟨cause, hdenied, rfl, rfl⟩ | ⟨found, hperformed, rfl⟩
  · refine ⟨rfl, fun location hlocation => ?_, fun e _ => ?_⟩
    · cases hlocation
    · rcases hdenied with hfails | hrefused
      · exact .inr ⟨cause, hfails⟩
      · refine .inl fun location hlocated => ?_
        simp only [Inventory.perform, hlocated.found] at hrefused
        cases hrefused
  · cases hperformed with
    | leaderLocation hfound =>
      refine ⟨rfl, fun location hlocation => ?_,
        fun e hlocation => .inl fun location hlocated => ?_⟩
      all_goals
        unfold checkLocation at hlocation
        dsimp only at hlocation
        split at hlocation
      · cases hlocation
      · next hpresent =>
        cases hlocation
        exact ⟨hvalid, hfound, Bool.eq_false_iff.2 hpresent⟩
      · next hblank =>
        rw [hlocated.found] at hfound
        cases hfound
        rw [hlocated.present] at hblank
        cases hblank
      · cases hlocation

/-- Under hazards, a run ensures what its saga ensures, at the location of the instance. -/
theorem ensures_provision_of_located {hz : Hazards} {files : FileSystem} {inv : Inventory}
    {post : Except RunError Provisioned → Inventory → Prop}
    (refused : (∀ location, ¬r.Located run inv location) ∨
      (∃ cause, hz.fails .leaderLocation cause) → ∀ e, post (.error (.request e)) inv)
    (located : ∀ location, r.Located run inv location →
      EnsuresFrom (hz.rule files) (r.saga run rollback settings startedAt location) {} inv
        fun result o inv' => post (r.answer run location result o) inv') :
    (r.provision run rollback settings startedAt).Ensures (hz.rule files) inv post := by
  apply ensures_provision
  · intro v hviolation
    refine refused (.inl fun location hlocated => ?_) _
    rw [hlocated.valid] at hviolation
    cases hviolation
  · intro hvalid reply inv' hreply
    obtain ⟨rfl, hfound, hmissing⟩ := checkLocation_cases hvalid hreply
    constructor
    · intro e hlocation
      exact refused (hmissing e hlocation) e
    · intro location hlocation
      exact located location (hfound location hlocation)

end JobRequest

end ReverseReplication
