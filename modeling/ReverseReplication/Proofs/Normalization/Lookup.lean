import ReverseReplication.Proofs.Normalization.Acceptance
import ReverseReplication.Provision.Run
import ReverseReplication.World

/-!
# Looking up where an instance is

A request is located by one look-up, and only if it is accepted. What the look-up is answered is
stated here without the managers' code (`Managers.leaderLocation`): an instance has a location of
its own, or else the default one. The request is located exactly if the answer holds something
besides blanks, which is kept as it is.

Otherwise the run of the request fails with the same error, and the look-up, if it came to that, is
all that the managers have been asked (`World.locate_touches_nothing`).
-/

namespace ReverseReplication

/-- What a look-up of an instance's location is answered: the error that it is made to fail with, or
else the location of the instance, or else the default one. -/
def Managers.leaderLocation (m : Managers) (uri : String) : Except ManagerError String :=
  match (m.probe.count .leaderLocation).failure? .leaderLocation with
  | some e => .error e
  | none =>
    match m.inventory.locations.get? uri, m.inventory.defaultLocation with
    | some location, _ => .ok location
    | none, some location => .ok location
    | none, none => .error (.notFound uri)

namespace World

/-- Between the two worlds the managers have answered `n` look-ups and no other call, and nothing
else has changed. -/
structure LookedUp (n : Nat) (w w' : World) : Prop where
  inventory : w'.managers.inventory = w.managers.inventory
  lookups : w'.managers.probe.counts .leaderLocation =
    w.managers.probe.counts .leaderLocation + n
  others : ∀ op, op ≠ .leaderLocation →
    w'.managers.probe.counts op = w.managers.probe.counts op
  failures : w'.managers.probe.failures = w.managers.probe.failures
  files : w'.files = w.files
  cancelled : w'.cancelled = w.cancelled

/-- The world after one look-up. -/
def afterLookup (w : World) : World :=
  { w with managers := { w.managers with probe := w.managers.probe.count .leaderLocation } }

/-- Nothing is looked up at first. -/
theorem lookedUp_refl (w : World) : w.LookedUp 0 w := ⟨rfl, rfl, fun _ _ => rfl, rfl, rfl, rfl⟩

/-- A lookup counts as one, and changes nothing else. -/
theorem lookedUp_afterLookup (w : World) : w.LookedUp 1 w.afterLookup where
  inventory := rfl
  lookups := by simp [afterLookup, Probe.count]
  others := fun _ hother => if_neg hother
  failures := rfl
  files := rfl
  cancelled := rfl

/-- The location is the one that the managers report. -/
theorem perform_leaderLocation (w : World) (uri : String) :
    w.perform (.leaderLocation uri) = (w.managers.leaderLocation uri, w.afterLookup) := by
  unfold perform Managers.perform Managers.leaderLocation
  simp only [Call.operation]
  cases (w.managers.probe.count .leaderLocation).failure? .leaderLocation with
  | some e => rfl
  | none =>
    simp only [Inventory.perform, Inventory.location?]
    cases w.managers.inventory.locations.get? uri with
    | some location => rfl
    | none =>
      cases w.managers.inventory.defaultLocation with
      | some location => rfl
      | none => rfl

variable {w : World} {r : JobRequest} {run : RunId}

/-! ## Locating a request -/

/-- A request that is refused ends without a lookup. -/
theorem run_locate_of_refused {v : Violation} (h : r.normalize run = .error v) (w : World) :
    (r.locate run).run answer w = (.error (.invalid v), w) := by
  unfold JobRequest.locate
  rw [h]
  rfl

/-- A request that is accepted is looked up once, and the answer is checked. -/
theorem run_locate_of_accepted {n : NormalizedRequest} (h : r.normalize run = .ok n) (w : World) :
    (r.locate run).run answer w =
      ((checkLocation n.targetInstance (w.managers.leaderLocation n.targetInstance)).map
        fun location => { n with location }, w.afterLookup) := by
  unfold JobRequest.locate
  rw [h]
  dsimp only
  rw [Plan.run_bind, Plan.run_query, answer, perform_leaderLocation, Plan.run_pure]

/-- Filling a request leaves its instance alone. -/
theorem targetInstance_of_accepted {n : NormalizedRequest} (h : r.normalize run = .ok n) :
    n.targetInstance = "projects/" ++ r.projectId ++ "/instances/" ++ r.instanceId := by
  obtain ⟨-, rfl⟩ := JobRequest.normalize_eq_ok_iff.1 h
  rfl

/-- A request that is not located ends its run. -/
theorem run_provision_of_refused {e : RequestError} {w' : World}
    (h : (r.locate run).run answer w = (.error e, w')) (rollback : Bool) (settings : Settings)
    (startedAt : Instant) :
    (r.provision run rollback settings startedAt).run answer w = (.error (.request e), w') := by
  unfold JobRequest.provision
  rw [Plan.run_bind, h]
  rfl

end World

/-! ## Results -/

section results

variable {α β ε : Type} {f : α → β} {x : Except ε α}

/-- A mapped result is a success exactly if the result is one. -/
theorem map_eq_ok_iff {b : β} : x.map f = .ok b ↔ ∃ a, x = .ok a ∧ f a = b := by
  cases x <;> simp [Except.map]

/-- A mapped result fails exactly if the result does, with the same error. -/
theorem map_eq_error_iff {e : ε} : x.map f = .error e ↔ x = .error e := by
  cases x <;> simp [Except.map]

/-- Two steps succeed exactly if the first does and then the second. -/
theorem bind_eq_ok_iff {g : α → Except ε β} {b : β} :
    x >>= g = .ok b ↔ ∃ a, x = .ok a ∧ g a = .ok b := by
  cases x with
  | error e => exact ⟨nofun, nofun⟩
  | ok a =>
    constructor
    · exact fun h => ⟨a, rfl, h⟩
    · rintro ⟨_, ha, h⟩
      cases ha
      exact h

end results

/-! ## The answer -/

/-- A text is not blank exactly if one of its characters is not. -/
theorem not_isAllBlank_iff {location : String} :
    Text.isAllBlank location = false ↔ ∃ c ∈ location.toList, Text.isBlank c = false := by
  rw [Text.isAllBlank, List.all_eq_false]
  simp only [Bool.not_eq_true]

/-- A location is accepted exactly if it was reported and is not blank. -/
theorem checkLocation_eq_ok_iff {uri location : String} {answer : Except ManagerError String} :
    checkLocation uri answer = .ok location ↔
      answer = .ok location ∧ ∃ c ∈ location.toList, Text.isBlank c = false := by
  unfold checkLocation
  rw [← not_isAllBlank_iff]
  cases answer with
  | error cause => exact ⟨nofun, nofun⟩
  | ok found =>
    dsimp only
    split
    next hblank =>
      refine ⟨nofun, ?_⟩
      rintro ⟨hfound, hshown⟩
      cases hfound
      rw [hblank] at hshown
      cases hshown
    next hshown =>
      rw [Bool.not_eq_true] at hshown
      constructor
      · intro hfound
        cases hfound
        exact ⟨rfl, hshown⟩
      · rintro ⟨hfound, -⟩
        cases hfound
        rfl

/-- It is refused exactly if the lookup has failed or has reported a blank one. -/
theorem checkLocation_eq_error_iff {uri : String} {answer : Except ManagerError String}
    {e : RequestError} :
    checkLocation uri answer = .error e ↔ ∃ cause, e = .lookup uri cause ∧
      (answer = .error cause ∨ ∃ location, answer = .ok location ∧
        (∀ c ∈ location.toList, Text.isBlank c = true) ∧
        cause = .invalidState ("instance " ++ uri ++ " reported no leader location")) := by
  unfold checkLocation
  cases answer with
  | error cause =>
    constructor
    · intro he
      cases he
      exact ⟨cause, rfl, .inl rfl⟩
    · rintro ⟨cause', rfl, hcause | ⟨location, hlocation, -⟩⟩
      · cases hcause
        rfl
      · cases hlocation
  | ok found =>
    dsimp only
    split
    next hblank =>
      constructor
      · intro he
        cases he
        exact ⟨_, rfl, .inr ⟨found, rfl, List.all_eq_true.1 hblank, rfl⟩⟩
      · rintro ⟨cause, rfl, hcause | ⟨location, -, -, rfl⟩⟩
        · cases hcause
        · rfl
    next hshown =>
      refine ⟨nofun, ?_⟩
      rintro ⟨cause, -, hcause | ⟨location, hlocation, hblank, -⟩⟩
      · cases hcause
      · cases hlocation
        exact absurd (List.all_eq_true.2 hblank) hshown

/-- A located request has a project and a location, wherever it is located. -/
theorem JobRequest.placed_of_located {ω : Type} {handler : Plan.Handler ω} {w : ω} {r : JobRequest}
    {run : RunId} {n : NormalizedRequest} (h : ((r.locate run).run handler w).1 = .ok n) :
    n.request.projectId ≠ "" ∧ n.location ≠ "" := by
  unfold locate at h
  cases hnormal : r.normalize run with
  | error violation =>
    rw [hnormal] at h
    cases h
  | ok v =>
    obtain ⟨hvalid, rfl⟩ := normalize_eq_ok_iff.1 hnormal
    rw [hnormal] at h
    dsimp only at h
    rw [Plan.run_bind, Plan.run_pure, map_eq_ok_iff] at h
    obtain ⟨location, hlocation, rfl⟩ := h
    obtain ⟨-, c, hc, -⟩ := checkLocation_eq_ok_iff.1 hlocation
    have hproject : r.projectId ≠ "" := projectId_of_accepted hvalid
    refine ⟨hproject, ?_⟩
    rintro (rfl : location = "")
    cases hc

namespace World

/-- A request is located if it is accepted and its instance's location holds something besides
blanks. Otherwise the request is refused for its own fault without any look-up, or for that of the
one look-up, and its run is refused for the same fault and touches nothing. -/
theorem locate_touches_nothing (w : World) (r : JobRequest) (run : RunId) (rollback : Bool)
    (settings : Settings) (startedAt : Instant) :
    let uri := "projects/" ++ r.projectId ++ "/instances/" ++ r.instanceId
    let located := (r.locate run).run answer w
    let ended := (r.provision run rollback settings startedAt).run answer w
    (∀ n, located.1 = .ok n ↔ ∃ v location, r.normalize run = .ok v ∧
      w.managers.leaderLocation uri = .ok location ∧
      (∃ c ∈ location.toList, Text.isBlank c = false) ∧ n = { v with location }) ∧
    (∀ violation, located.1 = .error (.invalid violation) ↔ r.normalize run = .error violation) ∧
    (∀ uri' cause, located.1 = .error (.lookup uri' cause) ↔
      (∃ v, r.normalize run = .ok v) ∧ uri' = uri ∧
        (w.managers.leaderLocation uri = .error cause ∨
          ∃ location, w.managers.leaderLocation uri = .ok location ∧
            (∀ c ∈ location.toList, Text.isBlank c = true) ∧
            cause = .invalidState ("instance " ++ uri ++ " reported no leader location"))) ∧
    (∀ violation, r.normalize run = .error violation → w.LookedUp 0 located.2) ∧
    (∀ v, r.normalize run = .ok v → w.LookedUp 1 located.2) ∧
    ∀ e, located.1 = .error e → ended = (.error (.request e), located.2) := by
  intro uri located ended
  have hended : ∀ e, located.1 = .error e → ended = (.error (.request e), located.2) := by
    intro e he
    exact run_provision_of_refused (Prod.ext he rfl) rollback settings startedAt
  cases hnormal : r.normalize run with
  | error violation =>
    have hlocated : located = (.error (.invalid violation), w) := run_locate_of_refused hnormal w
    refine ⟨?_, ?_, ?_, ?_, nofun, hended⟩
    · simp [hlocated]
    · simp [hlocated]
    · simp [hlocated]
    · intro _ _
      rw [hlocated]
      exact w.lookedUp_refl
  | ok v =>
    have hlocated : located = ((checkLocation uri (w.managers.leaderLocation uri)).map
        fun location => { v with location }, w.afterLookup) := by
      have hfound := run_locate_of_accepted hnormal w
      rwa [targetInstance_of_accepted hnormal] at hfound
    refine ⟨?_, ?_, ?_, nofun, ?_, hended⟩
    · intro n
      rw [hlocated, map_eq_ok_iff]
      simp only [checkLocation_eq_ok_iff]
      constructor
      · rintro ⟨location, ⟨hfound, hshown⟩, rfl⟩
        exact ⟨v, location, rfl, hfound, hshown, rfl⟩
      · rintro ⟨v', location, hv', hfound, hshown, rfl⟩
        cases hv'
        exact ⟨location, ⟨hfound, hshown⟩, rfl⟩
    · intro violation
      rw [hlocated, map_eq_error_iff, checkLocation_eq_error_iff]
      simp
    · intro uri' cause
      rw [hlocated, map_eq_error_iff, checkLocation_eq_error_iff]
      constructor
      · rintro ⟨cause', he, hcause⟩
        cases he
        exact ⟨⟨v, rfl⟩, rfl, hcause⟩
      · rintro ⟨-, rfl, hcause⟩
        exact ⟨cause, rfl, hcause⟩
    · intro _ _
      rw [hlocated]
      exact w.lookedUp_afterLookup

end World

end ReverseReplication
