import ReverseReplication.Proofs.Dependence.Saga
import ReverseReplication.Proofs.Events
import ReverseReplication.Proofs.Request

/-!
# The phases of a run

A saga goes forward until an activity fails, and then back. What holds on the way forward, when an
activity has failed, and on the way back makes up its `Catalog.Phases`, if every activity keeps to
them. Then a saga ends in one of them (`Catalog.Phases.ensures_execute`), and this is the only
induction over the activities that a property of the outputs and the world needs.

A run begins with the look-up of the location of the instance, which is an event as well
(`JobRequest.ensures_provision_traced`).
-/

namespace ReverseReplication

variable {ω : Type}

namespace Catalog

/-- What holds while the saga of a run goes on, by the activities that are done, last first: on the
way forward, when an activity has failed, and on the way back. -/
structure Phases (c : Catalog) (R : Plan.Rule ω) (ctx : Context)
    (forward failed back : List ActivityKind → Outputs → ω → Prop) : Prop where
  /-- To look for a cancellation changes nothing. -/
  checked : ∀ {done o w seen w'}, R (.cancelled ctx.scope) w seen w' → forward done o w →
    forward done o w'
  /-- An activity that is not begun since the run is cancelled has failed. -/
  halted : ∀ {done k o w}, done.reverse ++ [k] <+: ActivityKind.all → forward done o w →
    failed done o w
  transacted : ∀ {done k o w}, done.reverse ++ [k] <+: ActivityKind.all → forward done o w →
    EnsuresFrom R ((c.activity k).transaction ctx) o w fun r o' w' => match r with
      | .ok _ => forward (k :: done) o' w'
      | .error _ => failed done o' w'
  turned : ∀ {done o w}, failed done o w → back done o w
  /-- The last activity is not undone, since none fails after it. -/
  compensated : ∀ {done k o w}, done.reverse ++ [k] <+: ActivityKind.all → k ≠ .finalizeJob →
    back (k :: done) o w →
    EnsuresFrom R ((c.activity k).compensation ctx.detach) o w fun _ o' w' => back done o' w'

namespace Phases

variable {c : Catalog} {R : Plan.Rule ω} {ctx : Context}
  {forward failed back : List ActivityKind → Outputs → ω → Prop} {done : List ActivityKind}
  {k : ActivityKind} {o : Outputs} {w : ω}

/-- Carrying out one activity, unless the run is cancelled. -/
theorem ensures_attempt (h : c.Phases R ctx forward failed back)
    (hnext : done.reverse ++ [k] <+: ActivityKind.all) (hnow : forward done o w) :
    EnsuresFrom R (Saga.attempt ctx (c.activity k)) o w fun r o' w' => match r with
      | .ok _ => forward (k :: done) o' w'
      | .error _ => failed done o' w' := by
  unfold Saga.attempt
  rw [EnsuresFrom.bind_iff, EnsuresFrom.isCancelled_iff]
  intro seen w' hanswer
  have hchecked := h.checked hanswer hnow
  cases seen with
  | true => exact h.halted hnext hchecked
  | false => exact h.transacted hnext hchecked

/-- Undoing the activities that are done. -/
theorem ensures_compensate (h : c.Phases R ctx forward failed back)
    (hdone : done.reverse <+: ActivityKind.all) (hlast : .finalizeJob ∉ done)
    (hnow : back done o w) :
    EnsuresFrom R (Saga.compensate ctx.detach (done.map c.activity)) o w
      fun _ o' w' => back [] o' w' := by
  induction done generalizing o w with
  | nil => exact hnow
  | cons k earlier ih =>
    rw [List.reverse_cons] at hdone
    have hk : k ≠ .finalizeJob := fun heq => hlast (heq ▸ List.mem_cons_self)
    have hearlier : .finalizeJob ∉ earlier := fun hmem => hlast (List.mem_cons_of_mem k hmem)
    rw [List.map_cons, Saga.compensate, EnsuresFrom.bind_iff]
    refine (h.compensated hdone hk hnow).mono ?_
    intro r o₁ w₁ hundone
    rw [EnsuresFrom.bind_iff]
    refine (ih ((List.prefix_append _ _).trans hdone) hearlier hundone).mono ?_
    intro failures o₂ w₂ hback
    cases r with
    | ok u => exact hback
    | error e => exact hback

/-- Carrying out the activities that are left. -/
theorem ensures_executeFrom (h : c.Phases R ctx forward failed back) (rollback : Bool)
    {rest : List ActivityKind} (hsplit : ActivityKind.all = done.reverse ++ rest)
    (hnow : forward done o w) :
    EnsuresFrom R (Saga.executeFrom rollback ctx (done.map c.activity) (rest.map c.activity)) o w
      fun r o' w' => match r with
        | .ok _ => forward ActivityKind.all.reverse o' w'
        | .error _ => if rollback then back [] o' w' else ∃ done, failed done o' w' := by
  -- `forward` holds between two activities. The one that fails turns it into `failed`, and
  -- from there `back` leads down to the first activity.
  induction rest generalizing done o w with
  | nil =>
    rw [hsplit, List.append_nil, List.reverse_reverse]
    exact hnow
  | cons k rest ih =>
    have hnext : done.reverse ++ [k] <+: ActivityKind.all :=
      ⟨rest, by rw [hsplit, List.append_assoc, List.singleton_append]⟩
    rw [List.map_cons]
    refine ensuresFrom_executeFrom ((h.ensures_attempt hnext hnow).mono ?_)
    rintro (cause | u) o₁ w₁ hends
    · cases rollback with
      | false => exact ⟨done, hends⟩
      | true =>
        have hlast : .finalizeJob ∉ done := by
          rw [ActivityKind.mem_iff_of_prefix hnext]
          cases k <;> decide
        exact h.ensures_compensate ((List.prefix_append _ _).trans hnext) hlast (h.turned hends)
    · refine ih ?_ hends
      rw [hsplit, List.reverse_cons, List.append_assoc, List.singleton_append]

/-- A saga ends in one of its phases. -/
theorem ensures_execute (h : c.Phases R ctx forward failed back) (rollback : Bool)
    (hbegun : forward [] {} w) :
    EnsuresFrom R (Saga.execute rollback ctx c.activities) {} w fun r o' w' => match r with
      | .ok _ => forward ActivityKind.all.reverse o' w'
      | .error _ => if rollback then back [] o' w' else ∃ done, failed done o' w' :=
  h.ensures_executeFrom rollback rfl hbegun

end Phases

end Catalog

/-! ## Runs with a trace -/

/-- A run ensures what its saga ensures after the event of the look-up. If there is no saga, no
other event has happened, if any. -/
theorem JobRequest.ensures_provision_traced {hz : Hazards} {files : FileSystem} {r : JobRequest}
    {run : RunId} {rollback : Bool} {settings : Settings} {startedAt : Instant} {t : Trace}
    {post : Except RunError Provisioned → Trace → Prop}
    (invalid : ∀ v, post (.error (.request (.invalid v))) t)
    (refused : ∀ e reply, post (.error (.request e))
      (t.push (.call (.leaderLocation (r.fill run).targetInstance)) reply t.now))
    (located : ∀ location reply, r.Located run t.now location →
      EnsuresFrom (hz.rule files).traced (r.saga run rollback settings startedAt location) {}
        (t.push (.call (.leaderLocation (r.fill run).targetInstance)) reply t.now)
        fun result o t' => post (r.answer run location result o) t') :
    (r.provision run rollback settings startedAt).Ensures (hz.rule files).traced t post := by
  apply ensures_provision
  · intro v _
    exact invalid v
  · rintro hvalid reply t' ⟨hanswer, hpush⟩
    obtain ⟨hsame, hfound, -⟩ := checkLocation_cases hvalid hanswer
    rw [hsame] at hpush
    rw [hpush]
    constructor
    · intro e _
      exact refused e reply
    · intro location hlocation
      exact located location reply (hfound location hlocation)

end ReverseReplication
