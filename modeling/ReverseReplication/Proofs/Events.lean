import ReverseReplication.Proofs.Calls
import ReverseReplication.Proofs.Dependence.History

/-!
# The events of a run

An `Event` is a query with its answer, and with what the managers held before and after it.
`DisturbedWorld.events` lists the events of a plan that is run in a disturbed world. In a world
within hazards, every event keeps to their rule (`DisturbedWorld.events_keep`).

* What a plan ensures by a rule holds after each run whose events keep to that rule, whatever the
  world allows otherwise (`DisturbedWorld.ensured`). So a rule may leave out what did not happen in
  this run: a reply that was lost, an undo that failed.
* A `Trace` is what the managers hold now, with the events so far. What a plan ensures by the rule
  with a trace (`Plan.Rule.traced`) holds of the events of the run
  (`DisturbedWorld.ensured_traced`).
-/

namespace ReverseReplication

variable {α σ : Type}

/-- A query with its answer, and what the managers held before and after it. -/
structure Event where
  query : Query
  answer : query.Answer
  before : Inventory
  after : Inventory

namespace Event

/-- In the event the managers have carried out a call that changes what they hold. Whether the run
has been told is another matter. -/
structure Performs (e : Event) (c : Call) (r : c.Reply) : Prop where
  asked : e.query.call? = some c
  performed : e.before.perform c = .ok (r, e.after)
  changed : e.after ≠ e.before

/-- The error that a call was answered with. -/
def error? : Event → Option ManagerError
  | ⟨.call _, .error e, _, _⟩ => some e
  | ⟨.guarded _ _, some (.error e), _, _⟩ => some e
  | _ => none

/-- A call was given up after it had changed what the managers hold, so that its reply is lost. -/
def Lost : Event → Prop
  | ⟨.guarded _ _, none, before, after⟩ => after ≠ before
  | _ => False

/-- The event is a call of one of the operations. -/
def Asks (ops : List Operation) (e : Event) : Prop :=
  ∃ c, e.query.call? = some c ∧ c.operation ∈ ops

/-- The event is one that a rule allows. -/
def Keeps (R : Plan.Rule Inventory) (e : Event) : Prop := R e.query e.before e.answer e.after

/-- An event performs one call at most. -/
theorem Performs.call_unique {e : Event} {c c' : Call} {r : c.Reply} {r' : c'.Reply}
    (h : e.Performs c r) (h' : e.Performs c' r') : c = c' :=
  Option.some.inj (h.asked.symm.trans h'.asked)

/-- What changes nothing performs nothing. -/
theorem not_performs_of_unchanged {e : Event} (h : e.after = e.before) {c : Call} {r : c.Reply} :
    ¬e.Performs c r := fun hperforms => hperforms.changed h

end Event

/-! ## Hazards and events -/

namespace Hazards

variable {hz : Hazards} {files : FileSystem} {q : Query} {inv inv' : Inventory} {answer : q.Answer}

/-- A query changes what the managers hold by its own call at most. -/
theorem rule_performs (h : hz.rule files q inv answer inv') :
    inv' = inv ∨ ∃ (c : Call) (r : c.Reply), q.call? = some c ∧ inv.perform c = .ok (r, inv') := by
  have hreplies : ∀ {c : Call} {reply : Except ManagerError c.Reply},
      hz.Replies inv c reply inv' →
        inv' = inv ∨ ∃ r : c.Reply, inv.perform c = .ok (r, inv') := by
    intro c reply hreply
    cases hreply with
    | failed => exact .inl rfl
    | refused => exact .inl rfl
    | performed hperformed => exact .inr ⟨_, hperformed⟩
  cases q with
  | cancelled scope => exact .inl h.1
  | call c => exact (hreplies h).imp_right fun ⟨r, hr⟩ => ⟨c, r, rfl, hr⟩
  | guarded scope c =>
    cases answer with
    | some reply => exact (hreplies h).imp_right fun ⟨r, hr⟩ => ⟨c, r, rfl, hr⟩
    | none =>
      rcases h.2 with hsame | ⟨-, reply, hreply⟩
      · exact .inl hsame
      · exact (hreplies hreply).imp_right fun ⟨r, hr⟩ => ⟨c, r, rfl, hr⟩
  | file scope path =>
    cases answer with
    | some contents => exact .inl h.1
    | none => exact .inl h.1

/-- A query is answered within other hazards if they allow what has happened: that the run is
cancelled, the failure of the call, or the loss of its reply. -/
theorem rule_narrow {hz' : Hazards} (h : hz.rule files q inv answer inv')
    (hcancels : hz.cancels → hz'.cancels)
    (hfails : ∀ c e, q.call? = some c → (⟨q, answer, inv, inv'⟩ : Event).error? = some e →
      hz.fails c.operation e → hz'.fails c.operation e)
    (hloses : ∀ c, q.call? = some c → (⟨q, answer, inv, inv'⟩ : Event).Lost →
      hz.loses c.operation → hz'.loses c.operation) :
    hz'.rule files q inv answer inv' := by
  have hreplies : ∀ {c : Call} {reply : Except ManagerError c.Reply},
      (∀ e, reply = .error e → hz.fails c.operation e → hz'.fails c.operation e) →
        hz.Replies inv c reply inv' → hz'.Replies inv c reply inv' := by
    intro c reply hallowed hreply
    cases hreply with
    | failed hfailed => exact .failed (hallowed _ rfl hfailed)
    | refused hrefused => exact .refused hrefused
    | performed hperformed => exact .performed hperformed
  have hgives : ∀ {scope : Scope}, hz.GivesUp scope → hz'.GivesUp scope :=
    fun hgives => ⟨hcancels hgives.1, hgives.2⟩
  cases q with
  | cancelled scope => exact ⟨h.1, fun hseen => hgives (h.2 hseen)⟩
  | call c =>
    refine hreplies (fun e he => hfails c e rfl ?_) h
    rw [he]
    rfl
  | guarded scope c =>
    cases answer with
    | some reply =>
      refine hreplies (fun e he => hfails c e rfl ?_) h
      rw [he]
      rfl
    | none =>
      refine ⟨hgives h.1, ?_⟩
      by_cases hsame : inv' = inv
      · exact .inl hsame
      · -- What has changed something was performed, so it does not matter which calls may fail.
        obtain ⟨hlost, reply, hreply⟩ := h.2.resolve_left hsame
        cases hreply with
        | failed => exact absurd rfl hsame
        | refused => exact absurd rfl hsame
        | performed hperformed =>
          exact .inr ⟨hloses c rfl hsame hlost, _, .performed hperformed⟩
  | file scope path =>
    cases answer with
    | some contents => exact h
    | none => exact ⟨h.1, hgives h.2⟩

/-- The same hazards, but a call of one of the operations is never given up after it has
happened. -/
def replying (hz : Hazards) (ops : List Operation) : Hazards :=
  { hz with loses := fun op => op ∉ ops ∧ hz.loses op }

variable {ops : List Operation}

/-- A query that does not lose the reply to one of the operations is answered within the hazards
that lose none of them. -/
theorem rule_replying (h : hz.rule files q inv answer inv')
    (hkept : (⟨q, answer, inv, inv'⟩ : Event).Asks ops → ¬(⟨q, answer, inv, inv'⟩ : Event).Lost) :
    (hz.replying ops).rule files q inv answer inv' :=
  rule_narrow h id (fun _ _ _ _ hfails => hfails) fun c hc hlost hloses =>
    ⟨fun hop => hkept ⟨c, hc, hop⟩ hlost, hloses⟩

/-- Within hazards that lose no reply to the operations, none is lost. -/
theorem not_lost_of_replying (h : (hz.replying ops).rule files q inv answer inv')
    (hasks : (⟨q, answer, inv, inv'⟩ : Event).Asks ops) :
    ¬(⟨q, answer, inv, inv'⟩ : Event).Lost := by
  obtain ⟨c', hc, hop⟩ := hasks
  cases q with
  | guarded scope c =>
    cases hc
    cases answer with
    | some reply => exact id
    | none => exact fun hchanged => hchanged (h.2.resolve_right fun hlost => hlost.1.1 hop)
  | cancelled scope => exact id
  | call c => exact id
  | file scope path => exact id

end Hazards

/-! ## The events of plans -/

namespace DisturbedWorld

/-- The events of a plan that is run in a disturbed world. -/
def events : Plan α → DisturbedWorld → List Event
  | .done _, _ => []
  | .ask q next, d =>
    let answered := answer q d
    ⟨q, answered.1, d.inventory, answered.2.inventory⟩ :: events (next answered.1) answered.2

variable {hz : Hazards} {R : Plan.Rule Inventory} {p : Plan α} {d : DisturbedWorld}

/-- In a world within hazards, every event keeps to their rule. -/
theorem events_keep (hwithin : d.Within hz) :
    ∀ e ∈ events p d, e.Keeps (hz.rule d.world.files) := by
  induction p generalizing d with
  | done a =>
    intro e he
    cases he
  | ask q next ih =>
    intro e he
    obtain ⟨hanswer, hthen, hfiles⟩ := hwithin.answer (q := q) rfl
    rcases List.mem_cons.1 he with rfl | hrest
    · exact hanswer
    · rw [← hfiles]
      exact ih _ hthen e hrest

variable {ops : List Operation}

/-- A run that loses no reply to some operations keeps to the hazards that lose none of them. -/
theorem events_keep_replying (hwithin : d.Within hz)
    (hkept : ∀ e ∈ events p d, e.Asks ops → ¬e.Lost) :
    ∀ e ∈ events p d, e.Keeps ((hz.replying ops).rule d.world.files) :=
  fun e he => Hazards.rule_replying (events_keep hwithin e he) (hkept e he)

/-- In a world within such hazards, no reply to the operations is lost. -/
theorem events_not_lost (hwithin : d.Within (hz.replying ops)) :
    ∀ e ∈ events p d, e.Asks ops → ¬e.Lost :=
  fun e he => Hazards.not_lost_of_replying (events_keep hwithin e he)

/-- What a plan ensures by a rule holds after a run whose events keep to the rule. -/
theorem ensured {post : α → Inventory → Prop} (hp : p.Ensures R d.inventory post)
    (hkeep : ∀ e ∈ events p d, e.Keeps R) :
    post (p.run answer d).1 (p.run answer d).2.inventory := by
  induction p generalizing d with
  | done a => exact hp
  | ask q next ih =>
    refine ih _ (hp _ _ (hkeep _ List.mem_cons_self)) fun e he => ?_
    exact hkeep e (List.mem_cons_of_mem _ he)

end DisturbedWorld

/-! ## Traces -/

/-- What the managers hold, and the events so far, in their order. -/
structure Trace where
  now : Inventory
  events : List Event := []

namespace Trace

/-- One more event, which leaves the managers with `after`. -/
def push (t : Trace) (q : Query) (answer : q.Answer) (after : Inventory) : Trace where
  now := after
  events := t.events ++ [⟨q, answer, t.now, after⟩]

variable {t : Trace} {q : Query} {answer : q.Answer} {after : Inventory}

@[simp] theorem now_push : (t.push q answer after).now = after := rfl

/-- The events of a trace are those before and the last one. -/
theorem mem_events_push {e : Event} :
    e ∈ (t.push q answer after).events ↔ e ∈ t.events ∨ e = ⟨q, answer, t.now, after⟩ := by
  rw [push, List.mem_append, List.mem_singleton]

/-- What some event does is done before the last one, or by the last one. -/
theorem exists_event_push {P : Event → Prop} :
    (∃ e ∈ (t.push q answer after).events, P e) ↔
      (∃ e ∈ t.events, P e) ∨ P ⟨q, answer, t.now, after⟩ := by
  constructor
  · rintro ⟨e, he, hP⟩
    rcases mem_events_push.1 he with hmem | rfl
    · exact .inl ⟨e, hmem, hP⟩
    · exact .inr hP
  · rintro (⟨e, he, hP⟩ | hP)
    · exact ⟨e, mem_events_push.2 (.inl he), hP⟩
    · exact ⟨_, mem_events_push.2 (.inr rfl), hP⟩

end Trace

/-- A rule, with a trace of the events. -/
def Plan.Rule.traced (R : Plan.Rule Inventory) : Plan.Rule Trace := fun q t answer t' =>
  R q t.now answer t'.now ∧ t' = t.push q answer t'.now

/-- What a plan ensures by a rule with a trace holds of the events of each run that keep to the
rule. -/
theorem DisturbedWorld.ensured_traced {R : Plan.Rule Inventory} {p : Plan α} {d : DisturbedWorld}
    {earlier : List Event} {post : α → Trace → Prop}
    (hp : p.Ensures R.traced ⟨d.inventory, earlier⟩ post)
    (hkeep : ∀ e ∈ events p d, e.Keeps R) :
    post (p.run answer d).1 ⟨(p.run answer d).2.inventory, earlier ++ events p d⟩ := by
  induction p generalizing d earlier with
  | done a =>
    rw [events, List.append_nil]
    exact hp
  | ask q next ih =>
    rw [events, List.append_cons]
    refine ih _ (hp _ ⟨_, _⟩ ⟨hkeep _ List.mem_cons_self, rfl⟩) fun e he => ?_
    exact hkeep e (List.mem_cons_of_mem _ he)

/-- What queries of the operations keep, a plan keeps that asks no others. -/
theorem Plan.AsksOnly.ensures_traced {R : Plan.Rule Inventory} {ops : List Operation} {p : Plan α}
    {t : Trace} {good : Trace → Prop} (hp : p.AsksOnly ops)
    (hgood : ∀ q t answer inv', (∀ c, q.call? = some c → c.operation ∈ ops) →
      R q t.now answer inv' → good t → good (t.push q answer inv'))
    (ht : good t) : p.Ensures R.traced t fun _ t' => good t' := by
  refine hp.ensures ?_ ht
  rintro q t answer t' hasked ⟨hanswer, hpush⟩ hnow
  rw [hpush]
  exact hgood q t answer t'.now hasked hanswer hnow

/-! ## Steps with a trace -/

variable {hz : Hazards} {files : FileSystem} {t : Trace} {s : σ} {ctx : Context} {c : Call}

open Inventory (Performed)

namespace Step

/-- A call whose reply is looked at, with the event that it is. -/
theorem ensures_call_traced
    {post : Except ActivityError (Except ManagerError c.Reply) → σ → Trace → Prop}
    (denied : ∀ e, hz.Denies t.now c e →
      post (.ok (.error e)) s (t.push (.guarded ctx.scope c) (some (.error e)) t.now))
    (performed : ∀ r inv', Performed t.now c r inv' → t.now.perform c = .ok (r, inv') →
      post (.ok (.ok r)) s (t.push (.guarded ctx.scope c) (some (.ok r)) inv'))
    (stopped : hz.GivesUp ctx.scope →
      post (.error .cancelled) s (t.push (.guarded ctx.scope c) none t.now))
    (lost : hz.GivesUp ctx.scope → hz.loses c.operation → ∀ r inv', Performed t.now c r inv' →
      t.now.perform c = .ok (r, inv') →
      post (.error .cancelled) s (t.push (.guarded ctx.scope c) none inv')) :
    (Step.call ctx c).Ensures (hz.rule files).traced s t post := by
  unfold Step.call
  rw [ensures_bind, ensures_query]
  rintro answer t' ⟨hanswer, hpush⟩
  generalize t'.now = inv' at hanswer hpush
  subst hpush
  cases answer with
  | some reply =>
    show post (.ok reply) s _
    cases hanswer with
    | failed hfails => exact denied _ (.inl hfails)
    | refused hrefused => exact denied _ (.inr hrefused)
    | performed hperform =>
      exact performed _ _ (Inventory.performed_of_perform hperform) hperform
  | none =>
    show post (.error .cancelled) s _
    obtain ⟨hgives, rfl | ⟨hloses, reply, hreply⟩⟩ := hanswer
    · exact stopped hgives
    · cases hreply with
      | failed => exact stopped hgives
      | refused => exact stopped hgives
      | performed hperform =>
        exact lost hgives hloses _ _ (Inventory.performed_of_perform hperform) hperform

/-- A call that has to succeed, with the event that it is. -/
theorem ensures_need_traced {doing : String}
    {post : Except ActivityError c.Reply → σ → Trace → Prop}
    (performed : ∀ r inv', Performed t.now c r inv' → t.now.perform c = .ok (r, inv') →
      post (.ok r) s (t.push (.guarded ctx.scope c) (some (.ok r)) inv'))
    (denied : ∀ e, hz.Denies t.now c e → post (.error (.ofManager doing e)) s
      (t.push (.guarded ctx.scope c) (some (.error e)) t.now))
    (stopped : hz.GivesUp ctx.scope →
      post (.error .cancelled) s (t.push (.guarded ctx.scope c) none t.now))
    (lost : hz.GivesUp ctx.scope → hz.loses c.operation → ∀ r inv', Performed t.now c r inv' →
      t.now.perform c = .ok (r, inv') →
      post (.error .cancelled) s (t.push (.guarded ctx.scope c) none inv')) :
    (Step.need ctx doing c).Ensures (hz.rule files).traced s t post := by
  unfold Step.need
  rw [ensures_bind]
  exact ensures_call_traced denied performed stopped lost

end Step

end ReverseReplication
