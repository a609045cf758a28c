import ReverseReplication.Proofs.Cancellation.Watch
import ReverseReplication.Proofs.Events
import ReverseReplication.Proofs.Ownership.Claims
import ReverseReplication.Proofs.Saga.Trace

/-!
# What becomes of the errors of calls

Most errors of calls end the transaction that made the call, and are its cause (`Call.Blames`). A
few are absorbed (`Call.Absorbs`): what was to be created is there already, or what was to be undone
is gone. `Accounted` says this of the events of a transaction in their order. It is a statement
about every event on the way forward, and it does not depend on what the transaction undoes when it
has failed.

An error of a call on the way forward is then absorbed, and the transaction goes on, or it is the
cause of a failure after which nothing but undoing is left (`Accounted.at_error`).
-/

namespace ReverseReplication

/-! ## Errors -/

namespace Call

/-- The errors that are absorbed on either side of an activity. -/
def Absorbs (c : Call) (e : ManagerError) : Saga.Side → Prop
  | .transaction => c.operation ∈ Hazards.creations ∧ e.isAlreadyExists = true
  | .compensation => c.operation ∈ Hazards.undoings ∧ e.isNotFound = true

/-- An error of a call as the cause of a failure. Only a feed that has other options than are needed
is in an invalid state; any other error is kept as it is. -/
structure Blames (c : Call) (e : ManagerError) (cause : ActivityError) : Prop where
  cancelled : cause = .cancelled ↔ e = .cancelled
  invalidState : (∃ detail, cause = .invalidState detail) ↔
    c.operation = .validateFeedOptions ∧ ∃ detail, e = .invalidState detail
  external : cause ≠ .cancelled → (∀ detail, cause ≠ .invalidState detail) →
    ∃ context, cause = .external context (.manager e)

/-- What is asked about something that was to be created and is there already. -/
def sequel? : Call → Option Query
  | .createFeed feed options => some (.guarded .cancellable (.validateFeedOptions feed options))
  | .launch request => some
      (.guarded .cancellable (.findActive request.projectId request.location request.jobName))
  | _ => none

/-- If there is something to be asked about what is there already, it is asked next. -/
def FollowedBy (c : Call) (later : List Event) : Prop :=
  ∀ q, c.sequel? = some q → ∃ event, later.head? = some event ∧ event.query = q

variable {c : Call} {e : ManagerError} {doing : String}

/-- What is absorbed on the way forward says that something is there already. -/
theorem Absorbs.alreadyExists (h : c.Absorbs e .transaction) : ∃ what, e = .alreadyExists what := by
  cases e with
  | alreadyExists what => exact ⟨what, rfl⟩
  | notFound what => cases h.2
  | invalidState detail => cases h.2
  | unavailable detail => cases h.2
  | cancelled => cases h.2

/-- Any other error is kept, with the name of what was being done. -/
theorem blames_ofManager
    (h : c.operation = .validateFeedOptions → ∀ detail, e ≠ .invalidState detail) :
    c.Blames e (.ofManager doing e) where
  cancelled := by cases e <;> simp [ActivityError.ofManager]
  invalidState := by
    constructor
    · rintro ⟨detail, hcause⟩
      cases e <;> cases hcause
    · rintro ⟨hop, detail, he⟩
      exact absurd he (h hop detail)
  external := by
    intro hcancelled _
    cases e with
    | cancelled => exact absurd rfl hcancelled
    | alreadyExists what => exact ⟨doing, rfl⟩
    | notFound what => exact ⟨doing, rfl⟩
    | invalidState detail => exact ⟨doing, rfl⟩
    | unavailable detail => exact ⟨doing, rfl⟩

/-- A feed with other options than are needed. -/
theorem blames_invalidState (hop : c.operation = .validateFeedOptions) (detail what : String) :
    c.Blames (.invalidState detail) (.invalidState what) where
  cancelled := by simp
  invalidState := ⟨fun _ => ⟨hop, detail, rfl⟩, fun _ => ⟨what, rfl⟩⟩
  external := fun _ hnone => absurd rfl (hnone what)

/-- An error of a manager that cannot be reached is kept as it is. -/
theorem Blames.of_unavailable {detail : String} {cause : ActivityError}
    (h : c.Blames (.unavailable detail) cause) :
    ∃ context, cause = .external context (.manager (.unavailable detail)) := by
  refine h.external (fun hcause => ?_) fun what hcause => ?_
  · cases h.cancelled.1 hcause
  · obtain ⟨-, _, he⟩ := h.invalidState.1 ⟨what, hcause⟩
    cases he

end Call

/-! ## Accounts of a transaction -/

/-- The event belongs to the way forward: what is undone is undone without looking at the
cancellation of the run. -/
def Event.Forward (event : Event) : Prop := event.query.isCheck = true

/-- After an event a transaction goes on if it succeeds, or comes to more on the way forward. -/
def GoesOn (later : List Event) (failure? : Option ActivityError) : Prop :=
  failure? = none ∨ ∃ event ∈ later, event.Forward

/-- The transaction is cancelled, or a local file cannot be read. -/
def ActivityError.Stops (cause : ActivityError) : Prop :=
  cause = .cancelled ∨ ∃ context e, cause = .external context (.file e)

/-- The events of a transaction account for its failure: the first one that is not passed over is
the last one on the way forward, and if it is an error of a call, this is the cause. -/
inductive Accounted : List Event → Option ActivityError → Prop
  | done : Accounted [] none
  | passed {event : Event} {rest : List Event} {failure? : Option ActivityError} :
    event.Forward → event.error? = none → Accounted rest failure? →
    Accounted (event :: rest) failure?
  | stopped {event : Event} {rest : List Event} {cause : ActivityError} :
    event.Forward → event.error? = none → cause.Stops → (∀ e ∈ rest, ¬e.Forward) →
    Accounted (event :: rest) (some cause)
  | absorbed {event : Event} {rest : List Event} {failure? : Option ActivityError} {c : Call}
    {err : ManagerError} : event.query = .guarded .cancellable c → event.error? = some err →
    c.Absorbs err .transaction → c.FollowedBy rest → Accounted rest failure? →
    Accounted (event :: rest) failure?
  | refused {event : Event} {rest : List Event} {cause : ActivityError} {c : Call}
    {err : ManagerError} : event.query = .guarded .cancellable c → event.error? = some err →
    ¬c.Absorbs err .transaction → c.Blames err cause → (∀ e ∈ rest, ¬e.Forward) →
    Accounted (event :: rest) (some cause)

/-- The events are passed over. -/
def Passed (events : List Event) : Prop := ∀ event ∈ events, event.Forward ∧ event.error? = none

/-- What is guarded by the cancellation of the run belongs to the way forward. -/
theorem Event.forward_of_guarded {event : Event} {c : Call}
    (h : event.query = .guarded .cancellable c) : event.Forward := by
  rw [Forward, h]
  rfl

/-- A call that is checked is guarded by the cancellation of the run. -/
theorem Query.eq_guarded {q : Query} {c : Call} (hc : q.call? = some c)
    (hcheck : q.isCheck = true) : q = .guarded .cancellable c := by
  cases q with
  | guarded scope c' =>
    cases hc
    rw [of_decide_eq_true hcheck]
  | call c' => cases hcheck
  | _ => cases hc

/-- What follows a call still does so if there is more behind it. -/
theorem Call.FollowedBy.append {c : Call} {later : List Event} (h : c.FollowedBy later)
    (further : List Event) : c.FollowedBy (later ++ further) := by
  intro q hq
  obtain ⟨event, hhead, hquery⟩ := h q hq
  refine ⟨event, ?_, hquery⟩
  rw [List.head?_append, hhead]
  rfl

namespace Accounted

variable {events further : List Event} {failure? : Option ActivityError}

/-- What fails has come to something on the way forward. -/
theorem goesOn (h : Accounted events failure?) : GoesOn events failure? := by
  cases h with
  | done => exact .inl rfl
  | passed hforward => exact .inr ⟨_, List.mem_cons_self, hforward⟩
  | stopped hforward => exact .inr ⟨_, List.mem_cons_self, hforward⟩
  | absorbed hquery => exact .inr ⟨_, List.mem_cons_self, Event.forward_of_guarded hquery⟩
  | refused hquery => exact .inr ⟨_, List.mem_cons_self, Event.forward_of_guarded hquery⟩

/-- What succeeds is accounted for with what comes next. -/
theorem append (h : Accounted events none) (hthen : Accounted further failure?) :
    Accounted (events ++ further) failure? := by
  generalize hnone : (none : Option ActivityError) = first at h
  induction h with
  | done => exact hthen
  | passed hforward hpassed _ ih => exact .passed hforward hpassed (ih hnone)
  | stopped => cases hnone
  | absorbed hquery herr habsorbs hfollows _ ih =>
    exact .absorbed hquery herr habsorbs (hfollows.append further) (ih hnone)
  | refused => cases hnone

/-- What fails is accounted for with what is undone after it. -/
theorem append_undo {cause : ActivityError} (h : Accounted events (some cause))
    (hundo : ∀ e ∈ further, ¬e.Forward) : Accounted (events ++ further) (some cause) := by
  have hrest : ∀ {rest : List Event}, (∀ e ∈ rest, ¬e.Forward) → ∀ e ∈ rest ++ further,
      ¬e.Forward := fun h e he => (List.mem_append.1 he).elim (h e) (hundo e)
  generalize hsome : some cause = failure? at h
  induction h with
  | done => cases hsome
  | passed hforward hpassed _ ih => exact .passed hforward hpassed (ih hsome)
  | stopped hforward hpassed hstops hback => exact .stopped hforward hpassed hstops (hrest hback)
  | absorbed hquery herr habsorbs hfollows _ ih =>
    exact .absorbed hquery herr habsorbs (hfollows.append further) (ih hsome)
  | refused hquery herr habsorbs hblames hback =>
    exact .refused hquery herr habsorbs hblames (hrest hback)

/-- Events that are passed over may come first. -/
theorem prepend (hpassed : Passed events) (h : Accounted further failure?) :
    Accounted (events ++ further) failure? := by
  induction events with
  | nil => exact h
  | cons event rest ih =>
    obtain ⟨hforward, hnone⟩ := hpassed event List.mem_cons_self
    exact .passed hforward hnone (ih fun e he => hpassed e (List.mem_cons_of_mem _ he))

/-- What succeeds without creating anything is passed over. -/
theorem passed_of_plain (h : Accounted events none)
    (hplain : ∀ e ∈ events, ∀ c, e.query.call? = some c → c.operation ∉ Hazards.creations) :
    Passed events := by
  generalize hnone : (none : Option ActivityError) = failure? at h
  induction h with
  | done => exact List.forall_mem_nil _
  | passed hforward hpassed _ ih =>
    rw [List.forall_mem_cons] at hplain
    exact List.forall_mem_cons.2 ⟨⟨hforward, hpassed⟩, ih hplain.2 hnone⟩
  | stopped => cases hnone
  | absorbed hquery _ habsorbs =>
    refine absurd habsorbs.1 (hplain _ List.mem_cons_self _ ?_)
    rw [hquery]
    rfl
  | refused => cases hnone

/-- The tuning of a pipeline is not the cause. -/
theorem ne_launch {cause : ActivityError} (h : Accounted events (some cause)) (context : String)
    (e : LaunchError) : cause ≠ .external context (.launch e) := by
  generalize hsome : some cause = failure? at h
  induction h with
  | done => cases hsome
  | passed _ _ _ ih => exact ih hsome
  | stopped _ _ hstops =>
    cases hsome
    rcases hstops with rfl | ⟨_, _, rfl⟩
    · exact nofun
    · exact nofun
  | absorbed _ _ _ _ _ ih => exact ih hsome
  | refused _ _ _ hblames =>
    cases hsome
    rintro rfl
    obtain ⟨_, hmanager⟩ := hblames.external nofun nofun
    cases hmanager

/-- What becomes of an error on the way forward. -/
theorem at_error (h : Accounted events failure?) {earlier later : List Event} {event : Event}
    {c : Call} {err : ManagerError} (hsplit : events = earlier ++ event :: later)
    (hquery : event.query = .guarded .cancellable c) (herr : event.error? = some err) :
    (c.Absorbs err .transaction ∧ GoesOn later failure? ∧ c.FollowedBy later) ∨
      (¬c.Absorbs err .transaction ∧ (∀ e ∈ later, ¬e.Forward) ∧
        ∃ cause, failure? = some cause ∧ c.Blames err cause) := by
  have hforward := Event.forward_of_guarded hquery
  -- The error is that of the first event, or the events behind the first one account for it.
  induction h generalizing earlier with
  | done => simp at hsplit
  | @passed first rest failure? _ hpassed _ ih =>
    cases earlier with
    | nil =>
      cases hsplit
      rw [hpassed] at herr
      cases herr
    | cons => exact ih (List.cons.inj hsplit).2
  | stopped _ hpassed _ hback =>
    cases earlier with
    | nil =>
      cases hsplit
      rw [hpassed] at herr
      cases herr
    | cons =>
      exact absurd hforward (hback event ((List.cons.inj hsplit).2 ▸ by simp))
  | absorbed hquery' herr' habsorbs hfollows hrest ih =>
    cases earlier with
    | nil =>
      cases hsplit
      rw [hquery] at hquery'
      rw [herr] at herr'
      cases hquery'
      cases herr'
      exact .inl ⟨habsorbs, hrest.goesOn, hfollows⟩
    | cons => exact ih (List.cons.inj hsplit).2
  | refused hquery' herr' habsorbs hblames hback =>
    cases earlier with
    | nil =>
      cases hsplit
      rw [hquery] at hquery'
      rw [herr] at herr'
      cases hquery'
      cases herr'
      exact .inr ⟨habsorbs, hback, _, rfl, hblames⟩
    | cons =>
      exact absurd hforward (hback event ((List.cons.inj hsplit).2 ▸ by simp))

end Accounted

/-- The events account for a failure, or it has nothing to do with them: then they are passed over,
and the transaction has its `own` reason. -/
def Reported (own : ActivityError → Prop) (events : List Event)
    (failure? : Option ActivityError) : Prop :=
  (Passed events ∧ ∀ cause, failure? = some cause → own cause) ∨ Accounted events failure?

namespace Reported

variable {own : ActivityError → Prop} {events further : List Event}
  {failure? : Option ActivityError}

/-- An event without an error may come first, whether or not the failure is the transaction's
own. -/
theorem cons {event : Event} (hforward : event.Forward) (hnone : event.error? = none)
    (h : Reported own events failure?) : Reported own (event :: events) failure? := by
  refine h.imp (fun hthen => ⟨?_, hthen.2⟩) (.passed hforward hnone)
  exact List.forall_mem_cons.2 ⟨⟨hforward, hnone⟩, hthen.1⟩

/-- So may any number of events that are passed over. -/
theorem prepend (hpassed : Passed events) (h : Reported own further failure?) :
    Reported own (events ++ further) failure? := by
  refine h.imp (fun hthen => ⟨fun event hevent => ?_, hthen.2⟩) (.prepend hpassed)
  exact (List.mem_append.1 hevent).elim (hpassed event) (hthen.1 event)

/-- Where a call was answered with an error, the failure is not the transaction's own: the error is
absorbed, and the transaction goes on, or it is the cause of the failure. -/
theorem at_error (h : Reported own events failure?) {earlier later : List Event} {event : Event}
    {c : Call} {err : ManagerError} (hsplit : events = earlier ++ event :: later)
    (hquery : event.query = .guarded .cancellable c) (herr : event.error? = some err) :
    (c.Absorbs err .transaction ∧ GoesOn later failure? ∧ c.FollowedBy later) ∨
      (¬c.Absorbs err .transaction ∧ (∀ e ∈ later, ¬e.Forward) ∧
        ∃ cause, failure? = some cause ∧ c.Blames err cause) := by
  rcases h with ⟨hpassed, -⟩ | haccounted
  · have hnone := (hpassed event (by simp [hsplit])).2
    rw [herr] at hnone
    cases hnone
  · exact haccounted.at_error hsplit hquery herr

end Reported

end ReverseReplication
