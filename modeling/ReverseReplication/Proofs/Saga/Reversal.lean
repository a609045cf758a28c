import ReverseReplication.Proofs.Saga.Trace
import ReverseReplication.Saga.Script

/-!
# Undoing a saga

Activities seldom commute: one may take away what the one before it put there. Compensating them
with the last one first retraces the states that the transactions left (`Saga.Trail`), so that each
compensation is called where its own transaction ended, and it is enough if every activity can undo
itself from there (`Saga.Undoable`).

What has to come back is the part of the state that `view` shows. The tokens of the contexts are
not part of it: that of the run is cancelled at any time and by anyone, and that of the rollback
is made when the rollback starts.

* `Saga.execute_unwinds`: a saga that fails and compensates leaves what was there before it and has
  no failed compensation to report; one that does not compensate leaves what the transactions
  before the failure made.
-/

namespace ReverseReplication.Saga

variable {S σ : Type} [Tokens S] {view : S → σ}

/-! ## Activities that undo themselves -/

/-- What an activity does to the view of a state can be taken back, if that is where its
transaction starts. -/
structure Undoable (ctx : Context) (view : S → σ) (a : Activity (StateM S)) (s : S) : Prop where
  /-- A transaction that fails changes nothing. -/
  failed : ∀ e, (a.transaction ctx s).1 = .error e → view (a.transaction ctx s).2 = view s
  /-- After a transaction that succeeds, the compensation succeeds and brings back what was
  there, whatever has become of the token of the run; it does not cancel its own context. -/
  undone : (a.transaction ctx s).1 = .ok () → ∀ t, view t = view (a.transaction ctx s).2 →
    Tokens.isCancelled ctx.detach t = false →
      (a.compensation ctx.detach t).1 = .ok () ∧
        Tokens.isCancelled ctx.detach (a.compensation ctx.detach t).2 = false ∧
        view (a.compensation ctx.detach t).2 = view s
  /-- The token of the rollback is not there yet, so no transaction cancels it. -/
  untouched : Tokens.isCancelled ctx.detach s = false →
    Tokens.isCancelled ctx.detach (a.transaction ctx s).2 = false

/-! ## The way there and back -/

/-- The transactions of `completed`, given last first, lead from one state to another, and each of
them can be undone from where it ended. -/
inductive Trail (ctx : Context) (view : S → σ) (s : S) : List (Activity (StateM S)) → S → Prop
  | start : Trail ctx view s [] s
  | step {completed : List (Activity (StateM S))} {r : S} {a : Activity (StateM S)}
    (before : Trail ctx view s completed r) (undoable : Undoable ctx view a r)
    (succeeded : (a.transaction ctx r).1 = .ok ()) :
    Trail ctx view s (a :: completed) (a.transaction ctx r).2

omit [Tokens S] in
/-- A compensation that succeeds adds nothing to the list of failures. -/
theorem compensate_cons_ok {ctx : Context} {a : Activity (StateM S)}
    {earlier : List (Activity (StateM S))} {s s' : S} {failures : List CompensationFailure}
    (hok : (a.compensation ctx s).1 = .ok ())
    (h : compensate ctx earlier (a.compensation ctx s).2 = (failures, s')) :
    compensate ctx (a :: earlier) s = (failures, s') := by
  rw [compensate_cons h, hok]
  rfl

/-- Compensating goes back the whole way. The induction is on the way, and what it keeps is that
the next compensation starts in view of the end of its own transaction. -/
theorem Trail.compensate {ctx : Context} {s r : S} {completed : List (Activity (StateM S))}
    (h : Trail ctx view s completed r) (t : S) (hview : view t = view r)
    (hlive : Tokens.isCancelled ctx.detach t = false) :
    ∃ t', Saga.compensate ctx.detach completed t = ([], t') ∧ view t' = view s := by
  induction h generalizing t with
  | start => exact ⟨t, rfl, hview⟩
  | step before undoable succeeded ih =>
    obtain ⟨hok, hlive', hback⟩ := undoable.undone succeeded t hview hlive
    obtain ⟨t', hrest, hstart⟩ := ih _ hback hlive'
    exact ⟨t', compensate_cons_ok hok hrest, hstart⟩

/-- The same where nothing is compensated unless that is wanted. -/
theorem Trail.undo (rollback : Bool) {ctx : Context} {s r : S}
    {completed : List (Activity (StateM S))} (h : Trail ctx view s completed r) (t : S)
    (hview : view t = view r) (hlive : Tokens.isCancelled ctx.detach t = false) :
    ∃ t', (if rollback then Saga.compensate ctx.detach completed t else ([], t)) = ([], t') ∧
      view t' = if rollback then view s else view r := by
  cases rollback with
  | true => exact h.compensate t hview hlive
  | false => exact ⟨t, rfl, hview⟩

/-! ## Whole sagas -/

/-- Where an attempt fails, the view is as it was, and the token of the rollback as well. -/
theorem Undoable.attempt_error {ctx : Context} {a : Activity (StateM S)} {s s' : S}
    {cause : ActivityError} (h : Undoable ctx view a s)
    (hattempt : attempt ctx a s = (.error cause, s'))
    (hlive : Tokens.isCancelled ctx.detach s = false) :
    view s' = view s ∧ Tokens.isCancelled ctx.detach s' = false := by
  rw [attempt_eq] at hattempt
  unfold outcomeAt at hattempt
  obtain ⟨hcause, rfl⟩ := Prod.mk.inj hattempt
  by_cases hcancelled : Tokens.isCancelled ctx s = true
  · rw [if_pos hcancelled]
    exact ⟨rfl, hlive⟩
  · rw [if_neg hcancelled] at hcause ⊢
    exact ⟨h.failed cause hcause, h.untouched hlive⟩

/-- From wherever a saga stands, if it fails later on. -/
theorem executeFrom_unwinds (rollback : Bool) {ctx : Context}
    {activities completed rest : List (Activity (StateM S))} {s s' : S} {r : Journaled S}
    {e : SagaError} (hunder : Underway ctx activities s completed rest r)
    (htrail : Trail ctx view s completed r.state)
    (hlive : Tokens.isCancelled ctx.detach r.state = false)
    (h : ∀ i a, activities[i]? = some a → (∀ j < i, ¬FailsAt ctx activities s j) →
      Undoable ctx view a (stateAt ctx activities s i))
    (hrun : executeFrom rollback ctx completed rest r.state = (.error e, s')) :
    FailsAt ctx activities s e.index ∧ (∀ i < e.index, ¬FailsAt ctx activities s i) ∧
      e.compensationFailures = [] ∧
      view s' = if rollback then view s else view (stateAt ctx activities s e.index) := by
  -- On what is left to do. The trail leads back to the view at the start, one activity at a time.
  induction rest generalizing completed r with
  | nil =>
    have hok : Except.ok completed.length = .error e := congrArg Prod.fst hrun
    simp at hok
  | cons a rest ih =>
    have hundoable : Undoable ctx view a r.state := by
      rw [hunder.state]
      exact h completed.length a hunder.reached hunder.none_fails
    cases hout : outcomeAt ctx a r.state with
    | ok u =>
      obtain ⟨hrunning, hok⟩ := called_of_outcomeAt hout
      have hattempt : attempt ctx a r.state = (.ok (), (a.transaction ctx r.state).2) := by
        rw [attempt_eq, hout, hrunning]
        rfl
      rw [executeFrom_ok rollback completed rest hattempt] at hrun
      exact ih (hunder.next hout) (htrail.step hundoable hok) (hundoable.untouched hlive) hrun
    | error cause =>
      have hattempt : attempt ctx a r.state = (.error cause, (attempt ctx a r.state).2) := by
        rw [attempt_eq, hout]
      obtain ⟨hview, hlive'⟩ := hundoable.attempt_error hattempt hlive
      obtain ⟨t', hundo, hback⟩ := htrail.undo rollback _ hview hlive'
      rw [executeFrom_error rollback completed rest hattempt, hundo] at hrun
      obtain ⟨herror, rfl⟩ := Prod.mk.inj hrun
      obtain rfl := Except.error.inj herror
      refine ⟨⟨a, cause, hunder.reached, ?_⟩, hunder.none_fails, rfl, ?_⟩
      · rw [← hunder.state, hout]
      · rw [hback, hunder.state]

/-- Let every activity be one that undoes itself, in the state in which the saga reaches it. Then a
saga that fails leaves the view that it found and no failed compensation, if it compensates, and
otherwise the view that the activities before the first failure left. -/
theorem execute_unwinds (rollback : Bool) (ctx : Context) (activities : List (Activity (StateM S)))
    (s : S) (hlive : Tokens.isCancelled ctx.detach s = false)
    (h : ∀ i a, activities[i]? = some a → (∀ j < i, ¬FailsAt ctx activities s j) →
      Undoable ctx view a (stateAt ctx activities s i))
    {e : SagaError} {s' : S} (hrun : execute rollback ctx activities s = (.error e, s')) :
    FailsAt ctx activities s e.index ∧ (∀ i < e.index, ¬FailsAt ctx activities s i) ∧
      e.compensationFailures = [] ∧
      view s' = if rollback then view s else view (stateAt ctx activities s e.index) := by
  have hstart : Underway ctx activities s [] activities ⟨s, []⟩ := by
    refine ⟨rfl, rfl, fun i hi => ?_, rfl⟩
    simp at hi
  exact executeFrom_unwinds rollback hstart .start hlive h hrun

/-! ### Two activities that do not commute -/

instance : Tokens Script.Scene where
  isCancelled ctx scene := scene.isCancelled ctx

namespace Exchange

def context : Context := ⟨"abc", .epoch, .cancellable⟩

/-- The second activity takes away what the first one put there, and the run is cancelled during the
third. Compensated with the first one first, they would leave the lock behind. -/
def activities : List (Activity (StateM Script.Scene)) :=
  [Script.activity "Lock" [.add "lock"] [.remove "lock"],
    Script.activity "Exchange" [.remove "lock", .add "key"] [.remove "key", .add "lock"],
    Script.activity "Wait" [.guarded .cancelAndWait "done" false] []]

/-- The error of the saga. -/
def error : SagaError := ⟨2, "Wait", .cancelled, []⟩

/-- No detached context is cancelled here, and each compensation removes what its transaction
added, and adds what that removed. -/
theorem undoable (i : Nat) (a : Activity (StateM Script.Scene)) (ha : activities[i]? = some a) :
    Undoable context Script.Scene.resources a (stateAt context activities {} i) := by
  match i with
  | 0 =>
    obtain rfl := Option.some.inj ha
    refine ⟨fun _ he => (nomatch he), fun _ t ht _ => ⟨rfl, Bool.and_false _, ?_⟩, fun _ => rfl⟩
    show t.resources.erase "lock" = _
    rw [ht]
    rfl
  | 1 =>
    obtain rfl := Option.some.inj ha
    refine ⟨fun _ he => (nomatch he), fun _ t ht _ => ⟨rfl, Bool.and_false _, ?_⟩, fun _ => rfl⟩
    show (t.resources.erase "key").insert "lock" () = _
    rw [ht]
    rfl
  | 2 =>
    obtain rfl := Option.some.inj ha
    exact ⟨fun _ _ => rfl, fun hok => (nomatch hok), fun _ => rfl⟩
  | i + 3 => simp [activities] at ha

end Exchange

/-- The run is cancelled during its third activity. Rolled back, it leaves neither lock nor key, and
otherwise the key. -/
theorem execute_unwinds_of_exchange :
    let rolledBack := execute true Exchange.context Exchange.activities {}
    let left := execute false Exchange.context Exchange.activities {}
    rolledBack.1 = .error Exchange.error ∧ rolledBack.2.resources = .empty ∧
      left.1 = .error Exchange.error ∧ left.2.resources = Table.empty.insert "key" () := by
  intro rolledBack left
  have hrolledBack : rolledBack.1 = .error Exchange.error := rfl
  have hleft : left.1 = .error Exchange.error := rfl
  have hback := execute_unwinds true Exchange.context Exchange.activities {} rfl
    (fun i a ha _ => Exchange.undoable i a ha) (Prod.ext hrolledBack rfl)
  have hkept := execute_unwinds false Exchange.context Exchange.activities {} rfl
    (fun i a ha _ => Exchange.undoable i a ha) (Prod.ext hleft rfl)
  exact ⟨hrolledBack, hback.2.2.2, hleft, hkept.2.2.2.trans rfl⟩

end ReverseReplication.Saga
