import ReverseReplication.Saga.Basic

/-!
# What a saga calls

Activities may do anything to a state that they share, and cancel the run with it: the token of
each context is read from that state (`Tokens`). `Saga.journal` makes the activities of a saga write
down each call of theirs and its result, and changes nothing else.

* `Saga.stateAt` and `Saga.outcomeAt`: the state in which each transaction is reached, and what
  comes of reaching it there. A transaction whose context is cancelled by then is not called.
* `Saga.execute_journal`: the calls of a saga are the transactions in their order up to the first
  that fails, and then, if wanted, the compensations of the ones before it, the last one first. The
  error names that failure and the failed compensations, in the order of their calls.
-/

namespace ReverseReplication

/-- A state in which the cancellation of a context can be seen. -/
class Tokens (σ : Type) where
  isCancelled : Context → σ → Bool

instance {σ : Type} [Tokens σ] : Cancellable (StateM σ) where
  isCancelled ctx := fun s => (Tokens.isCancelled ctx s, s)

namespace Saga

/-! ## Journals -/

/-- Which of its two sides an activity is called on. -/
inductive Side where
  | transaction
  | compensation
  deriving DecidableEq, Repr

/-- A call of a saga to one of its activities. -/
structure ActivityCall where
  side : Side
  /-- The place of the activity in the saga, counted from zero. -/
  index : Nat
  activity : String
  context : Context
  deriving DecidableEq, Repr

/-- A call, and what came of it. -/
structure Entry where
  call : ActivityCall
  result : Except ActivityError Unit

/-- The failed compensation that an entry shows, if its call failed. -/
def Entry.failure? (e : Entry) : Option CompensationFailure :=
  match e.result with
  | .ok () => none
  | .error error => some ⟨e.call.index, e.call.activity, error⟩

/-- A failed compensation is numbered as its call. -/
theorem Entry.index_of_failure? {e : Entry} {f : CompensationFailure} (h : e.failure? = some f) :
    f.index = e.call.index := by
  unfold failure? at h
  split at h
  · simp at h
  · cases h
    rfl

/-- A state beside the journal of the calls made so far. -/
structure Journaled (σ : Type) where
  state : σ
  journal : List Entry := []

instance {σ : Type} [Tokens σ] : Tokens (Journaled σ) where
  isCancelled ctx r := Tokens.isCancelled ctx r.state

variable {σ : Type}

/-- Carries out a call and writes it down. -/
def writeDown (call : ActivityCall) (x : StateM σ (Except ActivityError Unit)) :
    StateM (Journaled σ) (Except ActivityError Unit) :=
  fun r => ((x r.state).1, ⟨(x r.state).2, r.journal ++ [⟨call, (x r.state).1⟩]⟩)

/-- The activity at some place of a saga, with both its sides written down. -/
def journaled (index : Nat) (a : Activity (StateM σ)) : Activity (StateM (Journaled σ)) where
  name := a.name
  transaction ctx := writeDown ⟨.transaction, index, a.name, ctx⟩ (a.transaction ctx)
  compensation ctx := writeDown ⟨.compensation, index, a.name, ctx⟩ (a.compensation ctx)

/-- The activities of a saga, with all their calls written down. -/
def journal (activities : List (Activity (StateM σ))) : List (Activity (StateM (Journaled σ))) :=
  activities.mapIdx journaled

/-- One call to each activity, in their order. -/
def calls (side : Side) (ctx : Context) (activities : List (Activity (StateM σ))) :
    List ActivityCall :=
  activities.mapIdx fun index a => ⟨side, index, a.name, ctx⟩

/-- Entries of calls that succeeded. -/
def successes (made : List ActivityCall) : List Entry := made.map fun call => ⟨call, .ok ()⟩

/-! ## Reaching an activity -/

/-- The state in which the transaction at some place is reached: the one that the transactions
before it leave. -/
def stateAt (ctx : Context) (activities : List (Activity (StateM σ))) (s : σ) (index : Nat) : σ :=
  (activities.take index).foldl (fun s a => (a.transaction ctx s).2) s

/-- What comes of reaching an activity in a state: if its context is cancelled by then, it fails
without being called. -/
def outcomeAt [Tokens σ] (ctx : Context) (a : Activity (StateM σ)) (s : σ) :
    Except ActivityError Unit :=
  if Tokens.isCancelled ctx s then .error .cancelled else (a.transaction ctx s).1

/-- The activity at some place fails when it is reached. -/
def FailsAt [Tokens σ] (ctx : Context) (activities : List (Activity (StateM σ))) (s : σ)
    (index : Nat) : Prop :=
  ∃ a cause, activities[index]? = some a ∧
    outcomeAt ctx a (stateAt ctx activities s index) = .error cause

/-- The entry for a transaction that failed, unless it was not even called. -/
def failedEntry [Tokens σ] (index : Nat) (ctx : Context) (a : Activity (StateM σ)) (s : σ)
    (cause : ActivityError) : List Entry :=
  if Tokens.isCancelled ctx s then [] else [⟨⟨.transaction, index, a.name, ctx⟩, .error cause⟩]

/-- What the result of a saga and its journal have to be. -/
inductive Conducted [Tokens σ] (rollback : Bool) (ctx : Context)
    (activities : List (Activity (StateM σ))) (s : σ) :
    Except SagaError Nat → List Entry → Prop
  /-- Every transaction was called and none failed. -/
  | completed (none_fails : ∀ i, ¬FailsAt ctx activities s i) :
    Conducted rollback ctx activities s (.ok activities.length)
      (successes (calls .transaction ctx activities))
  /-- A first transaction failed, and the activities before it were compensated, if wanted. -/
  | failed {index : Nat} {a : Activity (StateM σ)} {cause : ActivityError} {undone : List Entry}
    (reached : activities[index]? = some a)
    (fails : outcomeAt ctx a (stateAt ctx activities s index) = .error cause)
    (first : ∀ i < index, ¬FailsAt ctx activities s i)
    (undoing : undone.map Entry.call =
      if rollback then (calls .compensation ctx.detach (activities.take index)).reverse else []) :
    Conducted rollback ctx activities s
      (.error ⟨index, a.name, cause, undone.filterMap Entry.failure?⟩)
      (successes (calls .transaction ctx (activities.take index))
        ++ failedEntry index ctx a (stateAt ctx activities s index) cause ++ undone)

/-! ## Compensations

A saga keeps the activities that are done with the last one first. -/

/-- Going back, the newest activity comes first. -/
theorem reverse_calls_cons (side : Side) (ctx : Context) (a : Activity (StateM σ))
    (earlier : List (Activity (StateM σ))) :
    (calls side ctx (a :: earlier).reverse).reverse
      = ⟨side, earlier.length, a.name, ctx⟩ :: (calls side ctx earlier.reverse).reverse := by
  unfold calls
  rw [List.reverse_cons, List.mapIdx_append, List.reverse_append, List.length_reverse]
  simp

/-- Going back, the journaled activities are those of the journal. -/
theorem reverse_journal_cons (a : Activity (StateM σ)) (earlier : List (Activity (StateM σ))) :
    (journal (a :: earlier).reverse).reverse
      = journaled earlier.length a :: (journal earlier.reverse).reverse := by
  unfold journal
  rw [List.reverse_cons, List.mapIdx_append, List.reverse_append, List.length_reverse]
  simp

/-- The journal of some activities has one of each. -/
theorem length_reverse_journal (earlier : List (Activity (StateM σ))) :
    (journal earlier.reverse).reverse.length = earlier.length := by
  unfold journal
  rw [List.length_reverse, List.length_mapIdx, List.length_reverse]

/-- The list of failures is made from the result of the last activity and from those of the
activities before it. -/
theorem compensate_cons {ctx : Context} {a : Activity (StateM σ)}
    {earlier : List (Activity (StateM σ))} {s s' : σ} {failures : List CompensationFailure}
    (h : compensate ctx earlier (a.compensation ctx s).2 = (failures, s')) :
    compensate ctx (a :: earlier) s =
      ([⟨⟨.compensation, earlier.length, a.name, ctx⟩, (a.compensation ctx s).1⟩].filterMap
        Entry.failure? ++ failures, s') := by
  change (match (a.compensation ctx s).1 with
    | .ok () => pure (compensate ctx earlier (a.compensation ctx s).2).1
    | .error e => pure (⟨earlier.length, a.name, e⟩ ::
        (compensate ctx earlier (a.compensation ctx s).2).1) : StateM σ _)
      (compensate ctx earlier (a.compensation ctx s).2).2 = _
  rw [h]
  cases (a.compensation ctx s).1 with
  | ok u => rfl
  | error e => rfl

/-- Written down or not, compensations have the same results; each is called once, the last one
first, whatever the others return, and those that failed are listed in that order. -/
theorem compensate_journal (ctx : Context) (completed : List (Activity (StateM σ))) (s : σ)
    (entries : List Entry) :
    ∃ (undone : List Entry) (s' : σ),
      compensate ctx completed s = (undone.filterMap Entry.failure?, s') ∧
        compensate ctx (journal completed.reverse).reverse ⟨s, entries⟩
          = (undone.filterMap Entry.failure?, ⟨s', entries ++ undone⟩) ∧
        undone.map Entry.call = (calls .compensation ctx completed.reverse).reverse := by
  induction completed generalizing s entries with
  | nil =>
    refine ⟨[], s, rfl, ?_, rfl⟩
    rw [List.append_nil]
    rfl
  | cons a earlier ih =>
    let entry : Entry := ⟨⟨.compensation, earlier.length, a.name, ctx⟩, (a.compensation ctx s).1⟩
    obtain ⟨undone, s', hplain, hwritten, hcalls⟩ :=
      ih (a.compensation ctx s).2 (entries ++ [entry])
    refine ⟨entry :: undone, s', ?_, ?_, ?_⟩
    · rw [compensate_cons hplain, ← List.filterMap_append]
      rfl
    · rw [reverse_journal_cons, ← List.singleton_append (l := undone), ← List.append_assoc,
        compensate_cons hwritten, length_reverse_journal, ← List.filterMap_append]
      rfl
    · rw [reverse_calls_cons, List.map_cons, hcalls]

/-- The same where nothing is compensated unless that is wanted. -/
theorem undo_journal (rollback : Bool) (ctx : Context) (completed : List (Activity (StateM σ)))
    (s : σ) (entries : List Entry) :
    ∃ (undone : List Entry) (s' : σ),
      (if rollback then compensate ctx completed s else ([], s))
          = (undone.filterMap Entry.failure?, s') ∧
        (if rollback then compensate ctx (journal completed.reverse).reverse ⟨s, entries⟩
          else ([], ⟨s, entries⟩)) = (undone.filterMap Entry.failure?, ⟨s', entries ++ undone⟩) ∧
        undone.map Entry.call =
          if rollback then (calls .compensation ctx completed.reverse).reverse else [] := by
  cases rollback with
  | true => exact compensate_journal ctx completed s entries
  | false =>
    refine ⟨[], s, rfl, ?_, rfl⟩
    rw [List.append_nil]
    rfl

/-- Activities are called in their order. -/
theorem pairwise_calls (side : Side) (ctx : Context) (activities : List (Activity (StateM σ))) :
    (calls side ctx activities).Pairwise fun c c' => c.index < c'.index := by
  unfold calls
  rw [List.pairwise_iff_getElem]
  intro i j hi hj hij
  rw [List.getElem_mapIdx, List.getElem_mapIdx]
  exact hij

/-- Failed compensations are listed with strictly decreasing places. -/
theorem pairwise_index_undone {rollback : Bool} {ctx : Context}
    {activities : List (Activity (StateM σ))} {undone : List Entry}
    (h : undone.map Entry.call =
      if rollback then (calls .compensation ctx activities).reverse else []) :
    ((undone.filterMap Entry.failure?).map CompensationFailure.index).Pairwise (· > ·) := by
  have hcalls : (undone.map Entry.call).Pairwise fun c c' => c.index > c'.index := by
    rw [h]
    split
    · rw [List.pairwise_reverse]
      exact pairwise_calls .compensation ctx activities
    · exact .nil
  rw [List.pairwise_map] at hcalls ⊢
  refine hcalls.filterMap Entry.failure? fun e e' hlt f hf f' hf' => ?_
  rw [Entry.index_of_failure? hf, Entry.index_of_failure? hf']
  exact hlt

/-! ## Transactions -/

variable [Tokens σ]

/-- An attempt has the outcome of its activity, and does nothing if it was cancelled before. -/
theorem attempt_eq (ctx : Context) (a : Activity (StateM σ)) (s : σ) :
    attempt ctx a s
      = (outcomeAt ctx a s, if Tokens.isCancelled ctx s then s else (a.transaction ctx s).2) := by
  change (if Tokens.isCancelled ctx s then pure (.error .cancelled) else a.transaction ctx :
    StateM σ _) s = _
  unfold outcomeAt
  split
  · rfl
  · rfl

/-- A transaction that succeeds was called. -/
theorem called_of_outcomeAt {ctx : Context} {a : Activity (StateM σ)} {s : σ}
    (h : outcomeAt ctx a s = .ok ()) :
    Tokens.isCancelled ctx s = false ∧ (a.transaction ctx s).1 = .ok () := by
  unfold outcomeAt at h
  split at h
  · simp at h
  next hlive => exact ⟨Bool.eq_false_iff.2 hlive, h⟩

/-- A journaled attempt that succeeds adds its call. -/
theorem attempt_journaled_ok {ctx : Context} {a : Activity (StateM σ)} {r : Journaled σ}
    (index : Nat) (h : outcomeAt ctx a r.state = .ok ()) :
    attempt ctx (journaled index a) r
      = (.ok (), ⟨(a.transaction ctx r.state).2,
          r.journal ++ [⟨⟨.transaction, index, a.name, ctx⟩, .ok ()⟩]⟩) := by
  obtain ⟨hlive, hresult⟩ := called_of_outcomeAt h
  rw [attempt_eq]
  unfold outcomeAt
  simp only [Tokens.isCancelled] at hlive ⊢
  simp only [journaled, writeDown, hlive, hresult]
  simp

/-- A journaled attempt that fails adds its call, unless it was cancelled before that. -/
theorem attempt_journaled_error {ctx : Context} {a : Activity (StateM σ)} {r : Journaled σ}
    {cause : ActivityError} (index : Nat) (h : outcomeAt ctx a r.state = .error cause) :
    attempt ctx (journaled index a) r
      = (.error cause, ⟨(attempt ctx a r.state).2,
          r.journal ++ failedEntry index ctx a r.state cause⟩) := by
  have houtcome : outcomeAt ctx (journaled index a) r = outcomeAt ctx a r.state := rfl
  rw [attempt_eq, attempt_eq, houtcome, h]
  unfold failedEntry outcomeAt at *
  simp only [Tokens.isCancelled] at h ⊢
  split
  · rw [List.append_nil]
  next hlive =>
    rw [if_neg hlive] at h
    simp only [journaled, writeDown, h]

/-- After an attempt that succeeds, the saga goes on with the next activity. -/
theorem executeFrom_ok (rollback : Bool) {ctx : Context} {a : Activity (StateM σ)} {s s' : σ}
    (completed rest : List (Activity (StateM σ))) (h : attempt ctx a s = (.ok (), s')) :
    executeFrom rollback ctx completed (a :: rest) s
      = executeFrom rollback ctx (a :: completed) rest s' := by
  change (match (attempt ctx a s).1 with
    | .ok () => executeFrom rollback ctx (a :: completed) rest
    | .error cause => _) (attempt ctx a s).2 = _
  rw [h]

/-- After an attempt that fails, the saga rolls back if it is to, and ends with the error. -/
theorem executeFrom_error (rollback : Bool) {ctx : Context} {a : Activity (StateM σ)} {s s' : σ}
    {cause : ActivityError} (completed rest : List (Activity (StateM σ)))
    (h : attempt ctx a s = (.error cause, s')) :
    executeFrom rollback ctx completed (a :: rest) s =
      let undone := if rollback then compensate ctx.detach completed s' else ([], s')
      (.error ⟨completed.length, a.name, cause, undone.1⟩, undone.2) := by
  change (match (attempt ctx a s).1 with
    | .ok () => _
    | .error cause => _ : StateM σ (Except SagaError Nat)) (attempt ctx a s).2 = _
  rw [h]
  cases rollback with
  | true => rfl
  | false => rfl

/-- Where a saga stands when no transaction has failed yet. -/
structure Underway (ctx : Context) (activities : List (Activity (StateM σ))) (s : σ)
    (completed rest : List (Activity (StateM σ))) (r : Journaled σ) : Prop where
  split : activities = completed.reverse ++ rest
  state : r.state = stateAt ctx activities s completed.length
  none_fails : ∀ i < completed.length, ¬FailsAt ctx activities s i
  journal : r.journal = successes (calls .transaction ctx completed.reverse)

namespace Underway

variable {ctx : Context} {activities completed rest : List (Activity (StateM σ))} {s : σ}
  {a : Activity (StateM σ)} {r : Journaled σ}

/-- The activity that is next is the one behind those that are completed. -/
theorem reached (h : Underway ctx activities s completed (a :: rest) r) :
    activities[completed.length]? = some a := by
  rw [h.split, List.getElem?_append_right (by simp)]
  simp

/-- Those that are completed are the first ones. -/
theorem take (h : Underway ctx activities s completed rest r) :
    activities.take completed.length = completed.reverse := by
  rw [h.split, ← List.length_reverse, List.take_left]

/-- A transaction that succeeds brings the saga one activity further. -/
theorem next (h : Underway ctx activities s completed (a :: rest) r)
    (hok : outcomeAt ctx a r.state = .ok ()) :
    Underway ctx activities s (a :: completed) rest ⟨(a.transaction ctx r.state).2,
      r.journal ++ [⟨⟨.transaction, completed.length, a.name, ctx⟩, .ok ()⟩]⟩ where
  split := by
    rw [h.split, List.reverse_cons, List.append_assoc, List.singleton_append]
  state := by
    rw [h.state]
    unfold stateAt
    rw [List.length_cons, List.take_add_one, List.foldl_append, h.reached]
    rfl
  none_fails := by
    intro i hi hfails
    rcases Nat.lt_succ_iff_lt_or_eq.1 hi with hlt | rfl
    · exact h.none_fails i hlt hfails
    · obtain ⟨b, cause, hb, hcause⟩ := hfails
      obtain rfl := Option.some.inj (h.reached.symm.trans hb)
      rw [← h.state, hok] at hcause
      simp at hcause
  journal := by
    rw [h.journal]
    unfold successes calls
    rw [List.reverse_cons, List.mapIdx_append, List.map_append, List.length_reverse]
    simp

end Underway

/-- From wherever it stands, a saga is conducted to its end, and writing it down changes neither
its result nor the state that it leaves. -/
theorem executeFrom_journal (rollback : Bool) {ctx : Context}
    {activities completed rest : List (Activity (StateM σ))} {s : σ} {r : Journaled σ}
    (h : Underway ctx activities s completed rest r) :
    let plain := executeFrom rollback ctx completed rest r.state
    let written := executeFrom rollback ctx (journal completed.reverse).reverse
      (rest.mapIdx fun i => journaled (completed.length + i)) r
    written.1 = plain.1 ∧ written.2.state = plain.2 ∧
      Conducted rollback ctx activities s written.1 written.2.journal := by
  -- On what is left to do. `Underway` carries what has been done and written down so far.
  induction rest generalizing completed r with
  | nil =>
    have hall : completed.reverse = activities := by rw [h.split, List.append_nil]
    have hlength : completed.length = activities.length := by
      rw [← hall, List.length_reverse]
    refine ⟨?_, rfl, ?_⟩
    · show Except.ok _ = Except.ok _
      rw [length_reverse_journal]
    · show Conducted rollback ctx activities s
        (.ok (journal completed.reverse).reverse.length) r.journal
      rw [length_reverse_journal, hlength, h.journal, hall]
      refine .completed fun i hfails => ?_
      obtain ⟨a, cause, ha, hcause⟩ := hfails
      have hi : i < completed.length := by
        rw [hlength]
        exact (List.getElem?_eq_some_iff.1 ha).1
      exact h.none_fails i hi ⟨a, cause, ha, hcause⟩
  | cons a rest ih =>
    have hrest : ((a :: rest).mapIdx fun i => journaled (completed.length + i))
        = journaled completed.length a ::
          rest.mapIdx fun i => journaled ((a :: completed).length + i) := by
      rw [List.mapIdx_cons, List.length_cons]
      simp only [Nat.add_zero, Nat.add_assoc, Nat.add_comm 1]
    intro plain written
    cases hout : outcomeAt ctx a r.state with
    | ok u =>
      obtain ⟨hlive, hresult⟩ := called_of_outcomeAt hout
      have hplain : plain = executeFrom rollback ctx (a :: completed) rest
          (a.transaction ctx r.state).2 := by
        refine executeFrom_ok rollback completed rest ?_
        rw [attempt_eq, hout, hlive]
        rfl
      have hwritten := executeFrom_ok rollback (journal completed.reverse).reverse
        (rest.mapIdx fun i => journaled ((a :: completed).length + i))
        (attempt_journaled_ok completed.length hout)
      rw [← hrest, ← reverse_journal_cons] at hwritten
      change written = _ at hwritten
      rw [hplain, hwritten]
      exact ih (h.next hout)
    | error cause =>
      -- The rest is not begun. All that is still written down is the undoing of what was completed.
      have hattempt : attempt ctx a r.state = (.error cause, (attempt ctx a r.state).2) := by
        rw [attempt_eq, hout]
      have hwritten := executeFrom_error rollback (journal completed.reverse).reverse
        (rest.mapIdx fun i => journaled ((a :: completed).length + i))
        (attempt_journaled_error completed.length hout)
      obtain ⟨undone, s', hundone, hnoted, hcalls⟩ := undo_journal rollback ctx.detach completed
        (attempt ctx a r.state).2 (r.journal ++ failedEntry completed.length ctx a r.state cause)
      have hplain := executeFrom_error rollback completed rest hattempt
      rw [hundone] at hplain
      rw [← hrest, length_reverse_journal, hnoted] at hwritten
      change written = _ at hwritten
      change plain = _ at hplain
      rw [hplain, hwritten]
      refine ⟨rfl, rfl, ?_⟩
      rw [h.state] at hout
      show Conducted rollback ctx activities s (.error ⟨completed.length, a.name, cause, _⟩)
        (r.journal ++ failedEntry completed.length ctx a r.state cause ++ undone)
      rw [h.journal, ← h.take, h.state]
      refine .failed h.reached hout h.none_fails ?_
      rw [hcalls, h.take]

/-! ## Whole sagas -/

namespace Conducted

variable {rollback : Bool} {ctx : Context} {activities : List (Activity (StateM σ))} {s : σ}
  {result : Except SagaError Nat} {entries : List Entry}

/-- The saga succeeds exactly if no activity fails. -/
theorem ok_iff (h : Conducted rollback ctx activities s result entries) :
    (∃ n, result = .ok n) ↔ ∀ i, ¬FailsAt ctx activities s i := by
  cases h with
  | completed none_fails => exact ⟨fun _ => none_fails, fun _ => ⟨_, rfl⟩⟩
  | failed reached fails first undoing =>
    constructor
    · rintro ⟨n, hn⟩
      simp at hn
    · intro hnone
      exact absurd ⟨_, _, reached, fails⟩ (hnone _)

/-- Failed compensations are listed with strictly decreasing places. -/
theorem pairwise_failures (h : Conducted rollback ctx activities s result entries) {e : SagaError}
    (he : result = .error e) :
    (e.compensationFailures.map CompensationFailure.index).Pairwise (· > ·) := by
  cases h with
  | completed none_fails => simp at he
  | failed reached fails first undoing =>
    cases he
    exact pairwise_index_undone undoing

end Conducted

/-- A saga calls its transactions in their order up to the first that fails, and then, if wanted,
the compensations of those before it, the last one first; it ends well if and only if none fails,
and it reports the first failure and the compensations that failed as they are. -/
theorem execute_journal (rollback : Bool) (ctx : Context) (activities : List (Activity (StateM σ)))
    (s : σ) :
    let plain := execute rollback ctx activities s
    let written := execute rollback ctx (journal activities) ⟨s, []⟩
    written.1 = plain.1 ∧ written.2.state = plain.2 ∧
      Conducted rollback ctx activities s written.1 written.2.journal ∧
      ((∃ n, written.1 = .ok n) ↔ ∀ i, ¬FailsAt ctx activities s i) ∧
      ∀ e, written.1 = .error e →
        (e.compensationFailures.map CompensationFailure.index).Pairwise (· > ·) := by
  have hstart : Underway ctx activities s [] activities ⟨s, []⟩ := by
    refine ⟨rfl, rfl, fun i hi => ?_, rfl⟩
    simp at hi
  obtain ⟨hresult, hstate, hconducted⟩ := executeFrom_journal rollback hstart
  have hjournal :
      (activities.mapIdx fun i => journaled (([] : List (Activity (StateM σ))).length + i))
        = journal activities := by
    simp only [List.length_nil, Nat.zero_add]
    rfl
  rw [hjournal] at hresult hstate hconducted
  intro plain written
  refine ⟨hresult, hstate, hconducted, ?_, ?_⟩
  · exact hconducted.ok_iff
  · exact fun e he => hconducted.pairwise_failures he

end Saga

end ReverseReplication
