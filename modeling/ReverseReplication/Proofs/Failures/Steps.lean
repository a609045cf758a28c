import ReverseReplication.Proofs.Failures.Accounts

/-!
# Steps that account for their failures

A step accounts for its failure if its events do so in every disturbed world (`Step.Accounts`). The
rules follow the shape of a `do` block, so that a transaction is accounted for part by part.

What takes something back makes one call at most (`Step.Retracts`), and it does not look at the
cancellation of the run. So it adds nothing to the way forward, whether a transaction undoes by it
what it has done itself or a saga compensates with it.
-/

namespace ReverseReplication

variable {α β σ τ : Type}

/-! ## Plans and steps in a disturbed world -/

namespace DisturbedWorld

/-- The events of two plans in sequence. -/
theorem events_bind (p : Plan α) (f : α → Plan β) (d : DisturbedWorld) :
    events (p >>= f) d = events p d ++ events (f (p.run answer d).1) (p.run answer d).2 := by
  show events (p.bind f) d = _
  induction p generalizing d with
  | done a => rfl
  | ask q next ih => exact congrArg _ (ih _ _)

end DisturbedWorld

/-- The calls in the events of a plan are those that it may make. -/
theorem Plan.AsksOnly.operation_mem {ops : List Operation} {p : Plan α} (hp : p.AsksOnly ops)
    {d : DisturbedWorld} {event : Event} (hevent : event ∈ DisturbedWorld.events p d) {c : Call}
    (hc : event.query.call? = some c) : c.operation ∈ ops := by
  induction p generalizing d with
  | done a => cases hevent
  | ask q next ih =>
    rcases List.mem_cons.1 hevent with rfl | hrest
    · exact hp.1 c hc
    · exact ih _ (hp.2 _) hrest

namespace Step

/-- The error of a result, if it is one. -/
def failure? : Except ActivityError α → Option ActivityError
  | .ok _ => none
  | .error e => some e

/-- A result that has failed has the error as its cause. -/
theorem failure?_eq_some {result : Except ActivityError α} {cause : ActivityError}
    (h : failure? result = some cause) : result = .error cause := by
  cases result with
  | error e =>
    cases h
    rfl
  | ok a => cases h

/-- How a step ends in a disturbed world. -/
def ended (x : Step σ α) (s : σ) (d : DisturbedWorld) :
    (Except ActivityError α × σ) × DisturbedWorld :=
  (x.run.run s).run DisturbedWorld.answer d

/-- The events of a step in a disturbed world. -/
def events (x : Step σ α) (s : σ) (d : DisturbedWorld) : List Event :=
  DisturbedWorld.events (x.run.run s) d

/-- In every disturbed world, the events of the step account for its failure. -/
def Accounts (x : Step σ α) : Prop := ∀ s d, Accounted (x.events s d) (failure? (x.ended s d).1.1)

variable {ctx : Context} {c : Call} {s s' : σ} {d d' : DisturbedWorld}

section sequences

variable {x : Step σ α} {f : α → Step σ β}

/-- After a step that succeeds, the next one goes on. -/
theorem ended_bind_of_ok {a : α} (h : x.ended s d = ((.ok a, s'), d')) :
    (x >>= f).ended s d = (f a).ended s' d' := by
  unfold ended at h ⊢
  rw [ExceptT.run_bind, StateT.run_bind, Plan.run_bind, h]

/-- After a step that fails, nothing goes on. -/
theorem ended_bind_of_error {e : ActivityError} (h : x.ended s d = ((.error e, s'), d')) :
    (x >>= f).ended s d = ((.error e, s'), d') := by
  unfold ended at h ⊢
  rw [ExceptT.run_bind, StateT.run_bind, Plan.run_bind, h]
  rfl

/-- The events of steps one after the other are those of the first and those of the second. -/
theorem events_bind_of_ok {a : α} (h : x.ended s d = ((.ok a, s'), d')) :
    (x >>= f).events s d = x.events s d ++ (f a).events s' d' := by
  unfold ended at h
  unfold events
  rw [ExceptT.run_bind, StateT.run_bind, DisturbedWorld.events_bind, h]

/-- After a step that fails, there are no more events. -/
theorem events_bind_of_error {e : ActivityError} (h : x.ended s d = ((.error e, s'), d')) :
    (x >>= f).events s d = x.events s d := by
  unfold ended at h
  unfold events
  rw [ExceptT.run_bind, StateT.run_bind, DisturbedWorld.events_bind, h]
  exact List.append_nil _

end sequences

/-- A call is one query, and a call that is given up ends the step as cancelled. -/
theorem run_call_bind {f : Except ManagerError c.Reply → Step σ β} (s : σ) :
    (call ctx c >>= f).run.run s = .ask (.guarded ctx.scope c) fun answer =>
      match answer with
      | none => .done (.error .cancelled, s)
      | some reply => (f reply).run.run s := by
  refine congrArg (Plan.ask _) (funext fun answer => ?_)
  cases answer with
  | none => rfl
  | some reply => rfl

/-- Reading a local file is one query, and one that is given up ends the step as cancelled. -/
theorem run_readFile {doing path : String} (s : σ) :
    (readFile ctx doing path : Step σ _).run.run s = .ask (.file ctx.scope path) fun answer =>
      match answer with
      | none => .done (.error .cancelled, s)
      | some (.error e) => .done (.error (.external doing (.file e)), s)
      | some (.ok contents) => .done (.ok contents, s) := by
  refine congrArg (Plan.ask _) (funext fun answer => ?_)
  cases answer with
  | none => rfl
  | some read =>
    cases read with
    | error e => rfl
    | ok contents => rfl

/-- A step with an undo, which comes after a failure and does not change it. -/
theorem run_undoing {undo : Step σ Unit} {x : Step σ α} (s : σ) :
    (undoing undo x).run.run s = (x.run.run s >>= fun result =>
      match result.1 with
      | .ok _ => pure result
      | .error e => undo.run.run result.2 >>= fun undone => pure (.error e, undone.2)) := by
  change (ExceptT.tryCatch x _).run.run s = _
  unfold ExceptT.tryCatch
  refine congrArg (x.run.run s >>= ·) (funext fun result => ?_)
  obtain ⟨e | a, s'⟩ := result
  · change ((ExceptT.tryCatch undo _).run.run s' >>= _) = _
    unfold ExceptT.tryCatch
    change ((undo.run.run s' >>= _) >>= _) = _
    rw [bind_assoc]
    refine congrArg (undo.run.run s' >>= ·) (funext fun undone => ?_)
    obtain ⟨e' | u, s''⟩ := undone
    · rfl
    · rfl
  · rfl

/-! ## Rules -/

theorem accounts_pure (a : α) : (pure a : Step σ α).Accounts := fun _ _ => .done

theorem accounts_get : (get : Step σ σ).Accounts := fun _ _ => .done

theorem accounts_set (s : σ) : (set s : Step σ PUnit).Accounts := fun _ _ => .done

theorem accounts_modify (f : σ → σ) : (modify f : Step σ PUnit).Accounts := fun _ _ => .done

/-- If steps account for their failures, so they do one after the other. -/
theorem accounts_bind {x : Step σ α} {f : α → Step σ β} (hx : x.Accounts)
    (hf : ∀ a, (f a).Accounts) : (x >>= f).Accounts := by
  intro s d
  have hfirst := hx s d
  rcases hended : x.ended s d with ⟨⟨r, s'⟩, d'⟩
  rw [hended] at hfirst
  cases r with
  | error e =>
    rw [events_bind_of_error hended, ended_bind_of_error hended]
    exact hfirst
  | ok a =>
    rw [events_bind_of_ok hended, ended_bind_of_ok hended]
    exact hfirst.append (hf a s' d')

/-- The first thing that a step does is to ask a query. -/
def Opens (q : Query) (x : Step σ α) : Prop := ∀ s, ∃ next, x.run.run s = .ask q next

/-- A call whose reply is looked at. An error that is not absorbed ends the step; one that is may
have something asked next. -/
theorem accounts_call {f : Except ManagerError c.Reply → Step σ β}
    (hctx : ctx.scope = .cancellable) (replied : ∀ reply, (f (.ok reply)).Accounts)
    (absorbed : ∀ err, c.Absorbs err .transaction →
      (f (.error err)).Accounts ∧ ∀ q, c.sequel? = some q → (f (.error err)).Opens q)
    (refused : ∀ err, ¬c.Absorbs err .transaction →
      ∃ cause, f (.error err) = throw cause ∧ c.Blames err cause) :
    (call ctx c >>= f).Accounts := by
  intro s d
  unfold events ended
  rw [run_call_bind, hctx]
  rw [DisturbedWorld.events, Plan.run]
  generalize DisturbedWorld.answer _ d = answered
  obtain ⟨answer, d'⟩ := answered
  cases answer with
  | none => exact .stopped rfl rfl (.inl rfl) (List.forall_mem_nil _)
  | some reply =>
    cases reply with
    | ok reply => exact .passed rfl rfl (replied reply s d')
    | error err =>
      by_cases habsorbs : c.Absorbs err .transaction
      · obtain ⟨haccounts, hsequel⟩ := absorbed err habsorbs
        refine .absorbed rfl rfl habsorbs ?_ (haccounts s d')
        intro q hq
        obtain ⟨next, hnext⟩ := hsequel q hq s
        dsimp only
        rw [hnext]
        exact ⟨_, rfl, rfl⟩
      · obtain ⟨cause, hthrow, hblames⟩ := refused err habsorbs
        dsimp only
        rw [hthrow]
        exact .refused rfl rfl habsorbs hblames (List.forall_mem_nil _)

/-- A call that has to succeed. -/
theorem accounts_need {doing : String} (hctx : ctx.scope = .cancellable) (op : Operation)
    (hc : c.operation = op) (hop : op ∉ .validateFeedOptions :: Hazards.creations) :
    (need ctx doing c : Step σ c.Reply).Accounts := by
  rw [List.mem_cons, not_or, ← hc] at hop
  unfold need
  refine accounts_call hctx accounts_pure ?_ ?_
  · intro err habsorbs
    exact absurd habsorbs.1 hop.2
  · intro err _
    exact ⟨_, rfl, Call.blames_ofManager fun hvalidates => absurd hvalidates hop.1⟩

/-- A call that creates something, unless it is there already. -/
theorem accounts_create {f : Except ManagerError c.Reply → Step σ β}
    (hctx : ctx.scope = .cancellable) (op : Operation) (hc : c.operation = op)
    (hop : op ∈ Hazards.creations)
    (created : ∀ reply, (f (.ok reply)).Accounts)
    (found : ∀ what, (f (.error (.alreadyExists what))).Accounts ∧
      ∀ q, c.sequel? = some q → (f (.error (.alreadyExists what))).Opens q)
    (refused : ∀ err, err.isAlreadyExists = false →
      ∃ doing, f (.error err) = throw (.ofManager doing err)) :
    (call ctx c >>= f).Accounts := by
  rw [← hc] at hop
  refine accounts_call hctx created ?_ ?_
  · intro err habsorbs
    obtain ⟨what, rfl⟩ := habsorbs.alreadyExists
    exact found what
  · intro err habsorbs
    have hother : err.isAlreadyExists = false := by
      rw [← Bool.not_eq_true]
      exact fun hexists => habsorbs ⟨hop, hexists⟩
    obtain ⟨doing, hthrow⟩ := refused err hother
    refine ⟨_, hthrow, Call.blames_ofManager fun hvalidates => ?_⟩
    rw [hvalidates] at hop
    simp [Hazards.creations] at hop

/-- Reading a local file fails for a reason of its own, or because the run is cancelled. -/
theorem accounts_readFile {doing path : String} (hctx : ctx.scope = .cancellable) :
    (readFile ctx doing path : Step σ _).Accounts := by
  intro s d
  unfold events ended
  rw [run_readFile, hctx]
  rw [DisturbedWorld.events, Plan.run]
  generalize DisturbedWorld.answer _ d = answered
  obtain ⟨answer, d'⟩ := answered
  cases answer with
  | none => exact .stopped rfl rfl (.inl rfl) (List.forall_mem_nil _)
  | some read =>
    cases read with
    | error e => exact .stopped rfl rfl (.inr ⟨_, _, rfl⟩) (List.forall_mem_nil _)
    | ok contents => exact .passed rfl rfl .done

/-- What is undone after a failure is not on the way forward, so the step accounts for its failure
as before. -/
theorem accounts_undoing {undo : Step σ Unit} {x : Step σ α} (hx : x.Accounts)
    (hundo : ∀ s d, ∀ e ∈ undo.events s d, ¬e.Forward) : (undoing undo x).Accounts := by
  intro s d
  have hfirst := hx s d
  unfold events ended at hfirst ⊢
  rw [run_undoing, DisturbedWorld.events_bind, Plan.run_bind]
  generalize (x.run.run s).run DisturbedWorld.answer d = ended at hfirst ⊢
  obtain ⟨⟨r, s'⟩, d'⟩ := ended
  cases r with
  | ok a => exact hfirst.append .done
  | error e =>
    dsimp only
    rw [DisturbedWorld.events_bind, Plan.run_bind]
    refine hfirst.append_undo fun event hevent => ?_
    rcases List.mem_append.1 hevent with hmem | hmem
    · exact hundo s' d' event hmem
    · cases hmem

/-! ## Taking something back -/

/-- The step makes one call, and then it is done. It fails for any error that is not absorbed. -/
def CallsOnce (scope : Scope) (x : Step σ Unit) (s : σ) : Prop :=
  ∃ (c : Call) (next : Option (Except ManagerError c.Reply) → Plan (Except ActivityError Unit × σ)),
    x.run.run s = .ask (.guarded scope c) next ∧ (∀ answer, ∃ result, next answer = pure result) ∧
      ∀ err, (c.Absorbs err .compensation ∧ ∃ s', next (some (.error err)) = pure (.ok (), s')) ∨
        (¬c.Absorbs err .compensation ∧ ∃ cause s',
          next (some (.error err)) = pure (.error cause, s') ∧ c.Blames err cause)

/-- The step makes one call at most. -/
def Retracts (scope : Scope) (x : Step σ Unit) : Prop :=
  ∀ s, x.run.run s = pure (.ok (), s) ∨ x.CallsOnce scope s

/-- What is taken back is taken back without looking at the cancellation of the run. -/
theorem Retracts.not_forward {x : Step σ Unit} (h : x.Retracts .detached) (s : σ)
    (d : DisturbedWorld) : ∀ e ∈ x.events s d, ¬e.Forward := by
  unfold events
  intro e he
  rcases h s with hnone | ⟨c, next, hask, hdone, -⟩
  · rw [hnone] at he
    cases he
  · rw [hask, DisturbedWorld.events] at he
    obtain ⟨result, hresult⟩ := hdone (DisturbedWorld.answer (.guarded .detached c) d).1
    rw [hresult] at he
    cases List.mem_singleton.1 he
    exact Bool.false_ne_true

/-- What becomes of an error on the way back. -/
theorem Retracts.at_error {scope : Scope} {x : Step σ Unit} (h : x.Retracts scope) {event : Event}
    {err : ManagerError} (hevent : event ∈ x.events s d) (hc : event.query.call? = some c)
    (herr : event.error? = some err) :
    (c.Absorbs err .compensation ∧ (x.ended s d).1.1 = .ok ()) ∨
      (¬c.Absorbs err .compensation ∧
        ∃ cause, (x.ended s d).1.1 = .error cause ∧ c.Blames err cause) := by
  unfold events at hevent
  unfold ended
  rcases h s with hnone | ⟨made, next, hask, hdone, herrors⟩
  · rw [hnone] at hevent
    cases hevent
  · rw [hask, DisturbedWorld.events] at hevent
    rw [hask, Plan.run]
    generalize DisturbedWorld.answer _ d = answered at hevent ⊢
    obtain ⟨answer, d'⟩ := answered
    obtain ⟨result, hresult⟩ := hdone answer
    dsimp only at hevent ⊢
    rw [hresult] at hevent ⊢
    cases List.mem_singleton.1 hevent
    cases hc
    cases answer with
    | none => cases herr
    | some reply =>
      cases reply with
      | ok reply => cases herr
      | error e =>
        cases herr
        rcases herrors err with ⟨habsorbs, s', hok⟩ | ⟨habsorbs, cause, s', hcause, hblames⟩
        · cases hresult.symm.trans hok
          exact .inl ⟨habsorbs, rfl⟩
        · cases hresult.symm.trans hcause
          exact .inr ⟨habsorbs, cause, rfl, hblames⟩

/-- What is taken back only if the output claims it. -/
theorem retracts_claimed {claims : σ → Bool} {x : σ → Step σ Unit} {scope : Scope}
    (h : ∀ s, (x s).CallsOnce scope s) :
    (get >>= fun s => if claims s then x s else pure () : Step σ Unit).Retracts scope := by
  intro s
  have hrun : (get >>= fun s => if claims s then x s else pure () : Step σ Unit).run.run s =
      (if claims s then x s else pure () : Step σ Unit).run.run s := rfl
  by_cases hclaims : claims s = true
  · rw [if_pos hclaims] at hrun
    obtain ⟨c, next, hask, hthen⟩ := h s
    exact .inr ⟨c, next, hrun.trans hask, hthen⟩
  · rw [if_neg hclaims] at hrun
    exact .inl hrun

/-- A step may go on to note what it has done. -/
theorem CallsOnce.then_set {scope : Scope} {x : Step σ Unit} (h : x.CallsOnce scope s)
    (noted : σ) : (x >>= fun _ => set noted : Step σ Unit).CallsOnce scope s := by
  obtain ⟨c, next, hask, hdone, herrors⟩ := h
  refine ⟨c, fun answer => next answer >>= fun result =>
    (ExceptT.bindCont (fun _ => (set noted : Step σ Unit)) result.1).run result.2,
    ?_, fun answer => ?_, fun err => ?_⟩
  · exact congrArg (Plan.bind · _) hask
  · dsimp only
    obtain ⟨⟨cause | u, s'⟩, hresult⟩ := hdone answer
    · rw [hresult]
      exact ⟨_, rfl⟩
    · rw [hresult]
      exact ⟨_, rfl⟩
  · dsimp only
    rcases herrors err with ⟨habsorbs, s', hok⟩ | ⟨habsorbs, cause, s', hcause, hblames⟩
    · rw [hok]
      exact .inl ⟨habsorbs, noted, rfl⟩
    · rw [hcause]
      exact .inr ⟨habsorbs, cause, s', rfl, hblames⟩

/-- What is to be undone may be gone already. -/
theorem callsOnce_remove {doing : String} (op : Operation) (hc : c.operation = op)
    (hop : op ∈ Hazards.undoings) (s : σ) :
    (remove ctx doing c : Step σ Unit).CallsOnce ctx.scope s := by
  rw [← hc] at hop
  have hblames : ∀ err, c.Blames err (.ofManager doing err) := by
    intro err
    refine Call.blames_ofManager fun hvalidates => ?_
    rw [hvalidates] at hop
    simp [Hazards.undoings] at hop
  refine ⟨c, _, run_call_bind s, fun answer => ?_, fun err => ?_⟩
  · cases answer with
    | none => exact ⟨_, rfl⟩
    | some reply =>
      cases reply with
      | ok reply => exact ⟨_, rfl⟩
      | error err => cases err <;> exact ⟨_, rfl⟩
  · by_cases hgone : err.isNotFound = true
    · cases err with
      | notFound what => exact .inl ⟨⟨hop, rfl⟩, s, rfl⟩
      | _ => cases hgone
    · refine .inr ⟨fun habsorbs => hgone habsorbs.2, .ofManager doing err, s, ?_, hblames err⟩
      cases err with
      | notFound what => exact absurd rfl hgone
      | _ => rfl

/-- No error of a change of a job's status is absorbed. -/
theorem callsOnce_updateJobStatus {doing : String} (jobId : JobId) (status : JobStatus) (s : σ) :
    (need ctx doing (.updateJobStatus jobId status) : Step σ Unit).CallsOnce ctx.scope s := by
  refine ⟨_, _, run_call_bind s, fun answer => ?_, fun err => .inr ⟨?_, _, s, rfl, ?_⟩⟩
  · cases answer with
    | none => exact ⟨_, rfl⟩
    | some reply =>
      cases reply with
      | ok reply => exact ⟨_, rfl⟩
      | error err => exact ⟨_, rfl⟩
  · intro habsorbs
    have hundoes := habsorbs.1
    simp [Call.operation, Hazards.undoings] at hundoes
  · refine Call.blames_ofManager fun hop => ?_
    cases hop

end Step

end ReverseReplication
