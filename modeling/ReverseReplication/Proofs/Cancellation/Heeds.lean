import ReverseReplication.Proofs.Cancellation.Watch
import ReverseReplication.Proofs.Ownership.Claims
import ReverseReplication.Provision.Catalog

/-!
# What activities do about a cancellation

A watched run is `Live` until a check sees that it is cancelled. From then on it is `Halted`: it
makes no call but to undo. Every transaction heeds the cancellation (`Catalog.heeds_transaction`):
it gives up with the first check that sees it, and undoes at most what it has done itself.

Undoing is done under a context that is not checked, so a compensation is carried out to its end.
What it leaves is an `Aftermath` of what was there: the same checks, and some more calls, of the
kinds that `Catalog.aftermath_compensation` names.
-/

namespace ReverseReplication

variable {σ α β : Type}

/-! ## Live and halted runs -/

/-- The answer to a query that is given up. -/
def Query.givenUp : (q : Query) → q.Answer
  | .cancelled _ => true
  | .call _ => .error .cancelled
  | .guarded _ _ => none
  | .file _ _ => none

/-- In a cancelled world, whatever is checked is given up. -/
theorem World.answer_of_cancelled {w : World} {q : Query} (hcheck : q.isCheck = true)
    (h : w.cancelled = true) : w.answer q = (q.givenUp, w) := by
  have hseen : ∀ scope, decide (scope = Scope.cancellable) = true → w.isCancelled scope = true := by
    intro scope hscope
    rw [World.isCancelled, h, hscope, Bool.and_self]
  cases q with
  | cancelled scope => rw [World.answer, hseen scope hcheck, Query.givenUp]
  | call c => cases hcheck
  | guarded scope c => rw [World.answer, if_pos (hseen scope hcheck), Query.givenUp]
  | file scope path => rw [World.answer, if_pos (hseen scope hcheck), Query.givenUp]

/-- A check that is given up makes no call. -/
theorem Query.made?_givenUp {q : Query} (hcheck : q.isCheck = true) : q.made? q.givenUp = none := by
  cases q with
  | call c => cases hcheck
  | cancelled scope => rfl
  | guarded scope c => rfl
  | file scope path => rfl

namespace WatchedWorld

/-- No check has seen a cancellation. -/
structure Live (w : WatchedWorld) : Prop where
  running : w.world.cancelled = false
  calls : w.callsSince = []

/-- The run is cancelled, and since then nothing was done but to undo. -/
structure Halted (w : WatchedWorld) : Prop where
  cancelled : w.world.cancelled = true
  calls : ∀ c ∈ w.callsSince, c.operation ∈ Hazards.undoings

/-- What follows without a check: some calls, which count if the run is cancelled. -/
structure Aftermath (allowed : Call → Prop) (w w' : WatchedWorld) : Prop where
  cancelled : w'.world.cancelled = w.world.cancelled
  checks : w'.checks = w.checks
  calls : ∀ c ∈ w'.callsSince, c ∈ w.callsSince ∨ w.world.cancelled = true ∧ allowed c

variable {w w' w'' : WatchedWorld} {q : Query} {allowed allowed' : Call → Prop}

/-- The check before which a run is cancelled is given up. -/
theorem answer_stopped (hcheck : q.isCheck = true) (hrunning : w.world.cancelled = false)
    (hk : w.cancelAt = some w.checks.length) :
    answer q w = (q.givenUp, { w with world := w.world.cancel, checks := w.checks ++ [q] }) := by
  have hworld : World.answer q w.world.cancel = (q.givenUp, w.world.cancel) :=
    World.answer_of_cancelled hcheck rfl
  unfold answer
  dsimp only
  rw [reach_stopped hcheck hrunning hk, hworld, Query.made?_givenUp hcheck]
  dsimp only
  rw [Option.toList_none, List.append_nil, ite_self]

/-- What becomes of a live run with a check: it stays live, or this check is the first to see that
the run is cancelled, and what was asked is given up. -/
theorem Live.check (h : w.Live) (hcheck : q.isCheck = true) :
    (answer q w).2.begun = w.begun + (if q.isBoundary then 1 else 0) ∧
      ((answer q w).2.Live ∨ (answer q w).2.Halted ∧ (answer q w).1 = q.givenUp) := by
  have hbegun : (w.checks ++ [q]).countP Query.isBoundary =
      w.begun + (if q.isBoundary then 1 else 0) := by
    rw [List.countP_append, List.countP_singleton, begun]
  by_cases hk : w.cancelAt = some w.checks.length
  · rw [answer_stopped hcheck h.running hk]
    refine ⟨hbegun, .inr ⟨⟨rfl, fun c hc => ?_⟩, rfl⟩⟩
    rw [h.calls] at hc
    cases hc
  · have hreach := reach_spared hcheck h.running hk
    have hrunning : (answer q w).2.world.cancelled = false := by
      rw [cancelled_answer_eq, hreach, h.running]
    have hcalls : (answer q w).2.callsSince = [] := by
      unfold answer
      dsimp only
      rw [hreach]
      dsimp only
      rw [h.running, if_neg Bool.false_ne_true, h.calls]
    refine ⟨?_, .inl ⟨hrunning, hcalls⟩⟩
    rw [begun, checks_answer, hreach]
    exact hbegun

namespace Aftermath

/-- Where nothing has happened, nothing is left behind. -/
theorem refl (w : WatchedWorld) : Aftermath allowed w w := ⟨rfl, rfl, fun _ hc => .inl hc⟩

/-- What two steps leave, one after the other, is an aftermath of what was there before both. -/
theorem trans (h : Aftermath allowed w w') (h' : Aftermath allowed w' w'') :
    Aftermath allowed w w'' where
  cancelled := h'.cancelled.trans h.cancelled
  checks := h'.checks.trans h.checks
  calls := by
    intro c hc
    rcases h'.calls c hc with hmem | ⟨hcancelled, hallowed⟩
    · exact h.calls c hmem
    · rw [h.cancelled] at hcancelled
      exact .inr ⟨hcancelled, hallowed⟩

/-- An aftermath of certain calls is one of any wider kind of calls. -/
theorem mono (h : Aftermath allowed w w') (himp : ∀ c, allowed c → allowed' c) :
    Aftermath allowed' w w' where
  cancelled := h.cancelled
  checks := h.checks
  calls := fun c hc => (h.calls c hc).imp_right fun hthen => ⟨hthen.1, himp c hthen.2⟩

/-- What makes no checks begins no activities. -/
theorem begun_eq (h : Aftermath allowed w w') : w'.begun = w.begun := by
  rw [begun, h.checks, begun]

/-- Without a check, no cancellation is seen. -/
theorem live (h : Aftermath allowed w w') (hlive : w.Live) : w'.Live where
  running := h.cancelled.trans hlive.running
  calls := by
    refine List.eq_nil_iff_forall_not_mem.2 fun c hc => ?_
    rcases h.calls c hc with hmem | ⟨hcancelled, -⟩
    · rw [hlive.calls] at hmem
      cases hmem
    · rw [hlive.running] at hcancelled
      cases hcancelled

/-- A halted run stays halted as long as it only undoes. -/
theorem halted (h : Aftermath (fun c => c.operation ∈ Hazards.undoings) w w')
    (hhalted : w.Halted) : w'.Halted where
  cancelled := h.cancelled.trans hhalted.cancelled
  calls := by
    intro c hc
    rcases h.calls c hc with hmem | ⟨-, hundoes⟩
    · exact hhalted.calls c hmem
    · exact hundoes

end Aftermath

/-- What is not a check makes one call at most. -/
theorem aftermath_answer (h : q.isCheck = false) :
    Aftermath (fun c => q.made? (answer q w).1 = some c) w (answer q w).2 where
  cancelled := by rw [cancelled_answer_eq, reach_of_not_check h]
  checks := by rw [checks_answer, reach_of_not_check h]
  calls := by
    intro c hc
    unfold answer at hc ⊢
    dsimp only at hc ⊢
    rw [reach_of_not_check h] at hc ⊢
    split at hc
    next hcancelled =>
      rcases List.mem_append.1 hc with hmem | hmem
      · exact .inl hmem
      · exact .inr ⟨hcancelled, Option.mem_toList.1 hmem⟩
    next => exact .inl hc

end WatchedWorld

open WatchedWorld (Aftermath Live Halted)

/-! ## Rules for steps -/

namespace Step

/-- The rule of watched worlds. -/
def watched : Plan.Rule WatchedWorld := .of WatchedWorld.answer

/-- If a step begins live, then it ends live, or it has failed since it was cancelled and has halted
the run. It begins no activity. -/
def Heeds (x : Step σ α) : Prop :=
  ∀ s (w : WatchedWorld), w.Live → x.Ensures watched s w fun r _ w' =>
    w'.begun = w.begun ∧ (w'.Live ∨ w'.Halted ∧ r = .error .cancelled)

/-- However a step ends, it has checked nothing, and its calls were to undo something. -/
def Undoes (x : Step σ α) : Prop :=
  ∀ s w, x.Ensures watched s w fun _ _ w' =>
    Aftermath (fun c => c.operation ∈ Hazards.undoings) w w'

variable {ctx : Context} {c : Call} {doing path : String}

/-- Ending at once heeds a cancellation, for there is nothing to give up. -/
theorem heeds_pure (a : α) : (pure a : Step σ α).Heeds := fun _ _ h => ⟨rfl, .inl h⟩

/-- Failing asks nothing, so there is nothing to give up. -/
theorem heeds_throw (e : ActivityError) : (throw e : Step σ α).Heeds := fun _ _ h => ⟨rfl, .inl h⟩

theorem heeds_get : (get : Step σ σ).Heeds := fun _ _ h => ⟨rfl, .inl h⟩

theorem heeds_set (s : σ) : (set s : Step σ PUnit).Heeds := fun _ _ h => ⟨rfl, .inl h⟩

theorem heeds_modify (f : σ → σ) : (modify f : Step σ PUnit).Heeds := fun _ _ h => ⟨rfl, .inl h⟩

/-- If each of two steps heeds a cancellation, they do so one after the other: when the first is
given up, the second is not begun. -/
theorem heeds_bind {x : Step σ α} {f : α → Step σ β} (hx : x.Heeds) (hf : ∀ a, (f a).Heeds) :
    (x >>= f).Heeds := by
  intro s w h
  rw [ensures_bind]
  refine (hx s w h).mono ?_
  rintro (e | a) s' w' ⟨hbegun, hends⟩
  · refine ⟨hbegun, hends.imp_right ?_⟩
    rintro ⟨hhalted, hcancelled⟩
    cases hcancelled
    exact ⟨hhalted, rfl⟩
  · rcases hends with hlive | ⟨-, hcancelled⟩
    · refine (hf a s' w' hlive).mono ?_
      rintro r s'' w'' ⟨hbegun', hends'⟩
      exact ⟨hbegun'.trans hbegun, hends'⟩
    · cases hcancelled

/-- If the undo of a step only undoes, the step heeds the cancellation with it. -/
theorem heeds_undoing {undo : Step σ Unit} {x : Step σ α} (hundo : undo.Undoes) (hx : x.Heeds) :
    (undoing undo x).Heeds := by
  intro s w h
  rw [ensures_undoing]
  refine (hx s w h).mono ?_
  rintro (e | a) s' w' ⟨hbegun, hends⟩
  · refine (hundo s' w').mono ?_
    intro r s'' w'' hafter
    refine ⟨hafter.begun_eq.trans hbegun, ?_⟩
    rcases hends with hlive | ⟨hhalted, hcancelled⟩
    · exact .inl (hafter.live hlive)
    · cases hcancelled
      exact .inr ⟨hafter.halted hhalted, rfl⟩
  · exact ⟨hbegun, hends⟩

/-- A query that is checked, and that begins no activity. -/
theorem heeds_check {q : Query} (hcheck : q.isCheck = true) (hinner : q.isBoundary = false)
    {f : q.Answer → Step σ α} (hf : ∀ a, (f a).Heeds) (hgivenUp : f q.givenUp = throw .cancelled) :
    (query q >>= f).Heeds := by
  intro s w h
  rw [ensures_bind, ensures_query]
  intro a w' hanswer
  have hchecked := h.check hcheck
  rw [show WatchedWorld.answer q w = (a, w') from hanswer, hinner,
    if_neg Bool.false_ne_true] at hchecked
  obtain ⟨hbegun, hends⟩ := hchecked
  rw [after_ok]
  rcases hends with hlive | ⟨hhalted, hnone⟩
  · refine (hf a s w' hlive).mono ?_
    rintro r s' w'' ⟨hbegun', hends'⟩
    exact ⟨hbegun'.trans hbegun, hends'⟩
  · rw [show a = q.givenUp from hnone, hgivenUp, ensures_throw]
    exact ⟨hbegun, .inr ⟨hhalted, rfl⟩⟩

/-- A step that is given up ends as cancelled. -/
theorem heeds_orCancelled (a : Option α) : (orCancelled a : Step σ α).Heeds := by
  cases a with
  | some a => exact heeds_pure a
  | none => exact heeds_throw _

/-- A guarded call is given up when its check sees the cancellation. -/
theorem heeds_call (hctx : ctx.scope = .cancellable) : (call ctx c : Step σ _).Heeds := by
  refine heeds_check ?_ rfl heeds_orCancelled rfl
  rw [Query.isCheck, hctx]
  rfl

/-- So is a guarded call that has to succeed. -/
theorem heeds_need (hctx : ctx.scope = .cancellable) : (need ctx doing c : Step σ _).Heeds := by
  refine heeds_bind (heeds_call hctx) ?_
  rintro (e | r)
  · exact heeds_throw _
  · exact heeds_pure r

/-- So is the reading of a local file. -/
theorem heeds_readFile (hctx : ctx.scope = .cancellable) :
    (readFile ctx doing path : Step σ _).Heeds := by
  unfold readFile
  refine heeds_check ?_ rfl (fun a => heeds_bind (heeds_orCancelled a) ?_) rfl
  · rw [Query.isCheck, hctx]
    rfl
  · rintro (e | contents)
    · exact heeds_throw _
    · exact heeds_pure contents

/-- A call that is not checked. -/
theorem aftermath_call (hctx : ctx.scope = .detached) (s : σ) (w : WatchedWorld) :
    (call ctx c : Step σ _).Ensures watched s w fun _ s' w' =>
      s' = s ∧ Aftermath (fun made => made = c) w w' := by
  have hcheck : Query.isCheck (.guarded ctx.scope c) = false := by
    rw [Query.isCheck, hctx]
    rfl
  unfold call
  rw [ensures_bind, ensures_query]
  intro a w' hanswer
  have hafter := WatchedWorld.aftermath_answer hcheck (w := w)
  rw [show WatchedWorld.answer _ w = (a, w') from hanswer] at hafter
  rw [after_ok]
  cases a with
  | some reply => exact ⟨rfl, hafter.mono fun made hmade => (Option.some.inj hmade).symm⟩
  | none => exact ⟨rfl, hafter.mono fun made hmade => nomatch hmade⟩

/-- Under a detached context, a call leaves nothing behind but itself. -/
theorem aftermath_need (hctx : ctx.scope = .detached) (s : σ) (w : WatchedWorld) :
    (need ctx doing c : Step σ _).Ensures watched s w fun _ s' w' =>
      s' = s ∧ Aftermath (fun made => made = c) w w' := by
  unfold need
  rw [ensures_bind]
  refine (aftermath_call hctx s w).mono ?_
  rintro (e | e | r) s' w' hafter
  · exact hafter
  · exact hafter
  · exact hafter

/-- Under a detached context, removing something only undoes. -/
theorem undoes_remove (hctx : ctx.scope = .detached) (hc : c.operation ∈ Hazards.undoings) :
    (remove ctx doing c : Step σ Unit).Undoes := by
  intro s w
  unfold remove
  rw [ensures_bind]
  refine (aftermath_call hctx s w).mono ?_
  rintro r s' w' ⟨-, hafter⟩
  have hundoes : Aftermath (fun made => made.operation ∈ Hazards.undoings) w w' := by
    refine hafter.mono ?_
    rintro made rfl
    exact hc
  cases r with
  | error e => exact hundoes
  | ok reply =>
    rw [after_ok]
    split
    next => exact hundoes
    next => exact hundoes
    next => exact hundoes

/-- Removing what an output claims, and giving up the claim. -/
theorem undoes_takeBack {claims : σ → Bool} {doing : σ → String} {c : σ → Call} {cleared : σ → σ}
    (op : Operation) (hctx : ctx.scope = .detached) (hc : ∀ s, (c s).operation = op)
    (hop : op ∈ Hazards.undoings) :
    (do
      let s ← get
      if claims s then
        remove ctx (doing s) (c s)
        set (cleared s) : Step σ Unit).Undoes := by
  intro s w
  rw [ensures_bind, ensures_get, after_ok]
  split
  next =>
    rw [ensures_bind]
    rw [← hc s] at hop
    refine (undoes_remove hctx hop s w).mono ?_
    rintro (e | u) s' w' hafter
    · exact hafter
    · exact hafter
  next => exact .refl w

end Step

/-! ## The activities -/

variable {ctx : Context}

/-- Whether a tuning file is hosted, local or not given at all, reading it heeds a cancellation. -/
theorem Step.heeds_loadTuning (hctx : ctx.scope = .cancellable) (path : String) :
    (loadTuning ctx path : Step σ Tuning).Heeds := by
  have hread : (readTuningFile ctx path : Step σ _).Heeds := by
    unfold readTuningFile
    dsimp only
    split
    next => exact heeds_need hctx
    next => exact heeds_readFile hctx
  unfold loadTuning
  split
  next => exact heeds_pure _
  next =>
    refine heeds_bind hread fun contents => ?_
    split
    next => exact heeds_pure _
    next => exact heeds_throw _

open Step (heeds_pure heeds_throw heeds_get heeds_set heeds_modify heeds_bind heeds_undoing
  heeds_call heeds_need heeds_readFile undoes_takeBack)

namespace JobEntry

/-- Writing the job record heeds a cancellation. -/
theorem heeds_transaction (e : JobEntry) (hctx : ctx.scope = .cancellable) :
    (e.transaction ctx).Heeds := by
  refine heeds_bind (heeds_call hctx) fun reply => ?_
  split
  next => exact heeds_set _
  next => exact heeds_pure _
  next => exact heeds_throw _

end JobEntry

namespace StagingStore

/-- All that the staging activity does when it is compensated is to undo. -/
theorem undoes_compensation (s : StagingStore) (hctx : ctx.scope = .detached) :
    (s.compensation ctx).Undoes :=
  undoes_takeBack .deleteBucket hctx (fun _ => rfl) (by decide)

/-- Creating the bucket heeds a cancellation. -/
theorem heeds_ensureBucket (s : StagingStore) (hctx : ctx.scope = .cancellable) :
    (s.ensureBucket ctx).Heeds := by
  refine heeds_bind (heeds_call hctx) fun reply => ?_
  split
  next => exact heeds_bind (heeds_modify _) fun _ => heeds_need hctx
  next => exact heeds_pure _
  next => exact heeds_throw _

/-- Between reading a file and uploading it, a cancellation is heeded as well. -/
theorem heeds_upload (s : StagingStore) (hctx : ctx.scope = .cancellable) (path object : String) :
    (s.upload ctx path object).Heeds := by
  unfold upload
  split
  next =>
    refine heeds_bind (heeds_readFile hctx) fun contents => ?_
    exact heeds_bind (heeds_need hctx) fun _ => heeds_modify _
  next => exact heeds_pure _

/-- A cancellation ends the staging with its next call. Then at most the bucket is deleted again. -/
theorem heeds_transaction (s : StagingStore) (hctx : ctx.scope = .cancellable) :
    (s.transaction ctx).Heeds := by
  have hstage : (s.stage ctx).Heeds := by
    refine heeds_bind (s.heeds_ensureBucket hctx) fun _ => ?_
    exact heeds_bind (s.heeds_upload hctx _ _) fun _ => s.heeds_upload hctx _ _
  unfold transaction
  split
  next => exact heeds_undoing (s.undoes_compensation rfl) hstage
  next => exact heeds_pure _

end StagingStore

namespace ChangeFeed

/-- All that the feed's activity does when it is compensated is to undo. -/
theorem undoes_compensation (f : ChangeFeed) (hctx : ctx.scope = .detached) :
    (f.compensation ctx).Undoes :=
  undoes_takeBack .dropFeed hctx (fun _ => rfl) (by decide)

/-- Validating a feed that is there already heeds a cancellation. -/
theorem heeds_validateExisting (f : ChangeFeed) (hctx : ctx.scope = .cancellable) :
    (f.validateExisting ctx).Heeds := by
  refine heeds_bind (heeds_call hctx) fun reply => ?_
  split
  next => exact heeds_pure _
  next => exact heeds_throw _
  next => exact heeds_throw _

/-- Creating the feed heeds a cancellation, and so does recording it. -/
theorem heeds_create (f : ChangeFeed) (hctx : ctx.scope = .cancellable) :
    (f.create ctx).Heeds := by
  refine heeds_bind (heeds_call hctx) fun reply => ?_
  split
  next =>
    refine heeds_bind (heeds_set _) fun _ => ?_
    exact heeds_undoing (f.undoes_compensation rfl) (heeds_need hctx)
  next => exact f.heeds_validateExisting hctx
  next => exact heeds_throw _

/-- Whether it finds the feed or creates it, its activity heeds a cancellation. -/
theorem heeds_transaction (f : ChangeFeed) (hctx : ctx.scope = .cancellable) :
    (f.transaction ctx).Heeds := by
  refine heeds_bind (heeds_need hctx) fun found => ?_
  split
  next => exact f.heeds_validateExisting hctx
  next => exact f.heeds_create hctx

end ChangeFeed

namespace MetadataStore

/-- All that the database's activity does when it is compensated is to undo. -/
theorem undoes_compensation (d : MetadataStore) (hctx : ctx.scope = .detached) :
    (d.compensation ctx).Undoes :=
  undoes_takeBack .dropDatabase hctx (fun _ => rfl) (by decide)

/-- Creating the database heeds a cancellation, and so does recording it. -/
theorem heeds_create (d : MetadataStore) (hctx : ctx.scope = .cancellable) :
    (d.create ctx).Heeds := by
  refine heeds_bind (heeds_call hctx) fun reply => ?_
  split
  next =>
    refine heeds_bind (heeds_set _) fun _ => ?_
    exact heeds_undoing (d.undoes_compensation rfl) (heeds_need hctx)
  next => exact heeds_pure _
  next => exact heeds_throw _

/-- Whether it finds the database or creates it, its activity heeds a cancellation. -/
theorem heeds_transaction (d : MetadataStore) (hctx : ctx.scope = .cancellable) :
    (d.transaction ctx).Heeds := by
  refine heeds_bind (heeds_need hctx) fun found => ?_
  split
  next => exact d.heeds_create hctx
  next => exact heeds_pure _

end MetadataStore

namespace Pipeline

/-- All that the activity of a pipeline does when it is compensated is to undo. -/
theorem undoes_compensation (p : Pipeline) (hctx : ctx.scope = .detached) :
    (p.compensation ctx).Undoes :=
  undoes_takeBack .cancel hctx (fun _ => rfl) (by decide)

/-- Recording a pipeline heeds a cancellation: then the pipeline is cancelled at once. -/
theorem heeds_record (p : Pipeline) (hctx : ctx.scope = .cancellable) : (p.record ctx).Heeds := by
  refine heeds_bind heeds_get fun o => ?_
  exact heeds_undoing (p.undoes_compensation rfl) (heeds_need hctx)

/-- Launching a pipeline, or finding one that runs, heeds a cancellation. -/
theorem heeds_launch (p : Pipeline) (hctx : ctx.scope = .cancellable) (request : Launch) :
    (p.launch ctx request).Heeds := by
  refine heeds_bind (heeds_call hctx) fun reply => ?_
  split
  next => exact heeds_bind (heeds_set _) fun _ => p.heeds_record hctx
  next => exact heeds_bind (heeds_need hctx) fun running => heeds_set _
  next => exact heeds_throw _

/-- From reading the tuning to recording the pipeline, its activity heeds a cancellation. -/
theorem heeds_transaction (p : Pipeline) (hctx : ctx.scope = .cancellable) :
    (p.transaction ctx).Heeds := by
  refine heeds_bind (Step.heeds_loadTuning hctx _) fun tuning => ?_
  split
  next => exact p.heeds_launch hctx _
  next => exact heeds_throw _

end Pipeline

/-- Marking the job as running heeds a cancellation. -/
theorem JobCompletion.heeds_transaction (f : JobCompletion) (hctx : ctx.scope = .cancellable) :
    (f.transaction ctx).Heeds :=
  heeds_bind (heeds_need hctx) fun _ => heeds_set _

namespace Catalog

variable {c : Catalog} {k : ActivityKind} {o : Outputs} {w : WatchedWorld}

/-- How an activity ends that is begun in a live run. -/
def Heeded (begun : Nat) (r : Except ActivityError Unit) (_ : Outputs) (w : WatchedWorld) : Prop :=
  w.begun = begun ∧ (w.Live ∨ w.Halted ∧ r = .error .cancelled)

/-- The calls that compensations make: they undo something, or mark a record as failed that the run
has written. -/
def Compensates (c : Catalog) (o : Outputs) (call : Call) : Prop :=
  call.operation ∈ Hazards.undoings ∨
    call = .updateJobStatus c.jobEntry.jobId .failed ∧ o.jobEntry.registered = true

/-- Every transaction heeds the cancellation. -/
theorem heeds_transaction (hctx : ctx.scope = .cancellable) (h : w.Live) :
    EnsuresFrom Step.watched ((c.activity k).transaction ctx) o w (Heeded w.begun) := by
  have hwithin : ∀ {σ : Type} {part : Step.Part Outputs σ} {x : Step σ Unit}, x.Heeds →
      EnsuresFrom Step.watched (Step.within part x) o w (Heeded w.begun) := by
    intro σ part x hx
    rw [Step.ensuresFrom_within]
    exact hx _ w h
  cases k with
  | registerJob => exact hwithin (c.jobEntry.heeds_transaction hctx)
  | prepareStagingStore => exact hwithin (c.stagingStore.heeds_transaction hctx)
  | prepareChangeFeed => exact hwithin (c.changeFeed.heeds_transaction hctx)
  | prepareMetadataStore => exact hwithin (c.metadataStore.heeds_transaction hctx)
  | launchReader => exact hwithin (c.reader.heeds_transaction hctx)
  | launchWriter => exact hwithin (c.writer.heeds_transaction hctx)
  | finalizeJob => exact hwithin (c.jobCompletion.heeds_transaction hctx)

/-- The last activity apart, whose compensation no run comes to, compensations make no other calls
than `Compensates` says, and leave the report on the record alone. -/
theorem aftermath_compensation (hctx : ctx.scope = .detached) (hk : k ≠ .finalizeJob) :
    EnsuresFrom Step.watched ((c.activity k).compensation ctx) o w fun _ o' w' =>
      o'.jobEntry = o.jobEntry ∧ WatchedWorld.Aftermath (c.Compensates o) w w' := by
  have hwithin : ∀ {σ : Type} {part : Step.Part Outputs σ} {x : Step σ Unit},
      (∀ y, (part.set y o).jobEntry = o.jobEntry) → x.Undoes →
      EnsuresFrom Step.watched (Step.within part x) o w fun _ o' w' =>
        o'.jobEntry = o.jobEntry ∧ WatchedWorld.Aftermath (c.Compensates o) w w' := by
    intro σ part x hpart hx
    rw [Step.ensuresFrom_within]
    exact (hx _ w).mono fun _ y w' hafter => ⟨hpart y, hafter.mono fun _ hundoes => .inl hundoes⟩
  cases k with
  | registerJob =>
    refine Step.ensuresFrom_within.2 ?_
    unfold JobEntry.compensation
    rw [Step.ensures_bind, Step.ensures_get, Step.after_ok]
    split
    next hregistered =>
      refine (Step.aftermath_need hctx _ w).mono ?_
      rintro r y w' ⟨rfl, hafter⟩
      refine ⟨rfl, hafter.mono ?_⟩
      rintro call rfl
      exact .inr ⟨rfl, hregistered⟩
    next => exact ⟨rfl, .refl w⟩
  | prepareStagingStore => exact hwithin (fun _ => rfl) (c.stagingStore.undoes_compensation hctx)
  | prepareChangeFeed => exact hwithin (fun _ => rfl) (c.changeFeed.undoes_compensation hctx)
  | prepareMetadataStore => exact hwithin (fun _ => rfl) (c.metadataStore.undoes_compensation hctx)
  | launchReader => exact hwithin (fun _ => rfl) (c.reader.undoes_compensation hctx)
  | launchWriter => exact hwithin (fun _ => rfl) (c.writer.undoes_compensation hctx)
  | finalizeJob => exact absurd rfl hk

end Catalog

end ReverseReplication
