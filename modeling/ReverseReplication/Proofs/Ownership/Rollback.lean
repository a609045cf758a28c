import ReverseReplication.Proofs.Ownership.Pipelines

/-!
# What a run ensures when it is rolled back

The saga of a run keeps `Scenario.Tracks` through every transaction and every compensation. What
outputs still claim when it has failed is what could not be undone: the failed activity's own undo
was made to fail, or the compensation was, and then the error of the saga lists it
(`Scenario.Accounts`). The undo of the failed activity is not listed. Where no call is made to fail,
no compensation fails (`Scenario.Ended`).
-/

namespace ReverseReplication

open ReverseReplication.Text (Bytes)

namespace ActivityKind

/-- The place of an activity in a run, counted from zero. -/
def position (k : ActivityKind) : Nat := all.idxOf k

/-- The operation that undoes what an activity has created. -/
def undo? : ActivityKind → Option Operation
  | .prepareStagingStore => some .deleteBucket
  | .prepareChangeFeed => some .dropFeed
  | .prepareMetadataStore => some .dropDatabase
  | .launchReader => some .cancel
  | .launchWriter => some .cancel
  | .registerJob => none
  | .finalizeJob => none

/-- No activity is carried out twice. -/
theorem not_mem_of_prefix {k : ActivityKind} {earlier : List ActivityKind}
    (h : earlier ++ [k] <+: all) : k ∉ earlier := by
  have hnodup : (earlier ++ [k]).Nodup := List.Nodup.sublist h.sublist (by decide)
  rw [List.nodup_append] at hnodup
  intro hmem
  exact hnodup.2.2 k hmem k (List.mem_singleton_self k) rfl

/-- The position of an activity is the number of those before it. -/
theorem position_of_prefix {k : ActivityKind} {earlier : List ActivityKind}
    (h : earlier ++ [k] <+: all) : k.position = earlier.length := by
  have hfresh := not_mem_of_prefix h
  obtain ⟨rest, hrest⟩ := h
  unfold position
  rw [← hrest, List.append_assoc, List.idxOf_append, if_neg hfresh, List.singleton_append,
    List.idxOf_cons_self, Nat.zero_add]

end ActivityKind

/-- The failed compensation is that of the activity. -/
def CompensationFailure.IsOf (f : CompensationFailure) (k : ActivityKind) : Prop :=
  f.index = k.position ∧ f.activity = k.render

/-- Does the output of an activity claim something that the run created? -/
def Outputs.claims (o : Outputs) : ActivityKind → Bool
  | .prepareStagingStore => o.stagingStore.bucketCreated
  | .prepareChangeFeed => o.changeFeed.created
  | .prepareMetadataStore => o.metadataStore.created
  | .launchReader => o.reader.launched
  | .launchWriter => o.writer.launched
  | .registerJob => false
  | .finalizeJob => false

/-- The part of the outputs belongs to an activity, and says what the activity claims. -/
structure Outputs.PartOf {σ : Type} (part : Step.Part Outputs σ) (k : ActivityKind)
    (claims : σ → Bool) : Prop where
  own : ∀ x o, (part.set x o).claims k = claims x
  others : ∀ x o k', k' ≠ k → (part.set x o).claims k' = o.claims k'

namespace Outputs

/-- The output of the first activity claims nothing. -/
theorem partOf_jobEntry : PartOf jobEntryPart .registerJob fun _ => false where
  own := fun _ _ => rfl
  others := by
    intro x o k' _
    cases k'
    all_goals rfl

/-- The output of the staging activity claims the bucket. -/
theorem partOf_stagingStore :
    PartOf stagingStorePart .prepareStagingStore StagingStore.Output.bucketCreated where
  own := fun _ _ => rfl
  others := by
    intro x o k' hne
    cases k'
    all_goals first | rfl | exact absurd rfl hne

/-- The output of the feed's activity claims the feed. -/
theorem partOf_changeFeed : PartOf changeFeedPart .prepareChangeFeed ChangeFeed.Output.created where
  own := fun _ _ => rfl
  others := by
    intro x o k' hne
    cases k'
    all_goals first | rfl | exact absurd rfl hne

/-- The output of the database's activity claims the database. -/
theorem partOf_metadataStore :
    PartOf metadataStorePart .prepareMetadataStore MetadataStore.Output.created where
  own := fun _ _ => rfl
  others := by
    intro x o k' hne
    cases k'
    all_goals first | rfl | exact absurd rfl hne

/-- The reader's output claims its pipeline. -/
theorem partOf_reader : PartOf readerPart .launchReader Pipeline.Output.launched where
  own := fun _ _ => rfl
  others := by
    intro x o k' hne
    cases k'
    all_goals first | rfl | exact absurd rfl hne

/-- The writer's output claims its pipeline. -/
theorem partOf_writer : PartOf writerPart .launchWriter Pipeline.Output.launched where
  own := fun _ _ => rfl
  others := by
    intro x o k' hne
    cases k'
    all_goals first | rfl | exact absurd rfl hne

/-- The output of the last activity claims nothing. -/
theorem partOf_jobCompletion : PartOf jobCompletionPart .finalizeJob fun _ => false where
  own := fun _ _ => rfl
  others := by
    intro x o k' _
    cases k'
    all_goals rfl

end Outputs

namespace Scenario

variable {sc : Scenario} {o : Outputs} {inv : Inventory} {ctx : Context} {k : ActivityKind}

/-- What an activity has created may be impossible to undo. -/
def CannotUndo (sc : Scenario) (k : ActivityKind) : Prop := ∃ op, k.undo? = some op ∧ sc.MayFail op

/-- The objects once the first `n` activities are done. -/
def objectsAfter (sc : Scenario) (n : Nat) : ObjectPath → Option Bytes :=
  if ActivityKind.prepareStagingStore.position < n then
    sc.catalog.stagingStore.objectAt sc.files sc.before.object?
  else sc.before.object?

/-! ## Single activities -/

/-- How every transaction ends. -/
def CarriedOut (sc : Scenario) (k : ActivityKind) (o : Outputs) :
    Except ActivityError Unit → Outputs → Inventory → Prop
  | .ok _, o', inv' => (∀ k', k' ≠ k → o'.claims k' = o.claims k') ∧
    sc.Tracks (some (sc.objectsAfter (k.position + 1))) o' inv'
  | .error _, o', inv' => (∀ k', k' ≠ k → o'.claims k' = o.claims k') ∧ sc.Tracks none o' inv' ∧
    (o'.claims k = true → sc.CannotUndo k)

/-- How every compensation ends. -/
structure Compensated (sc : Scenario) (k : ActivityKind) (o : Outputs)
    (r : Except ActivityError Unit) (o' : Outputs) (inv' : Inventory) : Prop where
  others : ∀ k', k' ≠ k → o'.claims k' = o.claims k'
  tracks : sc.Tracks none o' inv'
  stuck : o'.claims k = true → (∃ e, r = .error e) ∧ sc.CannotUndo k
  /-- It fails only where calls may be made to fail. -/
  faulty : ∀ e, r = .error e → sc.Faulty

/-- What a transaction ensures within its own part of the outputs it ensures for all of them. -/
theorem carriedOut_of_within {σ : Type} {part : Step.Part Outputs σ} {claims : σ → Bool}
    {undoFails : Prop} {x : Step σ Unit} (hpart : Outputs.PartOf part k claims)
    (hundo : undoFails → sc.CannotUndo k)
    (h : x.Ensures sc.rule (part.get o) inv
      (sc.TransactionEnds part o claims undoFails (some (sc.objectsAfter (k.position + 1))))) :
    EnsuresFrom sc.rule (Step.within part x) o inv (sc.CarriedOut k o) := by
  rw [Step.ensuresFrom_within]
  apply h.mono
  rintro (e | u) y inv' hends
  · refine ⟨hpart.others y o, hends.tracks, fun hclaim => hundo (hends.stuck ?_)⟩
    rw [← hpart.own y o]
    exact hclaim
  · exact ⟨hpart.others y o, hends⟩

/-- What a compensation ensures within its own part of the outputs it ensures for all of them. -/
theorem compensated_of_within {σ : Type} {part : Step.Part Outputs σ} {claims : σ → Bool}
    {undoFails : Prop} {x : Step σ Unit} (hpart : Outputs.PartOf part k claims)
    (hundo : undoFails → sc.CannotUndo k)
    (h : x.Ensures sc.rule (part.get o) inv (sc.CompensationEnds part o claims undoFails)) :
    EnsuresFrom sc.rule (Step.within part x) o inv (sc.Compensated k o) := by
  rw [Step.ensuresFrom_within]
  apply h.mono
  rintro (e | u) y inv' hends
  · obtain ⟨hleaves, hfaulty⟩ := hends
    refine ⟨hpart.others y o, hleaves.tracks, fun hclaim => ⟨⟨e, rfl⟩, hundo (hleaves.stuck ?_)⟩,
      fun _ _ => hfaulty⟩
    rw [← hpart.own y o]
    exact hclaim
  · refine ⟨hpart.others y o, hends.1, fun hclaim => ?_, fun e he => nomatch he⟩
    rw [hpart.own y o, hends.2] at hclaim
    simp at hclaim

/-- An activity that claims nothing yet is carried out, or fails and has undone what it did. -/
theorem ensures_transaction (h : sc.Tracks (some (sc.objectsAfter k.position)) o inv)
    (hnone : o.claims k = false) :
    EnsuresFrom sc.rule ((sc.catalog.activity k).transaction ctx) o inv (sc.CarriedOut k o) := by
  cases k with
  | registerJob =>
    exact carriedOut_of_within Outputs.partOf_jobEntry False.elim
      (JobEntry.ensures_transaction h)
  | prepareStagingStore =>
    exact carriedOut_of_within Outputs.partOf_stagingStore (fun hfails => ⟨_, rfl, hfails⟩)
      (StagingStore.ensures_transaction h hnone)
  | prepareChangeFeed =>
    exact carriedOut_of_within Outputs.partOf_changeFeed (fun hfails => ⟨_, rfl, hfails⟩)
      (ChangeFeed.ensures_transaction h hnone)
  | prepareMetadataStore =>
    exact carriedOut_of_within Outputs.partOf_metadataStore (fun hfails => ⟨_, rfl, hfails⟩)
      (MetadataStore.ensures_transaction h hnone)
  | launchReader =>
    exact carriedOut_of_within Outputs.partOf_reader (fun hfails => ⟨_, rfl, hfails⟩)
      (Pipeline.ensures_transaction .reader h hnone)
  | launchWriter =>
    exact carriedOut_of_within Outputs.partOf_writer (fun hfails => ⟨_, rfl, hfails⟩)
      (Pipeline.ensures_transaction .writer h hnone)
  | finalizeJob =>
    exact carriedOut_of_within Outputs.partOf_jobCompletion False.elim
      (JobCompletion.ensures_transaction h)

/-- Compensating an activity takes back what it claims, or fails. -/
theorem ensures_compensation (hctx : ctx.scope = .detached) (h : sc.Tracks none o inv) :
    EnsuresFrom sc.rule ((sc.catalog.activity k).compensation ctx) o inv (sc.Compensated k o) := by
  cases k with
  | registerJob =>
    exact compensated_of_within Outputs.partOf_jobEntry False.elim
      (JobEntry.ensures_compensation hctx h)
  | prepareStagingStore =>
    exact compensated_of_within Outputs.partOf_stagingStore (fun hfails => ⟨_, rfl, hfails⟩)
      (StagingStore.ensures_compensation hctx h)
  | prepareChangeFeed =>
    exact compensated_of_within Outputs.partOf_changeFeed (fun hfails => ⟨_, rfl, hfails⟩)
      (ChangeFeed.ensures_compensation hctx h)
  | prepareMetadataStore =>
    exact compensated_of_within Outputs.partOf_metadataStore (fun hfails => ⟨_, rfl, hfails⟩)
      (MetadataStore.ensures_compensation hctx h)
  | launchReader =>
    exact compensated_of_within Outputs.partOf_reader (fun hfails => ⟨_, rfl, hfails⟩)
      (Pipeline.ensures_compensation .reader hctx h)
  | launchWriter =>
    exact compensated_of_within Outputs.partOf_writer (fun hfails => ⟨_, rfl, hfails⟩)
      (Pipeline.ensures_compensation .writer hctx h)
  | finalizeJob =>
    exact compensated_of_within Outputs.partOf_jobCompletion False.elim
      (JobCompletion.ensures_compensation hctx h)

/-- An activity is named for its kind. -/
theorem activity_name (c : Catalog) (k : ActivityKind) : (c.activity k).name = k.render := by
  cases k <;> rfl

/-! ## The saga -/

/-- What outputs still claim when the run has failed could not be undone, and the error lists it,
unless it is what the failed activity itself has created. -/
def Accounts (sc : Scenario) (e : SagaError) (o : Outputs) : Prop :=
  ∀ k, o.claims k = true → sc.CannotUndo k ∧
    ((∃ f ∈ e.compensationFailures, f.IsOf k) ↔ k.position ≠ e.index)

/-- What is left when activities have been compensated: what is still claimed then was `excused`
from the begin, or could not be undone and is listed. -/
structure RolledBack (sc : Scenario) (done : List ActivityKind) (excused : ActivityKind → Prop)
    (failures : List CompensationFailure) (o : Outputs) (inv : Inventory) : Prop where
  tracks : sc.Tracks none o inv
  places : ∀ f ∈ failures, f.index < done.length
  listed : ∀ k, o.claims k = true →
    excused k ∨ sc.CannotUndo k ∧ ∃ f ∈ failures, f.IsOf k
  /-- Compensations fail only where calls may be made to fail. -/
  faulty : failures ≠ [] → sc.Faulty

section compensating

variable {earlier : List ActivityKind} {excused : ActivityKind → Prop} {o₁ o₂ : Outputs}
  {inv₁ inv₂ : Inventory} {r : Except ActivityError Unit} {failures : List CompensationFailure}

/-- What a compensation leaves behind is excused from the earlier ones. -/
theorem Compensated.left (h : sc.Compensated k o r o₁ inv₁)
    (hclaims : ∀ k', o.claims k' = true → k' ∈ k :: earlier ∨ excused k') :
    ∀ k', o₁.claims k' = true → k' ∈ earlier ∨
      (excused k' ∨ k' = k ∧ (∃ e, r = .error e) ∧ sc.CannotUndo k) := by
  intro k' hk'
  by_cases hkk : k' = k
  · subst hkk
    exact .inr (.inr ⟨rfl, h.stuck hk'⟩)
  · rw [h.others k' hkk] at hk'
    rcases hclaims k' hk' with hmem | hexcused
    · exact .inl ((List.mem_cons.1 hmem).resolve_left hkk)
    · exact .inr (.inl hexcused)

/-- After a compensation that has succeeded, what the earlier ones list is all there is to list. -/
theorem RolledBack.succeeded {u : Unit} (h : sc.RolledBack earlier (fun k' => excused k' ∨
      k' = k ∧ (∃ e, (.ok u : Except ActivityError Unit) = .error e) ∧ sc.CannotUndo k)
      failures o₂ inv₂) :
    sc.RolledBack (k :: earlier) excused failures o₂ inv₂ where
  tracks := h.tracks
  places := fun f hf => Nat.lt_succ_of_lt (h.places f hf)
  listed := by
    intro k' hk'
    rcases h.listed k' hk' with (hexcused | ⟨-, ⟨e, he⟩, -⟩) | hlisted
    · exact .inl hexcused
    · cases he
    · exact .inr hlisted
  faulty := h.faulty

/-- A compensation that has failed is listed. -/
theorem RolledBack.failed {e : ActivityError} (hposition : k.position = earlier.length)
    (hfaulty : sc.Faulty)
    (h : sc.RolledBack earlier (fun k' => excused k' ∨
      k' = k ∧ (∃ e', (.error e : Except ActivityError Unit) = .error e') ∧ sc.CannotUndo k)
      failures o₂ inv₂) :
    sc.RolledBack (k :: earlier) excused
      (⟨earlier.length, (sc.catalog.activity k).name, e⟩ :: failures) o₂ inv₂ where
  tracks := h.tracks
  places := by
    intro f hf
    rcases List.mem_cons.1 hf with rfl | hf
    · exact Nat.lt_succ_self _
    · exact Nat.lt_succ_of_lt (h.places f hf)
  listed := by
    intro k' hk'
    rcases h.listed k' hk' with (hexcused | ⟨rfl, -, hstuck⟩) | ⟨hstuck, f, hf, hof⟩
    · exact .inl hexcused
    · refine .inr ⟨hstuck, _, List.mem_cons_self, ?_, activity_name sc.catalog k'⟩
      exact hposition.symm
    · exact .inr ⟨hstuck, f, List.mem_cons_of_mem _ hf, hof⟩
  faulty := fun _ => hfaulty

/-- Compensating activities, given last first. -/
theorem ensures_compensate (hctx : ctx.scope = .detached) {done : List ActivityKind}
    (hdone : done.reverse <+: ActivityKind.all) (h : sc.Tracks none o inv)
    (hclaims : ∀ k, o.claims k = true → k ∈ done ∨ excused k) :
    EnsuresFrom sc.rule (Saga.compensate ctx (done.map sc.catalog.activity)) o inv
      (sc.RolledBack done excused) := by
  -- Whatever is still claimed belongs to an activity that is to be compensated, or is excused: its
  -- compensation has failed, and the error lists it.
  induction done generalizing o inv excused with
  | nil =>
    refine ⟨h, fun f hf => ?_, fun k hk => ?_, fun hne => absurd rfl hne⟩
    · simp at hf
    · rcases hclaims k hk with hmem | hexcused
      · simp at hmem
      · exact .inl hexcused
  | cons k earlier ih =>
    rw [List.reverse_cons] at hdone
    have hposition : k.position = earlier.length := by
      rw [ActivityKind.position_of_prefix hdone, List.length_reverse]
    have hearlier : earlier.reverse <+: ActivityKind.all :=
      (List.prefix_append _ _).trans hdone
    rw [List.map_cons, Saga.compensate, EnsuresFrom.bind_iff]
    refine (ensures_compensation hctx h).mono ?_
    intro r o₁ inv₁ hcompensated
    rw [EnsuresFrom.bind_iff]
    refine (ih hearlier hcompensated.tracks (hcompensated.left hclaims)).mono ?_
    intro failures o₂ inv₂ hrolled
    cases r with
    | ok u =>
      rw [EnsuresFrom.pure_iff]
      exact hrolled.succeeded
    | error e =>
      rw [EnsuresFrom.pure_iff, List.length_map]
      exact hrolled.failed hposition (hcompensated.faulty e rfl)

end compensating

/-- How the saga of a run ends. -/
structure Ended (sc : Scenario) (rollback : Bool) (r : Except SagaError Nat) (o : Outputs)
    (inv : Inventory) : Prop where
  tracks : sc.Tracks none o inv
  accounts : ∀ e, r = .error e → rollback = true → sc.Accounts e o
  /-- Compensations fail only where calls may be made to fail. -/
  faulty : ∀ e, r = .error e → e.compensationFailures ≠ [] → sc.Faulty

/-- Carrying out one activity, unless the run is cancelled. -/
theorem ensures_attempt (h : sc.Tracks (some (sc.objectsAfter k.position)) o inv)
    (hnone : o.claims k = false) :
    EnsuresFrom sc.rule (Saga.attempt ctx (sc.catalog.activity k)) o inv (sc.CarriedOut k o) := by
  unfold Saga.attempt
  rw [EnsuresFrom.bind_iff, EnsuresFrom.isCancelled_iff]
  rintro seen inv' ⟨rfl, -⟩
  cases seen with
  | true =>
    refine ⟨fun _ _ => rfl, h.forget, fun hclaim => ?_⟩
    rw [hnone] at hclaim
    simp at hclaim
  | false => exact ensures_transaction h hnone

/-- When what was done before an activity failed has been rolled back, the error accounts for what
is left: only what the failed activity itself has created is not listed. -/
theorem RolledBack.accounts {done : List ActivityKind} {failures : List CompensationFailure}
    {name : String} {cause : ActivityError} (hposition : k.position = done.length)
    (h : sc.RolledBack done (fun k' => k' = k ∧ sc.CannotUndo k) failures o inv) :
    sc.Accounts ⟨done.length, name, cause, failures⟩ o := by
  intro k' hk'
  rcases h.listed k' hk' with ⟨rfl, hcannot⟩ | ⟨hcannot, f, hf, hof⟩
  · refine ⟨hcannot, ?_⟩
    constructor
    · rintro ⟨f, hf, hof⟩
      have hlt := h.places f hf
      rw [hof.1, hposition] at hlt
      exact absurd hlt (Nat.lt_irrefl _)
    · intro hne
      exact absurd hposition hne
  · refine ⟨hcannot, fun _ => ?_, fun _ => ⟨f, hf, hof⟩⟩
    have hlt := h.places f hf
    rw [hof.1] at hlt
    exact Nat.ne_of_lt hlt

/-- Undoing what was done before an activity failed. -/
theorem ensures_undo {rollback : Bool} {done : List ActivityKind} {cause : ActivityError}
    {o' : Outputs} (hdone : done.reverse ++ [k] <+: ActivityKind.all)
    (hclaims : ∀ k, o.claims k = true → k ∈ done) (h : sc.CarriedOut k o (.error cause) o' inv) :
    EnsuresFrom sc.rule
      (do
        let failures ← if rollback then
          Saga.compensate ctx.detach (done.map sc.catalog.activity) else pure []
        pure (.error ⟨(done.map sc.catalog.activity).length, (sc.catalog.activity k).name, cause,
          failures⟩))
      o' inv (sc.Ended rollback) := by
  obtain ⟨hothers, htracks, hstuck⟩ := h
  have hposition : k.position = done.length := by
    rw [ActivityKind.position_of_prefix hdone, List.length_reverse]
  cases rollback with
  | false =>
    refine ⟨htracks, fun e he hrollback => ?_, fun e he hne => ?_⟩
    · simp at hrollback
    · cases he
      exact absurd rfl hne
  | true =>
    have hleft : ∀ k', o'.claims k' = true → k' ∈ done ∨ k' = k ∧ sc.CannotUndo k := by
      intro k' hk'
      by_cases hkk : k' = k
      · subst hkk
        exact .inr ⟨rfl, hstuck hk'⟩
      · rw [hothers k' hkk] at hk'
        exact .inl (hclaims k' hk')
    refine EnsuresFrom.bind_iff.2 ((ensures_compensate rfl
      ((List.prefix_append _ _).trans hdone) htracks hleft).mono ?_)
    intro failures o₂ inv₂ hrolled
    rw [EnsuresFrom.pure_iff, List.length_map]
    refine ⟨hrolled.tracks, fun e he _ => ?_, fun e he hne => ?_⟩
    · cases he
      exact hrolled.accounts hposition
    · cases he
      exact hrolled.faulty hne

/-- Carrying out the activities that are left. -/
theorem ensures_executeFrom {rollback : Bool} (done : List ActivityKind) {rest : List ActivityKind}
    (hsplit : ActivityKind.all = done.reverse ++ rest)
    (h : sc.Tracks (some (sc.objectsAfter done.length)) o inv)
    (hclaims : ∀ k, o.claims k = true → k ∈ done) :
    EnsuresFrom sc.rule
      (Saga.executeFrom rollback ctx (done.map sc.catalog.activity) (rest.map sc.catalog.activity))
      o inv (sc.Ended rollback) := by
  -- Only activities that are done claim something, so the next one begins without a claim.
  induction rest generalizing done o inv with
  | nil =>
    refine ⟨h.forget, fun e he => ?_, fun e he => ?_⟩
    all_goals cases he
  | cons k rest ih =>
    have hdone : done.reverse ++ [k] <+: ActivityKind.all := by
      refine ⟨rest, ?_⟩
      rw [hsplit, List.append_assoc, List.singleton_append]
    have hposition : k.position = done.length := by
      rw [ActivityKind.position_of_prefix hdone, List.length_reverse]
    have hnone : o.claims k = false := by
      rw [Bool.eq_false_iff]
      intro hclaim
      exact ActivityKind.not_mem_of_prefix hdone (List.mem_reverse.2 (hclaims k hclaim))
    rw [← hposition] at h
    rw [List.map_cons, Saga.executeFrom, EnsuresFrom.bind_iff]
    refine (ensures_attempt h hnone).mono ?_
    rintro (cause | u) o₁ inv₁ hcarried
    · exact ensures_undo hdone hclaims hcarried
    · obtain ⟨hothers, htracks⟩ := hcarried
      rw [hposition] at htracks
      refine ih (k :: done) ?_ htracks ?_
      · rw [hsplit, List.reverse_cons, List.append_assoc, List.singleton_append]
      · intro k' hk'
        by_cases hkk : k' = k
        · rw [hkk]
          exact List.mem_cons_self
        · rw [hothers k' hkk] at hk'
          exact List.mem_cons_of_mem k (hclaims k' hk')

/-- The saga of a run keeps track of what it does, and accounts for what it leaves behind. -/
theorem ensures_execute (sc : Scenario) (rollback : Bool) (ctx : Context) :
    EnsuresFrom sc.rule (Saga.execute rollback ctx sc.catalog.activities) {} sc.before
      (sc.Ended rollback) := by
  have hclaims : ∀ k, ({} : Outputs).claims k = true → k ∈ ([] : List ActivityKind) := by
    intro k hk
    cases k <;> cases hk
  exact ensures_executeFrom [] rfl (tracks_before sc) hclaims

end Scenario

end ReverseReplication
