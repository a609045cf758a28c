import ReverseReplication.Proofs.Holdings
import ReverseReplication.Proofs.Ownership.Alone

/-!
# Repeated transactions

A transaction that finds what it is to create already there succeeds, and creates nothing. It may be
the activity's own creation of an earlier time: then the activities that create a bucket, a feed or
a database keep the flag that says so. The activities of the pipelines do not. They take any job
that runs under the name for one of somebody else, and clear the flag (`Catalog.Succeeded`).

So when an activity has been carried out several times and is compensated then, all that it has
created is gone, except for pipelines that it has launched before the last time
(`DisturbedWorld.repeated_leaves`). A pipeline that was launched at the first of two times is left
running (`DisturbedWorld.repeated_leaks`).
-/

namespace ReverseReplication

open Inventory (Performed)

variable {σ : Type}

/-- A postcondition for success only. -/
def Step.OnSuccess (Q : σ → Inventory → Prop) :
    Except ActivityError Unit → σ → Inventory → Prop
  | .ok _, x, inv => Q x inv
  | .error _, _, _ => True

/-- Does the activity launch a pipeline? -/
def ActivityKind.launches : ActivityKind → Bool
  | .launchReader => true
  | .launchWriter => true
  | _ => false

/-- How a transaction may succeed: it finds what it is to create, or creates it. The flag stays as
it was where something is found, and a pipeline's flag is cleared. -/
inductive Catalog.Succeeded (c : Catalog) (k : ActivityKind) (o : Outputs) (inv : Inventory)
    (o' : Outputs) (inv' : Inventory) : Prop
  | found : inv.HoldsSame inv' → o'.claims k = (!k.launches && o.claims k) →
    Succeeded c k o inv o' inv'
  | created {x : Holding} : o'.claims k = true → c.product o' k = some x → inv.Gains x inv' →
    Succeeded c k o inv o' inv'

/-- What follows a transaction without a change of the flag, or of what is held, does not matter. -/
theorem Catalog.Succeeded.trans_same {c : Catalog} {k : ActivityKind} {o o' o'' : Outputs}
    {inv inv' inv'' : Inventory} (h : c.Succeeded k o inv o' inv')
    (hclaims : o''.claims k = o'.claims k) (hproduct : c.product o'' k = c.product o' k)
    (hsame : inv'.HoldsSame inv'') : c.Succeeded k o inv o'' inv'' := by
  cases h with
  | found hsame' hthen => exact .found (hsame'.trans hsame) (hclaims.trans hthen)
  | created hclaim hx hgains =>
    exact .created (hclaims.trans hclaim) (hproduct.trans hx) (hgains.trans_same hsame)

/-! ## Transactions that succeed -/

section transactions

variable {sc : Scenario} {o : Outputs} {inv : Inventory} {ctx : Context}

/-- A call whose reply is looked at, where only success matters. -/
theorem ensures_call_success {c : Call} {f : Except ManagerError c.Reply → Step σ Unit} {x : σ}
    {Q : σ → Inventory → Prop}
    (denied : ∀ e, (f (.error e)).Ensures sc.rule x inv (Step.OnSuccess Q))
    (performed : ∀ r inv', Performed inv c r inv' →
      (f (.ok r)).Ensures sc.rule x inv' (Step.OnSuccess Q)) :
    (Step.call ctx c >>= f).Ensures sc.rule x inv (Step.OnSuccess Q) := by
  rw [Step.ensures_bind]
  apply Step.ensures_call
  · intro e _
    exact denied e
  · exact performed
  · intro _
    trivial
  · intro _ _ r inv' _
    trivial

/-- A call that has to succeed, where only success matters. -/
theorem ensures_need_success {c : Call} {doing : String} {f : c.Reply → Step σ Unit} {x : σ}
    {Q : σ → Inventory → Prop}
    (performed : ∀ r inv', Performed inv c r inv' →
      (f r).Ensures sc.rule x inv' (Step.OnSuccess Q)) :
    (Step.need ctx doing c >>= f).Ensures sc.rule x inv (Step.OnSuccess Q) := by
  rw [Step.ensures_bind]
  apply Step.ensures_need
  · exact performed
  · intro e
    trivial
  · intro _ r inv' _
    trivial

/-- Recording succeeds without a change of what is held. -/
theorem ensures_recorded_success {undo : Step σ Unit} {x : σ} {doing : String}
    {resource : JobResource} {Q : σ → Inventory → Prop}
    (hQ : ∀ inv', inv.HoldsSame inv' → Q x inv') :
    (Step.undoing undo (Step.need ctx doing (.recordResource resource))).Ensures sc.rule x inv
      (Step.OnSuccess Q) := by
  rw [Step.ensures_undoing]
  apply Step.ensures_need
  · intro r inv' hperformed
    exact hQ inv' (hperformed.holdsSame .recordResource rfl (by decide) (by decide))
  · intro e
    exact Step.ensures_of_forall fun _ _ _ => trivial
  · intro _ r inv' _
    exact Step.ensures_of_forall fun _ _ _ => trivial

/-- The feed is found or created. -/
theorem ChangeFeed.ensures_success :
    (sc.catalog.changeFeed.transaction ctx).Ensures sc.rule o.changeFeed inv
      (Step.OnSuccess fun x inv' =>
        sc.catalog.Succeeded .prepareChangeFeed o inv { o with changeFeed := x } inv') := by
  have hfound : (sc.catalog.changeFeed.validateExisting ctx).Ensures sc.rule o.changeFeed inv
      (Step.OnSuccess fun x inv' =>
        sc.catalog.Succeeded .prepareChangeFeed o inv { o with changeFeed := x } inv') := by
    apply ensures_validateExisting
    rintro (e | u)
    · trivial
    · exact .found (.refl inv) rfl
  refine ensures_need_success fun found inv' hperformed => ?_
  cases hperformed
  split
  next => exact hfound
  next =>
    refine ensures_call_success (fun e => ?_) fun r inv' hperformed => ?_
    · cases e with
      | alreadyExists => exact hfound
      | _ => trivial
    · cases hperformed with
      | createFeed hfree =>
        have hgains := @Inventory.gains_createFeed _ _ sc.catalog.changeFeed.options hfree
        rw [Step.ensures_bind, Step.ensures_set, Step.after_ok]
        refine ensures_recorded_success fun inv'' hsame => ?_
        exact .created rfl rfl (hgains.trans_same hsame)

/-- The database is found or created. -/
theorem MetadataStore.ensures_success :
    (sc.catalog.metadataStore.transaction ctx).Ensures sc.rule o.metadataStore inv
      (Step.OnSuccess fun x inv' =>
        sc.catalog.Succeeded .prepareMetadataStore o inv { o with metadataStore := x } inv') := by
  have hfound : sc.catalog.Succeeded .prepareMetadataStore o inv o inv := .found (.refl inv) rfl
  refine ensures_need_success fun found inv' hperformed => ?_
  cases hperformed
  split
  next =>
    refine ensures_call_success (fun e => ?_) fun r inv' hperformed => ?_
    · cases e with
      | alreadyExists => exact hfound
      | _ => trivial
    · cases hperformed with
      | createDatabase hfree =>
        have hgains := Inventory.gains_createDatabase hfree
        rw [Step.ensures_bind, Step.ensures_set, Step.after_ok]
        refine ensures_recorded_success fun inv'' hsame => ?_
        exact .created rfl rfl (hgains.trans_same hsame)
  next => exact hfound

namespace StagingStore

/-- Uploading a file changes neither what is held nor the flag. -/
theorem ensures_upload_success {s : StagingStore} {x : Output} {path object : String}
    {inv₁ : Inventory}
    (h : sc.catalog.Succeeded .prepareStagingStore o inv { o with stagingStore := x } inv₁) :
    (s.upload ctx path object).Ensures sc.rule x inv₁ (Step.OnSuccess fun x' inv' =>
      sc.catalog.Succeeded .prepareStagingStore o inv { o with stagingStore := x' } inv') := by
  unfold upload
  split
  next =>
    rw [Step.ensures_bind]
    apply Step.ensures_readFile
    · intro contents _
      rw [Step.after_ok]
      refine ensures_need_success fun r inv' hperformed => ?_
      have hsame := hperformed.holdsSame .writeObject rfl (by decide) (by decide)
      exact h.trans_same rfl rfl hsame
    · intro e
      trivial
  next => exact h

/-- Creating the bucket, or finding it. -/
theorem ensures_ensureBucket_success :
    (sc.catalog.stagingStore.ensureBucket ctx).Ensures sc.rule o.stagingStore inv
      (Step.OnSuccess fun x inv' =>
        sc.catalog.Succeeded .prepareStagingStore o inv { o with stagingStore := x } inv') := by
  refine ensures_call_success (fun e => ?_) fun r inv' hperformed => ?_
  · cases e with
    | alreadyExists => exact .found (.refl inv) rfl
    | _ => trivial
  · cases hperformed with
    | createBucket hfree =>
      have hgains := Inventory.gains_createBucket hfree
      rw [Step.ensures_bind, Step.ensures_modify, Step.after_ok]
      apply Step.ensures_need
      · intro r inv'' hrecorded
        have hsame := hrecorded.holdsSame .recordResource rfl (by decide) (by decide)
        exact .created rfl rfl (hgains.trans_same hsame)
      · intro e
        trivial
      · intro _ r inv'' _
        trivial

/-- Nothing is to be staged, or the bucket is found or created and the files are uploaded. -/
theorem ensures_success :
    (sc.catalog.stagingStore.transaction ctx).Ensures sc.rule o.stagingStore inv
      (Step.OnSuccess fun x inv' =>
        sc.catalog.Succeeded .prepareStagingStore o inv { o with stagingStore := x } inv') := by
  have hundo : ∀ e x inv', Step.Undone sc.rule (sc.catalog.stagingStore.compensation ctx.detach)
      (Step.OnSuccess fun x inv' => sc.catalog.Succeeded .prepareStagingStore o inv
        { o with stagingStore := x } inv') (.error e : Except ActivityError Unit) x inv' :=
    fun _ _ _ => Step.ensures_of_forall fun _ _ _ => trivial
  unfold transaction
  split
  next =>
    rw [Step.ensures_undoing]
    unfold stage
    rw [Step.ensures_bind]
    refine ensures_ensureBucket_success.mono ?_
    rintro (e | u) x₁ inv₁ h₁
    · exact hundo e x₁ inv₁
    rw [Step.after_ok, Step.ensures_bind]
    refine (ensures_upload_success h₁).mono ?_
    rintro (e | u) x₂ inv₂ h₂
    · exact hundo e x₂ inv₂
    rw [Step.after_ok]
    refine (ensures_upload_success h₂).mono ?_
    rintro (e | u) x₃ inv₃ h₃
    · exact hundo e x₃ inv₃
    · exact h₃
  next => exact .found (.refl inv) rfl

end StagingStore

/-- Launching the pipeline, or finding a job that runs under its name. -/
theorem Pipeline.ensures_success (role : PipelineRole) :
    ((sc.catalog.pipeline role).transaction ctx).Ensures sc.rule (o.pipeline role) inv
      (Step.OnSuccess fun x inv' =>
        sc.catalog.Succeeded role.launcher o inv ((Outputs.pipelinePart role).set x o) inv') := by
  unfold transaction
  rw [Step.ensures_bind]
  apply ensures_loadTuning
  · intro tuning _
    rw [Step.after_ok]
    split
    next request hrequest =>
      refine ensures_call_success (fun e => ?_) fun id inv' hperformed => ?_
      · cases e with
        | alreadyExists =>
          refine ensures_need_success fun running inv' hperformed => ?_
          cases hperformed
          refine .found (.refl inv) ?_
          cases role <;> rfl
        | _ => trivial
      · cases hperformed with
        | launch hfree =>
          have hgains := Inventory.gains_launch hfree
          rw [Step.ensures_bind, Step.ensures_set, Step.after_ok]
          unfold record
          rw [Step.ensures_bind, Step.ensures_get, Step.after_ok]
          refine ensures_recorded_success fun inv'' hsame => ?_
          refine .created ?_ ?_ (hgains.trans_same hsame)
          · cases role <;> rfl
          · cases role <;> rfl
    next => trivial
  · intro e
    trivial

end transactions

/-! ## Activities that succeed -/

namespace Catalog

variable {c : Catalog} {k : ActivityKind} {files : FileSystem} {o o' : Outputs}
  {inv inv' before : Inventory} {ctx : Context} {call : Call} {x : Holding}

/-- How a transaction succeeds follows from how the step on its part of the outputs does. -/
theorem succeeded_of_within {R : Plan.Rule Inventory} {part : Step.Part Outputs σ}
    {step : Step σ Unit} (h : step.Ensures R (part.get o) inv
      (Step.OnSuccess fun x inv' => c.Succeeded k o inv (part.set x o) inv')) :
    ((Step.within part step).run o).Ensures R inv fun result inv' =>
      result.1 = .ok () → c.Succeeded k o inv result.2 inv' := by
  show EnsuresFrom R (Step.within part step) o inv fun r o' inv' =>
    r = .ok () → c.Succeeded k o inv o' inv'
  refine Step.ensuresFrom_within.2 (h.mono ?_)
  rintro (e | u) x inv' hends
  · intro hok
    cases hok
  · exact fun _ => hends

/-- What a transaction has done that has succeeded. -/
theorem ensures_success (hk : k.undo?.isSome = true) (hsound : inv.Sound) :
    (c.transact k ctx o).Ensures (Hazards.lossy.rule files) inv fun result inv' =>
      result.1 = .ok () → c.Succeeded k o inv result.2 inv' := by
  let sc : Scenario := ⟨.lossy, c, files, inv, hsound⟩
  cases k with
  | registerJob => cases hk
  | finalizeJob => cases hk
  | prepareStagingStore => exact succeeded_of_within (@StagingStore.ensures_success sc o inv ctx)
  | prepareChangeFeed => exact succeeded_of_within (@ChangeFeed.ensures_success sc o inv ctx)
  | prepareMetadataStore => exact succeeded_of_within (@MetadataStore.ensures_success sc o inv ctx)
  | launchReader => exact succeeded_of_within (@Pipeline.ensures_success sc o inv ctx .reader)
  | launchWriter => exact succeeded_of_within (@Pipeline.ensures_success sc o inv ctx .writer)

/-- Undoing what an activity has created takes it away, and nothing else. -/
theorem drops_undoing (hsound : inv.Sound) (hcall : c.undoing? o k = some call)
    (hx : c.product o k = some x) (hheld : inv.Holds x) {r : call.Reply}
    (hperformed : Performed inv call r inv') : inv.Drops x inv' := by
  cases k with
  | registerJob => cases hcall
  | finalizeJob => cases hcall
  | prepareStagingStore =>
    cases hcall
    cases hx
    cases hperformed
    exact Inventory.drops_deleteBucket hheld
  | prepareChangeFeed =>
    cases hcall
    cases hx
    cases hperformed
    exact Inventory.drops_dropFeed hheld
  | prepareMetadataStore =>
    cases hcall
    cases hx
    cases hperformed
    exact Inventory.drops_dropDatabase hheld
  | launchReader =>
    cases hcall
    cases hx
    cases hperformed with
    | cancel hjob => exact Inventory.drops_cancel hsound hheld hjob
  | launchWriter =>
    cases hcall
    cases hx
    cases hperformed with
    | cancel hjob => exact Inventory.drops_cancel hsound hheld hjob

/-- A compensation that succeeds has taken away what its output claims. -/
theorem ensures_dropped (hsound : inv.Sound) (hclaim : o.claims k = true)
    (hx : c.product o k = some x) (hheld : inv.Holds x) :
    (c.compensate k ctx o).Ensures (Hazards.lossy.rule files) inv fun result inv' =>
      result.1 = .ok () → inv.Drops x inv' := by
  obtain ⟨call, hcall⟩ : ∃ call, c.undoing? o k = some call := by
    cases k <;> first | exact ⟨_, rfl⟩ | cases hclaim
  apply ensures_compensate hclaim hcall
  · intro r inv' hperformed _
    exact drops_undoing hsound hcall hx hheld hperformed
  · intro what hdenies
    exact absurd hdenies
      (undoing_not_gone Hazards.exact_audible.removals hsound hcall hx hheld what)
  · intro e hok
    cases hok
  · intro _ r inv' _ hok
    cases hok

/-! ## Transactions one after the other -/

/-- Transactions of an activity that all succeed, one after the other, with their outputs, the
latest first. Around each of them calls may fail, and the run may be cancelled. -/
inductive Repeated (c : Catalog) (k : ActivityKind) (before : Inventory) :
    List Outputs → Inventory → Prop
  | first {d : DisturbedWorld} {ctx : Context} : d.inventory = before → d.Within .lossy →
    ((c.transact k ctx {}).run DisturbedWorld.answer d).1.1 = .ok () →
    Repeated c k before [((c.transact k ctx {}).run DisturbedWorld.answer d).1.2]
      ((c.transact k ctx {}).run DisturbedWorld.answer d).2.inventory
  | again {o : Outputs} {os : List Outputs} {d : DisturbedWorld} {ctx : Context} :
    Repeated c k before (o :: os) d.inventory → d.Within .lossy →
    ((c.transact k ctx o).run DisturbedWorld.answer d).1.1 = .ok () →
    Repeated c k before (((c.transact k ctx o).run DisturbedWorld.answer d).1.2 :: o :: os)
      ((c.transact k ctx o).run DisturbedWorld.answer d).2.inventory

/-- What some of the outputs claims. -/
def Made (c : Catalog) (k : ActivityKind) (os : List Outputs) (x : Holding) : Prop :=
  ∃ o ∈ os, o.claims k = true ∧ c.product o k = some x

/-- What successful transactions have added up to. What is new is what some output claims. A
pipeline is claimed by one output only; anything else is claimed by the latest output if by any. -/
structure Accumulated (c : Catalog) (k : ActivityKind) (before : Inventory) (os : List Outputs)
    (inv : Inventory) : Prop where
  sound : inv.Sound
  holds : ∀ x, inv.Holds x ↔ before.Holds x ∨ c.Made k os x
  fresh : ∀ x, c.Made k os x → ¬before.Holds x
  distinct : k.launches = true → os.Pairwise fun o o' =>
    o.claims k = true → o'.claims k = true → c.product o k ≠ c.product o' k
  latest : k.launches = false → ∀ o ∈ os, o.claims k = true → (os.headD {}).claims k = true

variable {os : List Outputs}

/-- What a sequence of outputs has made is what its newest one claims, or one of the earlier
ones. -/
theorem made_cons : c.Made k (o :: os) x ↔
    o.claims k = true ∧ c.product o k = some x ∨ c.Made k os x := by
  simp [Made]

/-- Only pipelines have names that are in the output. -/
theorem product_congr (hk : k.launches = false) : c.product o k = c.product o' k := by
  cases k <;> first | rfl | cases hk

/-- Before the first transaction nothing is made. -/
theorem accumulated_nil (hsound : before.Sound) : c.Accumulated k before [] before where
  sound := hsound
  holds := by simp [Made]
  fresh := by simp [Made]
  distinct := fun _ => .nil
  latest := by simp

/-- The output that says something was found claims nothing that earlier ones do not. -/
theorem Accumulated.found (h : c.Accumulated k before os inv) (hsound : inv'.Sound)
    (hsame : inv.HoldsSame inv')
    (hflag : o.claims k = (!k.launches && (os.headD {}).claims k)) :
    c.Accumulated k before (o :: os) inv' := by
  have hmade : ∀ x, c.Made k (o :: os) x ↔ c.Made k os x := by
    intro x
    rw [made_cons, or_iff_right_iff_imp]
    rintro ⟨hclaim, hx⟩
    rw [hflag, Bool.and_eq_true, Bool.not_eq_true'] at hclaim
    obtain ⟨hk, hhead⟩ := hclaim
    cases os with
    | nil =>
      have hnone : ({} : Outputs).claims k = false := by cases k <;> rfl
      rw [List.headD_nil, hnone] at hhead
      cases hhead
    | cons o' os => exact ⟨o', List.mem_cons_self, hhead, (product_congr hk).trans hx⟩
  constructor
  · exact hsound
  · intro x
    rw [hsame x, hmade x]
    exact h.holds x
  · intro x hx
    exact h.fresh x ((hmade x).1 hx)
  · intro hk
    refine .cons (fun o' _ hclaim => ?_) (h.distinct hk)
    rw [hflag, hk] at hclaim
    cases hclaim
  · intro hk o' ho' hclaim
    rcases List.mem_cons.1 ho' with rfl | hmem
    · exact hclaim
    · rw [List.headD_cons, hflag, hk]
      exact h.latest hk o' hmem hclaim

/-- What was created is claimed by the new output, and by no earlier one. -/
theorem Accumulated.created (h : c.Accumulated k before os inv) (hsound : inv'.Sound)
    (hclaim : o.claims k = true) (hx : c.product o k = some x) (hgains : inv.Gains x inv') :
    c.Accumulated k before (o :: os) inv' := by
  have hunheld := fun hor => hgains.fresh ((h.holds x).2 hor)
  constructor
  · exact hsound
  · intro y
    rw [hgains.holds, h.holds, made_cons, hx, Option.some_inj, or_assoc]
    constructor
    · rintro (hbefore | hmade | rfl)
      · exact .inl hbefore
      · exact .inr (.inr hmade)
      · exact .inr (.inl ⟨hclaim, rfl⟩)
    · rintro (hbefore | ⟨-, rfl⟩ | hmade)
      · exact .inl hbefore
      · exact .inr (.inr rfl)
      · exact .inr (.inl hmade)
  · intro y hy hbefore
    rcases made_cons.1 hy with ⟨-, hxy⟩ | hmade
    · rw [hx] at hxy
      cases hxy
      exact hunheld (.inl hbefore)
    · exact h.fresh y hmade hbefore
  · intro hk
    refine .cons (fun o' ho' _ hclaim' heq => ?_) (h.distinct hk)
    exact hunheld (.inr ⟨o', ho', hclaim', heq.symm.trans hx⟩)
  · intro _ _ _ _
    exact hclaim

/-- Every plan leaves the inventory sound. -/
theorem ensures_sound {α : Type} {hz : Hazards} {p : Plan α} (hsound : inv.Sound) :
    p.Ensures (hz.rule files) inv fun _ inv' => inv'.Sound := by
  refine Plan.ensures_of_invariant (fun q inv answer inv' hanswer hinv => ?_) hsound
  rcases hz.rule_changes hanswer with rfl | ⟨c, reply, hperform⟩
  · exact hinv
  · exact hinv.perform hperform

/-- One more transaction that succeeds keeps the account. -/
theorem Accumulated.next {d : DisturbedWorld} (h : c.Accumulated k before os d.inventory)
    (hk : k.undo?.isSome = true) (hwithin : d.Within .lossy) :
    let ended := (c.transact k ctx (os.headD {})).run DisturbedWorld.answer d
    ended.1.1 = .ok () → c.Accumulated k before (ended.1.2 :: os) ended.2.inventory := by
  intro ended hok
  have hkeep := DisturbedWorld.events_keep (p := c.transact k ctx (os.headD {})) hwithin
  have hsound := DisturbedWorld.ensured (ensures_sound h.sound) hkeep
  cases DisturbedWorld.ensured (ensures_success hk h.sound) hkeep hok with
  | found hsame hflag => exact h.found hsound hsame hflag
  | created hclaim hx hgains => exact h.created hsound hclaim hx hgains

/-- So do any number of them. -/
theorem Repeated.accumulated (h : c.Repeated k before os inv) (hk : k.undo?.isSome = true)
    (hsound : before.Sound) : c.Accumulated k before os inv := by
  induction h with
  | first hbegun hwithin hok =>
    subst hbegun
    exact (accumulated_nil hsound).next hk hwithin hok
  | again _ hwithin hok ih => exact ih.next hk hwithin hok

end Catalog

namespace DisturbedWorld

variable {c : Catalog} {k : ActivityKind} {before : Inventory} {o : Outputs}
  {earlier : List Outputs} {d : DisturbedWorld}

/-- After transactions that succeed one after the other, and a compensation that succeeds, nothing
is left of what they have created, except for the pipelines of earlier transactions. -/
theorem repeated_leaves (hk : k.undo?.isSome = true) (hreachable : before.Reachable)
    (hrepeated : c.Repeated k before (o :: earlier) d.inventory) (hwithin : d.Within .lossy)
    (ctx : Context) (hok : ((c.compensate k ctx o).run answer d).1.1 = .ok ()) (x : Holding) :
    ((c.compensate k ctx o).run answer d).2.inventory.Holds x ∧ ¬before.Holds x ↔
      k.launches = true ∧ ∃ o' ∈ earlier, o'.claims k = true ∧ c.product o' k = some x := by
  have haccount := hrepeated.accumulated hk hreachable.sound
  have hnew : ∀ x, d.inventory.Holds x ∧ ¬before.Holds x ↔ c.Made k (o :: earlier) x := by
    intro x
    rw [haccount.holds, or_and_right]
    constructor
    · rintro (⟨hbefore, hnot⟩ | ⟨hmade, -⟩)
      · exact absurd hbefore hnot
      · exact hmade
    · exact fun hmade => .inr ⟨hmade, haccount.fresh x hmade⟩
  cases hclaim : o.claims k with
  | false =>
    -- The latest output claims nothing, so there is nothing but pipelines of earlier ones.
    rw [Catalog.compensate_of_unclaimed hk hclaim, Plan.run_pure, hnew, Catalog.made_cons, hclaim]
    constructor
    · rintro (⟨hfalse, -⟩ | ⟨o', ho', hclaim', hx⟩)
      · cases hfalse
      · refine ⟨eq_true_of_ne_false fun hbased => ?_, o', ho', hclaim', hx⟩
        have hlatest := haccount.latest hbased o' (List.mem_cons_of_mem _ ho') hclaim'
        rw [List.headD_cons, hclaim] at hlatest
        cases hlatest
    · rintro ⟨-, hmade⟩
      exact .inr hmade
  | true =>
    -- What the latest output claims goes. Of the others, only pipelines are something else.
    obtain ⟨y, hy⟩ : ∃ y, c.product o k = some y := by
      cases k <;> first | exact ⟨_, rfl⟩ | cases hk
    obtain ⟨hheld, -⟩ := (hnew y).2 (Catalog.made_cons.2 (.inl ⟨hclaim, hy⟩))
    have hdrops := ensured (Catalog.ensures_dropped haccount.sound hclaim hy hheld)
      (events_keep hwithin) hok
    rw [hdrops.holds, and_right_comm, hnew, Catalog.made_cons]
    constructor
    · rintro ⟨⟨-, hx⟩ | ⟨o', ho', hclaim', hx⟩, hne⟩
      · rw [hy] at hx
        exact absurd (Option.some.inj hx).symm hne
      · refine ⟨eq_true_of_ne_false fun hbased => hne ?_, o', ho', hclaim', hx⟩
        rw [Catalog.product_congr hbased, hy] at hx
        exact (Option.some.inj hx).symm
    · rintro ⟨hpipeline, o', ho', hclaim', hx⟩
      refine ⟨.inr ⟨o', ho', hclaim', hx⟩, ?_⟩
      rintro rfl
      exact (List.pairwise_cons.1 (haccount.distinct hpipeline)).1 o' ho' hclaim hclaim'
        (hy.trans hx.symm)

open Sample (catalog context)

/-- A database is created, found again and dropped. -/
theorem repeated_leaves_of_database :
    let first := (catalog.transact .prepareMetadataStore context {}).run answer
      (Sample.world Sample.inventory [])
    let second := (catalog.transact .prepareMetadataStore context first.1.2).run answer
      (Sample.world first.2.inventory [])
    let undone := (catalog.compensate .prepareMetadataStore context second.1.2).run answer
      (Sample.world second.2.inventory [])
    first.1.1 = .ok () ∧ second.1.1 = .ok () ∧ undone.1.1 = .ok () ∧
      (∃ x, first.2.inventory.Holds x ∧ ¬Sample.inventory.Holds x) ∧
      ∀ x, undone.2.inventory.Holds x → Sample.inventory.Holds x := by
  intro first second undone
  have hfirst : first.1.1 = .ok () := rfl
  have hsecond : second.1.1 = .ok () := rfl
  have hundone : undone.1.1 = .ok () := rfl
  have hheld : first.2.inventory.Holds (.database catalog.metadataStore.databaseUri) := rfl
  have honce : catalog.Repeated .prepareMetadataStore Sample.inventory [first.1.2]
      (Sample.world first.2.inventory []).inventory :=
    .first rfl (Sample.within_nil _) hfirst
  have htwice : catalog.Repeated .prepareMetadataStore Sample.inventory [second.1.2, first.1.2]
      (Sample.world second.2.inventory []).inventory :=
    .again honce (Sample.within_nil _) hsecond
  have hleaves := repeated_leaves rfl Sample.reachable htwice (Sample.within_nil _)
    context hundone
  refine ⟨hfirst, hsecond, hundone, ⟨_, hheld, nofun⟩, fun x hnow => ?_⟩
  refine Classical.byContradiction fun hbefore => ?_
  cases ((hleaves x).1 ⟨hnow, hbefore⟩).1

/-- The reader that the first of two transactions has launched runs on. -/
theorem repeated_leaks :
    let first := (catalog.transact .launchReader context {}).run answer
      (Sample.world Sample.inventory [])
    let second := (catalog.transact .launchReader context first.1.2).run answer first.2
    let undone := (catalog.compensate .launchReader context second.1.2).run answer second.2
    let job := Holding.pipeline "smt-reverse-replication-reader-r1" "2026-01-01-1"
    first.1.1 = .ok () ∧ second.1.1 = .ok () ∧ undone.1.1 = .ok () ∧
      catalog.product first.1.2 .launchReader = some job ∧ first.1.2.reader.launched = true ∧
      ¬Sample.inventory.Holds job ∧ undone.2.inventory.Holds job :=
  ⟨rfl, rfl, rfl, by decide +kernel, rfl, nofun,
    by show Table.get? _ _ = some "2026-01-01-1"; decide +kernel⟩

end DisturbedWorld

end ReverseReplication
