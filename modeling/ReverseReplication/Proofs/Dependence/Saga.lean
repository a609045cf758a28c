import ReverseReplication.Proofs.Dependence.Pipelines

/-!
# What a saga passes through

The activities that prepare something come before the ones that launch pipelines, and are undone
after them. So while one of them is carried out or undone, no pipeline runs that the run knows to
have launched; and while any other is, all that pipelines depend on is there. Either way the
snapshots that are passed are `Catalog.Supports` (`Catalog.supports_throughout`).

What the saga keeps from activity to activity is `Catalog.Dependable`: of the pipelines that it
knows to have launched, only those run that the outputs of finished activities claim, and what
finished activities have provided is there.
-/

namespace ReverseReplication

open Hazards (truthful)

namespace ActivityKind

/-- When an activity is begun, or undone, the ones that stand before it are done. -/
theorem mem_iff_of_prefix {j k : ActivityKind} {done : List ActivityKind}
    (h : done.reverse ++ [k] <+: all) : j ∈ done ↔ j.position < k.position := by
  have hdone : done.reverse = all.take k.position := by
    have hposition := position_of_prefix h
    rw [hposition]
    exact List.prefix_iff_eq_take.1 ((List.prefix_append _ _).trans h)
  rw [← List.mem_reverse, hdone]
  cases j <;> cases k <;> decide

/-- An activity that only prepares something. -/
def Prepares (k : ActivityKind) : Prop := k.position < 4

instance : DecidablePred Prepares := fun k => inferInstanceAs (Decidable (k.position < 4))

/-- What only prepares something never launches anything. -/
theorem Prepares.launch_not_mem {k : ActivityKind} (hk : k.Prepares) : .launch ∉ k.operations := by
  revert hk
  cases k <;> decide

/-- An activity launches a pipeline, or does not ask for one. -/
theorem launcher_or (k : ActivityKind) :
    (∃ role : PipelineRole, k = role.launcher) ∨ .launch ∉ k.operations := by
  cases k with
  | launchReader => exact .inl ⟨.reader, rfl⟩
  | launchWriter => exact .inl ⟨.writer, rfl⟩
  | _ => exact .inr (by decide)

/-- What was prepared is undone by no other activity. -/
theorem Prepares.undo_not_mem {j k : ActivityKind} (hj : j.Prepares) (hne : j ≠ k) :
    ∀ op ∈ j.undo?, op ∉ k.operations := by
  revert hj hne
  cases j <;> cases k <;> decide

end ActivityKind

namespace Catalog

variable {c : Catalog} {k : ActivityKind} {done : List ActivityKind} {o o' : Outputs}
  {s : Snapshot} {h : History Snapshot} {files : FileSystem} {ctx : Context}

/-- What the activities have provided is there. -/
def Provided (c : Catalog) (done : List ActivityKind) (inv : Inventory) : Prop :=
  ∀ k ∈ done, ∀ x, c.dependency? k = some x → inv.Holds x

/-- Where a pipeline runs that the run knows to have launched, all that it depends on is there. -/
def Supports (c : Catalog) (s : Snapshot) : Prop :=
  s.RunsOnly fun _ => ∀ k x, c.dependency? k = some x → s.inventory.Holds x

/-- The output of one of the activities claims to have launched the pipeline of the id. -/
def Claimed (done : List ActivityKind) (o : Outputs) (id : String) : Prop :=
  ∃ role : PipelineRole, role.launcher ∈ done ∧ (o.pipeline role).Claims id

/-- A claim stays with the outputs of the activities that are done. -/
theorem Claimed.imp {done' : List ActivityKind} {id : String} (h : Claimed done o id)
    (himp : ∀ role : PipelineRole, role.launcher ∈ done →
      role.launcher ∈ done' ∧ o'.pipeline role = o.pipeline role) : Claimed done' o' id := by
  obtain ⟨role, hrole, hclaims⟩ := h
  obtain ⟨hmem, heq⟩ := himp role hrole
  refine ⟨role, hmem, ?_⟩
  rw [heq]
  exact hclaims

/-- What pipelines depend on is prepared, and can be undone. -/
theorem undo?_of_dependency {j : ActivityKind} {x : Holding} (hx : c.dependency? j = some x) :
    j.Prepares ∧ j.undo? = some x.undo := by
  unfold dependency? at hx
  split at hx
  next =>
    split at hx
    next =>
      cases hx
      exact ⟨by decide, rfl⟩
    next => cases hx
  next =>
    cases hx
    exact ⟨by decide, rfl⟩
  next =>
    cases hx
    exact ⟨by decide, rfl⟩
  next => cases hx

/-- An activity keeps what others have provided. -/
theorem keptBy_provided (hk : k ∉ done) :
    Snapshot.KeptBy k.operations fun s => c.Provided done s.inventory := by
  intro s s' call hop hfollows hprovided j hj x hx
  have hne : j ≠ k := by
    rintro rfl
    exact hk hj
  obtain ⟨hprepares, hundo⟩ := undo?_of_dependency hx
  exact Snapshot.keptBy_holds (hprepares.undo_not_mem hne _ hundo) s s' call hop hfollows
    (hprovided j hj x hx)

/-- Whatever is asked for an activity, be it to carry it out or to undo it, the snapshots on the way
support the pipelines that run. -/
theorem supports_throughout {α : Type} {p : Plan α} (hp : p.AsksOnly k.operations)
    (hnext : done.reverse ++ [k] <+: ActivityKind.all) (hsound : h.now.Sound)
    (hquiet : k.Prepares → h.now.RunsOnly fun _ => False)
    (hprovided : c.Provided done h.now.inventory) (hpassed : ∀ s ∈ h.passed, c.Supports s) :
    p.Ensures (truthful.telling files).recording h fun _ h' =>
      (h'.now.Sound ∧ c.Provided done h'.now.inventory) ∧ ∀ s ∈ h'.passed, c.Supports s := by
  have hmem : ∀ j, j ∈ done ↔ j.position < k.position := fun j =>
    ActivityKind.mem_iff_of_prefix hnext
  have hkept : Snapshot.KeptBy k.operations fun s => c.Provided done s.inventory :=
    keptBy_provided fun hk => absurd ((hmem k).1 hk) (Nat.lt_irrefl _)
  by_cases hk : k.Prepares
  · -- No pipeline runs that would need anything.
    have hboth : Snapshot.KeptBy k.operations fun s =>
        (s.Sound ∧ s.RunsOnly fun _ => False) ∧ c.Provided done s.inventory :=
      (Snapshot.keptBy_runsOnly hk.launch_not_mem _).and hkept
    refine (hp.ensures_recording hboth.telling ?_ ⟨⟨hsound, hquiet hk⟩, hprovided⟩
      hpassed).mono ?_
    · rintro s ⟨⟨-, hruns⟩, -⟩
      exact hruns.mono fun _ hfalse => hfalse.elim
    · rintro a h' ⟨⟨⟨hsound', -⟩, hprovided'⟩, hpassed'⟩
      exact ⟨⟨hsound', hprovided'⟩, hpassed'⟩
  · -- Everything that pipelines depend on was provided before, and stays.
    refine hp.ensures_recording (Snapshot.keptBy_sound.and hkept).telling ?_ ⟨hsound, hprovided⟩
      hpassed
    rintro s ⟨-, hthere⟩ id - name - j x hx
    have hj : j.position < k.position :=
      Nat.lt_of_lt_of_le (undo?_of_dependency hx).1 (Nat.le_of_not_lt hk)
    exact hthere j ((hmem j).2 hj) x hx

/-! ## Carrying out and undoing an activity -/

/-- What a saga keeps from activity to activity. -/
structure Dependable (c : Catalog) (done : List ActivityKind) (o : Outputs) (h : History Snapshot) :
    Prop where
  sound : h.now.Sound
  claimed : h.now.RunsOnly (Claimed done o)
  provided : c.Provided done h.now.inventory
  passed : ∀ s ∈ h.passed, c.Supports s

/-- What is done after an activity. -/
def doneAfter (k : ActivityKind) (done : List ActivityKind) :
    Except ActivityError Unit → List ActivityKind
  | .ok _ => k :: done
  | .error _ => done

/-- Carrying out another activity, with success or without, takes none of those that are done
away. -/
theorem mem_doneAfter {j : ActivityKind} (hj : j ∈ done) (r : Except ActivityError Unit) :
    j ∈ doneAfter k done r := by
  cases r with
  | ok u => exact List.mem_cons_of_mem k hj
  | error e => exact hj

/-- The activities that prepare something launch no pipelines. -/
theorem not_claimed_of_prepares (hnext : done.reverse ++ [k] <+: ActivityKind.all)
    (hk : k.Prepares) {id : String} : ¬Claimed (k :: done) o id := by
  rintro ⟨role, hrole, -⟩
  have hbefore : role.launcher.position ≤ k.position := by
    rcases List.mem_cons.1 hrole with heq | hrole
    · exact Nat.le_of_eq (congrArg ActivityKind.position heq)
    · exact Nat.le_of_lt ((ActivityKind.mem_iff_of_prefix hnext).1 hrole)
  have hprepares : role.launcher.Prepares := Nat.lt_of_le_of_lt hbefore hk
  revert hprepares
  cases role <;> decide

/-- The activity of a pipeline. -/
theorem activity_launcher (role : PipelineRole) :
    c.activity role.launcher = activityOn role.launcher.render (Outputs.pipelinePart role)
      (c.pipeline role).transaction (c.pipeline role).compensation := by
  cases role <;> rfl

/-- An activity without a pipeline leaves the outputs of the pipelines alone. -/
theorem pipeline_of_activity {ω : Type} {R : Plan.Rule ω} {w : ω}
    (hlaunch : .launch ∉ k.operations) :
    EnsuresFrom R ((c.activity k).transaction ctx) o w (fun _ o' _ => o'.pipeline = o.pipeline) ∧
      EnsuresFrom R ((c.activity k).compensation ctx) o w
        (fun _ o' _ => o'.pipeline = o.pipeline) := by
  have hwithin : ∀ {σ : Type} {part : Step.Part Outputs σ} {x : Step σ Unit},
      (∀ y, (part.set y o).pipeline = o.pipeline) →
      EnsuresFrom R (Step.within part x) o w fun _ o' _ => o'.pipeline = o.pipeline :=
    fun hpart => Step.ensuresFrom_within.2 (Step.ensures_of_forall fun _ y _ => hpart y)
  cases k with
  | launchReader => exact absurd (by decide) hlaunch
  | launchWriter => exact absurd (by decide) hlaunch
  | _ => exact ⟨hwithin fun _ => rfl, hwithin fun _ => rfl⟩

/-- It launches none, either. -/
theorem runsOnly_of_asksOnly {x : Run (Except ActivityError Unit)}
    (hx : (x.run o).AsksOnly k.operations) (hlaunch : .launch ∉ k.operations)
    (hpipeline : EnsuresFrom (truthful.telling files) x o s fun _ o' _ => o'.pipeline = o.pipeline)
    (hsound : s.Sound) (h : s.RunsOnly (Claimed done o)) :
    EnsuresFrom (truthful.telling files) x o s fun _ o' s' => s'.RunsOnly (Claimed done o') := by
  have hkept : EnsuresFrom (truthful.telling files) x o s fun _ _ s' =>
      s'.Sound ∧ s'.RunsOnly (Claimed done o) :=
    hx.ensures (Snapshot.keptBy_runsOnly hlaunch _).telling ⟨hsound, h⟩
  refine (hpipeline.and hkept).mono ?_
  rintro r o' s' ⟨hsame, -, hruns⟩
  exact hruns.mono fun id hclaimed => hclaimed.imp fun role hrole => ⟨hrole, congrFun hsame role⟩

/-- Whichever activity is carried out, only pipelines run that the outputs claim. -/
theorem runsOnly_transaction (hfresh : k ∉ done) (hsound : s.Sound)
    (h : s.RunsOnly (Claimed done o)) :
    EnsuresFrom (truthful.telling files) ((c.activity k).transaction ctx) o s
      fun r o' s' => s'.RunsOnly (Claimed (doneAfter k done r) o') := by
  rcases k.launcher_or with ⟨role, rfl⟩ | hlaunch
  · rw [activity_launcher]
    refine Step.ensuresFrom_within.2 (((c.pipeline role).runsOnly_transaction hsound h).mono ?_)
    rintro r x s' ⟨-, hruns⟩
    refine hruns.mono fun id hid => ?_
    rcases hid with hclaimed | ⟨rfl, hclaims⟩
    · refine hclaimed.imp fun role' hrole' => ⟨mem_doneAfter hrole' r, ?_⟩
      refine Outputs.pipeline_set_of_ne x o role' ?_
      rintro rfl
      exact hfresh hrole'
    · refine ⟨role, List.mem_cons_self, ?_⟩
      rw [Outputs.pipeline_set]
      exact hclaims
  · refine (runsOnly_of_asksOnly (c.asksOnly_transaction k o) hlaunch
      (pipeline_of_activity hlaunch).1 hsound h).mono fun r o' s' hruns => ?_
    exact hruns.mono fun id hclaimed => hclaimed.imp fun role hrole => ⟨mem_doneAfter hrole r, rfl⟩

/-- When an activity was undone, only those run that the outputs of the others claim. -/
theorem runsOnly_compensation (hctx : ctx.scope = .detached) (hfresh : k ∉ done) (hsound : s.Sound)
    (h : s.RunsOnly (Claimed (k :: done) o)) :
    EnsuresFrom (truthful.telling files) ((c.activity k).compensation ctx) o s
      fun _ o' s' => s'.RunsOnly (Claimed done o') := by
  rcases k.launcher_or with ⟨role, rfl⟩ | hlaunch
  · have hother : ∀ role' : PipelineRole, role'.launcher ∈ done → role' ≠ role := by
      rintro role' hrole' rfl
      exact hfresh hrole'
    have hclaims : ∀ id, Claimed (role.launcher :: done) o id →
        Claimed done o id ∨ ((Outputs.pipelinePart role).get o).Claims id := by
      rintro id ⟨role', hrole', hclaims⟩
      rcases List.mem_cons.1 hrole' with heq | hrole'
      · obtain rfl : role' = role := by cases role' <;> cases role <;> first | rfl | cases heq
        refine .inr ?_
        cases role' <;> exact hclaims
      · exact .inl ⟨role', hrole', hclaims⟩
    rw [activity_launcher]
    refine Step.ensuresFrom_within.2
      (((c.pipeline role).runsOnly_compensation hctx hsound (h.mono hclaims)).mono ?_)
    rintro r x s' ⟨-, hruns⟩
    exact hruns.mono fun id hclaimed => hclaimed.imp fun role' hrole' =>
      ⟨hrole', Outputs.pipeline_set_of_ne x o role' (hother role' hrole')⟩
  · refine runsOnly_of_asksOnly (c.asksOnly_compensation k o) hlaunch
      (pipeline_of_activity hlaunch).2 hsound (h.mono fun id hclaimed => ?_)
    refine hclaimed.imp fun role hrole => ⟨?_, rfl⟩
    rcases List.mem_cons.1 hrole with rfl | hrole
    · cases role <;> exact absurd (by decide) hlaunch
    · exact hrole

/-- Carrying out an activity asks what its transaction asks. -/
theorem asksOnly_attempt : ((Saga.attempt ctx (c.activity k)).run o).AsksOnly k.operations := by
  unfold Saga.attempt
  rw [StateT.run_bind]
  refine Plan.asksOnly_bind ⟨fun call hcall => (nomatch hcall), fun _ => trivial⟩ ?_
  rintro ⟨seen, o'⟩
  cases seen with
  | true => exact trivial
  | false => exact c.asksOnly_transaction k o'

/-- It ends as its transaction does, or as cancelled before it has begun. -/
theorem ensures_attempt_telling {hz : Hazards} {a : Activity Run}
    {post : Except ActivityError Unit → Outputs → Snapshot → Prop}
    (hcancelled : post (.error .cancelled) o s)
    (h : EnsuresFrom (hz.telling files) (a.transaction ctx) o s post) :
    EnsuresFrom (hz.telling files) (Saga.attempt ctx a) o s post := by
  unfold Saga.attempt
  rw [EnsuresFrom.bind_iff, EnsuresFrom.isCancelled_iff]
  intro seen s' hanswer
  obtain rfl : s' = s := by
    rcases Snapshot.follows_of_telling hanswer with heq | ⟨call, hcall, -⟩
    · exact heq
    · cases hcall
  cases seen with
  | true => exact hcancelled
  | false => exact h

/-- Carrying out an activity. -/
theorem dependable_attempt (hnext : done.reverse ++ [k] <+: ActivityKind.all)
    (hd : c.Dependable done o h) :
    EnsuresFrom (truthful.telling files).recording (Saga.attempt ctx (c.activity k)) o h
      fun r o' h' => c.Dependable (doneAfter k done r) o' h' := by
  have hfresh : k ∉ done := fun hk =>
    Nat.lt_irrefl _ ((ActivityKind.mem_iff_of_prefix hnext).1 hk)
  have hquiet : k.Prepares → h.now.RunsOnly fun _ => False := fun hk =>
    hd.claimed.mono fun id hclaimed => not_claimed_of_prepares hnext hk
      (hclaimed.imp fun role hrole => ⟨List.mem_cons_of_mem k hrole, rfl⟩)
  have hthroughout : EnsuresFrom (truthful.telling files).recording
      (Saga.attempt ctx (c.activity k)) o h fun _ _ h' =>
        (h'.now.Sound ∧ c.Provided done h'.now.inventory) ∧ ∀ s ∈ h'.passed, c.Supports s :=
    supports_throughout asksOnly_attempt hnext hd.sound hquiet hd.provided hd.passed
  have hends : EnsuresFrom (truthful.telling files) (Saga.attempt ctx (c.activity k)) o h.now
      fun r o' s' => s'.RunsOnly (Claimed (doneAfter k done r) o') ∧
        (r = .ok () → ∀ x, c.dependency? k = some x → s'.inventory.Holds x) :=
    ensures_attempt_telling ⟨hd.claimed, fun herror => nomatch herror⟩
      ((runsOnly_transaction hfresh hd.sound hd.claimed).and (c.ensures_dependency k))
  refine (hthroughout.and hends.recording).mono ?_
  rintro r o' h' ⟨⟨⟨hsound, hprovided⟩, hpassed⟩, hclaimed, hdependency⟩
  refine ⟨hsound, hclaimed, fun j hj => ?_, hpassed⟩
  cases r with
  | error e => exact hprovided j hj
  | ok u =>
    rcases List.mem_cons.1 hj with rfl | hj
    · exact hdependency rfl
    · exact hprovided j hj

/-- Undoing an activity. -/
theorem dependable_compensation (hctx : ctx.scope = .detached)
    (hnext : done.reverse ++ [k] <+: ActivityKind.all) (hd : c.Dependable (k :: done) o h) :
    EnsuresFrom (truthful.telling files).recording ((c.activity k).compensation ctx) o h
      fun _ o' h' => c.Dependable done o' h' := by
  have hfresh : k ∉ done := fun hk =>
    Nat.lt_irrefl _ ((ActivityKind.mem_iff_of_prefix hnext).1 hk)
  have hthroughout : EnsuresFrom (truthful.telling files).recording
      ((c.activity k).compensation ctx) o h fun _ _ h' =>
        (h'.now.Sound ∧ c.Provided done h'.now.inventory) ∧ ∀ s ∈ h'.passed, c.Supports s :=
    supports_throughout (c.asksOnly_compensation k o) hnext hd.sound
      (fun hk => hd.claimed.mono fun id => not_claimed_of_prepares hnext hk)
      (fun j hj => hd.provided j (List.mem_cons_of_mem k hj)) hd.passed
  have hends : EnsuresFrom (truthful.telling files) ((c.activity k).compensation ctx) o h.now
      fun _ o' s' => s'.RunsOnly (Claimed done o') :=
    runsOnly_compensation hctx hfresh hd.sound hd.claimed
  refine (hthroughout.and hends.recording).mono ?_
  rintro r o' h' ⟨⟨⟨hsound, hprovided⟩, hpassed⟩, hclaimed⟩
  exact ⟨hsound, hclaimed, hprovided, hpassed⟩

/-! ## The saga -/

/-- Undoing the activities that are done. -/
theorem supports_compensate (hctx : ctx.scope = .detached)
    (hnext : done.reverse <+: ActivityKind.all) (hd : c.Dependable done o h) :
    EnsuresFrom (truthful.telling files).recording (Saga.compensate ctx (done.map c.activity)) o h
      fun _ _ h' => ∀ s ∈ h'.passed, c.Supports s := by
  induction done generalizing o h with
  | nil => exact hd.passed
  | cons k earlier ih =>
    rw [List.reverse_cons] at hnext
    rw [List.map_cons, Saga.compensate, EnsuresFrom.bind_iff]
    refine (dependable_compensation hctx hnext hd).mono ?_
    intro r o' h' hd'
    rw [EnsuresFrom.bind_iff]
    refine (ih ((List.prefix_append _ _).trans hnext) hd').mono ?_
    intro failures o'' h'' hpassed
    cases r with
    | ok u => exact hpassed
    | error e => exact hpassed

/-- Carrying out the activities that are left. -/
theorem supports_executeFrom {rest : List ActivityKind} (rollback : Bool)
    (hsplit : ActivityKind.all = done.reverse ++ rest) (hd : c.Dependable done o h) :
    EnsuresFrom (truthful.telling files).recording
      (Saga.executeFrom rollback ctx (done.map c.activity) (rest.map c.activity)) o h
      fun _ _ h' => ∀ s ∈ h'.passed, c.Supports s := by
  -- `Dependable` is kept in both directions, and says that every snapshot so far is supported.
  induction rest generalizing done o h with
  | nil => exact hd.passed
  | cons k rest ih =>
    have hnext : done.reverse ++ [k] <+: ActivityKind.all :=
      ⟨rest, by rw [hsplit, List.append_assoc, List.singleton_append]⟩
    rw [List.map_cons]
    refine ensuresFrom_executeFrom ((dependable_attempt hnext hd).mono ?_)
    rintro (cause | u) o' h' hd'
    · cases rollback with
      | false => exact hd'.passed
      | true => exact supports_compensate rfl ((List.prefix_append _ _).trans hnext) hd'
    · refine ih ?_ hd'
      rw [hsplit, doneAfter, List.reverse_cons, List.append_assoc, List.singleton_append]

end Catalog

end ReverseReplication
