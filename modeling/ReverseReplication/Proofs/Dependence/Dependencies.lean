import ReverseReplication.Proofs.Dependence.Operations
import ReverseReplication.Proofs.Dependence.Snapshot

/-!
# What pipelines depend on

Three activities prepare what the pipelines of a run depend on (`Catalog.dependency?`). Each of them
either creates it or finds that it is there already. So if the managers never say by mistake that
something is there, an activity that succeeds has provided its part (`Catalog.ensures_dependency`),
although the replies of calls may be lost: an activity whose reply was lost fails.
-/

namespace ReverseReplication

open Inventory (Performed)

variable {files : FileSystem} {ctx : Context} {σ : Type} {inv : Inventory} {s : Snapshot}

/-! ## Managers that tell the truth -/

/-- Calls that undo nothing may be made to fail, but not by the untruth that something is there
already. The run may be cancelled at any moment, and replies may be lost. -/
def Hazards.truthful : Hazards where
  fails op e := op ∉ undoings ∧ e.isAlreadyExists = false
  cancels := True
  loses _ := True

/-- If the managers say that something is there already, it is. -/
theorem Hazards.refused_of_alreadyExists {c : Call} {what : String}
    (h : truthful.Denies inv c (.alreadyExists what)) :
    inv.perform c = .error (.alreadyExists what) := by
  rcases h with ⟨-, huntrue⟩ | hrefused
  · cases huntrue
  · exact hrefused

/-- What undoes something fails only if it is refused. -/
theorem Hazards.refused_of_undoing {c : Call} {e : ManagerError} (hop : c.operation ∈ undoings)
    (h : truthful.Denies inv c e) : inv.perform c = .error e := by
  rcases h with ⟨hforward, -⟩ | hrefused
  · exact absurd hop hforward
  · exact hrefused

open Hazards (truthful refused_of_alreadyExists refused_of_undoing)

namespace Step

/-- If the step succeeds, the managers hold what it is to provide. -/
def Provides (x : Holding) (step : Step σ Unit) (o : σ) (inv : Inventory) : Prop :=
  ∀ files, step.Ensures (truthful.rule files) o inv fun r _ inv' => r = .ok () → inv'.Holds x

variable {x : Holding} {o : σ} {doing : String} {c : Call}

/-- What is there already need not be made. -/
theorem provides_pure (hx : inv.Holds x) : (pure () : Step σ Unit).Provides x o inv :=
  fun _ _ => hx

/-- A step that fails need not provide anything. -/
theorem provides_throw (e : ActivityError) : (throw e : Step σ Unit).Provides x o inv :=
  fun _ herror => nomatch herror

/-- A step that goes on after a call. -/
theorem provides_call {f : Except ManagerError c.Reply → Step σ Unit}
    (denied : ∀ e, truthful.Denies inv c e → (f (.error e)).Provides x o inv)
    (performed : ∀ r inv', Performed inv c r inv' → (f (.ok r)).Provides x o inv') :
    (call ctx c >>= f).Provides x o inv := by
  intro files
  rw [ensures_bind]
  apply ensures_call
  · intro e hdenied
    exact denied e hdenied files
  · intro r inv' hperformed
    exact performed r inv' hperformed files
  · intro _ herror
    cases herror
  · intro _ _ r inv' _ herror
    cases herror

/-- A step that goes on after a call that has to succeed. -/
theorem provides_need {f : c.Reply → Step σ Unit}
    (performed : ∀ r inv', Performed inv c r inv' → (f r).Provides x o inv') :
    (need ctx doing c >>= f).Provides x o inv := by
  unfold need
  rw [bind_assoc]
  exact provides_call (fun e _ => provides_throw _) performed

/-- Recording a resource takes nothing away. -/
theorem provides_recordResource {resource : JobResource} (hx : inv.Holds x) :
    (need ctx doing (.recordResource resource) : Step σ Unit).Provides x o inv := by
  rw [← bind_pure (need ctx doing (.recordResource resource) : Step σ Unit)]
  refine provides_need fun r inv' hperformed => provides_pure (hperformed.holds ?_ hx)
  cases x <;> simp [Holding.undo, Call.operation]

/-- Setting the output makes no difference to what the managers hold. -/
theorem provides_set {o' : σ} {f : PUnit → Step σ Unit} (h : (f ()).Provides x o' inv) :
    (set o' >>= f).Provides x o inv := h

/-- Nor does changing it. -/
theorem provides_modify {g : σ → σ} {f : PUnit → Step σ Unit} (h : (f ()).Provides x (g o) inv) :
    (modify g >>= f).Provides x o inv := h

/-- A step that succeeds is not undone, so it provides what it provides without the undoing. -/
theorem provides_undoing {undo step : Step σ Unit} (h : step.Provides x o inv) :
    (undoing undo step).Provides x o inv := by
  intro files
  rw [ensures_undoing]
  refine (h files).mono ?_
  rintro (e | u) o' inv' hx
  · exact ensures_of_forall fun _ _ _ herror => nomatch herror
  · exact hx

end Step

open Step (provides_pure provides_throw provides_call provides_need provides_recordResource
  provides_set provides_modify provides_undoing)

/-- What is put into a table is there. -/
theorem Table.isSome_get?_insert_self {κ α : Type} [Ord κ] [Std.TransOrd κ] [Std.LawfulEqOrd κ]
    [DecidableEq κ] (t : Table κ α) (k : κ) (v : α) : ((t.insert k v).get? k).isSome := by
  rw [get?_insert, if_pos rfl]
  rfl

namespace StagingStore

variable (d : StagingStore) {o : Output}

/-- The bucket is created, or somebody has created it before. -/
theorem provides_ensureBucket : (d.ensureBucket ctx).Provides (.bucket d.bucketName) o inv := by
  refine provides_call (fun e hdenied => ?_) fun r inv' hperformed => ?_
  · split
    next heq => cases heq
    next what heq =>
      cases heq
      have hrefused := refused_of_alreadyExists hdenied
      simp only [Inventory.perform] at hrefused
      split at hrefused
      next hthere => exact provides_pure hthere
      next => cases hrefused
    next => exact provides_throw _
  · cases hperformed with
    | createBucket hfree =>
      refine provides_modify (provides_recordResource ?_)
      exact Table.isSome_get?_insert_self inv.buckets d.bucketName d.bucket

/-- A bucket that is needed is there, when the activity succeeds. -/
theorem holds_transaction :
    (d.transaction ctx).Ensures (truthful.telling files) o s fun r _ s' =>
      r = .ok () → d.stagingRequired = true → s'.inventory.Holds (.bucket d.bucketName) := by
  have hupload : ∀ path object {o : Output} {s : Snapshot},
      s.inventory.Holds (.bucket d.bucketName) →
      (d.upload ctx path object).Ensures (truthful.telling files) o s fun _ _ s' =>
        s'.inventory.Holds (.bucket d.bucketName) := by
    intro path object o s hholds
    refine (d.asksOnly_upload (List.mem_singleton_self _) path object).telling
      (Snapshot.keptBy_holds ?_) hholds
    simp [Holding.undo]
  have hstage : (d.stage ctx).Ensures (truthful.telling files) o s fun r _ s' =>
      r = .ok () → s'.inventory.Holds (.bucket d.bucketName) := by
    unfold stage
    rw [Step.ensures_bind]
    refine (d.provides_ensureBucket files).telling.mono ?_
    rintro (e | u) o₁ s₁ hholds
    · intro herror
      cases herror
    · rw [Step.after_ok, Step.ensures_bind]
      refine (hupload _ _ (hholds rfl)).mono ?_
      rintro (e | u) o₂ s₂ hholds
      · intro herror
        cases herror
      · exact (hupload _ _ hholds).mono fun _ _ _ hholds _ => hholds
  unfold transaction
  split
  next =>
    rw [Step.ensures_undoing]
    refine hstage.mono ?_
    rintro (e | u) o₁ s₁ hholds
    · exact Step.ensures_of_forall fun _ _ _ herror => nomatch herror
    · exact fun _ _ => hholds rfl
  next hidle => exact fun _ hrequired => absurd hrequired hidle

end StagingStore

namespace ChangeFeed

variable (f : ChangeFeed) {o : Output}

/-- Accepting a feed that is there leaves it there. -/
theorem provides_validateExisting (hthere : inv.Holds (.feed f.feedName)) :
    (f.validateExisting ctx).Provides (.feed f.feedName) o inv := by
  refine provides_call (fun e _ => ?_) fun r inv' hperformed => ?_
  · split
    next => exact provides_pure hthere
    next => exact provides_throw _
    next => exact provides_throw _
  · cases hperformed
    exact provides_pure hthere

/-- The feed is created, or was created meanwhile. -/
theorem provides_create : (f.create ctx).Provides (.feed f.feedName) o inv := by
  refine provides_call (fun e hdenied => ?_) fun r inv' hperformed => ?_
  · split
    next heq => cases heq
    next what heq =>
      cases heq
      have hrefused := refused_of_alreadyExists hdenied
      simp only [Inventory.perform] at hrefused
      split at hrefused
      next hthere => exact f.provides_validateExisting hthere
      next => cases hrefused
    next => exact provides_throw _
  · cases hperformed with
    | createFeed hfree =>
      refine provides_set (provides_undoing (provides_recordResource ?_))
      exact Table.isSome_get?_insert_self inv.feeds f.feedName f.options

/-- An activity that succeeds has seen the feed or created it. -/
theorem provides_transaction : (f.transaction ctx).Provides (.feed f.feedName) o inv := by
  refine provides_need fun found inv' hperformed => ?_
  cases hperformed
  split
  next hthere => exact f.provides_validateExisting hthere
  next => exact f.provides_create

end ChangeFeed

namespace MetadataStore

variable (d : MetadataStore) {o : Output}

/-- The database is created, or was created meanwhile. -/
theorem provides_create : (d.create ctx).Provides (.database d.databaseUri) o inv := by
  refine provides_call (fun e hdenied => ?_) fun r inv' hperformed => ?_
  · split
    next heq => cases heq
    next what heq =>
      cases heq
      have hrefused := refused_of_alreadyExists hdenied
      simp only [Inventory.perform] at hrefused
      split at hrefused
      next hthere => exact provides_pure hthere
      next => cases hrefused
    next => exact provides_throw _
  · cases hperformed with
    | createDatabase hfree =>
      refine provides_set (provides_undoing (provides_recordResource ?_))
      exact Table.isSome_get?_insert_self inv.databases d.databaseUri ()

/-- An activity that succeeds has seen the database or created it. -/
theorem provides_transaction : (d.transaction ctx).Provides (.database d.databaseUri) o inv := by
  refine provides_need fun found inv' hperformed => ?_
  cases hperformed
  split
  next => exact d.provides_create
  next hthere =>
    refine provides_pure ?_
    rwa [Bool.not_eq_true', Bool.not_eq_false] at hthere

end MetadataStore

namespace Catalog

variable (c : Catalog)

/-- What an activity prepares for the pipelines. -/
def dependency? : ActivityKind → Option Holding
  | .prepareStagingStore =>
    if c.stagingStore.stagingRequired then some (.bucket c.stagingStore.bucketName) else none
  | .prepareChangeFeed => some (.feed c.changeFeed.feedName)
  | .prepareMetadataStore => some (.database c.metadataStore.databaseUri)
  | _ => none

/-- When the activity succeeds, it is there. -/
theorem ensures_dependency (k : ActivityKind) {o : Outputs} :
    EnsuresFrom (truthful.telling files) ((c.activity k).transaction ctx) o s fun r _ s' =>
      r = .ok () → ∀ x, c.dependency? k = some x → s'.inventory.Holds x := by
  cases k with
  | prepareStagingStore =>
    refine Step.ensuresFrom_within.2 (c.stagingStore.holds_transaction.mono ?_)
    intro r o' s' hholds hok x hx
    rw [dependency?] at hx
    split at hx
    next hrequired =>
      cases hx
      exact hholds hok hrequired
    next => cases hx
  | prepareChangeFeed =>
    refine Step.ensuresFrom_within.2 ((c.changeFeed.provides_transaction files).telling.mono ?_)
    rintro r o' s' hholds hok x hx
    cases hx
    exact hholds hok
  | prepareMetadataStore =>
    refine Step.ensuresFrom_within.2 ((c.metadataStore.provides_transaction files).telling.mono ?_)
    rintro r o' s' hholds hok x hx
    cases hx
    exact hholds hok
  | _ => exact EnsuresFrom.of_forall fun _ _ _ _ _ hx => nomatch hx

end Catalog

end ReverseReplication
