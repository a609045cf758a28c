import ReverseReplication.Proofs.Ownership.Run

/-!
# A failed run restores the world

Where only calls that undo nothing are made to fail, a run whose saga fails leaves the buckets, the
change feeds, the databases and the running pipelines as they were before it
(`DisturbedWorld.provision_restores`). An object differs at most where the run staged a file into a
bucket that was there already.
-/

namespace ReverseReplication

/-- Calls that undo nothing may be made to fail, and the run may be cancelled between calls. -/
def Hazards.forward : Hazards where
  fails op _ := op ∉ undoings
  cancels := True
  loses _ := False

/-- If calls only fail without an effect, the bookkeeping is exact. -/
theorem Hazards.exact_forward : Hazards.forward.Exact where
  replies := fun _ _ => id
  removals := fun _ hop _ hfails => hfails hop

/-- Calls that undo nothing may be made to fail, and the run may be cancelled at any time, also
while a reply is under way. -/
def Hazards.abrupt : Hazards := { forward with loses := fun _ => True }

/-- What the managers have of resources that a run may create: all that is to be restored. -/
structure Inventory.SameResources (before after : Inventory) : Prop where
  buckets : after.buckets = before.buckets
  feeds : after.feeds = before.feeds
  databases : after.databases = before.databases
  running : after.running = before.running

namespace Scenario

variable {sc : Scenario} {o : Outputs} {inv : Inventory}
  {known : Option (ObjectPath → Option Text.Bytes)}

/-- Where undoing never fails, a run that was rolled back claims nothing any more. -/
theorem claims_eq_false {e : SagaError} (h : sc.Accounts e o)
    (hundo : ∀ op ∈ Hazards.undoings, ¬sc.MayFail op) (k : ActivityKind) : o.claims k = false := by
  rw [Bool.eq_false_iff]
  intro hclaim
  obtain ⟨⟨op, hop, hfails⟩, -⟩ := h k hclaim
  refine hundo op ?_ hfails
  cases k <;> cases hop <;> decide

/-- Where nothing is hidden, a run that claims nothing has restored the resources. -/
theorem Tracks.sameResources (h : sc.Tracks known o inv) (hexact : sc.hazards.Exact)
    (hnone : ∀ k, o.claims k = false) : sc.before.SameResources inv where
  buckets := h.buckets.eq_of_exact hexact (hnone .prepareStagingStore)
  feeds := h.feeds.eq_of_exact hexact (hnone .prepareChangeFeed)
  databases := h.databases.eq_of_exact hexact (hnone .prepareMetadataStore)
  running := by
    refine h.launches.running_eq h.sound sc.sound hexact fun role => ?_
    cases role with
    | reader => exact hnone .launchReader
    | writer => exact hnone .launchWriter

/-- When the buckets are restored, an object can differ only in one that was there before. -/
theorem Tracks.object_changed (h : sc.Tracks known o inv)
    (hbuckets : inv.buckets = sc.before.buckets) {path : ObjectPath}
    (hne : inv.object? path ≠ sc.before.object? path) :
    sc.catalog.stagingStore.stagingRequired = true ∧ sc.catalog.stagingStore.Stages path ∧
      (sc.before.buckets.get? path.bucket).isSome := by
  refine ⟨?_, ?_, ?_⟩
  · rw [← Bool.not_eq_false]
    intro hidle
    unfold Inventory.object? at hne
    rw [(h.idle hidle).2.2] at hne
    exact hne rfl
  · exact Classical.byContradiction fun hstages =>
      hne (h.objects path (StagingStore.stagedAt_eq_none hstages))
  · cases hbucket : sc.before.buckets.get? path.bucket with
    | some bucket => rfl
    | none =>
      have hnow : inv.buckets.get? path.bucket = none := by
        rw [hbuckets]
        exact hbucket
      rw [h.sound.object?_eq_none hnow, sc.sound.object?_eq_none hbucket] at hne
      exact absurd rfl hne

end Scenario

namespace DisturbedWorld

/-- A run whose saga fails, and that is rolled back, restores the world, if undoing never fails. -/
theorem provision_restores {d : DisturbedWorld} (hwithin : d.Within .forward)
    (hreachable : d.inventory.Reachable) (r : JobRequest) (run : RunId) (settings : Settings)
    (startedAt : Instant) {e : SagaError}
    (he : (d.provision r run true settings startedAt).1 = .error (.saga e)) :
    let after := (d.provision r run true settings startedAt).2.inventory
    d.inventory.SameResources after ∧
      ∀ path, after.object? path ≠ d.inventory.object? path →
        path.bucket = stagingBucketOf run ∧
          (path.object = sessionObject ∨ path.object = sourceConnectionObject) ∧
          (d.inventory.buckets.get? (stagingBucketOf run)).isSome := by
  intro after
  rcases provision_ends hwithin hreachable r run true settings startedAt with
    ⟨-, hnone⟩ | ⟨location, result, o, hended, hresult⟩
  · exact absurd he (hnone e)
  have hclaims := Scenario.claims_eq_false (hended.accounts e (hresult e he) rfl)
    fun op hop ⟨e', hfails⟩ => hfails hop
  have hsame := hended.tracks.sameResources Hazards.exact_forward hclaims
  refine ⟨hsame, fun path hne => ?_⟩
  obtain ⟨hrequired, ⟨hbucket, hobject⟩, hthere⟩ :=
    hended.tracks.object_changed hsame.buckets hne
  have hname : path.bucket = stagingBucketOf run := by
    rw [hbucket]
    show r.stagingBucket run = _
    exact if_pos hrequired
  rw [hname] at hthere
  exact ⟨hname, hobject, hthere⟩

/-- A run that can launch nothing takes back its bucket, its feed and its database. -/
theorem provision_restores_of_launch_down :
    ∃ e, (Sample.run Sample.inventory [(.launch, .unavailable "down")]).1 = .error (.saga e) ∧
      e.index = 4 ∧ Sample.inventory.SameResources
        (Sample.run Sample.inventory [(.launch, .unavailable "down")]).2.inventory := by
  have hwithin : (Sample.world Sample.inventory [(.launch, .unavailable "down")]).Within
      .forward := by
    apply Sample.within
    intro f hf
    rw [List.mem_singleton.1 hf]
    show Operation.launch ∉ Hazards.undoings
    decide
  have he : (Sample.run Sample.inventory [(.launch, .unavailable "down")]).1 = .error (.saga {
      index := 4
      activity := "LaunchReaderPipeline"
      cause := .external "launching pipeline smt-reverse-replication-reader-r1"
        (.manager (.unavailable "down"))
      compensationFailures := [] }) := rfl
  exact ⟨_, he, rfl, (provision_restores hwithin Sample.reachable Sample.request "abc"
    Sample.settings .epoch he).1⟩

end DisturbedWorld

end ReverseReplication
