import ReverseReplication.Proofs.Ownership.Run

/-!
# What a failed run leaves behind

Undoing may fail as well, and then a resource outlives the run that created it. The error of the
run accounts for such a resource if it lists the activity that created it among the failed
compensations. It does, unless that activity is the very one that failed: what a failed activity
undoes by itself is not a compensation of the saga, and its failure is not reported
(`DisturbedWorld.provision_accounts`).
-/

namespace ReverseReplication

/-- Every call may be made to fail, the ones that undo something too, unless the error says that
what is to be undone is gone. -/
def Hazards.audible : Hazards where
  fails op e := op ∈ undoings → ∀ what, e ≠ .notFound what
  cancels := True
  loses _ := False

/-- Where nothing is made to look gone and no reply is lost, a run knows what its calls have
done. -/
theorem Hazards.exact_audible : Hazards.audible.Exact where
  replies := fun _ _ => id
  removals := fun _ hop what hfails => hfails hop what rfl

/-- Managers that are down at times do not make anything look gone. -/
theorem Sample.audible_of_unavailable {failing : List (Operation × ManagerError)}
    (h : ∀ f ∈ failing, ∃ text, f.2 = .unavailable text) :
    ∀ f ∈ failing, Hazards.audible.fails f.1 f.2 := by
  intro f hf _ what hgone
  obtain ⟨text, hunavailable⟩ := h f hf
  rw [hunavailable] at hgone
  simp at hgone

/-- Something that a run may create. -/
inductive Holding where
  | bucket (name : String)
  | feed (feed : FeedName)
  | database (uri : String)
  /-- A running pipeline, by its name and id. -/
  | pipeline (name id : String)
  deriving DecidableEq

/-- Do the managers hold it? -/
def Inventory.Holds (inv : Inventory) : Holding → Prop
  | .bucket name => (inv.buckets.get? name).isSome
  | .feed feed => (inv.feeds.get? feed).isSome
  | .database uri => (inv.databases.get? uri).isSome
  | .pipeline name id => inv.running.get? name = some id

/-- The activity that launches the pipeline. -/
def PipelineRole.launcher : PipelineRole → ActivityKind
  | .reader => .launchReader
  | .writer => .launchWriter

/-- Which activity created a holding that was not there before. Of the pipelines, an activity
created those that were launched since with its parameters. -/
inductive Catalog.Creates (c : Catalog) (before after : Inventory) : ActivityKind → Holding → Prop
  | bucket : Creates c before after .prepareStagingStore (.bucket c.stagingStore.bucketName)
  | feed : Creates c before after .prepareChangeFeed (.feed c.changeFeed.feedName)
  | database : Creates c before after .prepareMetadataStore (.database c.metadataStore.databaseUri)
  | pipeline (role : PipelineRole) {name id : String} :
    after.LaunchedSince before.launched.length (c.pipeline role).parameters name id →
    Creates c before after role.launcher (.pipeline name id)

namespace Scenario

variable {sc : Scenario} {o : Outputs} {inv : Inventory}
  {known : Option (ObjectPath → Option Text.Bytes)}

/-- Where nothing is hidden, whatever is new was created by an activity that claims it. -/
theorem Tracks.creator (h : sc.Tracks known o inv) (hexact : sc.hazards.Exact) {x : Holding}
    (hnow : inv.Holds x) (hbefore : ¬sc.before.Holds x) :
    ∃ k, o.claims k = true ∧ sc.catalog.Creates sc.before inv k x := by
  cases x with
  | bucket name =>
    obtain ⟨rfl, hclaim⟩ := h.buckets.claimed_of_new hexact hnow hbefore
    exact ⟨.prepareStagingStore, hclaim, .bucket⟩
  | feed feed =>
    obtain ⟨rfl, hclaim⟩ := h.feeds.claimed_of_new hexact hnow hbefore
    exact ⟨.prepareChangeFeed, hclaim, .feed⟩
  | database uri =>
    obtain ⟨rfl, hclaim⟩ := h.databases.claimed_of_new hexact hnow hbefore
    exact ⟨.prepareMetadataStore, hclaim, .database⟩
  | pipeline name id =>
    obtain ⟨role, hclaim, hlaunched⟩ :=
      h.launches.launched_of_new h.sound hexact hnow hbefore
    refine ⟨role.launcher, ?_, .pipeline role hlaunched⟩
    cases role with
    | reader => exact hclaim
    | writer => exact hclaim

end Scenario

/-! ## Who created what -/

/-- What activities create does not depend on where the run is located. -/
theorem creates_withLocation {n : NormalizedRequest} {location : String} {settings : Settings}
    {before after : Inventory} {k : ActivityKind} {x : Holding}
    (h : (({ n with location } : NormalizedRequest).catalog settings).Creates before after k x) :
    (n.catalog settings).Creates before after k x := by
  cases h with
  | bucket =>
    have hcreates : (n.catalog settings).Creates before after .prepareStagingStore _ := .bucket
    rw [NormalizedRequest.catalog_bucketName] at hcreates ⊢
    exact hcreates
  | feed =>
    have hcreates : (n.catalog settings).Creates before after .prepareChangeFeed _ := .feed
    rw [NormalizedRequest.catalog_feedName] at hcreates ⊢
    exact hcreates
  | database =>
    have hcreates : (n.catalog settings).Creates before after .prepareMetadataStore _ := .database
    rw [NormalizedRequest.catalog_databaseUri] at hcreates ⊢
    exact hcreates
  | pipeline role hlaunched =>
    apply Catalog.Creates.pipeline
    cases role with
    | reader =>
      rw [NormalizedRequest.catalog_reader_parameters] at hlaunched ⊢
      exact hlaunched
    | writer =>
      rw [NormalizedRequest.catalog_writer_parameters] at hlaunched ⊢
      exact hlaunched

/-- Only the writer is told the type of the source database. -/
theorem readerParameters_ne_writerParameters (n : NormalizedRequest) :
    n.readerParameters ≠ n.writerParameters := by
  intro heq
  have hsource := congrArg (fun parameters => parameters.get? "sourceType") heq
  simp only [NormalizedRequest.readerParameters, NormalizedRequest.writerParameters,
    Parameters.insertNonEmpty, Table.ofList, List.foldl] at hsource
  split at hsource <;> split at hsource <;> simp [Table.get?_insert] at hsource

/-- The id of a pipeline belongs to one launch. -/
theorem Inventory.LaunchedSince.parameters_unique {inv : Inventory} {n : Nat}
    {parameters parameters' : Parameters} {name id : String}
    (h : inv.LaunchedSince n parameters name id) (h' : inv.LaunchedSince n parameters' name id) :
    parameters = parameters' := by
  obtain ⟨m, request, -, hrequest, hid, -, hparameters⟩ := h
  obtain ⟨m', request', -, hrequest', hid', -, hparameters'⟩ := h'
  have hm : m = m' := by
    have hnumber := Inventory.pipelineId_injective (hid.symm.trans hid')
    omega
  rw [hm, hrequest', Option.some.injEq] at hrequest
  rw [← hparameters, ← hparameters', hrequest]

/-- At most one activity has created a holding. -/
theorem creates_unique {n : NormalizedRequest} {settings : Settings} {before after : Inventory}
    {k k' : ActivityKind} {x : Holding} (h : (n.catalog settings).Creates before after k x)
    (h' : (n.catalog settings).Creates before after k' x) : k' = k := by
  cases h with
  | bucket =>
    cases h'
    rfl
  | feed =>
    cases h'
    rfl
  | database =>
    cases h'
    rfl
  | pipeline role hlaunched =>
    cases h' with
    | pipeline role' hlaunched' =>
      have hparameters := hlaunched.parameters_unique hlaunched'
      have hne := readerParameters_ne_writerParameters n
      cases role with
      | reader =>
        cases role' with
        | reader => rfl
        | writer => exact absurd hparameters hne
      | writer =>
        cases role' with
        | reader => exact absurd hparameters.symm hne
        | writer => rfl

namespace DisturbedWorld

/-- A failed run accounts for everything that it leaves behind, unless the activity that created it
is the one that failed. -/
theorem provision_accounts {hz : Hazards} (hexact : hz.Exact) {d : DisturbedWorld}
    (hwithin : d.Within hz) (hreachable : d.inventory.Reachable) (r : JobRequest) (run : RunId)
    (settings : Settings) (startedAt : Instant) {e : SagaError}
    (he : (d.provision r run true settings startedAt).1 = .error (.saga e)) :
    let after := (d.provision r run true settings startedAt).2.inventory
    ∀ x, after.Holds x → ¬d.inventory.Holds x →
      ∃ k, (∀ k', ((r.fill run).catalog settings).Creates d.inventory after k' x ↔ k' = k) ∧
        (∃ op, k.undo? = some op ∧ ∃ cause, hz.fails op cause) ∧
        ((∃ f ∈ e.compensationFailures, f.IsOf k) ↔ k.position ≠ e.index) := by
  intro after x hnow hbefore
  rcases provision_ends hwithin hreachable r run true settings startedAt with
    ⟨-, hnone⟩ | ⟨location, result, o, hended, hresult⟩
  · exact absurd he (hnone e)
  obtain ⟨k, hclaim, hcreates⟩ := hended.tracks.creator hexact hnow hbefore
  obtain ⟨hundo, hlisted⟩ := hended.accounts e (hresult e he) rfl k hclaim
  have hcreates' : ((r.fill run).catalog settings).Creates d.inventory after k x :=
    creates_withLocation hcreates
  refine ⟨k, fun k' => ?_, hundo, hlisted⟩
  constructor
  · exact creates_unique hcreates'
  · intro hk
    rw [hk]
    exact hcreates'

/-- A launch failed, and then the staging bucket could not be deleted: the error lists the activity
that created the bucket. -/
theorem provision_accounts_of_locked_bucket :
    let failing := [(.launch, .unavailable "down"), (.deleteBucket, .unavailable "locked")]
    ∃ e, (Sample.run Sample.inventory failing).1 = .error (.saga e) ∧
      (Sample.run Sample.inventory failing).2.inventory.Holds (.bucket "smt-rr-gcs-abc") ∧
      ¬Sample.inventory.Holds (.bucket "smt-rr-gcs-abc") ∧
      ∃ f ∈ e.compensationFailures, f.IsOf .prepareStagingStore := by
  intro failing
  have hwithin : (Sample.world Sample.inventory failing).Within .audible :=
    Sample.within (Sample.audible_of_unavailable (by simp [failing]))
  have he : (Sample.run Sample.inventory failing).1 = .error (.saga {
      index := 4
      activity := "LaunchReaderPipeline"
      cause := .external "launching pipeline smt-reverse-replication-reader-r1"
        (.manager (.unavailable "down"))
      compensationFailures := [{
        index := 1
        activity := "PrepareStagingStore"
        error := .external "deleting staging bucket" (.manager (.unavailable "locked")) }] }) := rfl
  have hnow : (Sample.run Sample.inventory failing).2.inventory.Holds (.bucket "smt-rr-gcs-abc") :=
    rfl
  have hbefore : ¬Sample.inventory.Holds (.bucket "smt-rr-gcs-abc") := Bool.false_ne_true
  obtain ⟨k, hk, -, hlisted⟩ := provision_accounts Hazards.exact_audible hwithin Sample.reachable
    Sample.request "abc" Sample.settings .epoch he _ hnow hbefore
  have hcreator : ActivityKind.prepareStagingStore = k := (hk _).1 .bucket
  subst hcreator
  exact ⟨_, he, hnow, hbefore, hlisted.2 (by decide)⟩

/-- Recording the staging bucket failed, and then it could not be deleted: the bucket is left
behind, and the error lists nothing. -/
theorem provision_leaks :
    let failing := [(.recordResource, .unavailable "down"), (.deleteBucket, .unavailable "locked")]
    (Sample.world Sample.inventory failing).Within .audible ∧ Sample.inventory.Reachable ∧
      (Sample.run Sample.inventory failing).1 = .error (.saga {
        index := 1
        activity := "PrepareStagingStore"
        cause := .external "recording staging bucket" (.manager (.unavailable "down"))
        compensationFailures := [] }) ∧
      (Sample.run Sample.inventory failing).2.inventory.Holds (.bucket "smt-rr-gcs-abc") ∧
      ¬Sample.inventory.Holds (.bucket "smt-rr-gcs-abc") := by
  intro failing
  have hwithin : (Sample.world Sample.inventory failing).Within .audible :=
    Sample.within (Sample.audible_of_unavailable (by simp [failing]))
  exact ⟨hwithin, Sample.reachable, rfl, rfl, Bool.false_ne_true⟩

end DisturbedWorld

end ReverseReplication
