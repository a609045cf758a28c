import ReverseReplication.Proofs.Settlement.Run

/-!
# Repeating a run

A run that has succeeded leaves every activity with nothing to do (`Catalog.InPlace`). So a run of
the same request after it succeeds as well, answers the same, and changes nothing
(`DisturbedWorld.provision_again`). Between the two the clock may have gone on: it decides what the
ids of further pipeline jobs begin with, and the second run starts no job.
-/

namespace ReverseReplication

variable {files : FileSystem} {inv : Inventory} {startedAt : Instant}

namespace Catalog

variable {c : Catalog}

/-! ## Activities with nothing to do -/

/-- An activity has what it needs, and nothing to do. -/
structure InPlace (c : Catalog) (files : FileSystem) (inv : Inventory) (k : ActivityKind) :
    Prop where
  admits : c.Admits files k inv
  idle : ∀ startedAt, c.effect files startedAt k inv = inv

/-- Activities with nothing to do change nothing. -/
theorem foldl_of_inPlace {kinds : List ActivityKind} (h : ∀ k ∈ kinds, c.InPlace files inv k)
    (startedAt : Instant) (outputs : PipelineRole → Pipeline.Output) :
    c.Admitted files startedAt kinds ⟨outputs, inv⟩ ∧
      (kinds.foldl (c.advance files startedAt) ⟨outputs, inv⟩).inventory = inv := by
  induction kinds generalizing outputs with
  | nil => exact ⟨trivial, rfl⟩
  | cons k rest ih =>
    have hk := h k List.mem_cons_self
    have hnext : c.advance files startedAt ⟨outputs, inv⟩ k =
        ⟨(c.advance files startedAt ⟨outputs, inv⟩ k).outputs, inv⟩ :=
      congrArg (Standing.mk _) (hk.idle startedAt)
    rw [Admitted, List.foldl_cons, hnext]
    obtain ⟨hadmitted, hrest⟩ := ih (fun k' hk' => h k' (List.mem_cons_of_mem k hk')) _
    exact ⟨⟨hk.admits, hadmitted⟩, hrest⟩

/-- A feed that was there with the options that are needed, or is created with them, has them. -/
theorem fits_settled (files : FileSystem) (startedAt : Instant)
    (hfits : c.changeFeed.Fits inv) :
    c.changeFeed.Fits (c.settled files startedAt inv) := by
  intro actual hactual
  rw [settled_feeds, Table.get?_insertNew, if_pos rfl] at hactual
  cases hbefore : inv.feeds.get? c.changeFeed.feedName with
  | some options =>
    rw [hbefore] at hactual
    cases hactual
    exact hfits options hbefore
  | none =>
    rw [hbefore] at hactual
    cases hactual
    simp [Inventory.feedMismatch?]

/-- When all activities are done, none has anything left to do, and the clock does not matter. -/
theorem inPlace_settled (hjob : c.jobCompletion.jobId = c.jobEntry.jobId)
    (hready : c.Ready files inv) (startedAt : Instant) (stamp : String) (k : ActivityKind) :
    c.InPlace files { c.settled files startedAt inv with stamp } k := by
  have hrecord := c.get?_jobs_settled files startedAt inv hjob
  have hrunning : ∀ role, (c.settled files startedAt inv).running.contains
      ((c.pipeline role).request files (c.settled files startedAt inv).object?).jobName = true :=
    fun role => Table.contains_of_get? (c.get?_running_settled files startedAt inv role)
  have hlaunchable : ∀ role, (c.pipeline role).Launchable files
      (c.settled files startedAt inv).object? := hready.launchable
  have hobjects := c.settled_object? files startedAt inv
  have hbuckets := c.settled_buckets files startedAt inv
  have hfeeds := c.settled_feeds files startedAt inv
  have hdatabases := c.settled_databases files startedAt inv
  have hfits := fits_settled files startedAt hready.fits
  -- Nothing else matters of what the run has left.
  generalize c.settled files startedAt inv = after at *
  cases k with
  | registerJob =>
    exact ⟨trivial, fun _ => JobEntry.settle_of_contains (Table.contains_of_get? hrecord)⟩
  | prepareStagingStore =>
    refine ⟨hready.readable, fun _ => StagingStore.settle_of_staged (fun hrequired => ?_) ?_⟩
    · show after.buckets.contains c.stagingStore.bucketName = true
      rw [hbuckets, if_pos hrequired]
      exact Table.contains_insertNew ..
    · intro path
      show (c.stagingStore.stagedAt files path).or (after.object? path) = after.object? path
      rw [hobjects, StagingStore.object?_settle, ← Option.or_assoc, Option.or_self]
  | prepareChangeFeed =>
    refine ⟨hfits, fun _ => ChangeFeed.settle_of_contains ?_⟩
    show after.feeds.contains c.changeFeed.feedName = true
    rw [hfeeds]
    exact Table.contains_insertNew ..
  | prepareMetadataStore =>
    refine ⟨trivial, fun _ => MetadataStore.settle_of_contains ?_⟩
    show after.databases.contains c.metadataStore.databaseUri = true
    rw [hdatabases]
    exact Table.contains_insertNew ..
  | launchReader =>
    exact ⟨hlaunchable .reader, fun _ => Pipeline.settle_of_running (hrunning .reader)⟩
  | launchWriter =>
    exact ⟨hlaunchable .writer, fun _ => Pipeline.settle_of_running (hrunning .writer)⟩
  | finalizeJob =>
    rw [← hjob] at hrecord
    refine ⟨Table.contains_of_get? hrecord, fun _ => JobCompletion.settle_of_running ?_⟩
    intro record hrecord'
    obtain rfl := Option.some.inj (hrecord.symm.trans hrecord')
    rfl

end Catalog

/-- Only what is reported of the running pipelines enters the answer of a run. -/
theorem NormalizedRequest.provisioned_congr (n : NormalizedRequest) {p p' : Standing}
    (h : ∀ role, (p.outputs role).running = (p'.outputs role).running) (executed : Nat) :
    n.provisioned p.pipelines executed = n.provisioned p'.pipelines executed := by
  unfold provisioned Standing.pipelines
  rw [h .reader, h .writer]

namespace DisturbedWorld

/-- A run that is repeated after it has succeeded answers the same, and changes nothing. -/
theorem provision_again {d d' : DisturbedWorld} (hwithin : d.Within .calm)
    (hwithin' : d'.Within .calm) (r : JobRequest) (run : RunId) (rollback : Bool)
    (settings : Settings) (startedAt startedAt' : Instant) {p : Provisioned} {stamp : String}
    (hok : (d.provision r run rollback settings startedAt).1 = .ok p)
    (hfiles : d'.world.files = d.world.files)
    (hleft : d'.inventory =
      { (d.provision r run rollback settings startedAt).2.inventory with stamp }) :
    (d'.provision r run rollback settings startedAt').1 = .ok p ∧
      (d'.provision r run rollback settings startedAt').2.inventory = d'.inventory := by
  obtain ⟨location, hlocated, hready, rfl, hafter⟩ := settled_of_ok hwithin hok
  rw [hafter] at hleft
  have hplace := Catalog.inPlace_settled (c := r.catalogAt run settings location)
    rfl hready startedAt stamp
  have hfixed := Catalog.foldl_of_inPlace (fun k (_ : k ∈ ActivityKind.all) => hplace k) startedAt'
    fun _ => {}
  rw [← hleft, ← hfiles] at hfixed
  have hlocated' : r.Located run d'.inventory location := by
    rw [hleft]
    exact hlocated.congr rfl rfl
  obtain ⟨hanswer, hafter'⟩ := ok_of_ready hwithin' hlocated'
    ((Catalog.admitted_iff rfl).1 hfixed.1) rollback startedAt'
  have hsame : (r.catalogAt run settings location).settled d'.world.files startedAt' d'.inventory =
      d'.inventory := hfixed.2
  refine ⟨hanswer.trans (congrArg _ ?_), hafter'.trans hsame⟩
  refine NormalizedRequest.provisioned_congr _ (fun role => ?_) _
  rw [Catalog.running_settle, Catalog.running_settle, hsame, hleft, hfiles]
  rfl

/-- A first run sets everything up, and a second one in the same place finds it. -/
theorem provision_again_of_sample :
    ∃ p, (Sample.run Sample.inventory []).1 = .ok p ∧
      (Sample.run (Sample.run Sample.inventory []).2.inventory []).1 = .ok p ∧
      (Sample.run (Sample.run Sample.inventory []).2.inventory []).2.inventory =
        (Sample.run Sample.inventory []).2.inventory := by
  obtain ⟨p, hp⟩ := Sample.succeeds
  obtain ⟨after, hafter⟩ : ∃ after, (Sample.run Sample.inventory []).2.inventory = after := ⟨_, rfl⟩
  rw [hafter]
  have hleft : (Sample.world after []).inventory =
      { (Sample.run Sample.inventory []).2.inventory with stamp := after.stamp } := by
    rw [hafter]
    rfl
  exact ⟨p, hp, provision_again (Sample.within_nil Sample.inventory) (Sample.within_nil after)
    Sample.request "abc" true Sample.settings .epoch .epoch hp rfl hleft⟩

end DisturbedWorld

end ReverseReplication
