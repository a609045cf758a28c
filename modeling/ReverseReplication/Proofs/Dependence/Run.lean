import ReverseReplication.Proofs.Dependence.Saga

/-!
# Dependencies outlive pipelines

At every moment of a run, while it goes on, undoes an activity by itself, or is rolled back: where a
pipeline runs that the run knows to have launched, the change feed, the metadata database and the
staging bucket, if one is required, are there (`RecordedWorld.provision_sustains`). This holds
whenever the run is cancelled and whichever calls fail, as long as undoing does not and no call
fails by the untruth that something is there already.

A run knows of a launch when it is answered. If the run is cancelled while the launch is on its way,
the pipeline may have started all the same. The run does not know of it, does not cancel it, and
takes away what it depends on (`RecordedWorld.provision_abandons`).
-/

namespace ReverseReplication

open Hazards (truthful)

/-! ## What the pipelines of a request depend on -/

namespace NormalizedRequest

/-- What the pipelines of the request's run depend on. -/
def dependencies (n : NormalizedRequest) : List Holding :=
  .feed ⟨n.targetDatabase, n.request.changeStreamName⟩ :: .database n.metadataDatabase ::
    if n.stagingRequired then [.bucket n.stagingBucketName] else []

/-- Each is prepared by one of the activities. -/
theorem exists_dependency (n : NormalizedRequest) (settings : Settings) {x : Holding}
    (hx : x ∈ n.dependencies) : ∃ k, (n.catalog settings).dependency? k = some x := by
  unfold dependencies at hx
  rcases List.mem_cons.1 hx with rfl | hx
  · exact ⟨.prepareChangeFeed, rfl⟩
  · rcases List.mem_cons.1 hx with rfl | hx
    · exact ⟨.prepareMetadataStore, rfl⟩
    · split at hx
      next hrequired =>
        rw [List.mem_singleton.1 hx]
        exact ⟨.prepareStagingStore, if_pos hrequired⟩
      next => cases hx

/-- Where a pipeline runs that the run knows to have launched, all that it depends on is there. -/
def Sustains (n : NormalizedRequest) (s : Snapshot) : Prop :=
  ∀ id ∈ s.launched, ∀ name, s.inventory.Holds (.pipeline name id) →
    ∀ x ∈ n.dependencies, s.inventory.Holds x

/-- What the catalog of a run supports is what the run is to sustain. -/
theorem sustains_of_supports {n : NormalizedRequest} {settings : Settings} {s : Snapshot}
    (h : (n.catalog settings).Supports s) : n.Sustains s := by
  intro id hid name hrun x hx
  obtain ⟨k, hk⟩ := n.exists_dependency settings hx
  exact h id hid name hrun k x hk

end NormalizedRequest

/-- Where the request's instance is makes no difference. -/
theorem JobRequest.dependencies_fillAt (r : JobRequest) (run : RunId) (location : String) :
    (r.fillAt run location).dependencies = (r.fill run).dependencies := rfl

/-! ## The run -/

/-- A run passes through nothing but snapshots in which what its pipelines depend on is there. -/
theorem JobRequest.ensures_sustains {files : FileSystem} {inv : Inventory} (hsound : inv.Sound)
    (r : JobRequest) (run : RunId) (rollback : Bool) (settings : Settings) (startedAt : Instant) :
    (r.provision run rollback settings startedAt).Ensures (truthful.telling files).recording
      { now := { inventory := inv } } fun _ h' => ∀ s ∈ h'.passed, (r.fill run).Sustains s := by
  apply JobRequest.ensures_provision
  · intro v _ s hs
    cases hs
  · rintro - reply h' ⟨hanswer, hpassed⟩
    -- No pipeline was launched before the look-up, and the look-up launches none.
    have hkept : Snapshot.KeptBy [.leaderLocation] fun s => s.Sound ∧ s.RunsOnly fun _ => False :=
      Snapshot.keptBy_runsOnly (by decide) _
    obtain ⟨hsound', hruns⟩ := hkept.telling _ _ _ _ (fun c hc => by
      cases hc
      exact List.mem_singleton_self _) hanswer
      ⟨⟨hsound, fun id hid => (nomatch hid)⟩, fun id hid => (nomatch hid)⟩
    have hquiet : ∀ s ∈ h'.passed, s.RunsOnly fun _ => False := by
      intro s hs
      rw [hpassed, List.nil_append, List.mem_singleton] at hs
      rw [hs]
      exact hruns
    constructor
    · intro e _ s hs
      exact (hquiet s hs).mono fun _ hfalse => hfalse.elim
    · intro location _
      have hbegun : ((r.fillAt run location).catalog settings).Dependable [] {} h' :=
        ⟨hsound', hruns.mono fun _ hfalse => hfalse.elim, fun k hk => (nomatch hk),
          fun s hs => (hquiet s hs).mono fun _ hfalse => hfalse.elim⟩
      have hsaga : EnsuresFrom (truthful.telling files).recording
          (r.saga run rollback settings startedAt location) {} h' fun _ _ h'' =>
            ∀ s ∈ h''.passed, ((r.fillAt run location).catalog settings).Supports s :=
        Catalog.supports_executeFrom rollback rfl hbegun
      refine hsaga.mono fun _ _ h'' hsupports s hs => ?_
      have hsustains := NormalizedRequest.sustains_of_supports (hsupports s hs)
      unfold NormalizedRequest.Sustains at hsustains ⊢
      rw [r.dependencies_fillAt] at hsustains
      exact hsustains

/-! ## A world with a record -/

/-- A disturbed world in which the answered launches and the snapshots are recorded. -/
structure RecordedWorld where
  world : DisturbedWorld
  /-- The ids that launches were answered with so far. -/
  launched : List String := []
  /-- The snapshots after each query so far. -/
  passed : List Snapshot := []

namespace RecordedWorld

/-- Answers a query as the disturbed world does. -/
def answer : Plan.Handler RecordedWorld := fun q w =>
  let result := DisturbedWorld.answer q w.world
  let launched := w.launched ++ (q.launched? result.1).toList
  (result.1, {
    world := result.2
    launched
    passed := w.passed ++ [⟨result.2.inventory, launched⟩] })

/-- The history of a run so far. -/
def history (w : RecordedWorld) : History Snapshot := ⟨⟨w.world.inventory, w.launched⟩, w.passed⟩

/-- A run in the recorded world is the run in the disturbed world. -/
theorem run_eq {α : Type} (p : Plan α) (w : RecordedWorld) :
    (p.run answer w).1 = (p.run DisturbedWorld.answer w.world).1 ∧
      (p.run answer w).2.world = (p.run DisturbedWorld.answer w.world).2 := by
  induction p generalizing w with
  | done a => exact ⟨rfl, rfl⟩
  | ask q next ih => exact ih _ (answer q w).2

/-- A recorded world within hazards keeps to their rule. -/
theorem respects (hz : Hazards) (files : FileSystem) :
    Plan.Respects answer (hz.telling files).recording history
      fun w => w.world.Within hz ∧ w.world.world.files = files where
  answers := by
    rintro q w ⟨hwithin, rfl⟩
    exact ⟨⟨(hwithin.answer rfl).1, rfl⟩, rfl⟩
  stays := by
    rintro q w ⟨hwithin, rfl⟩
    exact (hwithin.answer rfl).2

/-- Carries out a run for a request. -/
def provision (w : RecordedWorld) (r : JobRequest) (run : RunId) (rollback : Bool)
    (settings : Settings) (startedAt : Instant) : Except RunError Provisioned × RecordedWorld :=
  (r.provision run rollback settings startedAt).run answer w

/-- At every moment of a run: where a pipeline runs whose launch was answered, all that it depends
on is there. The record that says so changes nothing about the run. -/
theorem provision_sustains {d : DisturbedWorld} (hwithin : d.Within .truthful)
    (hreachable : d.inventory.Reachable) (r : JobRequest) (run : RunId) (rollback : Bool)
    (settings : Settings) (startedAt : Instant) :
    let recorded := provision { world := d } r run rollback settings startedAt
    recorded.1 = (d.provision r run rollback settings startedAt).1 ∧
      recorded.2.world = (d.provision r run rollback settings startedAt).2 ∧
      ∀ s ∈ recorded.2.passed, (r.fill run).Sustains s := by
  intro recorded
  obtain ⟨hresult, hworld⟩ := run_eq (r.provision run rollback settings startedAt) { world := d }
  have hsustains : (r.provision run rollback settings startedAt).Ensures
      (truthful.telling d.world.files).recording (history { world := d })
      fun _ h' => ∀ s ∈ h'.passed, (r.fill run).Sustains s :=
    r.ensures_sustains hreachable.sound run rollback settings startedAt
  exact ⟨hresult, hworld, (hsustains.run (respects .truthful d.world.files) ⟨hwithin, rfl⟩).1⟩

end RecordedWorld

/-! ## Two runs to look at -/

namespace Sample

/-- The snapshots that the run of the sample request passes through in a world. -/
def snapshots (d : DisturbedWorld) : List Snapshot :=
  (RecordedWorld.provision { world := d } request "abc" true settings .epoch).2.passed

/-- A world in which a run cannot mark its record as running. -/
def unfinished : DisturbedWorld := world inventory [(.updateJobStatus, .unavailable "down")]

/-- A world in which a run is cancelled while its first launch is on its way. -/
def interrupted : DisturbedWorld :=
  { world inventory [] with hooks := [⟨.launch, .after, none, World.cancel, true⟩] }

/-- In the interrupted world the managers do not say anything untrue. -/
theorem within_interrupted : interrupted.Within .truthful := within_cutting trivial trivial

end Sample

namespace RecordedWorld

open Sample (request settings snapshots unfinished interrupted)

/-- The run that cannot finish has launched both pipelines, and takes back everything in the end. -/
theorem provision_sustains_of_unfinished :
    (∃ s ∈ snapshots unfinished, ∃ id ∈ s.launched,
      s.inventory.Holds (.pipeline "smt-reverse-replication-writer-w1" id)) ∧
    (∃ s ∈ snapshots unfinished, s.launched ≠ [] ∧ ∀ x ∈ (request.fill "abc").dependencies,
      ¬s.inventory.Holds x) ∧
    ∀ s ∈ snapshots unfinished, (request.fill "abc").Sustains s := by
  have hwithin : unfinished.Within .truthful := by
    apply Sample.within
    intro f hf
    rw [List.mem_singleton.1 hf]
    exact ⟨by decide, rfl⟩
  have hpassed : (∃ s ∈ snapshots unfinished, ∃ id ∈ s.launched,
        s.inventory.Holds (.pipeline "smt-reverse-replication-writer-w1" id)) ∧
      ∃ s ∈ snapshots unfinished, s.launched ≠ [] ∧ ∀ x ∈ (request.fill "abc").dependencies,
        ¬s.inventory.Holds x := by decide +kernel
  obtain ⟨-, -, hsustains⟩ :=
    provision_sustains hwithin Sample.reachable request "abc" true settings .epoch
  exact ⟨hpassed.1, hpassed.2, hsustains⟩

/-- If the answer to a launch is lost since the run is cancelled, the pipeline goes on running while
the rollback takes away what it depends on. -/
theorem provision_abandons :
    interrupted.Within .truthful ∧ interrupted.inventory.Reachable ∧
      interrupted.inventory.pipelines.get? "2026-01-01-1" = none ∧
      ∃ s ∈ (snapshots interrupted).dropLast,
        s.inventory.Holds (.pipeline "smt-reverse-replication-reader-r1" "2026-01-01-1") ∧
          ∃ x ∈ (request.fill "abc").dependencies, ¬s.inventory.Holds x :=
  ⟨Sample.within_interrupted, Sample.reachable, rfl, by decide +kernel⟩

end RecordedWorld

end ReverseReplication
