import ReverseReplication.Proofs.Ownership.Rollback
import ReverseReplication.Proofs.Request

/-!
# What whole runs ensure

`DisturbedWorld.provision` carries out a run in a disturbed world. Within hazards, a run that gets
as far as its saga ends as `Scenario.Ended` says, and any other run changes nothing
(`DisturbedWorld.provision_ends`).
-/

namespace ReverseReplication

variable {hz : Hazards}

/-! ## What the activities of a request are given -/

namespace NormalizedRequest

variable (n : NormalizedRequest) (settings : Settings)

theorem catalog_bucketName :
    (n.catalog settings).stagingStore.bucketName = n.stagingBucketName := rfl

theorem catalog_feedName :
    (n.catalog settings).changeFeed.feedName = ⟨n.targetDatabase, n.request.changeStreamName⟩ := rfl

theorem catalog_databaseUri :
    (n.catalog settings).metadataStore.databaseUri = n.metadataDatabase := rfl

theorem catalog_reader_parameters :
    ((n.catalog settings).pipeline .reader).parameters = n.readerParameters := rfl

theorem catalog_writer_parameters :
    ((n.catalog settings).pipeline .writer).parameters = n.writerParameters := rfl

/-- All activities write about one job. -/
theorem mem_catalog_jobIds {id : JobId} : id ∈ (n.catalog settings).jobIds ↔ id = n.jobId := by
  simp [Catalog.jobIds, catalog, target]

end NormalizedRequest

/-! ## The scenario of a run -/

/-- The run of a normalized request. -/
def NormalizedRequest.scenario (n : NormalizedRequest) (hz : Hazards) (settings : Settings)
    (files : FileSystem) (before : Inventory) (sound : before.Sound) : Scenario where
  hazards := hz
  catalog := n.catalog settings
  files := files
  before := before
  sound := sound

/-! ## Runs in a disturbed world -/

namespace DisturbedWorld

/-- Carries out a run for a request. -/
def provision (d : DisturbedWorld) (r : JobRequest) (run : RunId) (rollback : Bool)
    (settings : Settings) (startedAt : Instant) : Except RunError Provisioned × DisturbedWorld :=
  (r.provision run rollback settings startedAt).run answer d

/-- A run takes the managers only to what they can come to hold. -/
theorem provision_reachable {d : DisturbedWorld} (hwithin : d.Within hz)
    (hreachable : d.inventory.Reachable) (r : JobRequest) (run : RunId) (rollback : Bool)
    (settings : Settings) (startedAt : Instant) :
    (d.provision r run rollback settings startedAt).2.inventory.Reachable := by
  have hensures : (r.provision run rollback settings startedAt).Ensures (hz.rule d.world.files)
      d.inventory fun _ inv' => inv'.Reachable := by
    refine Plan.ensures_of_invariant (fun q inv answer inv' hanswer hinv => ?_) hreachable
    rcases hz.rule_changes hanswer with rfl | ⟨c, reply, hperform⟩
    · exact hinv
    · exact hinv.performed hperform
  exact (hensures.run (respects hz d.world.files) ⟨hwithin, rfl⟩).1

/-- A run leaves the world within its hazards, and the local files as they were. -/
theorem provision_stays {d : DisturbedWorld} (hwithin : d.Within hz) (r : JobRequest) (run : RunId)
    (rollback : Bool) (settings : Settings) (startedAt : Instant) :
    (d.provision r run rollback settings startedAt).2.Within hz ∧
      (d.provision r run rollback settings startedAt).2.world.files = d.world.files := by
  have hensures : (r.provision run rollback settings startedAt).Ensures (hz.rule d.world.files)
      d.inventory fun _ _ => True := Plan.ensures_of_forall fun _ _ => trivial
  exact (hensures.run (respects hz d.world.files) ⟨hwithin, rfl⟩).2

/-- How every run ends: it is refused and nothing has happened, or it has carried out its saga at
the location of the instance. -/
theorem provision_ends_at {d : DisturbedWorld} (hwithin : d.Within hz)
    (hreachable : d.inventory.Reachable) (r : JobRequest) (run : RunId) (rollback : Bool)
    (settings : Settings) (startedAt : Instant) :
    let ended := d.provision r run rollback settings startedAt
    (ended.2.inventory = d.inventory ∧ ∃ e, ended.1 = .error (.request e)) ∨
      ∃ location result o, r.Located run d.inventory location ∧
        ((r.fillAt run location).scenario hz settings d.world.files
          d.inventory hreachable.sound).Ended rollback result o ended.2.inventory ∧
        ended.1 = r.answer run location result o := by
  have hensures : (r.provision run rollback settings startedAt).Ensures (hz.rule d.world.files)
      d.inventory fun outcome inv' =>
        (inv' = d.inventory ∧ ∃ e, outcome = .error (.request e)) ∨
          ∃ location result o, r.Located run d.inventory location ∧
            ((r.fillAt run location).scenario hz settings d.world.files
              d.inventory hreachable.sound).Ended rollback result o inv' ∧
            outcome = r.answer run location result o := by
    apply JobRequest.ensures_provision_of_located
    · intro _ e
      exact .inl ⟨rfl, e, rfl⟩
    · intro location hlocated
      refine EnsuresFrom.mono (Scenario.ensures_execute
        ((r.fillAt run location).scenario hz settings d.world.files d.inventory hreachable.sound)
        rollback ⟨run, startedAt, .cancellable⟩) ?_
      intro result o inv' hended
      exact .inr ⟨location, result, o, hlocated, hended, rfl⟩
  exact (hensures.run (respects hz d.world.files) ⟨hwithin, rfl⟩).1

/-- What is to be shown of every run: it is enough to show it where nothing has happened, and where
the saga of the run has ended. -/
theorem provision_ends {d : DisturbedWorld} (hwithin : d.Within hz)
    (hreachable : d.inventory.Reachable) (r : JobRequest) (run : RunId) (rollback : Bool)
    (settings : Settings) (startedAt : Instant) :
    let ended := d.provision r run rollback settings startedAt
    (ended.2.inventory = d.inventory ∧ ∀ e, ended.1 ≠ .error (.saga e)) ∨
      ∃ location result o,
        (({ r.fill run with location } : NormalizedRequest).scenario hz settings d.world.files
          d.inventory hreachable.sound).Ended rollback result o ended.2.inventory ∧
        ∀ e, ended.1 = .error (.saga e) → result = .error e := by
  rcases provision_ends_at hwithin hreachable r run rollback settings startedAt with
    ⟨hsame, e, hrefused⟩ | ⟨location, result, o, -, hended, hanswer⟩
  · refine .inl ⟨hsame, fun e' he' => ?_⟩
    rw [hrefused] at he'
    cases he'
  · refine .inr ⟨location, result, o, hended, fun e he => ?_⟩
    rw [hanswer] at he
    cases result with
    | error e' =>
      cases he
      rfl
    | ok executed => cases he

end DisturbedWorld

/-! ## A run to look at -/

namespace Sample

/-- A request with one local file, so a bucket has to be staged. -/
def request : JobRequest where
  projectId := "p1"
  instanceId := "inst"
  databaseId := "db"
  sessionFilePath := "session.json"
  sourceConnectionConfig := "gs://mine/source.json"

def settings : Settings where
  readerTemplate := "gs://templates/reader"
  writerTemplate := "gs://templates/writer"
  bucketTtlDays := 0
  readerSuffix := "r1"
  writerSuffix := "w1"

/-- Managers that hold nothing yet. -/
def inventory : Inventory where
  defaultLocation := some "us-central1"
  stamp := "2026-01-01"

/-- Makes every call of some operations fail. -/
def probe (failing : List (Operation × ManagerError)) : Probe :=
  failing.foldr (fun f p => p.failOn f.1 f.2) .fresh

/-- A world in which nothing happens but failures of calls. Every local file is empty. -/
def world (inventory : Inventory) (failing : List (Operation × ManagerError)) :
    DisturbedWorld where
  world := ⟨⟨inventory, probe failing⟩, fun _ => .ok [], false⟩

/-- The run of the request, with rollback. -/
def run (inventory : Inventory) (failing : List (Operation × ManagerError)) :
    Except RunError Provisioned × DisturbedWorld :=
  (world inventory failing).provision request "abc" true settings .epoch

/-- A result that counts as a success is one. -/
theorem exists_of_toBool {result : Except RunError Provisioned} (h : result.toBool = true) :
    ∃ p, result = .ok p := by
  cases result with
  | ok p => exact ⟨p, rfl⟩
  | error e => cases h

/-- A run that is seen to succeed with a result of some kind does so. -/
theorem exists_of_any {result : Except RunError Provisioned} (test : Provisioned → Bool)
    (h : result.toOption.any test = true) : ∃ p, result = .ok p ∧ test p = true := by
  cases result with
  | ok p => exact ⟨p, rfl, h⟩
  | error e => cases h

/-- The error of the saga of a run. -/
def sagaError? : Except RunError Provisioned → Option SagaError
  | .error (.saga e) => some e
  | _ => none

/-- A run that is seen to fail in its saga does so. -/
theorem exists_of_sagaError? {result : Except RunError Provisioned} (test : SagaError → Bool)
    (h : (sagaError? result).any test = true) :
    ∃ e, result = .error (.saga e) ∧ test e = true := by
  cases result with
  | ok p => cases h
  | error cause =>
    cases cause with
    | request e => cases h
    | saga e => exact ⟨e, rfl, h⟩

/-- A failure that the probe has installed is in the list. -/
theorem mem_of_probe {failing : List (Operation × ManagerError)} {op : Operation} {nth : Nat}
    {e : ManagerError} (h : (probe failing).failures op = some (nth, e)) : (op, e) ∈ failing := by
  induction failing with
  | nil => cases h
  | cons f rest ih =>
    simp only [probe, List.foldr_cons, Probe.failOn, Probe.failFrom] at h
    split at h
    next heq =>
      cases h
      rw [heq]
      exact List.mem_cons_self
    next => exact List.mem_cons_of_mem f (ih h)

/-- A world that only fails as the hazards allow is within them. -/
theorem within {inventory : Inventory} {failing : List (Operation × ManagerError)}
    (h : ∀ f ∈ failing, hz.fails f.1 f.2) : (world inventory failing).Within hz where
  world := ⟨fun _ _ _ hfails => h _ (mem_of_probe hfails), fun hcancelled => nomatch hcancelled⟩
  hooks := fun _ hmem => nomatch hmem

/-- If nothing is made to fail, the sample world is within any hazards. -/
theorem within_nil (inventory : Inventory) : (world inventory []).Within hz :=
  within fun _ hmem => nomatch hmem

/-- A world in which the run is cancelled while it waits for the reply to an operation. -/
def cutting (inventory : Inventory) (op : Operation) : DisturbedWorld :=
  { world inventory [] with hooks := [⟨op, .after, none, World.cancel, true⟩] }

/-- So is a world in which one call is cut off, if the hazards allow it. -/
theorem within_cutting {inventory : Inventory} {op : Operation} (hcancels : hz.cancels)
    (hloses : hz.loses op) : (cutting inventory op).Within hz := by
  have hworld : (world inventory []).Within hz := within_nil inventory
  refine ⟨hworld.world, fun h hh => ?_⟩
  rw [List.mem_singleton.1 hh]
  exact ⟨fun _ => rfl, fun _ => rfl, fun _ hw => ⟨hw.failures, fun _ => hcancels⟩,
    fun _ _ => hloses⟩

/-- The sample inventory is an initial one. -/
theorem reachable : inventory.Reachable := .initial _ _

end Sample

end ReverseReplication
