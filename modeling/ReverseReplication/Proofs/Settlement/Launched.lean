import ReverseReplication.Proofs.Settlement.Conditions

/-!
# The pipelines of a successful run

A launch is refused if a job of its name runs, and then the activity reports that job. Where no job
runs before, a run in calm that succeeds has therefore launched its reader; but it meets its own
reader when it comes to launch the writer, if their tunings resolve to one name.

* `DisturbedWorld.provision_launches`: a successful run reports what it has launched, the reader and
  then the writer, if these have different names. If they share one, it has launched the reader
  only, and reports it twice.
-/

namespace ReverseReplication

namespace Inventory

variable {inv : Inventory} {p : RunningPipeline} {launch : Launch} {n : Nat}

/-- The pipeline that is reported runs, as the job that the accepted launch at a place, counted from
zero, has started. -/
structure Runs (inv : Inventory) (p : RunningPipeline) (launch : Launch) (n : Nat) : Prop where
  accepted : inv.launched[n]? = some launch
  id : p.pipelineJobId = inv.pipelineId (n + 1)
  name : p.jobName = launch.jobName
  location : p.location = launch.location
  command : p.command = launch.command
  running : inv.running.get? p.jobName = some p.pipelineJobId
  job : inv.pipelines.get? p.pipelineJobId = some ⟨p.jobName, false⟩

/-- A job that was just started runs. -/
theorem runs_start (inv : Inventory) (launch : Launch) :
    (inv.start launch).2.Runs (Pipeline.Output.ofLaunch launch (inv.start launch).1 true).running
      launch inv.launched.length where
  accepted := List.getElem?_concat_length
  id := rfl
  name := rfl
  location := rfl
  command := rfl
  running := (get?_running_start ..).trans (if_pos rfl)
  job := (get?_pipelines_start ..).trans (if_pos rfl)

/-- It goes on running when a job of another name is started. -/
theorem Runs.start (h : inv.Runs p launch n) {other : Launch} (hname : p.jobName ≠ other.jobName) :
    (inv.start other).2.Runs p launch n where
  accepted := by
    obtain ⟨hlt, -⟩ := List.getElem?_eq_some_iff.1 h.accepted
    exact (List.getElem?_append_left hlt).trans h.accepted
  id := h.id
  name := h.name
  location := h.location
  command := h.command
  running := by
    rw [get?_running_start, if_neg hname]
    exact h.running
  job := by
    have hid : p.pipelineJobId ≠ (inv.start other).1 := by
      intro hsame
      obtain ⟨hlt, -⟩ := List.getElem?_eq_some_iff.1 h.accepted
      have hnumber := pipelineId_injective (h.id.symm.trans hsame)
      omega
    rw [get?_pipelines_start, if_neg hid]
    exact h.job

/-- Jobs of different launches have different ids. -/
theorem Runs.id_ne {q : RunningPipeline} {other : Launch} {m : Nat} (h : inv.Runs p launch n)
    (h' : inv.Runs q other m) (hne : n ≠ m) : p.pipelineJobId ≠ q.pipelineJobId := by
  rw [h.id, h'.id]
  intro hsame
  exact hne (Nat.succ.inj (pipelineId_injective hsame))

/-- Only the launcher matters. -/
theorem Runs.congr {inv' : Inventory} (h : inv.Runs p launch n) (hstamp : inv'.stamp = inv.stamp)
    (hlaunched : inv'.launched = inv.launched) (hpipelines : inv'.pipelines = inv.pipelines)
    (hrunning : inv'.running = inv.running) : inv'.Runs p launch n where
  accepted := by
    rw [hlaunched]
    exact h.accepted
  id := by
    rw [pipelineId, hstamp]
    exact h.id
  name := h.name
  location := h.location
  command := h.command
  running := by
    rw [hrunning]
    exact h.running
  job := by
    rw [hpipelines]
    exact h.job

end Inventory

namespace Pipeline

variable {p : Pipeline} {files : FileSystem} {inv : Inventory}

/-- A pipeline whose name is free is launched and recorded. -/
theorem settle_of_free (hfree : inv.running.get? (p.request files inv.object?).jobName = none) :
    p.settle files inv =
      { (inv.start (p.request files inv.object?)).2 with
        resources := inv.recordingUnless false
          (p.resource (.ofLaunch (p.request files inv.object?)
            (inv.start (p.request files inv.object?)).1 true)) } := by
  have hnone : inv.running.contains (p.request files inv.object?).jobName = false := by
    rw [Table.contains, hfree]
    rfl
  have hstarted : inv.ensureRunning (p.request files inv.object?) =
      (inv.start (p.request files inv.object?)).2 := if_neg (Bool.eq_false_iff.1 hnone)
  unfold settle
  dsimp only
  rw [hnone, hstarted]
  rfl

/-- If the name is free, the pipeline runs under it then. -/
theorem get?_running_settle_of_free
    (hfree : inv.running.get? (p.request files inv.object?).jobName = none) (name : String) :
    (p.settle files inv).running.get? name =
      if name = (p.request files inv.object?).jobName then
        some (inv.start (p.request files inv.object?)).1
      else inv.running.get? name := by
  rw [settle_of_free hfree]
  exact Inventory.get?_running_start ..

/-- It runs then as what was launched. -/
theorem runs_settle_of_free
    (hfree : inv.running.get? (p.request files inv.object?).jobName = none) :
    (p.settle files inv).Runs (p.settledOutput files inv).running (p.request files inv.object?)
      inv.launched.length := by
  have hreported : (p.settledOutput files inv).running =
      (Output.ofLaunch (p.request files inv.object?)
        (inv.start (p.request files inv.object?)).1 true).running := by
    have hid := get?_running_settle_of_free hfree (p.request files inv.object?).jobName
    rw [if_pos rfl] at hid
    unfold settledOutput
    dsimp only
    rw [hid]
    rfl
  rw [hreported, settle_of_free hfree]
  exact (inv.runs_start _).congr rfl rfl rfl rfl

/-- Whatever runs already goes on running. -/
theorem runs_settle_of_runs {q : RunningPipeline} {launch : Launch} {n : Nat}
    (hfree : inv.running.get? (p.request files inv.object?).jobName = none)
    (h : inv.Runs q launch n) : (p.settle files inv).Runs q launch n := by
  have hname : q.jobName ≠ (p.request files inv.object?).jobName := by
    intro hsame
    have hrunning := h.running
    rw [hsame, hfree] at hrunning
    simp at hrunning
  rw [settle_of_free hfree]
  exact (h.start hname).congr rfl rfl rfl rfl

/-- If the name is free, there is one launch more. -/
theorem launched_settle_of_free
    (hfree : inv.running.get? (p.request files inv.object?).jobName = none) :
    (p.settle files inv).launched = inv.launched ++ [p.request files inv.object?] := by
  rw [settle_of_free hfree]
  rfl

end Pipeline

/-! ## Both pipelines -/

namespace Catalog

variable (c : Catalog) (files : FileSystem) (startedAt : Instant) (inv : Inventory)

/-- What a pipeline of the catalog is launched with. -/
def launchOf (role : PipelineRole) : Launch :=
  (c.pipeline role).request files (c.stagingStore.settle files inv).object?

/-- What is reported of a pipeline when all activities are done. -/
def reported (role : PipelineRole) : RunningPipeline :=
  ((c.settle files startedAt inv).outputs role).running

/-- What the managers hold when the reader is to be launched. -/
def beforeReader : Inventory :=
  c.metadataStore.settle (c.changeFeed.settle (c.stagingStore.settle files
    (c.jobEntry.settle startedAt inv)))

/-- What the managers hold when the writer is to be launched. -/
def beforeWriter : Inventory := c.reader.settle files (c.beforeReader files startedAt inv)

variable {inv}

/-- Where no job runs, the reader is launched. -/
theorem runs_reader (hidle : ∀ name, inv.running.get? name = none) :
    (c.beforeWriter files startedAt inv).launched = inv.launched ++ [c.launchOf files inv .reader] ∧
      (c.beforeWriter files startedAt inv).Runs (c.reported files startedAt inv .reader)
        (c.launchOf files inv .reader) inv.launched.length := by
  have hfree : (c.beforeReader files startedAt inv).running.get?
      (c.reader.request files (c.beforeReader files startedAt inv).object?).jobName = none :=
    hidle _
  exact ⟨Pipeline.launched_settle_of_free hfree, Pipeline.runs_settle_of_free hfree⟩

/-- If the writer has another name, it is launched as well. -/
theorem runs_writer (hidle : ∀ name, inv.running.get? name = none)
    (hnames : (c.launchOf files inv .reader).jobName ≠ (c.launchOf files inv .writer).jobName) :
    (c.settled files startedAt inv).launched =
        inv.launched ++ [c.launchOf files inv .reader, c.launchOf files inv .writer] ∧
      (c.settled files startedAt inv).Runs (c.reported files startedAt inv .reader)
        (c.launchOf files inv .reader) inv.launched.length ∧
      (c.settled files startedAt inv).Runs (c.reported files startedAt inv .writer)
        (c.launchOf files inv .writer) (inv.launched.length + 1) := by
  obtain ⟨hlaunched, hreader⟩ := c.runs_reader files startedAt hidle
  have hfreeBefore : (c.beforeReader files startedAt inv).running.get?
      (c.reader.request files (c.beforeReader files startedAt inv).object?).jobName = none :=
    hidle _
  have hfree : (c.beforeWriter files startedAt inv).running.get?
      (c.launchOf files inv .writer).jobName = none := by
    have hget := Pipeline.get?_running_settle_of_free hfreeBefore
      (c.launchOf files inv .writer).jobName
    exact hget.trans ((if_neg hnames.symm).trans (hidle _))
  have hwriter := Pipeline.runs_settle_of_free (p := c.writer) hfree
  rw [hlaunched, List.length_append, List.length_singleton] at hwriter
  refine ⟨?_, (Pipeline.runs_settle_of_runs (p := c.writer) hfree hreader).congr rfl rfl rfl rfl,
    hwriter.congr rfl rfl rfl rfl⟩
  have hboth := Pipeline.launched_settle_of_free (p := c.writer) hfree
  rw [hlaunched, List.append_assoc] at hboth
  exact hboth

/-- If the writer has the name of the reader, the reader is taken for it. -/
theorem runs_shared (hidle : ∀ name, inv.running.get? name = none)
    (hnames : (c.launchOf files inv .reader).jobName = (c.launchOf files inv .writer).jobName) :
    (c.settled files startedAt inv).launched =
        inv.launched ++ [c.launchOf files inv .reader] ∧
      (c.settled files startedAt inv).Runs (c.reported files startedAt inv .reader)
        (c.launchOf files inv .reader) inv.launched.length ∧
      (c.reported files startedAt inv .writer).jobName =
        (c.reported files startedAt inv .reader).jobName ∧
      (c.reported files startedAt inv .writer).pipelineJobId =
        (c.reported files startedAt inv .reader).pipelineJobId := by
  obtain ⟨hlaunched, hreader⟩ := c.runs_reader files startedAt hidle
  have hrunning : (c.beforeWriter files startedAt inv).running.get?
      (c.launchOf files inv .writer).jobName =
        some (c.reported files startedAt inv .reader).pipelineJobId := by
    rw [← hnames, ← hreader.name]
    exact hreader.running
  have hsettled : c.writer.settle files (c.beforeWriter files startedAt inv) =
      c.beforeWriter files startedAt inv :=
    Pipeline.settle_of_running (Table.contains_of_get? hrunning)
  have hafter : c.settled files startedAt inv =
      c.jobCompletion.settle (c.beforeWriter files startedAt inv) :=
    congrArg c.jobCompletion.settle hsettled
  have hreported := c.writer.get?_running_settle files (c.beforeWriter files startedAt inv)
  rw [hsettled] at hreported
  rw [hafter]
  refine ⟨hlaunched, hreader.congr rfl rfl rfl rfl, hnames.symm.trans hreader.name.symm, ?_⟩
  exact Option.some.inj (hreported.symm.trans hrunning)

/-- In both cases, the reader runs in the end. -/
theorem runs_reader_settled (hidle : ∀ name, inv.running.get? name = none) :
    (c.settled files startedAt inv).Runs (c.reported files startedAt inv .reader)
      (c.launchOf files inv .reader) inv.launched.length := by
  by_cases hnames :
      (c.launchOf files inv .reader).jobName = (c.launchOf files inv .writer).jobName
  · exact (c.runs_shared files startedAt hidle hnames).2.1
  · exact (c.runs_writer files startedAt hidle hnames).2.1

end Catalog

/-- A run that is ready resolves its tunings to what it launches. -/
theorem JobRequest.resolves_launchOf {r : JobRequest} {run : RunId} {settings : Settings}
    {location : String} {files : FileSystem} {inv : Inventory}
    (hready : (r.catalogAt run settings location).Ready files inv) (role : PipelineRole) :
    (r.fillAt run location).Resolves settings files inv role
      ((r.catalogAt run settings location).launchOf files inv role) := by
  have hobjects : ((r.catalogAt run settings location).stagingStore.settle files inv).object? =
      (r.fillAt run location).stagedObject? settings files inv :=
    funext (StagingStore.object?_settle inv)
  obtain ⟨tuning, htuning, hsound⟩ := hready.launchable role
  unfold Catalog.launchOf Pipeline.request
  rw [htuning]
  refine ⟨tuning, ?_, ?_⟩
  · rw [← hobjects]
    exact htuning
  · show Launch.make ((r.catalogAt run settings location).pipeline role).parameters
      (((r.catalogAt run settings location).pipeline role).resolve tuning) = _
    rw [Launch.make, hsound]
    rfl

/-! ## Successful runs -/

/-- There are runs whose two pipelines have different names. -/
theorem Sample.succeeds_with_two :
    ∃ p, (run inventory []).1 = .ok p ∧ p.reader.jobName ≠ p.writer.jobName := by
  have hdiffer : (run inventory []).1.toOption.any
      (fun p => decide (p.reader.jobName ≠ p.writer.jobName)) = true := by decide +kernel
  obtain ⟨p, hp, hnames⟩ := exists_of_any _ hdiffer
  exact ⟨p, hp, of_decide_eq_true hnames⟩

namespace DisturbedWorld

/-- After a run in calm that succeeds, where no job ran before: the reader runs as the run has
launched it. So does the writer, as another job, if its name is another one; if it is the same, no
writer is launched, and the reader is reported in its place. -/
theorem provision_launches {d : DisturbedWorld} (hwithin : d.Within .calm)
    (hidle : ∀ name, d.inventory.running.get? name = none) (r : JobRequest) (run : RunId)
    (rollback : Bool) (settings : Settings) (startedAt : Instant) {p : Provisioned}
    (hok : (d.provision r run rollback settings startedAt).1 = .ok p) :
    let after := (d.provision r run rollback settings startedAt).2.inventory
    ∃ location reader writer, r.Located run d.inventory location ∧
      (r.fillAt run location).Resolves settings d.world.files d.inventory .reader reader ∧
      (r.fillAt run location).Resolves settings d.world.files d.inventory .writer writer ∧
      after.Runs p.reader reader d.inventory.launched.length ∧
      (reader.jobName ≠ writer.jobName →
        after.launched = d.inventory.launched ++ [reader, writer] ∧
        after.Runs p.writer writer (d.inventory.launched.length + 1) ∧
        p.reader.jobName ≠ p.writer.jobName ∧
        p.reader.pipelineJobId ≠ p.writer.pipelineJobId) ∧
      (reader.jobName = writer.jobName →
        after.launched = d.inventory.launched ++ [reader] ∧
        p.writer.jobName = p.reader.jobName ∧
        p.writer.pipelineJobId = p.reader.pipelineJobId) := by
  intro after
  obtain ⟨location, hlocated, hready, rfl, hafter⟩ := settled_of_ok hwithin hok
  have hreader := (r.catalogAt run settings location).runs_reader_settled d.world.files startedAt
    hidle
  rw [← hafter] at hreader
  refine ⟨location, _, _, hlocated, JobRequest.resolves_launchOf hready .reader,
    JobRequest.resolves_launchOf hready .writer, hreader, fun hnames => ?_, fun hnames => ?_⟩
  · obtain ⟨hlaunched, -, hwriter⟩ :=
      (r.catalogAt run settings location).runs_writer d.world.files startedAt hidle hnames
    rw [← hafter] at hlaunched hwriter
    refine ⟨hlaunched, hwriter, ?_, hreader.id_ne hwriter (Nat.ne_of_lt (Nat.lt_succ_self _))⟩
    intro hsame
    exact hnames (hreader.name.symm.trans (hsame.trans hwriter.name))
  · obtain ⟨hlaunched, -, hname, hid⟩ :=
      (r.catalogAt run settings location).runs_shared d.world.files startedAt hidle hnames
    rw [← hafter] at hlaunched
    exact ⟨hlaunched, hname, hid⟩

/-- The run of the sample launches two pipelines. -/
theorem provision_launches_of_sample :
    ∃ p reader writer, (Sample.run Sample.inventory []).1 = .ok p ∧
      (Sample.run Sample.inventory []).2.inventory.launched = [reader, writer] ∧
      (Sample.run Sample.inventory []).2.inventory.Runs p.reader reader 0 ∧
      (Sample.run Sample.inventory []).2.inventory.Runs p.writer writer 1 ∧
      p.reader.pipelineJobId ≠ p.writer.pipelineJobId := by
  obtain ⟨p, hp, hdiffer⟩ := Sample.succeeds_with_two
  obtain ⟨location, reader, writer, -, -, -, hreader, hboth, hone⟩ :=
    provision_launches (Sample.within_nil Sample.inventory) (fun _ => rfl) Sample.request "abc" true
      Sample.settings .epoch hp
  have hnames : reader.jobName ≠ writer.jobName := by
    intro hsame
    exact hdiffer (hone hsame).2.1.symm
  obtain ⟨hlaunched, hwriter, -, hids⟩ := hboth hnames
  exact ⟨p, reader, writer, hp, hlaunched, hreader, hwriter, hids⟩

end DisturbedWorld

namespace Sample

/-- Both tuning files of this request name one job. -/
def sharing : JobRequest :=
  { request with readerConfig := "reader.json", writerConfig := "writer.json" }

/-- A world with the local files of that request, and managers that hold nothing yet. -/
def sharingWorld : DisturbedWorld where
  world.managers := (world inventory []).world.managers
  world.files path :=
    if path = "session.json" then .ok []
    else if path = "reader.json" ∨ path = "writer.json" then
      .ok (Text.utf8 "\x7b\"jobName\":\"shared\"\x7d")
    else .error .notFound
  world.cancelled := false

/-- The run of that request, with rollback. -/
def sharingRun : Except RunError Provisioned × DisturbedWorld :=
  sharingWorld.provision sharing "abc" true settings .epoch

end Sample

/-- If both tuning files name one job, the run succeeds with one pipeline. -/
theorem DisturbedWorld.provision_shares :
    Sample.sharingWorld.Within .calm ∧
      (∀ name, Sample.sharingWorld.inventory.running.get? name = none) ∧
      ∃ p, Sample.sharingRun.1 = .ok p ∧ p.reader.pipelineJobId = p.writer.pipelineJobId ∧
        Sample.sharingRun.2.inventory.launched.length = 1 := by
  have hnone : (Sample.world Sample.inventory []).Within .calm := Sample.within_nil _
  have hcalm : Sample.sharingWorld.Within .calm :=
    ⟨⟨hnone.world.failures, fun hcancelled => nomatch hcancelled⟩,
      fun _ hmem => nomatch hmem⟩
  have honce : Sample.sharingRun.2.inventory.launched.length = 1 := by decide +kernel
  have hsame : Sample.sharingRun.1.toOption.any
      (fun p => decide (p.reader.pipelineJobId = p.writer.pipelineJobId)) = true := by
    decide +kernel
  obtain ⟨p, hp, hids⟩ := Sample.exists_of_any _ hsame
  exact ⟨hcalm, fun _ => rfl, p, hp, of_decide_eq_true hids, honce⟩

end ReverseReplication
