import ReverseReplication.Proofs.Restoration
import ReverseReplication.Proofs.Settlement.Run

/-!
# Trying again

Runs of a request that fail, where undoing never fails, leave little behind (`Catalog.Leftovers`):
objects that the next run stages again, and the job record in some status. Neither matters to the
next run. So when a run succeeds in calm, it also succeeds after any number of failed attempts, and
leaves behind the same (`DisturbedWorld.provision_retry`), except for the ids of pipeline jobs and
for when the job record was created.
-/

namespace ReverseReplication

variable {files : FileSystem} {start mid left : Inventory}

/-! ## What failed attempts leave behind -/

/-- What attempts of a run that fail may leave of what there was at the start. -/
structure Catalog.Leftovers (c : Catalog) (files : FileSystem) (start left : Inventory) : Prop where
  resources : start.SameResources left
  defaultLocation : left.defaultLocation = start.defaultLocation
  locations : left.locations = start.locations
  objects : ∀ path, c.stagingStore.stagedAt files path = none →
    left.object? path = start.object? path
  /-- The record of the run, or what it would be, differs in its status and in when it was
  created. -/
  record : ∀ written, ∃ createdAt status,
    (left.jobs.get? c.jobEntry.jobId).getD (c.jobEntry.record written) =
      { (start.jobs.get? c.jobEntry.jobId).getD (c.jobEntry.record written) with
        createdAt, status }

namespace Catalog.Leftovers

variable {c : Catalog}

/-- A run may leave everything as it is. -/
theorem refl (c : Catalog) (files : FileSystem) (start : Inventory) :
    c.Leftovers files start start where
  resources := ⟨rfl, rfl, rfl, rfl⟩
  defaultLocation := rfl
  locations := rfl
  objects := fun _ _ => rfl
  record := fun _ => ⟨_, _, rfl⟩

/-- What two runs leave one after the other, one run may leave. -/
theorem trans (h : c.Leftovers files start mid) (h' : c.Leftovers files mid left) :
    c.Leftovers files start left where
  resources :=
    ⟨h'.resources.buckets.trans h.resources.buckets, h'.resources.feeds.trans h.resources.feeds,
      h'.resources.databases.trans h.resources.databases,
      h'.resources.running.trans h.resources.running⟩
  defaultLocation := h'.defaultLocation.trans h.defaultLocation
  locations := h'.locations.trans h.locations
  objects := fun path hpath => (h'.objects path hpath).trans (h.objects path hpath)
  record := by
    intro written
    obtain ⟨createdAt, status, hmid⟩ := h.record written
    obtain ⟨createdAt', status', hleft⟩ := h'.record written
    rw [hmid] at hleft
    exact ⟨createdAt', status', hleft⟩

/-- The clock does not matter. -/
theorem later (h : c.Leftovers files start left) (stamp : String) :
    c.Leftovers files start { left with stamp } :=
  { h with
    resources := ⟨h.resources.buckets, h.resources.feeds, h.resources.databases,
      h.resources.running⟩ }

/-- What has been staged is staged again in the same way. -/
theorem settle_object? (h : c.Leftovers files start left) :
    (c.stagingStore.settle files left).object? = (c.stagingStore.settle files start).object? := by
  funext path
  rw [StagingStore.object?_settle, StagingStore.object?_settle]
  cases hstaged : c.stagingStore.stagedAt files path with
  | some contents => rfl
  | none => exact h.objects path hstaged

/-- What is left behind is enough for the next run if the start was. -/
theorem ready (h : c.Leftovers files start left) (hready : c.Ready files start) :
    c.Ready files left where
  readable := hready.readable
  fits := by
    unfold ChangeFeed.Fits
    rw [h.resources.feeds]
    exact hready.fits
  launchable := by
    rw [h.settle_object?]
    exact hready.launchable

/-- What is left does not change where the instance is. -/
theorem located {r : JobRequest} {run : RunId} {location : String}
    (h : c.Leftovers files start left) (hlocated : r.Located run start location) :
    r.Located run left location :=
  hlocated.congr h.defaultLocation h.locations

end Catalog.Leftovers

/-- A run whose outputs claim nothing any more has left little behind. -/
theorem Scenario.Tracks.leftovers {sc : Scenario} {o : Outputs} {inv : Inventory}
    {known : Option (ObjectPath → Option Text.Bytes)} (h : sc.Tracks known o inv)
    (hsame : sc.before.SameResources inv) : sc.catalog.Leftovers sc.files sc.before inv where
  resources := hsame
  defaultLocation := h.defaultLocation
  locations := h.locations
  objects := h.objects
  record := by
    intro written
    cases hbefore : sc.before.jobs.get? sc.catalog.jobEntry.jobId with
    | some record =>
      obtain ⟨status, hnow⟩ := h.records _ record hbefore
      exact ⟨record.createdAt, status, by rw [hnow]; rfl⟩
    | none =>
      cases hnow : inv.jobs.get? sc.catalog.jobEntry.jobId with
      | none => exact ⟨_, _, rfl⟩
      | some record =>
        obtain ⟨createdAt, status, rfl⟩ := h.drafts hbefore record hnow
        exact ⟨createdAt, status, rfl⟩

/-! ## Failed attempts -/

/-- What the managers hold after attempts of a run that fail, one after the other, though undoing
never fails. Meanwhile the clock goes on. -/
inductive FailedAttempts (r : JobRequest) (run : RunId) (settings : Settings) (files : FileSystem)
    (start : Inventory) : Inventory → Prop
  | none : FailedAttempts r run settings files start start
  | later {left : Inventory} (stamp : String) :
    FailedAttempts r run settings files start left →
    FailedAttempts r run settings files start { left with stamp }
  | attempt {d : DisturbedWorld} {startedAt : Instant} {e : RunError} :
    FailedAttempts r run settings files start d.inventory →
    d.Within .forward → d.world.files = files →
    (d.provision r run true settings startedAt).1 = .error e →
    FailedAttempts r run settings files start
      (d.provision r run true settings startedAt).2.inventory

variable {r : JobRequest} {run : RunId} {settings : Settings} {location : String}

/-- One failed attempt leaves little behind. -/
theorem DisturbedWorld.leftovers_of_error {d : DisturbedWorld} {startedAt : Instant} {e : RunError}
    (hwithin : d.Within .forward) (hreachable : d.inventory.Reachable)
    (hlocated : r.Located run d.inventory location)
    (he : (d.provision r run true settings startedAt).1 = .error e) :
    (r.catalogAt run settings location).Leftovers d.world.files d.inventory
      (d.provision r run true settings startedAt).2.inventory := by
  rcases provision_ends_at hwithin hreachable r run true settings startedAt with
    ⟨hsame, -⟩ | ⟨location', result, o, hlocated', hended, hanswer⟩
  · rw [hsame]
    exact .refl _ _ _
  · obtain rfl := hlocated.unique hlocated'
    rw [he] at hanswer
    cases result with
    | ok executed => cases hanswer
    | error cause =>
      have hclaims := Scenario.claims_eq_false (hended.accounts cause rfl rfl)
        fun op hop ⟨e', hfails⟩ => hfails hop
      exact hended.tracks.leftovers
        (hended.tracks.sameResources Hazards.exact_forward hclaims)

namespace FailedAttempts

/-- Failed attempts leave little behind, however many they are. -/
theorem leftovers (h : FailedAttempts r run settings files start left)
    (hreachable : start.Reachable) (hlocated : r.Located run start location) :
    left.Reachable ∧ (r.catalogAt run settings location).Leftovers files start left := by
  induction h with
  | none => exact ⟨hreachable, .refl _ _ _⟩
  | later stamp _ ih => exact ⟨ih.1.later stamp, ih.2.later stamp⟩
  | attempt _ hwithin hfiles he ih =>
    obtain ⟨hreached, hbefore⟩ := ih
    subst hfiles
    exact ⟨DisturbedWorld.provision_reachable hwithin hreached ..,
      hbefore.trans (DisturbedWorld.leftovers_of_error hwithin hreached
        (hbefore.located hlocated) he)⟩

end FailedAttempts

/-! ## The next run -/

/-- A running pipeline without its id. -/
def RunningPipeline.withoutId (p : RunningPipeline) : RunningPipeline :=
  { p with pipelineJobId := "" }

/-- What a run has set up, without the ids of pipeline jobs. -/
def Provisioned.withoutIds (p : Provisioned) : Provisioned :=
  { p with reader := p.reader.withoutId, writer := p.writer.withoutId }

/-- What two runs of a request leave behind is the same, but for the ids of pipeline jobs and for
when the job record was created. -/
structure Inventory.SameOutcome (jobId : JobId) (one other : Inventory) : Prop where
  buckets : other.buckets = one.buckets
  objects : other.objects = one.objects
  feeds : other.feeds = one.feeds
  databases : other.databases = one.databases
  running : ∀ name, other.running.contains name = one.running.contains name
  record : ∃ record createdAt, one.jobs.get? jobId = some record ∧ record.status = .running ∧
    other.jobs.get? jobId = some { record with createdAt }

namespace Catalog.Leftovers

variable {c : Catalog} (startedAt startedAt' : Instant)

/-- The objects that were left are those that a run from the start would have staged. -/
theorem settled_object? (h : c.Leftovers files start left) :
    (c.settled files startedAt' left).object? = (c.settled files startedAt start).object? := by
  rw [Catalog.settled_object?, Catalog.settled_object?]
  exact h.settle_object?

/-- From what failed attempts leave behind, a run comes to the same as from the start. -/
theorem sameOutcome (h : c.Leftovers files start left)
    (hjob : c.jobCompletion.jobId = c.jobEntry.jobId) :
    Inventory.SameOutcome c.jobEntry.jobId (c.settled files startedAt start)
      (c.settled files startedAt' left) where
  buckets := by rw [settled_buckets, settled_buckets, h.resources.buckets]
  objects := Table.ext_get? fun path => congrFun (h.settled_object? startedAt startedAt') path
  feeds := by rw [settled_feeds, settled_feeds, h.resources.feeds]
  databases := by rw [settled_databases, settled_databases, h.resources.databases]
  running := by
    intro name
    rw [Bool.eq_iff_iff, contains_running_settled, contains_running_settled,
      h.settled_object? startedAt startedAt', h.resources.running]
  record := by
    obtain ⟨createdAt, status, hrecord⟩ := h.record startedAt'
    refine ⟨_, createdAt, get?_jobs_settled c files startedAt start hjob, rfl, ?_⟩
    rw [get?_jobs_settled c files startedAt' left hjob, hrecord]
    cases start.jobs.get? c.jobEntry.jobId with
    | some record => rfl
    | none => rfl

/-- A pipeline is reported the same, but for its id. -/
theorem running_withoutId (h : c.Leftovers files start left) (role : PipelineRole) :
    ((c.settle files startedAt' left).outputs role).running.withoutId =
      ((c.settle files startedAt start).outputs role).running.withoutId := by
  rw [running_settle, running_settle]
  unfold Pipeline.report
  rw [h.settled_object? startedAt startedAt']
  rfl

end Catalog.Leftovers

namespace DisturbedWorld

/-- When a run succeeds in calm, it also succeeds after attempts that failed, and comes to the
same. -/
theorem provision_retry {direct retry : DisturbedWorld} (hdirect : direct.Within .calm)
    (hretry : retry.Within .calm) (hreachable : direct.inventory.Reachable) (r : JobRequest)
    (run : RunId) (rollback : Bool) (settings : Settings) (startedAt startedAt' : Instant)
    {p : Provisioned} (hok : (direct.provision r run rollback settings startedAt).1 = .ok p)
    (hfiles : retry.world.files = direct.world.files)
    (hattempts : FailedAttempts r run settings direct.world.files direct.inventory
      retry.inventory) :
    ∃ p', (retry.provision r run rollback settings startedAt').1 = .ok p' ∧
      p'.withoutIds = p.withoutIds ∧
      Inventory.SameOutcome (jobIdOf run)
        (direct.provision r run rollback settings startedAt).2.inventory
        (retry.provision r run rollback settings startedAt').2.inventory := by
  obtain ⟨location, hlocated, hready, rfl, hafter⟩ := settled_of_ok hdirect hok
  have hleftovers := (hattempts.leftovers hreachable hlocated).2
  rw [← hfiles] at hready hleftovers
  obtain ⟨hanswer, hafter'⟩ := ok_of_ready hretry (hleftovers.located hlocated)
    (hleftovers.ready hready) rollback startedAt'
  refine ⟨_, hanswer, ?_, ?_⟩
  · unfold Provisioned.withoutIds NormalizedRequest.provisioned Standing.pipelines
    dsimp only
    rw [← hfiles, hleftovers.running_withoutId startedAt startedAt' .reader,
      hleftovers.running_withoutId startedAt startedAt' .writer]
  · rw [hafter, hafter', ← hfiles]
    exact hleftovers.sameOutcome startedAt startedAt' rfl

/-- A run that could launch nothing is repeated when the launcher is up again. -/
theorem provision_retry_of_launch_down :
    ∃ e p p', (Sample.run Sample.inventory [(.launch, .unavailable "down")]).1 = .error e ∧
      (Sample.run Sample.inventory []).1 = .ok p ∧
      (Sample.run (Sample.run Sample.inventory [(.launch, .unavailable "down")]).2.inventory []).1 =
        .ok p' ∧ p'.withoutIds = p.withoutIds ∧
      Inventory.SameOutcome (jobIdOf "abc") (Sample.run Sample.inventory []).2.inventory
        (Sample.run (Sample.run Sample.inventory
          [(.launch, .unavailable "down")]).2.inventory []).2.inventory := by
  obtain ⟨p, hp⟩ := Sample.succeeds
  have hdown : (Sample.run Sample.inventory [(.launch, .unavailable "down")]).1.toBool = false := by
    decide +kernel
  cases hfailed : (Sample.run Sample.inventory [(.launch, .unavailable "down")]).1 with
  | ok p =>
    rw [hfailed] at hdown
    cases hdown
  | error e =>
    have hwithin : (Sample.world Sample.inventory [(.launch, .unavailable "down")]).Within
        .forward := by
      apply Sample.within
      intro f hf
      rw [List.mem_singleton.1 hf]
      show Operation.launch ∉ Hazards.undoings
      decide
    have hattempts : FailedAttempts Sample.request "abc" Sample.settings (fun _ => .ok [])
        Sample.inventory
        (Sample.run Sample.inventory [(.launch, .unavailable "down")]).2.inventory :=
      .attempt (d := Sample.world Sample.inventory [(.launch, .unavailable "down")])
        .none hwithin rfl hfailed
    generalize (Sample.run Sample.inventory [(.launch, .unavailable "down")]).2.inventory = left
      at hattempts ⊢
    obtain ⟨p', hp', hsame⟩ := provision_retry
      (Sample.within_nil Sample.inventory) (Sample.within_nil left) Sample.reachable Sample.request
      "abc" true Sample.settings .epoch .epoch hp rfl hattempts
    exact ⟨e, p, p', rfl, hp, hp', hsame⟩

end DisturbedWorld

end ReverseReplication
