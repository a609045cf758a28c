import ReverseReplication.Manager.Inventory
import ReverseReplication.Proofs.Separators

/-!
# Reachable inventories

What the managers can come to hold: they begin empty, answer calls, have contents put in, and the
clock goes on, which changes what the ids of further pipeline jobs begin with
(`Inventory.Reachable`).

All such inventories are `Inventory.Sound` (`Inventory.Reachable.sound`): every object has its
bucket, the pipeline ids are numbered up to the number of launches, so that the next id is new, and
a job is running under its name exactly if it was not cancelled.
-/

namespace ReverseReplication

namespace Inventory

/-! ## What a call does -/

/-- A call that succeeds, with its reply and the inventory after it. -/
inductive Performed (inv : Inventory) : (c : Call) → c.Reply → Inventory → Prop
  | leaderLocation {uri location : String} :
    inv.location? uri = some location → Performed inv (.leaderLocation uri) location inv
  | createJob {record : JobRecord} :
    inv.jobs.get? record.jobId = none →
    Performed inv (.createJob record) () { inv with jobs := inv.jobs.insert record.jobId record }
  | updateJobStatus {jobId : JobId} {status : JobStatus} {record : JobRecord} :
    inv.jobs.get? jobId = some record →
    Performed inv (.updateJobStatus jobId status) ()
      { inv with jobs := inv.jobs.insert jobId { record with status } }
  | recordResource {resource : JobResource} :
    Performed inv (.recordResource resource) ()
      { inv with
        resources := inv.resources.insert resource.jobId
          (inv.resourcesOf resource.jobId ++ [resource]) }
  | createBucket {projectId : String} {bucket : Bucket} :
    inv.buckets.get? bucket.name = none →
    Performed inv (.createBucket projectId bucket) ()
      { inv with buckets := inv.buckets.insert bucket.name bucket }
  | deleteBucket {name : String} :
    (inv.buckets.get? name).isSome →
    Performed inv (.deleteBucket name) ()
      { inv with
        buckets := inv.buckets.erase name
        objects := inv.objects.filter fun path => path.bucket ≠ name }
  | writeObject {bucket object : String} {contents : Text.Bytes} :
    (inv.buckets.get? bucket).isSome →
    Performed inv (.writeObject bucket object contents) ()
      { inv with objects := inv.objects.insert ⟨bucket, object⟩ contents }
  | readObject {path : String} {p : ObjectPath} {contents : Text.Bytes} :
    ObjectPath.parse? path = some p → inv.object? p = some contents →
    Performed inv (.readObject path) contents inv
  | feedExists {feed : FeedName} : Performed inv (.feedExists feed) (inv.feeds.contains feed) inv
  | validateFeedOptions {feed : FeedName} {expected : FeedOptions} :
    Performed inv (.validateFeedOptions feed expected) () inv
  | createFeed {feed : FeedName} {options : FeedOptions} :
    inv.feeds.get? feed = none →
    Performed inv (.createFeed feed options) () { inv with feeds := inv.feeds.insert feed options }
  | dropFeed {feed : FeedName} :
    Performed inv (.dropFeed feed) () { inv with feeds := inv.feeds.erase feed }
  | databaseExists {uri : String} :
    Performed inv (.databaseExists uri) (inv.databases.contains uri) inv
  | createDatabase {uri : String} :
    inv.databases.get? uri = none →
    Performed inv (.createDatabase uri) () { inv with databases := inv.databases.insert uri () }
  | dropDatabase {uri : String} :
    Performed inv (.dropDatabase uri) () { inv with databases := inv.databases.erase uri }
  | launch {request : Launch} :
    inv.running.get? request.jobName = none →
    Performed inv (.launch request) (inv.start request).1 (inv.start request).2
  | findActive {projectId location jobName : String} :
    Performed inv (.findActive projectId location jobName) (inv.running.get? jobName) inv
  | cancel {projectId location id : String} {job : PipelineJob} :
    inv.pipelines.get? id = some job →
    Performed inv (.cancel projectId location id) () (inv.stop id job)

/-- A call that succeeds does what it says. -/
theorem performed_of_perform {inv inv' : Inventory} {c : Call} {reply : c.Reply}
    (h : inv.perform c = .ok (reply, inv')) : Performed inv c reply inv' := by
  cases c with
  | leaderLocation uri =>
    simp only [perform] at h
    split at h
    next location hlocation =>
      cases h
      exact .leaderLocation hlocation
    next => simp at h
  | createJob record =>
    simp only [perform] at h
    split at h
    next => simp at h
    next hfree =>
      cases h
      exact .createJob (Option.not_isSome_iff_eq_none.1 hfree)
  | updateJobStatus jobId status =>
    simp only [perform] at h
    split at h
    next record hrecord =>
      cases h
      exact .updateJobStatus hrecord
    next => simp at h
  | recordResource resource =>
    cases h
    exact .recordResource
  | createBucket projectId bucket =>
    simp only [perform] at h
    split at h
    next => simp at h
    next hfree =>
      cases h
      exact .createBucket (Option.not_isSome_iff_eq_none.1 hfree)
  | deleteBucket name =>
    simp only [perform] at h
    split at h
    next hbucket =>
      cases h
      exact .deleteBucket hbucket
    next => simp at h
  | writeObject bucket object contents =>
    simp only [perform] at h
    split at h
    next hbucket =>
      cases h
      exact .writeObject hbucket
    next => simp at h
  | readObject path =>
    simp only [perform] at h
    split at h
    next => simp at h
    next p hp =>
      split at h
      next contents hcontents =>
        cases h
        exact .readObject hp hcontents
      next => simp at h
  | feedExists feed =>
    cases h
    exact .feedExists
  | validateFeedOptions feed expected =>
    simp only [perform] at h
    split at h
    next => simp at h
    next actual hactual =>
      split at h
      next => simp at h
      next =>
        cases h
        exact .validateFeedOptions
  | createFeed feed options =>
    simp only [perform] at h
    split at h
    next => simp at h
    next hfree =>
      cases h
      exact .createFeed (Option.not_isSome_iff_eq_none.1 hfree)
  | dropFeed feed =>
    simp only [perform] at h
    split at h
    next =>
      cases h
      exact .dropFeed
    next => simp at h
  | databaseExists uri =>
    cases h
    exact .databaseExists
  | createDatabase uri =>
    simp only [perform] at h
    split at h
    next => simp at h
    next hfree =>
      cases h
      exact .createDatabase (Option.not_isSome_iff_eq_none.1 hfree)
  | dropDatabase uri =>
    simp only [perform] at h
    split at h
    next =>
      cases h
      exact .dropDatabase
    next => simp at h
  | launch request =>
    simp only [perform] at h
    split at h
    next => simp at h
    next hfree =>
      cases h
      exact .launch (Option.not_isSome_iff_eq_none.1 hfree)
  | findActive projectId location jobName =>
    cases h
    exact .findActive
  | cancel projectId location id =>
    simp only [perform] at h
    split at h
    next job hjob =>
      cases h
      exact .cancel hjob
    next => simp at h

/-! ## What undoing calls are refused for

Only for one reason: what they are to undo, or whose status they are to set back, is not there. -/

/-- A status can only be refused for want of a record. -/
theorem updateJobStatus_refused {inv : Inventory} {id : JobId} {status : JobStatus}
    {e : ManagerError} (h : inv.perform (.updateJobStatus id status) = .error e) :
    inv.jobs.get? id = none := by
  simp only [perform] at h
  split at h
  next => simp at h
  next hnone => exact hnone

/-- Deleting a bucket can only be refused because there is none. -/
theorem deleteBucket_refused {inv : Inventory} {name : String} {e : ManagerError}
    (h : inv.perform (.deleteBucket name) = .error e) :
    e = .notFound name ∧ inv.buckets.get? name = none := by
  simp only [perform] at h
  split at h
  next => simp at h
  next hnone =>
    cases h
    exact ⟨rfl, Option.not_isSome_iff_eq_none.1 hnone⟩

/-- Dropping a feed can only be refused because there is none. -/
theorem dropFeed_refused {inv : Inventory} {feed : FeedName} {e : ManagerError}
    (h : inv.perform (.dropFeed feed) = .error e) :
    e = .notFound feed.name ∧ inv.feeds.get? feed = none := by
  simp only [perform] at h
  split at h
  next => simp at h
  next hnone =>
    cases h
    exact ⟨rfl, Option.not_isSome_iff_eq_none.1 hnone⟩

/-- Dropping a database can only be refused because there is none. -/
theorem dropDatabase_refused {inv : Inventory} {uri : String} {e : ManagerError}
    (h : inv.perform (.dropDatabase uri) = .error e) :
    e = .notFound uri ∧ inv.databases.get? uri = none := by
  simp only [perform] at h
  split at h
  next => simp at h
  next hnone =>
    cases h
    exact ⟨rfl, Option.not_isSome_iff_eq_none.1 hnone⟩

/-- Cancelling a pipeline can only be refused because there is none. -/
theorem cancel_refused {inv : Inventory} {projectId location id : String} {e : ManagerError}
    (h : inv.perform (.cancel projectId location id) = .error e) :
    e = .notFound id ∧ inv.pipelines.get? id = none := by
  simp only [perform] at h
  split at h
  next => simp at h
  next hnone =>
    cases h
    exact ⟨rfl, hnone⟩

/-! ## Reachable and sound inventories -/

/-- What the managers can come to hold. -/
inductive Reachable : Inventory → Prop
  | initial (defaultLocation : Option String) (stamp : String) :
    Reachable { defaultLocation, stamp }
  | performed {inv inv' : Inventory} {c : Call} {reply : c.Reply} :
    Reachable inv → inv.perform c = .ok (reply, inv') → Reachable inv'
  | location {inv : Inventory} (uri location : String) :
    Reachable inv → Reachable (inv.insertLocation uri location)
  | job {inv : Inventory} (record : JobRecord) : Reachable inv → Reachable (inv.insertJob record)
  | bucket {inv : Inventory} (bucket : Bucket) :
    Reachable inv → Reachable (inv.insertBucket bucket)
  | feed {inv : Inventory} (feed : FeedName) (options : FeedOptions) :
    Reachable inv → Reachable (inv.insertFeed feed options)
  | database {inv : Inventory} (uri : String) : Reachable inv → Reachable (inv.insertDatabase uri)
  | object {inv : Inventory} (path : String) (contents : Text.Bytes) :
    Reachable inv → Reachable (inv.putObject path contents)
  /-- The clock goes on. -/
  | later {inv : Inventory} (stamp : String) : Reachable inv → Reachable { inv with stamp }

/-- The pipeline id was given to one of the first `n` launches. -/
def Numbered (n : Nat) (id : String) : Prop :=
  ∃ (inv : Inventory) (k : Nat), k ≤ n ∧ id = inv.pipelineId k

/-- What holds of every reachable inventory. -/
structure Sound (inv : Inventory) : Prop where
  objects : ∀ path, (inv.objects.get? path).isSome → (inv.buckets.get? path.bucket).isSome
  numbered : ∀ id, (inv.pipelines.get? id).isSome → Numbered inv.launched.length id
  running : ∀ name id, inv.running.get? name = some id ↔ inv.pipelines.get? id = some ⟨name, false⟩

/-! ## Pipeline ids -/

/-- A number has no hyphen among its digits. -/
theorem hyphen_not_mem_digits (n : Nat) : '-' ∉ Text.Decimal.digits n := by
  intro h
  have hdigit := Nat.isDigit_of_mem_toDigits (by decide) (by decide) h
  exact absurd hdigit (by decide)

/-- Pipeline ids of different numbers differ, whenever they were given. -/
theorem pipelineId_injective {inv inv' : Inventory} {m n : Nat}
    (h : inv.pipelineId m = inv'.pipelineId n) : m = n := by
  unfold pipelineId at h
  have hchars := congrArg String.toList h
  have hhyphen : "-".toList = ['-'] := rfl
  simp only [String.toList_append, String.toList_ofList, hhyphen, List.append_assoc,
    List.singleton_append] at hchars
  -- The number is what follows the last hyphen, so the ids are read from behind.
  have hends := congrArg List.reverse hchars
  simp only [List.reverse_append, List.reverse_cons, List.append_assoc, List.singleton_append]
    at hends
  obtain ⟨hdigits, -⟩ := Text.parts_inj (mt List.mem_reverse.1 (hyphen_not_mem_digits m))
    (mt List.mem_reverse.1 (hyphen_not_mem_digits n)) hends
  rw [← Text.Decimal.value_digits m, List.reverse_inj.1 hdigits, Text.Decimal.value_digits]

/-- An id with a number beyond those of the launches so far is new. -/
theorem Sound.get?_pipelineId {inv : Inventory} (h : inv.Sound) (inv' : Inventory) {n : Nat}
    (hn : inv.launched.length < n) : inv.pipelines.get? (inv'.pipelineId n) = none := by
  cases hid : inv.pipelines.get? (inv'.pipelineId n) with
  | none => rfl
  | some job =>
    obtain ⟨inv₀, k, hk, heq⟩ := h.numbered _ (Option.isSome_of_mem hid)
    have hnumber := pipelineId_injective heq
    omega

/-- The id of the next launch is new. -/
theorem Sound.fresh {inv : Inventory} (h : inv.Sound) (request : Launch) :
    inv.pipelines.get? (inv.start request).1 = none :=
  h.get?_pipelineId inv (Nat.lt_succ_self _)

/-! ## Soundness -/

/-- There are no objects without their bucket. -/
theorem Sound.object?_eq_none {inv : Inventory} (h : inv.Sound) {path : ObjectPath}
    (hbucket : inv.buckets.get? path.bucket = none) : inv.object? path = none := by
  cases hobject : inv.object? path with
  | none => rfl
  | some contents =>
    have hthere := h.objects path (Option.isSome_of_mem hobject)
    rw [hbucket] at hthere
    simp at hthere

/-- An id that was given among the first launches was given among more of them. -/
theorem Numbered.mono {m n : Nat} {id : String} (h : Numbered m id) (hmn : m ≤ n) :
    Numbered n id := by
  obtain ⟨inv, k, hk, hid⟩ := h
  exact ⟨inv, k, Nat.le_trans hk hmn, hid⟩

/-- Soundness depends on buckets, objects and pipelines only. -/
theorem Sound.congr {inv inv' : Inventory} (h : inv.Sound) (hbuckets : inv'.buckets = inv.buckets)
    (hobjects : inv'.objects = inv.objects) (hlaunched : inv'.launched = inv.launched)
    (hpipelines : inv'.pipelines = inv.pipelines) (hrunning : inv'.running = inv.running) :
    inv'.Sound where
  objects := by
    rw [hobjects, hbuckets]
    exact h.objects
  numbered := by
    rw [hpipelines, hlaunched]
    exact h.numbered
  running := by
    rw [hrunning, hpipelines]
    exact h.running

/-- Putting in a bucket keeps an inventory sound. -/
theorem Sound.withBucket {inv : Inventory} (h : inv.Sound) (name : String) (bucket : Bucket) :
    Sound { inv with buckets := inv.buckets.insert name bucket } where
  objects := by
    intro path hpath
    rw [Table.get?_insert]
    split
    · rfl
    · exact h.objects path hpath
  numbered := h.numbered
  running := h.running

/-- So does putting an object into a bucket that is there. -/
theorem Sound.withObject {inv : Inventory} (h : inv.Sound) {path : ObjectPath}
    (hbucket : (inv.buckets.get? path.bucket).isSome) (contents : Text.Bytes) :
    Sound { inv with objects := inv.objects.insert path contents } where
  objects := by
    intro path' hpath
    rw [Table.get?_insert] at hpath
    split at hpath
    next heq =>
      rw [heq]
      exact hbucket
    next => exact h.objects path' hpath
  numbered := h.numbered
  running := h.running

/-- A bucket is deleted with its objects. -/
theorem Sound.withoutBucket {inv : Inventory} (h : inv.Sound) (name : String) :
    Sound { inv with
      buckets := inv.buckets.erase name
      objects := inv.objects.filter fun path => path.bucket ≠ name } where
  objects := by
    intro path hpath
    rw [Table.get?_filter] at hpath
    split at hpath
    next hne =>
      rw [Table.get?_erase, if_neg (of_decide_eq_true hne)]
      exact h.objects path hpath
    next => simp at hpath
  numbered := h.numbered
  running := h.running

/-- A started job is added under its id. -/
theorem get?_pipelines_start (inv : Inventory) (request : Launch) (id : String) :
    (inv.start request).2.pipelines.get? id =
      if id = (inv.start request).1 then some ⟨request.jobName, false⟩
      else inv.pipelines.get? id := by
  unfold Inventory.start
  rw [Table.get?_insert]

/-- A started job runs under its name. -/
theorem get?_running_start (inv : Inventory) (request : Launch) (name : String) :
    (inv.start request).2.running.get? name =
      if name = request.jobName then some (inv.start request).1 else inv.running.get? name := by
  unfold Inventory.start
  rw [Table.get?_insert]

/-- Launching a pipeline under a free name keeps the inventory sound. -/
theorem Sound.start {inv : Inventory} (h : inv.Sound) (request : Launch)
    (hfree : inv.running.get? request.jobName = none) : (inv.start request).2.Sound where
  objects := h.objects
  numbered := by
    intro id hid
    have hlength : (inv.start request).2.launched.length = inv.launched.length + 1 := by
      unfold Inventory.start
      rw [List.length_append, List.length_singleton]
    rw [get?_pipelines_start] at hid
    rw [hlength]
    split at hid
    next heq => exact ⟨inv, _, Nat.le_refl _, heq⟩
    next => exact (h.numbered id hid).mono (Nat.le_succ _)
  running := by
    intro name id
    rw [get?_running_start, get?_pipelines_start]
    by_cases hname : name = request.jobName
    · subst hname
      rw [if_pos rfl]
      split
      next hid => simp [hid]
      next hid =>
        -- No other job runs under the name.
        rw [← h.running, hfree]
        simp [Ne.symm hid]
    · rw [if_neg hname]
      split
      next hid =>
        rw [hid, h.running, h.fresh request]
        simp [Ne.symm hname]
      next => exact h.running name id

/-- A cancelled job stays under its id. -/
theorem get?_pipelines_stop (inv : Inventory) (id : String) (job : PipelineJob) (id' : String) :
    (inv.stop id job).pipelines.get? id' =
      if id' = id then some { job with cancelled := true } else inv.pipelines.get? id' := by
  unfold Inventory.stop
  rw [Table.get?_insert]

/-- Cancelling a job takes it, and no other, from the running ones. -/
theorem Sound.running_stop {inv : Inventory} (h : inv.Sound) {id : String} {job : PipelineJob}
    (hjob : inv.pipelines.get? id = some job) (name : String) :
    (inv.stop id job).running.get? name =
      if inv.running.get? name = some id then none else inv.running.get? name := by
  have hname : inv.running.get? name = some id → name = job.name := by
    intro hrun
    rw [h.running, hjob] at hrun
    rw [Option.some.inj hrun]
  unfold Inventory.stop
  by_cases hrun : inv.running.get? job.name = some id
  · simp only [if_pos hrun, Table.get?_erase]
    by_cases heq : name = job.name
    · rw [if_pos heq, heq, if_pos hrun]
    · rw [if_neg heq, if_neg fun hrun' => heq (hname hrun')]
  · simp only [if_neg hrun]
    rw [if_neg]
    intro hrun'
    rw [hname hrun'] at hrun'
    exact hrun hrun'

/-- Cancelling a pipeline keeps the inventory sound. -/
theorem Sound.stop {inv : Inventory} (h : inv.Sound) {id : String} {job : PipelineJob}
    (hjob : inv.pipelines.get? id = some job) : (inv.stop id job).Sound where
  objects := h.objects
  numbered := by
    intro id' hid
    rw [get?_pipelines_stop] at hid
    split at hid
    next heq =>
      rw [heq]
      exact h.numbered id (Option.isSome_of_mem hjob)
    next => exact h.numbered id' hid
  running := by
    intro name id'
    rw [h.running_stop hjob, get?_pipelines_stop]
    split
    next hrun =>
      split
      next heq => simp
      next hne =>
        rw [← h.running, hrun]
        simp [Ne.symm hne]
    next hrun =>
      split
      next heq =>
        rw [heq]
        simp [hrun]
      next => exact h.running name id'

/-- Calls keep an inventory sound. -/
theorem Sound.perform {inv inv' : Inventory} (h : inv.Sound) {c : Call} {reply : c.Reply}
    (hc : inv.perform c = .ok (reply, inv')) : inv'.Sound := by
  cases performed_of_perform hc with
  | leaderLocation => exact h
  | createJob => exact h.congr rfl rfl rfl rfl rfl
  | updateJobStatus => exact h.congr rfl rfl rfl rfl rfl
  | recordResource => exact h.congr rfl rfl rfl rfl rfl
  | createBucket => exact h.withBucket _ _
  | deleteBucket => exact h.withoutBucket _
  | writeObject hbucket => exact h.withObject hbucket _
  | readObject => exact h
  | feedExists => exact h
  | validateFeedOptions => exact h
  | createFeed => exact h.congr rfl rfl rfl rfl rfl
  | dropFeed => exact h.congr rfl rfl rfl rfl rfl
  | databaseExists => exact h
  | createDatabase => exact h.congr rfl rfl rfl rfl rfl
  | dropDatabase => exact h.congr rfl rfl rfl rfl rfl
  | launch hfree => exact h.start _ hfree
  | findActive => exact h
  | cancel hjob => exact h.stop hjob

/-- So does putting in an object, whose bucket is made up if there is none. -/
theorem Sound.putObject {inv : Inventory} (h : inv.Sound) (path : String) (contents : Text.Bytes) :
    (inv.putObject path contents).Sound := by
  unfold Inventory.putObject
  split
  next => exact h
  next p hp =>
    split
    next hbucket => exact h.withObject hbucket contents
    next =>
      refine (h.withBucket p.bucket _).withObject ?_ contents
      rw [Table.get?_insert, if_pos rfl]
      rfl

/-- Every reachable inventory is sound. -/
theorem Reachable.sound {inv : Inventory} (h : inv.Reachable) : inv.Sound := by
  induction h with
  | initial defaultLocation stamp =>
    refine ⟨fun path hpath => ?_, fun id hid => ?_, fun name id => ?_⟩
    · simp at hpath
    · simp at hid
    · simp
  | performed _ hc ih => exact ih.perform hc
  | location uri location _ ih => exact ih.congr rfl rfl rfl rfl rfl
  | job record _ ih => exact ih.congr rfl rfl rfl rfl rfl
  | bucket bucket _ ih => exact ih.withBucket bucket.name bucket
  | feed feed options _ ih => exact ih.congr rfl rfl rfl rfl rfl
  | database uri _ ih => exact ih.congr rfl rfl rfl rfl rfl
  | object path contents _ ih => exact ih.putObject path contents
  | later stamp _ ih => exact ih.congr rfl rfl rfl rfl rfl

end Inventory

end ReverseReplication
