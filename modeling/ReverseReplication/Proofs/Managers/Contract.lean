import ReverseReplication.Proofs.Managers.Chronicle

/-!
# Which calls fail, and what calls change

A call fails in one of two ways. It is made to fail, if for its operation a failure is installed
whose threshold its number has reached (`Chronicle.Injected`): both are read off the occurrences of
that one operation. Or it is refused by its manager (`Inventory.Refused`): creations and launches
since their key is taken (`Call.creates?`), other changes since their key is unknown
(`Call.requires?`), and three of the questions since they have no answer.

What the managers hold are entries under keys (`Entry`). A call that succeeds changes those it
names, and a call that fails changes none (`Chronicle.contract`).

That the installed failure and the number of a call are those of the whole past is an induction on
the past (`Chronicle.probe_after`).
-/

namespace ReverseReplication

open Inventory (Performed)
open ReverseReplication.Text (Bytes)

/-! ## Entries -/

/-- A key under which the managers hold something. -/
inductive Entry where
  | job (id : JobId)
  | resources (id : JobId)
  | bucket (name : String)
  | object (path : ObjectPath)
  | feed (feed : FeedName)
  | database (uri : String)
  | pipeline (id : String)
  /-- The id of the job that runs under a name. -/
  | running (name : String)

namespace Entry

/-- What is held under a key. -/
@[reducible] def Datum : Entry → Type
  | .job _ => JobRecord
  | .resources _ => List JobResource
  | .bucket _ => Bucket
  | .object _ => Bytes
  | .feed _ => FeedOptions
  | .database _ => Unit
  | .pipeline _ => PipelineJob
  | .running _ => String

/-- What an error calls the key. -/
def what : Entry → String
  | .job id => id
  | .resources id => id
  | .bucket name => name
  | .object path => path.render
  | .feed f => f.name
  | .database uri => uri
  | .pipeline id => id
  | .running name => name

end Entry

namespace Inventory

/-- What is held under a key. -/
def entry? (inv : Inventory) : (e : Entry) → Option e.Datum
  | .job id => inv.jobs.get? id
  | .resources id => inv.resources.get? id
  | .bucket name => inv.buckets.get? name
  | .object path => inv.objects.get? path
  | .feed f => inv.feeds.get? f
  | .database uri => inv.databases.get? uri
  | .pipeline id => inv.pipelines.get? id
  | .running name => inv.running.get? name

end Inventory

namespace Call

/-- The key that has to be free, for a call that creates what it names. -/
def creates? : Call → Option Entry
  | .createJob record => some (.job record.jobId)
  | .createBucket _ bucket => some (.bucket bucket.name)
  | .createFeed feed _ => some (.feed feed)
  | .createDatabase uri => some (.database uri)
  | .launch request => some (.running request.jobName)
  | _ => none

/-- The key that has to be known, for a call that changes or fills what it names. -/
def requires? : Call → Option Entry
  | .updateJobStatus id _ => some (.job id)
  | .deleteBucket name => some (.bucket name)
  | .writeObject bucket _ _ => some (.bucket bucket)
  | .dropFeed feed => some (.feed feed)
  | .dropDatabase uri => some (.database uri)
  | .cancel _ _ id => some (.pipeline id)
  | _ => none

/-- What a call that succeeds makes of an entry; nothing, if it leaves the entry as it is. -/
def effect? (inv : Inventory) : (c : Call) → c.Reply → (e : Entry) → Option (Option e.Datum)
  | .createJob record, _ => fun
    | .job id => if id = record.jobId then some (some record) else none
    | _ => none
  | .updateJobStatus id status, _ => fun
    | .job id' =>
      if id' = id then some ((inv.jobs.get? id).map fun record => { record with status }) else none
    | _ => none
  | .recordResource resource, _ => fun
    | .resources id =>
      if id = resource.jobId then some (some (inv.resourcesOf resource.jobId ++ [resource]))
      else none
    | _ => none
  | .createBucket _ bucket, _ => fun
    | .bucket name => if name = bucket.name then some (some bucket) else none
    | _ => none
  | .deleteBucket name, _ => fun
    | .bucket name' => if name' = name then some none else none
    | .object path => if path.bucket = name then some none else none
    | _ => none
  | .writeObject bucket object contents, _ => fun
    | .object path => if path = ⟨bucket, object⟩ then some (some contents) else none
    | _ => none
  | .createFeed feed options, _ => fun
    | .feed feed' => if feed' = feed then some (some options) else none
    | _ => none
  | .dropFeed feed, _ => fun
    | .feed feed' => if feed' = feed then some none else none
    | _ => none
  | .createDatabase uri, _ => fun
    | .database uri' => if uri' = uri then some (some ()) else none
    | _ => none
  | .dropDatabase uri, _ => fun
    | .database uri' => if uri' = uri then some none else none
    | _ => none
  | .launch request, id => fun
    | .pipeline id' => if id' = id then some (some ⟨request.jobName, false⟩) else none
    | .running name => if name = request.jobName then some (some id) else none
    | _ => none
  | .cancel _ _ id, _ => fun
    | .pipeline id' =>
      if id' = id then some ((inv.pipelines.get? id).map fun job => { job with cancelled := true })
      else none
    | .running name => if inv.running.get? name = some id then some none else none
    | _ => none
  | _, _ => fun _ => none

/-- The launch that is accepted with the call. -/
def launches : Call → List Launch
  | .launch request => [request]
  | _ => []

end Call

namespace Inventory

/-- What a call that succeeds with the reply changes: the entries it names, and nothing else but the
list of the accepted launches. -/
structure Changes (before : Inventory) (c : Call) (reply : c.Reply) (after : Inventory) : Prop where
  entries : ∀ e, after.entry? e = (c.effect? before reply e).getD (before.entry? e)
  launched : after.launched = before.launched ++ c.launches
  locations : after.locations = before.locations
  defaultLocation : after.defaultLocation = before.defaultLocation
  stamp : after.stamp = before.stamp

section effects

variable {inv inv' : Inventory} {c : Call} {reply : c.Reply}

/-- A value that is there under a condition, or else another one. -/
theorem getD_ite {α : Type} {p : Prop} [Decidable p] (v w : α) :
    (if p then some v else none).getD w = if p then v else w := by
  split <;> rfl

/-- A call that succeeds does to the entries what its effect says. -/
theorem Performed.entry?_eq (h : Performed inv c reply inv') (hsound : inv.Sound) (e : Entry) :
    inv'.entry? e = (c.effect? inv reply e).getD (inv.entry? e) := by
  cases h with
  | createJob =>
    cases e with
    | job => exact (Table.get?_insert ..).trans (getD_ite ..).symm
    | _ => rfl
  | updateJobStatus hold =>
    cases e with
    | job =>
      simp only [Call.effect?, hold]
      exact (Table.get?_insert ..).trans (getD_ite ..).symm
    | _ => rfl
  | recordResource =>
    cases e with
    | resources => exact (Table.get?_insert ..).trans (getD_ite ..).symm
    | _ => rfl
  | createBucket =>
    cases e with
    | bucket => exact (Table.get?_insert ..).trans (getD_ite ..).symm
    | _ => rfl
  | @deleteBucket name =>
    cases e with
    | bucket => exact (Table.get?_erase ..).trans (getD_ite ..).symm
    | object path =>
      -- The objects of a bucket go with it.
      refine (Table.get?_filter ..).trans ?_
      by_cases hname : path.bucket = name
      · simp [Call.effect?, hname]
      · simp [Call.effect?, hname, entry?]
    | _ => rfl
  | writeObject =>
    cases e with
    | object => exact (Table.get?_insert ..).trans (getD_ite ..).symm
    | _ => rfl
  | createFeed =>
    cases e with
    | feed => exact (Table.get?_insert ..).trans (getD_ite ..).symm
    | _ => rfl
  | dropFeed =>
    cases e with
    | feed => exact (Table.get?_erase ..).trans (getD_ite ..).symm
    | _ => rfl
  | createDatabase =>
    cases e with
    | database => exact (Table.get?_insert ..).trans (getD_ite ..).symm
    | _ => rfl
  | dropDatabase =>
    cases e with
    | database => exact (Table.get?_erase ..).trans (getD_ite ..).symm
    | _ => rfl
  | launch =>
    cases e with
    | pipeline => exact (get?_pipelines_start ..).trans (getD_ite ..).symm
    | running => exact (get?_running_start ..).trans (getD_ite ..).symm
    | _ => rfl
  | cancel hold =>
    cases e with
    | pipeline =>
      simp only [Call.effect?, hold]
      exact (get?_pipelines_stop ..).trans (getD_ite ..).symm
    -- Only in a sound inventory is the name that is freed the one of the job.
    | running => exact (hsound.running_stop hold _).trans (getD_ite ..).symm
    | _ => rfl
  | _ => rfl

/-- What a call that is performed changes is what its operation is for. -/
theorem Performed.changes (h : Performed inv c reply inv') (hsound : inv.Sound) :
    inv.Changes c reply inv' where
  entries := h.entry?_eq hsound
  launched := by
    cases h with
    | launch => rfl
    | _ => exact (List.append_nil _).symm
  locations := by cases h <;> rfl
  defaultLocation := by cases h <;> rfl
  stamp := by cases h <;> rfl

/-- A job that is launched gets a new id. -/
theorem Performed.launch_fresh {request : Launch} {id : String}
    (h : Performed inv (.launch request) id inv') (hsound : inv.Sound) :
    inv.entry? (.pipeline id) = none := by
  cases h with
  | launch => exact hsound.fresh request

end effects

/-! ## Refusals -/

/-- The error that a call is refused with. -/
inductive Refused (inv : Inventory) : Call → ManagerError → Prop
  | taken {c : Call} {e : Entry} (creates : c.creates? = some e) (held : (inv.entry? e).isSome) :
    Refused inv c (.alreadyExists e.what)
  | unknown {c : Call} {e : Entry} (requires : c.requires? = some e) (free : inv.entry? e = none) :
    Refused inv c (.notFound e.what)
  | unlocated {uri : String} (nowhere : inv.location? uri = none) :
    Refused inv (.leaderLocation uri) (.notFound uri)
  | noPath {path : String} (unreadable : ObjectPath.parse? path = none) :
    Refused inv (.readObject path) (.invalidState ("not an object path: " ++ path))
  | noObject {path : String} {p : ObjectPath} (readable : ObjectPath.parse? path = some p)
      (free : inv.entry? (.object p) = none) :
    Refused inv (.readObject path) (.notFound path)
  | noFeed {feed : FeedName} {expected : FeedOptions} (free : inv.entry? (.feed feed) = none) :
    Refused inv (.validateFeedOptions feed expected) (.notFound feed.name)
  | mismatched {feed : FeedName} {actual expected : FeedOptions} {detail : String}
      (held : inv.entry? (.feed feed) = some actual)
      (differs : feedMismatch? actual expected = some detail) :
    Refused inv (.validateFeedOptions feed expected) (.invalidState detail)

section refusals

variable {inv : Inventory} {c : Call} {e : Entry} {error : ManagerError}

/-- What is to be created is there already, and the call is refused, or it is new and the call is
performed. -/
theorem perform_of_creates (inv : Inventory) (hcreates : c.creates? = some e) :
    ((inv.entry? e).isSome ∧ inv.perform c = .error (.alreadyExists e.what)) ∨
      inv.entry? e = none ∧ ∃ answer, inv.perform c = .ok answer := by
  cases c with
  | createJob _ | createBucket _ _ | createFeed _ _ | createDatabase _ | launch _ =>
    cases hcreates
    simp only [perform]
    split
    next held => exact .inl ⟨held, rfl⟩
    next free => exact .inr ⟨Option.not_isSome_iff_eq_none.1 free, _, rfl⟩
  | _ => cases hcreates

/-- What a call needs is not there, and the call is refused, or it is there and the call is
performed. -/
theorem perform_of_requires (inv : Inventory) (hrequires : c.requires? = some e) :
    (inv.entry? e = none ∧ inv.perform c = .error (.notFound e.what)) ∨
      (inv.entry? e).isSome ∧ ∃ answer, inv.perform c = .ok answer := by
  cases c with
  | updateJobStatus _ _ | cancel _ _ _ =>
    cases hrequires
    simp only [perform]
    split
    next held => exact .inr ⟨Option.isSome_of_mem held, _, rfl⟩
    next free => exact .inl ⟨free, rfl⟩
  | deleteBucket _ | writeObject _ _ _ | dropFeed _ | dropDatabase _ =>
    cases hrequires
    simp only [perform]
    split
    next held => exact .inr ⟨held, _, rfl⟩
    next free => exact .inl ⟨Option.not_isSome_iff_eq_none.1 free, rfl⟩
  | _ => cases hrequires

/-- Such a call fails exactly if what is to be created is there already. -/
theorem fails_iff_of_creates (inv : Inventory) (hcreates : c.creates? = some e) :
    (∃ error, inv.perform c = .error error) ↔ (inv.entry? e).isSome := by
  rcases inv.perform_of_creates hcreates with ⟨hheld, herror⟩ | ⟨hfree, answer, hok⟩
  · exact ⟨fun _ => hheld, fun _ => ⟨_, herror⟩⟩
  · simp [hok, hfree]

/-- Such a call fails exactly if what it needs is not there. -/
theorem fails_iff_of_requires (inv : Inventory) (hrequires : c.requires? = some e) :
    (∃ error, inv.perform c = .error error) ↔ inv.entry? e = none := by
  rcases inv.perform_of_requires hrequires with ⟨hfree, herror⟩ | ⟨hheld, answer, hok⟩
  · exact ⟨fun _ => hfree, fun _ => ⟨_, herror⟩⟩
  · rw [Option.isSome_iff_ne_none] at hheld
    simp [hok, hheld]

/-- A call that cannot create anything is refused for the reason that it is there already. -/
theorem refused_of_creates (hcreates : c.creates? = some e) (h : inv.perform c = .error error) :
    Refused inv c error := by
  rcases inv.perform_of_creates hcreates with ⟨held, herror⟩ | ⟨-, answer, hok⟩
  · cases h.symm.trans herror
    exact .taken hcreates held
  · cases h.symm.trans hok

/-- A call that does not find what it needs is refused for this reason. -/
theorem refused_of_requires (hrequires : c.requires? = some e)
    (h : inv.perform c = .error error) : Refused inv c error := by
  rcases inv.perform_of_requires hrequires with ⟨free, herror⟩ | ⟨-, answer, hok⟩
  · cases h.symm.trans herror
    exact .unknown hrequires free
  · cases h.symm.trans hok

/-- A call is refused for what its refusal says, and otherwise answered. -/
theorem perform_eq_error_iff : inv.perform c = .error error ↔ Refused inv c error := by
  constructor
  · intro h
    cases c with
    | leaderLocation uri =>
      simp only [perform] at h
      split at h
      next => cases h
      next hnowhere =>
        cases h
        exact .unlocated hnowhere
    | readObject path =>
      simp only [perform] at h
      split at h
      next hunreadable =>
        cases h
        exact .noPath hunreadable
      next p hreadable =>
        split at h
        next => cases h
        next hfree =>
          cases h
          exact .noObject hreadable hfree
    | validateFeedOptions feed expected =>
      simp only [perform] at h
      split at h
      next hfree =>
        cases h
        exact .noFeed hfree
      next actual hheld =>
        split at h
        next detail hdiffers =>
          cases h
          exact .mismatched hheld hdiffers
        next => cases h
    | recordResource _ | feedExists _ | databaseExists _ | findActive _ _ _ => cases h
    | createJob _ | createBucket _ _ | createFeed _ _ | createDatabase _ | launch _ =>
      exact refused_of_creates rfl h
    | updateJobStatus _ _ | deleteBucket _ | writeObject _ _ _ | dropFeed _ | dropDatabase _
    | cancel _ _ _ => exact refused_of_requires rfl h
  · intro h
    cases h with
    | taken hcreates held =>
      rcases inv.perform_of_creates hcreates with ⟨-, herror⟩ | ⟨hfree, -⟩
      · exact herror
      · rw [hfree] at held
        cases held
    | unknown hrequires free =>
      rcases inv.perform_of_requires hrequires with ⟨-, herror⟩ | ⟨hheld, -⟩
      · exact herror
      · rw [free] at hheld
        cases hheld
    | unlocated hnowhere => simp only [perform, hnowhere]
    | noPath hunreadable => simp only [perform, hunreadable]
    | noObject hreadable hfree =>
      have hnone : inv.object? _ = none := hfree
      simp only [perform, hreadable, hnone]
    | noFeed hfree =>
      have hnone : inv.feeds.get? _ = none := hfree
      simp only [perform, hnone]
    | mismatched hheld hdiffers =>
      have hsome : inv.feeds.get? _ = some _ := hheld
      simp only [perform, hsome, hdiffers]

end refusals

end Inventory

/-! ## One call -/

namespace Managers

variable {m : Managers} {c : Call}

/-- A call fails if it is made to fail, or else if it is refused. -/
theorem perform_eq_error_iff {error : ManagerError} : (m.perform c).1 = .error error ↔
    (m.probe.count c.operation).failure? c.operation = some error ∨
      (m.probe.count c.operation).failure? c.operation = none ∧
        m.inventory.perform c = .error error := by
  unfold perform
  cases hfail : (m.probe.count c.operation).failure? c.operation with
  | some e => simp [hfail]
  | none =>
    cases hperform : m.inventory.perform c with
    | error e => simp [hfail]
    | ok answer => simp [hfail]

/-- A call that is answered with success was performed. -/
theorem perform_of_ok {reply : c.Reply} (h : (m.perform c).1 = .ok reply) :
    m.inventory.perform c = .ok (reply, (m.perform c).2.inventory) := by
  rcases perform_cases m c with ⟨e, -, heq⟩ | ⟨e, -, heq⟩ | ⟨reply', inv', hperform, heq⟩
  · rw [heq] at h
    cases h
  · rw [heq] at h
    cases h
  · rw [heq] at h ⊢
    cases h
    exact hperform

/-- Whatever becomes of it, a call is counted. -/
theorem probe_perform (m : Managers) (c : Call) :
    (m.perform c).2.probe = m.probe.count c.operation := by
  rcases perform_cases m c with ⟨e, -, heq⟩ | ⟨e, -, heq⟩ | ⟨reply, inv', -, heq⟩
  · rw [heq]
  · rw [heq]
  · rw [heq]

end Managers

/-! ## Failures that are installed -/

/-- Is it a call of the operation? -/
def Occurrence.calls (op : Operation) : Occurrence → Bool
  | .call c => c.operation = op
  | _ => false

/-- The failure that is installed for the operation, or that none is. -/
def Occurrence.installs? (op : Operation) : Occurrence → Option (Option (Nat × ManagerError))
  | .failFrom op' nth error => if op' = op then some (some (nth, error)) else none
  | .clear op' => if op' = op then some none else none
  | _ => none

/-- Is it a call of the operation, or about its failure? -/
def Occurrence.concerns (op : Operation) (o : Occurrence) : Bool :=
  o.calls op || (o.installs? op).isSome

namespace Chronicle

/-- How often the operation has been called. -/
def callsOf (op : Operation) (past : List Occurrence) : Nat := past.countP (Occurrence.calls op)

/-- The failure that was installed last, unless it was cleared, with its threshold. -/
def installed? (op : Operation) (past : List Occurrence) : Option (Nat × ManagerError) :=
  (past.reverse.findSome? (Occurrence.installs? op)).join

/-- The next call of the operation is made to fail. With a threshold of zero, every further one
is. -/
def Injected (op : Operation) (past : List Occurrence) (error : ManagerError) : Prop :=
  ∃ nth, installed? op past = some (nth, error) ∧ nth ≤ callsOf op past + 1

variable {op : Operation} {past : List Occurrence}

def probe (ch : Chronicle) : Probe := ch.managers.probe

/-- In a chronicle, a call is made to the managers as they stand. -/
theorem managers_call (ch : Chronicle) (c : Call) :
    (ch.step (.call c)).managers = (ch.managers.perform c).2 := by
  rcases Managers.perform_cases ch.managers c with
    ⟨e, -, heq⟩ | ⟨e, -, heq⟩ | ⟨reply, inv', -, heq⟩
  · simp only [step, heq]
  · simp only [step, heq]
  · simp only [step, heq]

/-- What one occurrence does to the probe. -/
theorem probe_step (op : Operation) (ch : Chronicle) (o : Occurrence) :
    (ch.step o).probe.counts op = ch.probe.counts op + (if o.calls op then 1 else 0) ∧
      (ch.step o).probe.failures op = (o.installs? op).getD (ch.probe.failures op) := by
  cases o with
  | call c =>
    rw [probe, managers_call, Managers.probe_perform]
    refine ⟨?_, rfl⟩
    simp only [Probe.count, Occurrence.calls, decide_eq_true_eq, eq_comm (a := op)]
    split <;> rfl
  | failFrom op' nth error =>
    refine ⟨rfl, ?_⟩
    simp only [probe, step, Probe.failFrom, Occurrence.installs?, eq_comm (a := op)]
    split <;> rfl
  | clear op' =>
    refine ⟨rfl, ?_⟩
    simp only [probe, step, Probe.clear, Occurrence.installs?, eq_comm (a := op)]
    split <;> rfl
  | seed seed => exact ⟨rfl, rfl⟩
  | clock stamp => exact ⟨rfl, rfl⟩

/-- The probe has counted the calls, and keeps the failure that was installed last. -/
theorem probe_after (ch : Chronicle) (past : List Occurrence) :
    (ch.after past).probe.counts op = ch.probe.counts op + callsOf op past ∧
      (ch.after past).probe.failures op =
        (past.reverse.findSome? (Occurrence.installs? op)).getD (ch.probe.failures op) := by
  induction past generalizing ch with
  | nil => exact ⟨rfl, rfl⟩
  | cons o rest ih =>
    obtain ⟨hcounts, hfailures⟩ := probe_step op ch o
    obtain ⟨hcounts', hfailures'⟩ := ih (ch.step o)
    refine ⟨?_, ?_⟩
    · rw [callsOf, List.countP_cons]
      refine hcounts'.trans ?_
      rw [hcounts, callsOf]
      omega
    -- Reversed, the first event is the last one that is looked at.
    · refine hfailures'.trans ?_
      rw [hfailures, List.reverse_cons, List.findSome?_append]
      cases rest.reverse.findSome? (Occurrence.installs? op) with
      | none => simp
      | some installed => rfl

/-- A call fails by the probe if a failure was installed for it, and if it comes late enough. -/
theorem failure?_count_eq_some_iff {p : Probe} {error : ManagerError} :
    (p.count op).failure? op = some error ↔
      ∃ nth, p.failures op = some (nth, error) ∧ nth ≤ p.counts op + 1 := by
  simp only [Probe.failure?, Probe.count, if_true]
  cases p.failures op with
  | none => simp
  | some failure =>
    obtain ⟨nth, installed⟩ := failure
    simp only [Option.ite_none_right_eq_some, Option.some.injEq, Prod.mk.injEq]
    constructor
    · rintro ⟨hnth, rfl⟩
      exact ⟨nth, ⟨rfl, rfl⟩, hnth⟩
    · rintro ⟨_, ⟨rfl, rfl⟩, hnth⟩
      exact ⟨hnth, rfl⟩

section contract

variable (defaultLocation : Option String) (stamp : String) (past : List Occurrence)

/-- The probe has counted every call of an operation. -/
theorem counts_after (op : Operation) :
    ((start defaultLocation stamp).after past).probe.counts op = callsOf op past :=
  (probe_after _ past).1.trans (Nat.zero_add _)

/-- The failure that is in force is the one that was installed last and has not been cleared
since. -/
theorem failures_after (op : Operation) :
    ((start defaultLocation stamp).after past).probe.failures op = installed? op past := by
  rw [(probe_after _ past).2, installed?]
  cases past.reverse.findSome? (Occurrence.installs? op) <;> rfl

/-- A call is made to fail as the past of its operation says. -/
theorem failure?_after {error : ManagerError} :
    (((start defaultLocation stamp).after past).probe.count op).failure? op = some error ↔
      Injected op past error := by
  rw [failure?_count_eq_some_iff, failures_after, counts_after]
  rfl

/-- What is installed and counted for an operation is read off the occurrences that concern it. -/
theorem injected_congr {past' : List Occurrence}
    (h : past'.filter (Occurrence.concerns op) = past.filter (Occurrence.concerns op))
    (error : ManagerError) : Injected op past' error ↔ Injected op past error := by
  have hcalls (past : List Occurrence) :
      callsOf op (past.filter (Occurrence.concerns op)) = callsOf op past := by
    rw [callsOf, List.countP_filter]
    refine List.countP_congr fun o _ => ?_
    rw [Occurrence.concerns, Bool.and_eq_true, Bool.or_eq_true]
    exact ⟨fun ho => ho.1, fun ho => ⟨ho, .inl ho⟩⟩
  have hinstalls : (fun o : Occurrence => if o.concerns op then o.installs? op else none) =
      Occurrence.installs? op := by
    funext o
    rw [Occurrence.concerns]
    cases o.installs? op <;> simp
  have hinstalled (past : List Occurrence) :
      installed? op (past.filter (Occurrence.concerns op)) = installed? op past := by
    rw [installed?, ← List.filter_reverse, ← List.head?_filterMap, List.filterMap_filter, hinstalls,
      List.head?_filterMap]
    rfl
  unfold Injected
  rw [← hcalls past', ← hinstalled past', h, hcalls, hinstalled]

/-- Which calls fail, and what calls change, whatever has happened before. A call fails if it is
made to, and otherwise if it is refused: a creation or a launch if its key is taken, another change
if its key is unknown. A call that fails changes nothing, and one that succeeds only the entries it
names; a job that is launched gets a new id. Every call is counted, for its operation only, and no
other operation has a bearing on whether it is made to fail. -/
theorem contract (c : Call) :
    let now := (start defaultLocation stamp).after past
    let next := now.managers.perform c
    (∀ error, next.1 = .error error ↔ Injected c.operation past error ∨
      (∀ error', ¬Injected c.operation past error') ∧ now.inventory.Refused c error) ∧
    ((∀ error, ¬Injected c.operation past error) →
      (∀ e, c.creates? = some e →
        ((∃ error, next.1 = .error error) ↔ (now.inventory.entry? e).isSome)) ∧
      ∀ e, c.requires? = some e →
        ((∃ error, next.1 = .error error) ↔ now.inventory.entry? e = none)) ∧
    (∀ error, next.1 = .error error → next.2.inventory = now.inventory) ∧
    (∀ reply, next.1 = .ok reply → now.inventory.Changes c reply next.2.inventory) ∧
    (∀ request id, (now.managers.perform (.launch request)).1 = .ok id →
      now.inventory.entry? (.pipeline id) = none) ∧
    (∀ op, next.2.probe.counts op = callsOf op (past ++ [.call c])) ∧
    (∀ op, next.2.probe.failures op = installed? op past) ∧
    ∀ past', past'.filter (Occurrence.concerns c.operation) =
        past.filter (Occurrence.concerns c.operation) →
      ∀ error, Injected c.operation past' error ↔ Injected c.operation past error := by
  intro now next
  have hsound : now.inventory.Sound :=
    (keeps (fun _ _ => True) (fun _ _ _ => trivial) (fun _ _ => trivial) (fun _ _ => trivial)
      (sound_start defaultLocation stamp) trivial past).1
  -- The probe stands for all that has happened: it fails the call as the past says.
  have hinjected : ∀ error, (now.probe.count c.operation).failure? c.operation = some error ↔
      Injected c.operation past error := fun _ => failure?_after defaultLocation stamp past
  have hfails : ∀ error, next.1 = .error error ↔ Injected c.operation past error ∨
      (∀ error', ¬Injected c.operation past error') ∧ now.inventory.Refused c error := by
    intro error
    rw [Managers.perform_eq_error_iff, ← Inventory.perform_eq_error_iff, ← hinjected,
      Option.eq_none_iff_forall_ne_some]
    simp only [← hinjected]
    rfl
  refine ⟨hfails, ?_, ?_, ?_, ?_, ?_, ?_, fun past' h error => injected_congr past h error⟩
  · intro hcalm
    have hrefused : (∃ error, next.1 = .error error) ↔
        ∃ error, now.inventory.perform c = .error error := by
      simp only [hfails, hcalm, Inventory.perform_eq_error_iff, not_false_eq_true, implies_true,
        true_and, false_or]
    rw [hrefused]
    exact ⟨fun _ => now.inventory.fails_iff_of_creates,
      fun _ => now.inventory.fails_iff_of_requires⟩
  · intro error herror
    rw [Managers.perform_rejected herror]
    rfl
  · intro reply hreply
    exact (Inventory.performed_of_perform (Managers.perform_of_ok hreply)).changes hsound
  · intro request id hid
    exact (Inventory.performed_of_perform (Managers.perform_of_ok hid)).launch_fresh hsound
  · intro op
    have hnext : (now.step (.call c)).probe = next.2.probe :=
      congrArg Managers.probe (now.managers_call c)
    have hnow : (start defaultLocation stamp).after (past ++ [.call c]) = now.step (.call c) := by
      rw [after, List.foldl_append]
      rfl
    rw [← hnext, ← hnow]
    exact counts_after defaultLocation stamp (past ++ [.call c]) op
  · intro op
    rw [Managers.probe_perform]
    exact failures_after defaultLocation stamp past op

end contract

/-- The second creation of a bucket is made to fail, with whatever error, and the third is refused
since the bucket is there. Its deletion takes an object along. -/
theorem contract_of_failing_creation :
    let create : Occurrence := .call (.createBucket "p1" ⟨"b", "here", none, .empty⟩)
    let past := [.failFrom .createBucket 2 (.unavailable "down"), create,
      .call (.writeObject "b" "o" [1])]
    let now := (start none "2026").after past
    let later := (start none "2026").after (past ++ [create, .clear .createBucket])
    (now.managers.perform (.createBucket "p1" ⟨"b", "there", none, .empty⟩)).1 =
        .error (.unavailable "down") ∧
      (later.managers.perform (.createBucket "p1" ⟨"b", "there", none, .empty⟩)).1 =
        .error (.alreadyExists "b") ∧
      (now.managers.perform (.deleteBucket "b")).2.inventory.entry? (.object ⟨"b", "o"⟩) = none ∧
      (now.managers.perform (.deleteBucket "b")).2.probe.counts .createBucket = 1 := by
  intro create past now later
  obtain ⟨hnow, -⟩ := contract none "2026" past (.createBucket "p1" ⟨"b", "there", none, .empty⟩)
  obtain ⟨hlater, -⟩ := contract none "2026" (past ++ [create, .clear .createBucket])
    (.createBucket "p1" ⟨"b", "there", none, .empty⟩)
  obtain ⟨-, -, -, hchanges, -, hcounts, -⟩ := contract none "2026" past (.deleteBucket "b")
  refine ⟨(hnow _).2 (.inl ⟨2, by decide, by decide⟩), (hlater _).2 (.inr ⟨?_, ?_⟩), ?_, ?_⟩
  · rintro error ⟨nth, hinstalled, -⟩
    cases hinstalled
  · exact .taken (e := .bucket "b") rfl (by decide +kernel)
  · exact (hchanges () rfl).entries (.object ⟨"b", "o"⟩)
  · exact hcounts .createBucket

end Chronicle

end ReverseReplication
