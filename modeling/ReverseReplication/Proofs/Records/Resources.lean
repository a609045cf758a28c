import ReverseReplication.Proofs.Footprint
import ReverseReplication.Proofs.Holdings
import ReverseReplication.Proofs.Saga.Phases

/-!
# The resources recorded for a job

A run records what it creates in a list that the registry keeps for its job. What there is to be
recorded of a call that creates something is its entry (`NormalizedRequest.entry?`). A `Ledger`
compares the list with the events of a run: entries are added in the order of the activities, one
for each resource that was created and then recorded.

A run may fail between creating a resource and recording it, and then the entry is missing. Whenever
an activity succeeds, all is recorded that was created so far (`Balanced`). So a run that succeeds
has an entry for everything that it has created, and none for what it has found
(`DisturbedWorld.provision_records`).
-/

namespace ReverseReplication

open Inventory (Performed)

variable {α σ : Type}

/-- The operations that create a resource of a run, or record one. -/
def Operation.booking : List Operation :=
  [.createBucket, .createFeed, .createDatabase, .launch, .recordResource]

open Operation (booking)

/-! ## Entries -/

/-- What a pipeline is recorded as. -/
def PipelineRole.resourceKind : PipelineRole → ResourceKind
  | .reader => .readerPipeline
  | .writer => .writerPipeline

/-- The activity that creates resources of a kind. -/
def ResourceKind.creator : ResourceKind → ActivityKind
  | .stagingBucket => .prepareStagingStore
  | .changeFeed => .prepareChangeFeed
  | .metadataDatabase => .prepareMetadataStore
  | .readerPipeline => .launchReader
  | .writerPipeline => .launchWriter

namespace NormalizedRequest

/-- Which of the two pipelines has the parameters. -/
def roleOf (n : NormalizedRequest) (parameters : Parameters) : PipelineRole :=
  if parameters = n.readerParameters then .reader else .writer

/-- What there is to be recorded of a call that has created something, with the activity that makes
such calls. A pipeline is where its launch says, all else is where the request says. -/
def entry? (n : NormalizedRequest) : (c : Call) → c.Reply → Option (ActivityKind × JobResource)
  | .createBucket _ bucket, _ =>
    some (.prepareStagingStore,
      ⟨n.jobId, .stagingBucket, bucket.name, n.request.projectId, n.location⟩)
  | .createFeed feed _, _ =>
    some (.prepareChangeFeed,
      ⟨n.jobId, .changeFeed, feed.database ++ "/changeStreams/" ++ feed.name, n.request.projectId,
        n.location⟩)
  | .createDatabase uri, _ =>
    some (.prepareMetadataStore,
      ⟨n.jobId, .metadataDatabase, uri, n.request.projectId, n.location⟩)
  | .launch request, id =>
    let role := n.roleOf request.parameters
    some (role.launcher, ⟨n.jobId, role.resourceKind, id, request.projectId, request.location⟩)
  | _, _ => none

variable {n : NormalizedRequest} {c : Call} {r : c.Reply} {entry : ActivityKind × JobResource}

/-- The parameters of a pipeline tell its role. -/
theorem roleOf_parameters {settings : Settings} (role : PipelineRole) :
    n.roleOf ((n.catalog settings).pipeline role).parameters = role := by
  cases role with
  | reader => exact if_pos rfl
  | writer => exact if_neg (readerParameters_ne_writerParameters n).symm

/-- The kind of a resource tells which activity has created it. -/
theorem creator_of_entry? (h : n.entry? c r = some entry) : entry.2.kind.creator = entry.1 := by
  cases c with
  | createBucket projectId bucket =>
    cases h
    rfl
  | createFeed feed options =>
    cases h
    rfl
  | createDatabase uri =>
    cases h
    rfl
  | launch request =>
    cases h
    dsimp only
    cases n.roleOf request.parameters <;> rfl
  | _ => cases h

/-- Only calls of some operations have entries. -/
theorem booking_of_entry? (h : n.entry? c r = some entry) :
    c.operation ∈ booking ∧ c.operation ≠ .recordResource := by
  cases c with
  | createBucket => simp [Call.operation, booking]
  | createFeed => simp [Call.operation, booking]
  | createDatabase => simp [Call.operation, booking]
  | launch => simp [Call.operation, booking]
  | _ => cases h

/-- A call that has an entry has created something. -/
theorem gains_of_entry? {inv inv' : Inventory} (h : n.entry? c r = some entry)
    (hperformed : Performed inv c r inv') : ∃ x, inv.Gains x inv' := by
  cases hperformed with
  | createBucket hfree => exact ⟨_, Inventory.gains_createBucket hfree⟩
  | createFeed hfree => exact ⟨_, Inventory.gains_createFeed hfree⟩
  | createDatabase hfree => exact ⟨_, Inventory.gains_createDatabase hfree⟩
  | launch hfree => exact ⟨_, Inventory.gains_launch hfree⟩
  | _ => cases h

end NormalizedRequest

namespace Event

/-- The event creates something, which has the entry. -/
def Creates (n : NormalizedRequest) (entry : ActivityKind × JobResource) (e : Event) : Prop :=
  ∃ (c : Call) (r : c.Reply), e.Performs c r ∧ n.entry? c r = some entry

/-- The event records a resource. -/
def Records (resource : JobResource) (e : Event) : Prop :=
  e.Performs (.recordResource resource) ()

variable {n : NormalizedRequest} {entry : ActivityKind × JobResource} {resource : JobResource}
  {e : Event}

/-- An event without an effect creates nothing. -/
theorem not_creates_of_unchanged (h : e.after = e.before) : ¬e.Creates n entry :=
  fun ⟨_, _, hperforms, _⟩ => not_performs_of_unchanged h hperforms

/-- An event without an effect records nothing. -/
theorem not_records_of_unchanged (h : e.after = e.before) : ¬e.Records resource :=
  not_performs_of_unchanged h

/-- A call of no such operation creates nothing and records nothing. -/
theorem not_creates_of_operation (h : ∀ c, e.query.call? = some c → c.operation ∉ booking) :
    ¬e.Creates n entry :=
  fun ⟨c, _, hperforms, hentry⟩ =>
    h c hperforms.asked (NormalizedRequest.booking_of_entry? hentry).1

/-- A call of no such operation records nothing. -/
theorem not_records_of_operation (h : ∀ c, e.query.call? = some c → c.operation ∉ booking) :
    ¬e.Records resource :=
  fun hperforms => h _ hperforms.asked (by simp [Call.operation, booking])

/-- What a call creates is what its entry says. -/
theorem creates_iff {c : Call} {r : c.Reply} (h : e.Performs c r) :
    e.Creates n entry ↔ n.entry? c r = some entry := by
  constructor
  · rintro ⟨c', r', h', hentry⟩
    obtain rfl := h.call_unique h'
    have hperformed := h.performed
    rw [h'.performed] at hperformed
    cases hperformed
    exact hentry
  · intro hentry
    exact ⟨c, r, h, hentry⟩

/-- What a call records is its argument. -/
theorem records_iff (h : e.Records resource) {resource' : JobResource} :
    e.Records resource' ↔ resource' = resource := by
  constructor
  · intro h'
    have hcall := h'.call_unique h
    cases hcall
    rfl
  · rintro rfl
    exact h

end Event

namespace Inventory

variable {inv inv' : Inventory} {c : Call} {reply : c.Reply}

/-- Something that is gained makes a difference. -/
theorem Gains.ne {x : Holding} (h : inv.Gains x inv') : inv' ≠ inv := by
  rintro rfl
  exact h.fresh ((h.holds x).2 (.inr rfl))

/-- Only one operation changes what is recorded. -/
theorem Performed.resources_eq (h : Performed inv c reply inv')
    (hc : c.operation ≠ .recordResource) : inv'.resources = inv.resources := by
  cases h with
  | recordResource => exact absurd rfl hc
  | _ => rfl

/-- A resource is recorded at the end of the list of its job. -/
theorem Performed.resourcesOf_record {resource : JobResource}
    (h : Performed inv (.recordResource resource) () inv') :
    inv'.resourcesOf resource.jobId = inv.resourcesOf resource.jobId ++ [resource] := by
  cases h
  rw [resourcesOf, Table.get?_insert, if_pos rfl, Option.getD_some]

end Inventory

/-! ## Ledgers -/

/-- The list of resources of a run's job, compared with the events of the run. Beyond what was there
before, it holds the entries that are `kept`, of those that were `made`. -/
structure Ledger (n : NormalizedRequest) (before : List JobResource)
    (made kept : List (ActivityKind × JobResource)) (t : Trace) : Prop where
  listed : t.now.resourcesOf n.jobId = before ++ kept.map Prod.snd
  created : ∀ entry, (∃ e ∈ t.events, e.Creates n entry) ↔ entry ∈ made
  recorded : ∀ resource, (∃ e ∈ t.events, e.Records resource) ↔ resource ∈ kept.map Prod.snd
  sublist : kept.Sublist made

namespace Ledger

variable {n : NormalizedRequest} {before : List JobResource}
  {made kept entries : List (ActivityKind × JobResource)} {entry : ActivityKind × JobResource}
  {t : Trace} {q : Query} {answer : q.Answer} {inv' : Inventory} {files : FileSystem}

/-- The entries that are kept are those of the resources that were created and recorded. -/
theorem mem_kept_iff (h : Ledger n before made kept t) :
    entry ∈ kept ↔ (∃ e ∈ t.events, e.Creates n entry) ∧ ∃ e ∈ t.events, e.Records entry.2 := by
  have hcreator : ∀ entry ∈ made, entry.2.kind.creator = entry.1 := by
    intro entry hmade
    obtain ⟨e, -, c, r, -, hentry⟩ := (h.created entry).2 hmade
    exact NormalizedRequest.creator_of_entry? hentry
  rw [h.created, h.recorded]
  constructor
  · intro hkept
    exact ⟨h.sublist.subset hkept, List.mem_map_of_mem hkept⟩
  · rintro ⟨hmade, hrecorded⟩
    -- No other activity creates such a resource, so it is this entry that was recorded.
    obtain ⟨other, hkept, hresource⟩ := List.mem_map.1 hrecorded
    have hactivity : other.1 = entry.1 := by
      rw [← hcreator entry hmade, ← hresource]
      exact (hcreator other (h.sublist.subset hkept)).symm
    rw [← Prod.ext hactivity hresource]
    exact hkept

/-- An event that neither creates nor records anything. -/
theorem push (h : Ledger n before made kept t)
    (hsame : inv'.resourcesOf n.jobId = t.now.resourcesOf n.jobId)
    (hcreates : ∀ entry, ¬Event.Creates n entry ⟨q, answer, t.now, inv'⟩)
    (hrecords : ∀ resource, ¬Event.Records resource ⟨q, answer, t.now, inv'⟩) :
    Ledger n before made kept (t.push q answer inv') where
  listed := hsame.trans h.listed
  created := by
    intro entry
    rw [Trace.exists_event_push, or_iff_left (hcreates entry)]
    exact h.created entry
  recorded := by
    intro resource
    rw [Trace.exists_event_push, or_iff_left (hrecords resource)]
    exact h.recorded resource
  sublist := h.sublist

/-- An event that changes nothing. -/
theorem push_same (h : Ledger n before made kept t) :
    Ledger n before made kept (t.push q answer t.now) :=
  h.push rfl (fun _ => Event.not_creates_of_unchanged rfl)
    fun _ => Event.not_records_of_unchanged rfl

/-- An event of another operation. -/
theorem push_quiet (h : Ledger n before made kept t)
    (hq : ∀ c, q.call? = some c → c.operation ∉ booking)
    (hanswer : Hazards.any.rule files q t.now answer inv') :
    Ledger n before made kept (t.push q answer inv') := by
  have hresources : inv'.resources = t.now.resources := by
    rcases Hazards.rule_performs hanswer with hsame | ⟨c, r, hcall, hperform⟩
    · rw [hsame]
    · refine (Inventory.performed_of_perform hperform).resources_eq fun hrecord => ?_
      refine hq c hcall ?_
      rw [hrecord]
      decide
  refine h.push ?_ (fun _ => Event.not_creates_of_operation hq)
    fun _ => Event.not_records_of_operation hq
  rw [Inventory.resourcesOf, Inventory.resourcesOf, hresources]

/-- A resource is created. -/
theorem push_created {c : Call} {r : c.Reply} (h : Ledger n before entries entries t)
    (hcall : q.call? = some c) (hperform : t.now.perform c = .ok (r, inv'))
    (hentry : n.entry? c r = some entry) :
    Ledger n before (entries ++ [entry]) entries (t.push q answer inv') := by
  have hperformed := Inventory.performed_of_perform hperform
  obtain ⟨-, hother⟩ := NormalizedRequest.booking_of_entry? hentry
  obtain ⟨x, hgains⟩ := NormalizedRequest.gains_of_entry? hentry hperformed
  have hperforms : Event.Performs ⟨q, answer, t.now, inv'⟩ c r := ⟨hcall, hperform, hgains.ne⟩
  refine ⟨?_, fun entry' => ?_, fun resource => ?_, List.sublist_append_left _ _⟩
  · rw [Trace.now_push, ← h.listed, Inventory.resourcesOf, hperformed.resources_eq hother,
      Inventory.resourcesOf]
  · rw [Trace.exists_event_push, h.created, Event.creates_iff hperforms, hentry, List.mem_append,
      List.mem_singleton, Option.some.injEq, eq_comm]
  · have hnot : ¬Event.Records resource ⟨q, answer, t.now, inv'⟩ := by
      intro hrecords
      rw [← hrecords.call_unique hperforms] at hother
      exact hother rfl
    rw [Trace.exists_event_push, or_iff_left hnot]
    exact h.recorded resource

/-- What was created is recorded. -/
theorem push_recorded (h : Ledger n before (entries ++ [entry]) entries t)
    (hjob : entry.2.jobId = n.jobId) (hcall : q.call? = some (.recordResource entry.2))
    (hperform : t.now.perform (.recordResource entry.2) = .ok ((), inv')) :
    Ledger n before (entries ++ [entry]) (entries ++ [entry]) (t.push q answer inv') := by
  have hlist := (Inventory.performed_of_perform hperform).resourcesOf_record
  have hchanged : inv' ≠ t.now := by
    rintro rfl
    simp at hlist
  have hrecords : Event.Records entry.2 ⟨q, answer, t.now, inv'⟩ := ⟨hcall, hperform, hchanged⟩
  have hnot : ∀ entry', ¬Event.Creates n entry' ⟨q, answer, t.now, inv'⟩ := by
    intro entry' hcreates
    cases (Event.creates_iff hrecords).1 hcreates
  refine ⟨?_, fun entry' => ?_, fun resource => ?_, List.Sublist.refl _⟩
  · rw [Trace.now_push, ← hjob, hlist, hjob, h.listed, List.map_append, List.append_assoc]
    rfl
  · rw [Trace.exists_event_push, or_iff_left (hnot entry')]
    exact h.created entry'
  · rw [Trace.exists_event_push, h.recorded, Event.records_iff hrecords, List.map_append,
      List.mem_append, List.map_singleton, List.mem_singleton]

/-- What neither creates nor records anything leaves the ledger alone. -/
theorem ensures_quiet {p : Plan α} {ops : List Operation} (h : Ledger n before made kept t)
    (hp : p.AsksOnly ops) (hops : ∀ op ∈ ops, op ∉ booking) :
    p.Ensures (Hazards.any.rule files).traced t fun _ t' => Ledger n before made kept t' := by
  refine hp.ensures_traced ?_ h
  intro q t answer inv' hasked hanswer hledger
  exact hledger.push_quiet (fun c hc => hops _ (hasked c hc)) hanswer

end Ledger

/-! ## What activities enter -/

/-- What an activity has done to the ledger, by its result. It has created nothing, or created
something and recorded it. If it has failed, it may have missed the recording. -/
inductive Entered (n : NormalizedRequest) (before : List JobResource)
    (entries : List (ActivityKind × JobResource)) (k : ActivityKind) (t : Trace) :
    Except ActivityError Unit → Prop
  | unchanged {r : Except ActivityError Unit} : Ledger n before entries entries t →
    Entered n before entries k t r
  | recorded {r : Except ActivityError Unit} {resource : JobResource} :
    Ledger n before (entries ++ [(k, resource)]) (entries ++ [(k, resource)]) t →
    Entered n before entries k t r
  | unrecorded {e : ActivityError} {resource : JobResource} :
    Ledger n before (entries ++ [(k, resource)]) entries t →
    Entered n before entries k t (.error e)

section steps

variable {n : NormalizedRequest} {before : List JobResource}
  {entries : List (ActivityKind × JobResource)} {k : ActivityKind} {t : Trace}
  {files : FileSystem} {ctx : Context} {s : σ} {ops : List Operation} {doing : String}

/-- What follows, and neither creates nor records anything, does not matter. -/
theorem Entered.ensures_quiet {r : Except ActivityError Unit} {x : Step σ α}
    (h : Entered n before entries k t r) (hx : x.AsksOnly ops) (hops : ∀ op ∈ ops, op ∉ booking) :
    x.Ensures (Hazards.any.rule files).traced s t
      fun _ _ t' => Entered n before entries k t' r := by
  cases h with
  | unchanged hledger =>
    exact (hledger.ensures_quiet (hx s) hops).mono fun _ _ hledger' => .unchanged hledger'
  | recorded hledger =>
    exact (hledger.ensures_quiet (hx s) hops).mono fun _ _ hledger' => .recorded hledger'
  | unrecorded hledger =>
    exact (hledger.ensures_quiet (hx s) hops).mono fun _ _ hledger' => .unrecorded hledger'

/-- After a success it may fail as well: nothing is left to be recorded. -/
theorem Entered.ensures_then {x : Step σ Unit} (h : Entered n before entries k t (.ok ()))
    (hx : x.AsksOnly ops) (hops : ∀ op ∈ ops, op ∉ booking) :
    x.Ensures (Hazards.any.rule files).traced s t
      fun r _ t' => Entered n before entries k t' r := by
  cases h with
  | unchanged hledger =>
    exact (hledger.ensures_quiet (hx s) hops).mono fun _ _ hledger' => .unchanged hledger'
  | recorded hledger =>
    exact (hledger.ensures_quiet (hx s) hops).mono fun _ _ hledger' => .recorded hledger'

/-- The undoing of a step is not entered. -/
theorem Entered.ensures_undoing {undo step : Step σ Unit} (hundo : undo.AsksOnly Hazards.undoings)
    (h : step.Ensures (Hazards.any.rule files).traced s t
      fun r _ t' => Entered n before entries k t' r) :
    (Step.undoing undo step).Ensures (Hazards.any.rule files).traced s t
      fun r _ t' => Entered n before entries k t' r := by
  rw [Step.ensures_undoing]
  refine h.mono ?_
  rintro (e | u) s' t' hentered
  · exact hentered.ensures_quiet hundo (by decide)
  · exact hentered

namespace Ledger

/-- What comes before, and neither creates nor records anything, does not matter. -/
theorem ensures_bind_quiet {x : Step σ α} {f : α → Step σ Unit}
    (h : Ledger n before entries entries t) (hx : x.AsksOnly ops) (hops : ∀ op ∈ ops, op ∉ booking)
    (hf : ∀ a s' t', Ledger n before entries entries t' →
      (f a).Ensures (Hazards.any.rule files).traced s' t'
        fun r _ t' => Entered n before entries k t' r) :
    (x >>= f).Ensures (Hazards.any.rule files).traced s t
      fun r _ t' => Entered n before entries k t' r := by
  rw [Step.ensures_bind]
  refine Plan.Ensures.mono (h.ensures_quiet (hx s) hops) ?_
  rintro ⟨e | a, s'⟩ t' hledger
  · exact .unchanged hledger
  · exact hf a s' t' hledger

/-- A call that creates something when it succeeds. -/
theorem ensures_bind_call {c : Call} {f : Except ManagerError c.Reply → Step σ Unit}
    {resource : c.Reply → JobResource} (h : Ledger n before entries entries t)
    (hentry : ∀ r, n.entry? c r = some (k, resource r))
    (denied : ∀ e t', Ledger n before entries entries t' →
      (f (.error e)).Ensures (Hazards.any.rule files).traced s t'
        fun r _ t' => Entered n before entries k t' r)
    (created : ∀ r t', Ledger n before (entries ++ [(k, resource r)]) entries t' →
      (f (.ok r)).Ensures (Hazards.any.rule files).traced s t'
        fun r _ t' => Entered n before entries k t' r) :
    (Step.call ctx c >>= f).Ensures (Hazards.any.rule files).traced s t
      fun r _ t' => Entered n before entries k t' r := by
  rw [Step.ensures_bind]
  apply Step.ensures_call_traced
  · intro e _
    exact denied e _ h.push_same
  · intro r inv' _ hperform
    exact created r _ (h.push_created rfl hperform (hentry r))
  · intro _
    exact .unchanged h.push_same
  · intro _ _ r inv' _ hperform
    exact .unrecorded (h.push_created rfl hperform (hentry r))

/-- Recording what was created. If the reply is lost, it is recorded all the same. -/
theorem ensures_record {resource : JobResource}
    (h : Ledger n before (entries ++ [(k, resource)]) entries t)
    (hjob : resource.jobId = n.jobId) :
    (Step.need ctx doing (.recordResource resource)).Ensures (Hazards.any.rule files).traced s t
      fun r _ t' => Entered n before entries k t' r := by
  apply Step.ensures_need_traced
  · intro r inv' _ hperform
    exact .recorded (h.push_recorded hjob rfl hperform)
  · intro e _
    exact .unrecorded h.push_same
  · intro _
    exact .unrecorded h.push_same
  · intro _ _ r inv' _ hperform
    exact .recorded (h.push_recorded hjob rfl hperform)

end Ledger

end steps

/-! ## The activities -/

section activities

variable {n : NormalizedRequest} {settings : Settings} {before : List JobResource}
  {entries : List (ActivityKind × JobResource)} {t : Trace} {files : FileSystem} {ctx : Context}

/-- All that the compensation of the feed does is to undo. -/
theorem ChangeFeed.asksOnly_undoings (f : ChangeFeed) :
    (f.compensation ctx).AsksOnly Hazards.undoings :=
  Step.asksOnly_takeBack .dropFeed (fun _ => rfl) (by decide)

/-- All that the compensation of the database does is to undo. -/
theorem MetadataStore.asksOnly_undoings (d : MetadataStore) :
    (d.compensation ctx).AsksOnly Hazards.undoings :=
  Step.asksOnly_takeBack .dropDatabase (fun _ => rfl) (by decide)

/-- All that the compensation of the staging does is to undo. -/
theorem StagingStore.asksOnly_undoings (d : StagingStore) :
    (d.compensation ctx).AsksOnly Hazards.undoings :=
  Step.asksOnly_takeBack .deleteBucket (fun _ => rfl) (by decide)

/-- A feed that is created is recorded next, or the activity fails. -/
theorem ChangeFeed.ensures_entered {x : Output} (h : Ledger n before entries entries t) :
    ((n.catalog settings).changeFeed.transaction ctx).Ensures (Hazards.any.rule files).traced x t
      fun r _ t' => Entered n before entries .prepareChangeFeed t' r := by
  let f := (n.catalog settings).changeFeed
  have hvalidate : (f.validateExisting ctx).AsksOnly [.validateFeedOptions] := by
    refine Step.asksOnly_bind (Step.asksOnly_call .validateFeedOptions rfl (by decide)) fun r => ?_
    split
    next => exact Step.asksOnly_pure ()
    next => exact Step.asksOnly_throw _
    next => exact Step.asksOnly_throw _
  have hfound : ∀ {x' : Output} {t'}, Ledger n before entries entries t' →
      (f.validateExisting ctx).Ensures (Hazards.any.rule files).traced x' t'
        fun r _ t' => Entered n before entries .prepareChangeFeed t' r :=
    fun h' => Entered.ensures_then (.unchanged h') hvalidate (by decide)
  have hlook : (Step.need ctx "checking change stream" (.feedExists f.feedName) :
      Step Output Bool).AsksOnly [.feedExists] := Step.asksOnly_need .feedExists rfl (by decide)
  refine h.ensures_bind_quiet hlook (by decide) fun found x₁ t₁ h₁ => ?_
  cases found with
  | true => exact hfound h₁
  | false =>
    refine h₁.ensures_bind_call (fun _ => rfl) ?_ ?_
    · intro e t₂ h₂
      cases e with
      | alreadyExists => exact hfound h₂
      | _ => exact .unchanged h₂
    · intro _ t₂ h₂
      exact Entered.ensures_undoing f.asksOnly_undoings (h₂.ensures_record rfl)

/-- A database that is created is recorded next, or the activity fails. -/
theorem MetadataStore.ensures_entered {x : Output} (h : Ledger n before entries entries t) :
    ((n.catalog settings).metadataStore.transaction ctx).Ensures (Hazards.any.rule files).traced x t
      fun r _ t' => Entered n before entries .prepareMetadataStore t' r := by
  let d := (n.catalog settings).metadataStore
  have hlook : (Step.need ctx "checking metadata database" (.databaseExists d.databaseUri) :
      Step Output Bool).AsksOnly [.databaseExists] :=
    Step.asksOnly_need .databaseExists rfl (by decide)
  refine h.ensures_bind_quiet hlook (by decide) fun found x₁ t₁ h₁ => ?_
  cases found with
  | true => exact .unchanged h₁
  | false =>
    refine h₁.ensures_bind_call (fun _ => rfl) ?_ ?_
    · intro e t₂ h₂
      cases e <;> exact .unchanged h₂
    · intro _ t₂ h₂
      exact Entered.ensures_undoing d.asksOnly_undoings (h₂.ensures_record rfl)

/-- The bucket is undone if it cannot be recorded, or if a file cannot be staged. -/
theorem StagingStore.ensures_entered {x : Output} (h : Ledger n before entries entries t) :
    ((n.catalog settings).stagingStore.transaction ctx).Ensures (Hazards.any.rule files).traced x t
      fun r _ t' => Entered n before entries .prepareStagingStore t' r := by
  let d := (n.catalog settings).stagingStore
  have huploads : (do
      d.upload ctx d.sessionFilePath sessionObject
      d.upload ctx d.sourceConnectionConfig sourceConnectionObject :
      Step Output Unit).AsksOnly [.writeObject] :=
    Step.asksOnly_bind (d.asksOnly_upload (by decide) _ _) fun _ =>
      d.asksOnly_upload (by decide) _ _
  have hbucket : (d.ensureBucket ctx).Ensures (Hazards.any.rule files).traced x t
      fun r _ t' => Entered n before entries .prepareStagingStore t' r := by
    refine h.ensures_bind_call (fun _ => rfl) ?_ ?_
    · intro e t₁ h₁
      cases e <;> exact .unchanged h₁
    · intro _ t₁ h₁
      exact h₁.ensures_record rfl
  unfold transaction
  split
  next =>
    refine Entered.ensures_undoing d.asksOnly_undoings ?_
    unfold stage
    rw [Step.ensures_bind]
    refine hbucket.mono ?_
    rintro (e | u) x₁ t₁ hentered
    · exact hentered
    · exact hentered.ensures_then huploads (by decide)
  next => exact .unchanged h

/-- A pipeline that is launched is recorded next, or the activity fails. -/
theorem Pipeline.ensures_entered (role : PipelineRole) {x : Output}
    (h : Ledger n before entries entries t) :
    (((n.catalog settings).pipeline role).transaction ctx).Ensures
      (Hazards.any.rule files).traced x t
      fun r _ t' => Entered n before entries role.launcher t' r := by
  have hparameters : n.roleOf ((n.catalog settings).pipeline role).parameters = role :=
    NormalizedRequest.roleOf_parameters role
  have hkind : ((n.catalog settings).pipeline role).kind = role.resourceKind := by
    cases role <;> rfl
  have hjob : ((n.catalog settings).pipeline role).target.jobId = n.jobId := by cases role <;> rfl
  generalize (n.catalog settings).pipeline role = p at hparameters hkind hjob ⊢
  have hload : (Step.loadTuning ctx p.target.tuningPath : Step Output Tuning).AsksOnly
      [.readObject] := Step.asksOnly_loadTuning (by decide) _
  refine h.ensures_bind_quiet hload (by decide) fun tuning x₁ t₁ h₁ => ?_
  split
  next request hrequest =>
    have hlaunched : n.roleOf request.parameters = role := by
      rw [Launch.eq_ofTuning hrequest]
      exact hparameters
    have hfind : (do
        let running ← Step.need ctx ("launching pipeline " ++ request.jobName)
          (.findActive request.projectId request.location request.jobName)
        set (Output.ofLaunch request (running.getD "") false) :
        Step Output Unit).AsksOnly [.findActive] :=
      Step.asksOnly_bind (Step.asksOnly_need .findActive rfl (by decide)) fun _ =>
        Step.asksOnly_set _
    have hentry : ∀ id, n.entry? (.launch request) id =
        some (role.launcher, p.resource (Output.ofLaunch request id true)) := by
      intro id
      simp [NormalizedRequest.entry?, hlaunched, resource, Output.ofLaunch, hkind, hjob]
    refine h₁.ensures_bind_call hentry ?_ ?_
    · intro e t₂ h₂
      cases e with
      | alreadyExists => exact Entered.ensures_then (.unchanged h₂) hfind (by decide)
      | _ => exact .unchanged h₂
    · intro id t₂ h₂
      exact Entered.ensures_undoing (p.asksOnly_compensation (by decide)) (h₂.ensures_record hjob)
  next => exact .unchanged h₁

/-- What an activity enters. The first and the last one create nothing. -/
theorem Ledger.ensures_activity (h : Ledger n before entries entries t) (k : ActivityKind)
    (o : Outputs) :
    EnsuresFrom (Hazards.any.rule files).traced
      (((n.catalog settings).activity k).transaction ctx) o t
      fun r _ t' => Entered n before entries k t' r := by
  have hquiet : (∀ op ∈ k.operations, op ∉ booking) →
      EnsuresFrom (Hazards.any.rule files).traced
        (((n.catalog settings).activity k).transaction ctx) o t
        fun r _ t' => Entered n before entries k t' r := fun hops =>
    Plan.Ensures.mono (h.ensures_quiet ((n.catalog settings).asksOnly_transaction k o) hops)
      fun _ _ => .unchanged
  cases k with
  | registerJob => exact hquiet (by decide)
  | prepareStagingStore => exact Step.ensuresFrom_within.2 (StagingStore.ensures_entered h)
  | prepareChangeFeed => exact Step.ensuresFrom_within.2 (ChangeFeed.ensures_entered h)
  | prepareMetadataStore => exact Step.ensuresFrom_within.2 (MetadataStore.ensures_entered h)
  | launchReader => exact Step.ensuresFrom_within.2 (Pipeline.ensures_entered .reader h)
  | launchWriter => exact Step.ensuresFrom_within.2 (Pipeline.ensures_entered .writer h)
  | finalizeJob => exact hquiet (by decide)

/-- Compensating an activity leaves the ledger alone: what was recorded stays in the list. -/
theorem Ledger.ensures_compensation {made kept : List (ActivityKind × JobResource)}
    (h : Ledger n before made kept t) (c : Catalog) (k : ActivityKind) (o : Outputs) :
    EnsuresFrom (Hazards.any.rule files).traced ((c.activity k).compensation ctx) o t
      fun _ _ t' => Ledger n before made kept t' := by
  have hundo : ∀ {τ : Type} {part : Step.Part Outputs τ} {undo : Step τ Unit},
      undo.AsksOnly Hazards.undoings →
        EnsuresFrom (Hazards.any.rule files).traced (Step.within part undo) o t
          fun _ _ t' => Ledger n before made kept t' :=
    fun hundo => h.ensures_quiet (Step.asksOnly_within hundo o) (by decide)
  cases k with
  | registerJob => exact h.ensures_quiet (c.asksOnly_compensation .registerJob o) (by decide)
  | prepareStagingStore => exact hundo c.stagingStore.asksOnly_undoings
  | prepareChangeFeed => exact hundo c.changeFeed.asksOnly_undoings
  | prepareMetadataStore => exact hundo c.metadataStore.asksOnly_undoings
  | launchReader => exact hundo (c.reader.asksOnly_compensation (by decide))
  | launchWriter => exact hundo (c.writer.asksOnly_compensation (by decide))
  | finalizeJob => exact h.ensures_quiet (c.asksOnly_compensation .finalizeJob o) (by decide)

end activities

/-! ## The saga -/

/-- Everything that was created is recorded, in the order of the activities that are done. -/
def Balanced (n : NormalizedRequest) (before : List JobResource) (done : List ActivityKind)
    (t : Trace) : Prop :=
  ∃ entries, Ledger n before entries entries t ∧ (entries.map Prod.fst).Sublist done.reverse

/-- What was created need not be recorded. -/
def Unsettled (n : NormalizedRequest) (before : List JobResource) (t : Trace) : Prop :=
  ∃ made kept, Ledger n before made kept t ∧ (made.map Prod.fst).Sublist ActivityKind.all

section saga

variable {n : NormalizedRequest} {before : List JobResource} {done : List ActivityKind}
  {t : Trace} {k : ActivityKind}

/-- At first nothing is created. -/
theorem Balanced.begun (h : Ledger n before [] [] t) : Balanced n before [] t :=
  ⟨[], h, List.nil_sublist _⟩

/-- If everything is recorded, then what was created is so in the order of the activities. -/
theorem Balanced.unsettled (h : Balanced n before done t)
    (hdone : done.reverse <+: ActivityKind.all) : Unsettled n before t := by
  obtain ⟨entries, hledger, hordered⟩ := h
  exact ⟨entries, entries, hledger, hordered.trans hdone.sublist⟩

/-- What an activity enters stands after the entries of the activities that are done. -/
theorem Entered.ordered {entries : List (ActivityKind × JobResource)} {resource : JobResource}
    (h : (entries.map Prod.fst).Sublist done.reverse) :
    ((entries ++ [(k, resource)]).map Prod.fst).Sublist (k :: done).reverse := by
  rw [List.map_append, List.reverse_cons]
  exact h.append (List.Sublist.refl _)

/-- An activity that succeeds has recorded what it has created. -/
theorem Entered.balanced {entries : List (ActivityKind × JobResource)}
    (h : Entered n before entries k t (.ok ()))
    (hordered : (entries.map Prod.fst).Sublist done.reverse) : Balanced n before (k :: done) t := by
  cases h with
  | unchanged hledger =>
    refine ⟨entries, hledger, hordered.trans ?_⟩
    rw [List.reverse_cons]
    exact List.sublist_append_left _ _
  | recorded hledger => exact ⟨_, hledger, Entered.ordered hordered⟩

/-- However an activity ends, what was created is so in the order of the activities. -/
theorem Entered.unsettled {entries : List (ActivityKind × JobResource)}
    {r : Except ActivityError Unit} (h : Entered n before entries k t r)
    (hordered : (entries.map Prod.fst).Sublist done.reverse)
    (hnext : done.reverse ++ [k] <+: ActivityKind.all) : Unsettled n before t := by
  rw [← List.reverse_cons] at hnext
  have hentered : ∀ resource,
      ((entries ++ [(k, resource)]).map Prod.fst).Sublist ActivityKind.all :=
    fun _ => (Entered.ordered hordered).trans hnext.sublist
  cases h with
  | unchanged hledger =>
    have hdone : done.reverse <+: (k :: done).reverse := by
      rw [List.reverse_cons]
      exact List.prefix_append _ _
    exact ⟨entries, entries, hledger, hordered.trans (hdone.trans hnext).sublist⟩
  | recorded hledger => exact ⟨_, _, hledger, hentered _⟩
  | unrecorded hledger => exact ⟨_, _, hledger, hentered _⟩

/-- What is known of the ledger through a saga. -/
theorem Catalog.phases_of_ledger {settings : Settings} {files : FileSystem} {ctx : Context} :
    (n.catalog settings).Phases (Hazards.any.rule files).traced ctx
      (fun done _ t => Balanced n before done t) (fun _ _ t => Unsettled n before t)
      (fun _ _ t => Unsettled n before t) where
  checked := by
    rintro done o t seen t' ⟨⟨hsame, -⟩, hpush⟩ ⟨entries, hledger, hordered⟩
    rw [hpush, hsame]
    exact ⟨entries, hledger.push_same, hordered⟩
  halted := fun hnext hbalanced => hbalanced.unsettled ((List.prefix_append _ _).trans hnext)
  transacted := by
    rintro done k o t hnext ⟨entries, hledger, hordered⟩
    refine (hledger.ensures_activity k o).mono ?_
    rintro (e | u) o' t' hentered
    · exact hentered.unsettled hordered hnext
    · exact hentered.balanced hordered
  turned := id
  compensated := by
    rintro done k o t - - ⟨made, kept, hledger, hordered⟩
    refine (hledger.ensures_compensation (n.catalog settings) k o).mono ?_
    intro r o' t' hledger'
    exact ⟨made, kept, hledger', hordered⟩

end saga

/-- The ledger of a run. If the run succeeds, all that it has created is recorded. -/
theorem JobRequest.ensures_ledger {r : JobRequest} {run : RunId} {rollback : Bool}
    {settings : Settings} {startedAt : Instant} {files : FileSystem} {inv : Inventory}
    {location : String} (hlocation : ∀ found, r.Located run inv found → found = location) :
    (r.provision run rollback settings startedAt).Ensures (Hazards.any.rule files).traced ⟨inv, []⟩
      fun outcome t' => ∃ made kept,
        Ledger (r.fillAt run location) (inv.resourcesOf (r.fill run).jobId) made kept t' ∧
        (made.map Prod.fst).Sublist ActivityKind.all ∧
        ∀ p, outcome = .ok p → p.location = location ∧ kept = made := by
  have hbegun : Ledger (r.fillAt run location) (inv.resourcesOf (r.fill run).jobId) [] []
      ⟨inv, []⟩ := ⟨(List.append_nil _).symm, by simp, by simp, List.Sublist.refl _⟩
  apply ensures_provision_traced
  · intro v
    exact ⟨[], [], hbegun, List.nil_sublist _, nofun⟩
  · intro e reply
    exact ⟨[], [], hbegun.push_same, List.nil_sublist _, nofun⟩
  · intro found reply hlocated
    obtain rfl := hlocation found hlocated
    have hbalanced : Balanced (r.fillAt run found) (inv.resourcesOf (r.fill run).jobId) []
        (Trace.push ⟨inv, []⟩ (.call (.leaderLocation (r.fill run).targetInstance)) reply inv) :=
      .begun hbegun.push_same
    refine (Catalog.phases_of_ledger.ensures_execute rollback hbalanced).mono ?_
    rintro (e | executed) o t' hends
    · have hunsettled : Unsettled (r.fillAt run found) (inv.resourcesOf (r.fill run).jobId) t' := by
        cases rollback with
        | true => exact hends
        | false => exact hends.elim fun _ hfailed => hfailed
      obtain ⟨made, kept, hledger, hordered⟩ := hunsettled
      exact ⟨made, kept, hledger, hordered, nofun⟩
    · obtain ⟨entries, hledger, hordered⟩ := hends
      rw [List.reverse_reverse] at hordered
      refine ⟨entries, entries, hledger, hordered, fun p hp => ?_⟩
      cases hp
      exact ⟨rfl, rfl⟩

namespace DisturbedWorld

/-- Of every run, whether it succeeds or fails: the list of resources of its job is the one that was
there, followed by entries in the order of the activities, one for each resource that the run has
created and recorded. If it succeeds, that is every resource that it has created, and nothing that
it has found. -/
theorem provision_records {d : DisturbedWorld} (hwithin : d.Within .any) (r : JobRequest)
    (run : RunId) (rollback : Bool) (settings : Settings) (startedAt : Instant) :
    let ended := d.provision r run rollback settings startedAt
    let happened := events (r.provision run rollback settings startedAt) d
    let id := (r.fill run).jobId
    ∃ (location : String) (entries : List (ActivityKind × JobResource)),
      (∀ found, r.Located run d.inventory found → found = location) ∧
      ended.2.inventory.resourcesOf id = d.inventory.resourcesOf id ++ entries.map Prod.snd ∧
      (entries.map Prod.fst).Sublist ActivityKind.all ∧
      (∀ entry, entry ∈ entries ↔
        (∃ e ∈ happened, e.Creates (r.fillAt run location) entry) ∧
          ∃ e ∈ happened, e.Records entry.2) ∧
      ∀ p, ended.1 = .ok p → ∀ entry,
        entry ∈ entries ↔ ∃ e ∈ happened, e.Creates (r.fillAt run p.location) entry := by
  intro ended happened id
  obtain ⟨location, hlocation⟩ := r.exists_location run d.inventory
  obtain ⟨made, kept, hledger, hordered, hsuccess⟩ :=
    ensured_traced (JobRequest.ensures_ledger hlocation) (events_keep hwithin)
  refine ⟨location, kept, hlocation, hledger.listed, ?_, fun _ => hledger.mem_kept_iff, ?_⟩
  · exact (hledger.sublist.map Prod.fst).trans hordered
  · intro p hp entry
    obtain ⟨rfl, rfl⟩ := hsuccess p hp
    exact (hledger.created entry).symm

/-- The metadata database was there before, so it is not recorded, and all else is. -/
theorem provision_records_of_database :
    let before := Sample.inventory.insertDatabase
      "projects/p1/instances/inst/databases/smt-rr-metadata-abc"
    let ended := Sample.run before []
    let happened := events (Sample.request.provision "abc" true Sample.settings .epoch)
      (Sample.world before [])
    (ended.2.inventory.resourcesOf "smt-job-abc").map JobResource.kind =
        [.stagingBucket, .changeFeed, .readerPipeline, .writerPipeline] ∧
      ∃ p, ended.1 = .ok p ∧ ∀ entry,
        (∃ e ∈ happened, e.Creates (Sample.request.fillAt "abc" p.location) entry) →
          entry.2.kind ≠ .metadataDatabase := by
  intro before ended happened
  have hkinds : (ended.2.inventory.resourcesOf "smt-job-abc").map JobResource.kind =
      [.stagingBucket, .changeFeed, .readerPipeline, .writerPipeline] := by decide +kernel
  obtain ⟨p, hp⟩ : ∃ p, ended.1 = .ok p := Sample.exists_of_toBool (by decide +kernel)
  have hwithin : (Sample.world before []).Within .any := Sample.within_nil before
  obtain ⟨location, entries, -, hlisted, -, -, hcreated⟩ :=
    provision_records hwithin Sample.request "abc" true Sample.settings .epoch
  refine ⟨hkinds, p, hp, fun entry hcreates hkind => ?_⟩
  have hentry : entry ∈ entries := (hcreated p hp entry).2 hcreates
  have hrecorded : entry.2 ∈ ended.2.inventory.resourcesOf "smt-job-abc" := by
    change ended.2.inventory.resourcesOf "smt-job-abc" = _ at hlisted
    rw [hlisted]
    exact List.mem_append_right _ (List.mem_map_of_mem hentry)
  have hlist := List.mem_map_of_mem (f := JobResource.kind) hrecorded
  rw [hkinds, hkind] at hlist
  revert hlist
  decide

end DisturbedWorld

end ReverseReplication
