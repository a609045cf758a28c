import ReverseReplication.Proofs.Dependence.Operations
import ReverseReplication.Proofs.Events
import ReverseReplication.Proofs.Ownership.Pipelines
import ReverseReplication.Proofs.Request

/-!
# The calls that a run makes

`Plan.Calls good` says that all calls of a plan are `good` ones, however its queries are answered;
so the events of every run of the plan are (`Plan.Calls.events`). Unlike `Plan.AsksOnly` it looks at
the arguments of the calls.

A run writes objects only for files that are not hosted, and gives its launches the parameters of
its pipelines (`JobRequest.Sends`, `JobRequest.calls_provision`).
-/

namespace ReverseReplication

variable {α β σ τ : Type} {good : Call → Prop}

/-! ## Plans, steps and sagas -/

namespace Plan

/-- All calls of a plan are good, whatever it is answered. -/
def Calls (good : Call → Prop) : Plan α → Prop
  | .done _ => True
  | .ask q next => (∀ c, q.call? = some c → good c) ∧ ∀ answer, (next answer).Calls good

/-- Two plans one after the other make only good calls if both do. -/
theorem calls_bind {p : Plan α} {f : α → Plan β} (hp : p.Calls good) (hf : ∀ a, (f a).Calls good) :
    (p >>= f).Calls good := by
  show (p.bind f).Calls good
  induction p with
  | done a => exact hf a
  | ask q next ih => exact ⟨hp.1, fun answer => ih answer (hp.2 answer)⟩

/-- A plan makes good calls if all calls of its operations are good. -/
theorem AsksOnly.calls {ops : List Operation} {p : Plan α} (hp : p.AsksOnly ops)
    (hops : ∀ c : Call, c.operation ∈ ops → good c) : p.Calls good := by
  induction p with
  | done a => trivial
  | ask q next ih => exact ⟨fun c hc => hops c (hp.1 c hc), fun answer => ih answer (hp.2 answer)⟩

/-- The calls of a run of the plan are those of the plan. -/
theorem Calls.events {p : Plan α} (hp : p.Calls good) (d : DisturbedWorld) :
    ∀ e ∈ DisturbedWorld.events p d, ∀ c, e.query.call? = some c → good c := by
  induction p generalizing d with
  | done a =>
    intro e he
    cases he
  | ask q next ih =>
    intro e he
    rcases List.mem_cons.1 he with rfl | hrest
    · exact hp.1
    · exact ih _ (hp.2 _) _ e hrest

end Plan

namespace Step

variable {ctx : Context} {c : Call} {doing : String}

/-- All calls of a step are good, whatever its output is at first. -/
def Calls (good : Call → Prop) (x : Step σ α) : Prop := ∀ s, (x.run.run s).Calls good

/-- Calls are good if all calls of their operations are. -/
theorem AsksOnly.calls {ops : List Operation} {x : Step σ α} (hx : x.AsksOnly ops)
    (hops : ∀ c : Call, c.operation ∈ ops → good c) : x.Calls good :=
  fun s => (hx s).calls hops

/-- A step that makes no calls. -/
theorem AsksOnly.calls_nil {x : Step σ α} (hx : x.AsksOnly []) : x.Calls good :=
  hx.calls fun _ hmem => nomatch hmem

/-- Two steps one after the other make only good calls if both do. -/
theorem calls_bind {x : Step σ α} {f : α → Step σ β} (hx : x.Calls good)
    (hf : ∀ a, (f a).Calls good) : (x >>= f).Calls good := by
  intro s
  rw [ExceptT.run_bind, StateT.run_bind]
  refine Plan.calls_bind (hx s) ?_
  rintro ⟨e | a, s'⟩
  · exact trivial
  · exact hf a s'

/-- So do a step and what is done when it fails. -/
theorem calls_tryCatch {x : Step σ α} {f : ActivityError → Step σ α} (hx : x.Calls good)
    (hf : ∀ e, (f e).Calls good) : (tryCatch x f : Step σ α).Calls good := by
  intro s
  change ((ExceptT.tryCatch x f).run.run s).Calls good
  unfold ExceptT.tryCatch ExceptT.run ExceptT.mk
  rw [StateT.run_bind]
  refine Plan.calls_bind (hx s) ?_
  rintro ⟨e | a, s'⟩
  · exact hf e s'
  · exact trivial

/-- So do a step and the one that undoes it. -/
theorem calls_undoing {undo : Step σ Unit} {x : Step σ α} (hundo : undo.Calls good)
    (hx : x.Calls good) : (undoing undo x).Calls good := by
  refine calls_tryCatch hx fun e => calls_bind ?_ fun _ => (asksOnly_throw e).calls_nil
  exact calls_tryCatch hundo fun _ => (asksOnly_pure ()).calls_nil

/-- A good call is good. -/
theorem calls_call (hc : good c) : (call ctx c : Step σ _).Calls good := by
  refine calls_bind (fun s => ⟨?_, fun _ => trivial⟩) fun a => (asksOnly_orCancelled a).calls_nil
  intro c' hc'
  cases hc'
  exact hc

/-- So is one that has to succeed. -/
theorem calls_need (hc : good c) : (need ctx doing c : Step σ _).Calls good := by
  refine calls_bind (calls_call hc) ?_
  rintro (e | reply)
  · exact (asksOnly_throw _).calls_nil
  · exact (asksOnly_pure reply).calls_nil

end Step

namespace Saga

/-- All calls of an activity are good, when it is carried out and when it is undone. -/
structure Calls (good : Call → Prop) (a : Activity (StateT σ Plan)) : Prop where
  transaction : ∀ ctx s, ((a.transaction ctx).run s).Calls good
  compensation : ∀ ctx s, ((a.compensation ctx).run s).Calls good

variable {rollback : Bool}

/-- Attempting an activity makes only good calls if the activity does. -/
theorem calls_attempt {a : Activity (StateT σ Plan)} (ha : Calls good a) (ctx : Context) (s : σ) :
    ((attempt ctx a).run s).Calls good := by
  unfold attempt
  rw [StateT.run_bind]
  refine Plan.calls_bind ⟨fun c hc => (nomatch hc), fun _ => trivial⟩ ?_
  rintro ⟨_ | _, s'⟩
  · exact ha.transaction ctx s'
  · exact trivial

/-- Compensating activities makes only good calls if all of them do. -/
theorem calls_compensate {done : List (Activity (StateT σ Plan))}
    (hdone : ∀ a ∈ done, Calls good a) (ctx : Context) (s : σ) :
    ((compensate ctx done).run s).Calls good := by
  induction done generalizing s with
  | nil => exact trivial
  | cons a earlier ih =>
    rw [compensate, StateT.run_bind]
    refine Plan.calls_bind ((hdone a List.mem_cons_self).compensation ctx s) fun undone => ?_
    rw [StateT.run_bind]
    refine Plan.calls_bind (ih (fun b hb => hdone b (List.mem_cons_of_mem a hb)) _) ?_
    rintro ⟨failures, s'⟩
    cases undone.1 with
    | ok u => exact trivial
    | error e => exact trivial

/-- A saga makes only good calls if all its activities do. -/
theorem calls_executeFrom {done rest : List (Activity (StateT σ Plan))}
    (hdone : ∀ a ∈ done, Calls good a) (hrest : ∀ a ∈ rest, Calls good a) (ctx : Context) (s : σ) :
    ((executeFrom rollback ctx done rest).run s).Calls good := by
  induction rest generalizing done s with
  | nil => exact trivial
  | cons a rest ih =>
    have ha := hrest a List.mem_cons_self
    rw [executeFrom, StateT.run_bind]
    refine Plan.calls_bind (calls_attempt ha ctx s) ?_
    rintro ⟨cause | u, s'⟩
    · cases rollback with
      | false => exact trivial
      | true =>
        exact Plan.calls_bind (calls_compensate hdone ctx.detach s') fun _ => trivial
    · refine ih (fun b hb => ?_) (fun b hb => hrest b (List.mem_cons_of_mem a hb)) s'
      rcases List.mem_cons.1 hb with rfl | hb
      · exact ha
      · exact hdone b hb

end Saga

/-! ## Activities

Only the staging of files writes objects, and only the activities of the pipelines launch. All other
operations are free (`Operation.Free`). -/

section activities

/-- An operation that neither writes an object nor launches a pipeline. -/
def Operation.Free (op : Operation) : Prop := op ≠ .writeObject ∧ op ≠ .launch

instance (op : Operation) : Decidable op.Free := inferInstanceAs (Decidable (_ ∧ _))

/-- Calls of free operations are good, if a list has no others. -/
theorem good_of_free (hfree : ∀ c : Call, c.operation.Free → good c) (ops : List Operation)
    (hops : ∀ op ∈ ops, op.Free) (c : Call) (hc : c.operation ∈ ops) : good c :=
  hfree c (hops _ hc)

variable {ctx : Context} (hfree : ∀ c : Call, c.operation.Free → good c)

include hfree

/-- The staging activity makes good calls if its uploads are good. -/
theorem StagingStore.calls_transaction (s : StagingStore)
    (hwrite : s.stagingRequired = true → ∀ file object contents, s.Uploads file object →
      isHosted file = false → good (.writeObject s.bucketName object contents)) :
    (s.transaction ctx).Calls good := by
  have hbucket : (s.ensureBucket ctx).Calls good := by
    refine Step.calls_bind (Step.calls_call (hfree _ ⟨nofun, nofun⟩)) fun reply => ?_
    split
    next =>
      refine Step.calls_bind (Step.asksOnly_modify _).calls_nil fun _ => ?_
      exact Step.calls_need (hfree _ ⟨nofun, nofun⟩)
    next => exact (Step.asksOnly_pure ()).calls_nil
    next => exact (Step.asksOnly_throw _).calls_nil
  unfold transaction
  split
  next hrequired =>
    have hupload : ∀ file object, s.Uploads file object →
        (s.upload ctx file object).Calls good := by
      intro file object huploads
      unfold upload
      split
      next hlocal =>
        refine Step.calls_bind Step.asksOnly_readFile.calls_nil fun contents => ?_
        refine Step.calls_bind (Step.calls_need ?_) fun _ => (Step.asksOnly_modify _).calls_nil
        exact hwrite hrequired file object contents huploads (Bool.not_eq_true' _ ▸ hlocal)
      next => exact (Step.asksOnly_pure ()).calls_nil
    refine Step.calls_undoing ?_ (Step.calls_bind hbucket fun _ => ?_)
    · refine Step.AsksOnly.calls ?_ (good_of_free hfree [.deleteBucket] (by decide))
      exact Step.asksOnly_takeBack .deleteBucket (fun _ => rfl) (by decide)
    · exact Step.calls_bind (hupload _ _ (.inl ⟨rfl, rfl⟩)) fun _ =>
        hupload _ _ (.inr ⟨rfl, rfl⟩)
  next => exact (Step.asksOnly_pure ()).calls_nil

/-- The activity of a pipeline makes good calls if its launches are good. -/
theorem Pipeline.calls_transaction (p : Pipeline)
    (hlaunch : ∀ request : Launch, request.parameters = p.parameters → good (.launch request)) :
    (p.transaction ctx).Calls good := by
  refine Step.calls_bind ((Step.asksOnly_loadTuning (by decide) _).calls
    (good_of_free hfree [.readObject] (by decide))) fun tuning => ?_
  split
  next request hmake =>
    have hparameters : request.parameters = p.parameters := by
      rw [Launch.eq_ofTuning hmake]
      rfl
    refine Step.calls_bind (Step.calls_call (hlaunch request hparameters)) fun reply => ?_
    split
    next =>
      refine Step.calls_bind (Step.asksOnly_set _).calls_nil fun _ => ?_
      refine Step.calls_bind Step.asksOnly_get.calls_nil fun o => Step.calls_undoing ?_ ?_
      · exact (p.asksOnly_compensation (by decide)).calls
          (good_of_free hfree [.cancel] (by decide))
      · exact Step.calls_need (hfree _ ⟨nofun, nofun⟩)
    next =>
      refine Step.calls_bind (Step.calls_need (hfree _ ⟨nofun, nofun⟩)) fun running => ?_
      exact (Step.asksOnly_set _).calls_nil
    next => exact (Step.asksOnly_throw _).calls_nil
  next => exact (Step.asksOnly_throw _).calls_nil

/-- All activities of a catalog make good calls if the uploads and the launches are good. -/
theorem Catalog.calls_activity (c : Catalog)
    (hwrite : c.stagingStore.stagingRequired = true → ∀ file object contents,
      c.stagingStore.Uploads file object → isHosted file = false →
        good (.writeObject c.stagingStore.bucketName object contents))
    (hlaunch : ∀ role (request : Launch), request.parameters = (c.pipeline role).parameters →
      good (.launch request))
    (k : ActivityKind) : Saga.Calls good (c.activity k) where
  transaction ctx s := by
    have hrest : (∀ op ∈ k.operations, op.Free) →
        (((c.activity k).transaction ctx).run s).Calls good :=
      fun hops => (c.asksOnly_transaction k s).calls (good_of_free hfree _ hops)
    cases k with
    | prepareStagingStore =>
      exact Plan.calls_bind (c.stagingStore.calls_transaction hfree hwrite _) fun _ => trivial
    | launchReader =>
      exact Plan.calls_bind (c.reader.calls_transaction hfree (hlaunch .reader) _) fun _ => trivial
    | launchWriter =>
      exact Plan.calls_bind (c.writer.calls_transaction hfree (hlaunch .writer) _) fun _ => trivial
    | registerJob => exact hrest (by decide)
    | prepareChangeFeed => exact hrest (by decide)
    | prepareMetadataStore => exact hrest (by decide)
    | finalizeJob => exact hrest (by decide)
  compensation ctx s := by
    cases k with
    | prepareStagingStore =>
      refine Plan.AsksOnly.calls ?_ (good_of_free hfree [.deleteBucket] (by decide))
      exact Step.asksOnly_within (Step.asksOnly_takeBack .deleteBucket (fun _ => rfl) (by decide)) s
    | launchReader =>
      exact (Step.asksOnly_within (c.reader.asksOnly_compensation (by decide)) s).calls
        (good_of_free hfree [.cancel] (by decide))
    | launchWriter =>
      exact (Step.asksOnly_within (c.writer.asksOnly_compensation (by decide)) s).calls
        (good_of_free hfree [.cancel] (by decide))
    | registerJob =>
      exact (c.asksOnly_compensation .registerJob s).calls (good_of_free hfree _ (by decide))
    | prepareChangeFeed =>
      exact (c.asksOnly_compensation .prepareChangeFeed s).calls (good_of_free hfree _ (by decide))
    | prepareMetadataStore =>
      exact (c.asksOnly_compensation .prepareMetadataStore s).calls
        (good_of_free hfree _ (by decide))
    | finalizeJob =>
      exact (c.asksOnly_compensation .finalizeJob s).calls (good_of_free hfree _ (by decide))

end activities

/-! ## Runs -/

/-- The location does not enter the parameters. -/
theorem NormalizedRequest.parameters_withLocation (n : NormalizedRequest) (location : String)
    (settings : Settings) (role : PipelineRole) :
    ((({ n with location } : NormalizedRequest).catalog settings).pipeline role).parameters =
      ((n.catalog settings).pipeline role).parameters := by
  cases role with
  | reader =>
    show ({ n with location } : NormalizedRequest).readerParameters = n.readerParameters
    unfold readerParameters
    rfl
  | writer =>
    show ({ n with location } : NormalizedRequest).writerParameters = n.writerParameters
    unfold writerParameters
    rfl

/-- A file that the pipelines of a run read. -/
inductive InputFile where
  | session
  | sourceConnection
  deriving DecidableEq, Repr

namespace InputFile

/-- The caller's path of the file. -/
def path (r : JobRequest) : InputFile → String
  | .session => r.sessionFilePath
  | .sourceConnection => r.sourceConnectionConfig

/-- The object that the file is staged as. -/
def object : InputFile → String
  | .session => sessionObject
  | .sourceConnection => sourceConnectionObject

/-- The parameter that tells the pipelines where the file is. -/
def parameter : InputFile → String
  | .session => "sessionFilePath"
  | .sourceConnection => "sourceShardsFilePath"

/-- The two files have different objects. -/
theorem object_injective {file file' : InputFile} (h : file.object = file'.object) :
    file = file' := by
  cases file <;> cases file' <;> first | rfl | exact absurd h (by decide)

end InputFile

namespace JobRequest

/-- What a run writes and launches: objects for files that are not hosted, and pipelines with the
parameters of its own. -/
def Sends (r : JobRequest) (run : RunId) (settings : Settings) : Call → Prop
  | .writeObject bucket object _ => bucket = stagingBucketOf run ∧
    ∃ file : InputFile, isHosted (file.path r) = false ∧ object = file.object
  | .launch request =>
    ∃ role, request.parameters = (((r.fill run).catalog settings).pipeline role).parameters
  | _ => True

/-- A run may make any call of an operation that is free. -/
theorem sends_of_free (r : JobRequest) (run : RunId) (settings : Settings) (c : Call)
    (hc : c.operation.Free) : r.Sends run settings c := by
  cases c with
  | writeObject bucket object contents => exact absurd rfl hc.1
  | launch request => exact absurd rfl hc.2
  | _ => trivial

/-- All calls of a run are such. -/
theorem calls_provision (r : JobRequest) (run : RunId) (rollback : Bool) (settings : Settings)
    (startedAt : Instant) :
    (r.provision run rollback settings startedAt).Calls (r.Sends run settings) := by
  have hactivity : ∀ location k,
      Saga.Calls (r.Sends run settings)
        (((r.fillAt run location).catalog settings).activity k) := by
    intro location k
    refine Catalog.calls_activity (r.sends_of_free run settings) _ ?_ ?_ k
    · intro hrequired file object contents huploads hlocal
      refine ⟨if_pos hrequired, ?_⟩
      rcases huploads with ⟨rfl, rfl⟩ | ⟨rfl, rfl⟩
      · exact ⟨.session, hlocal, rfl⟩
      · exact ⟨.sourceConnection, hlocal, rfl⟩
    · intro role request hparameters
      exact ⟨role, hparameters.trans
        ((r.fill run).parameters_withLocation location settings role)⟩
  have hsaga : ∀ location, ((r.fillAt run location).provision rollback settings startedAt).Calls
      (r.Sends run settings) := by
    intro location
    refine Plan.calls_bind (Saga.calls_executeFrom ?_ ?_ _ _) fun _ => trivial
    · intro a ha
      cases ha
    · intro a ha
      obtain ⟨k, -, rfl⟩ := List.mem_map.1 ha
      exact hactivity location k
  unfold provision locate normalize
  cases r.violation? with
  | some v => exact trivial
  | none =>
    refine ⟨fun c hc => ?_, fun reply => ?_⟩
    · cases hc
      trivial
    · show Plan.Calls _ (Plan.bind (.done _) _)
      rw [Plan.bind]
      cases checkLocation (r.fill run).targetInstance reply with
      | error e => exact trivial
      | ok location => exact Plan.calls_bind (hsaga location) fun _ => trivial

end JobRequest

end ReverseReplication
