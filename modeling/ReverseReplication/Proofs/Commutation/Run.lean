import ReverseReplication.Proofs.Commutation.Activities

/-!
# Independent runs commute

Two runs are `Errand.Independent` if they have different run ids, and no feed, metadata database or
pipeline name in common. In calm, and with tuning from local files, it does not matter which of them
comes first: each answers the same, but for the ids of pipeline jobs, and what they leave behind is
the same, but for these ids and for when job records were created
(`DisturbedWorld.execute_commutes`).

The run that comes second finds all that is outside the footprint of the first as it was, and reads
nothing else. So both executions of it keep inventories that look the same outside that footprint.
-/

namespace ReverseReplication

open Inventory (SameAt Mirrored AgreesOutside)

/-! ## Two runs -/

/-- A run to be carried out. -/
structure Errand where
  request : JobRequest
  run : RunId
  /-- Are the activities of the run taken back if one fails? -/
  rollback : Bool
  settings : Settings

namespace Errand

/-- The change feed of the run. -/
def feed (e : Errand) : FeedName :=
  ⟨(e.request.fill e.run).targetDatabase, (e.request.fill e.run).request.changeStreamName⟩

/-- The metadata database of the run. -/
def database (e : Errand) : String := (e.request.fill e.run).metadataDatabase

/-- The names that the tuning of its pipelines resolves to. -/
def Names (e : Errand) (files : FileSystem) (before : Inventory) : String → Prop :=
  ((e.request.fill e.run).catalog e.settings).Names files before

/-- The keys of the run. -/
def footprint (e : Errand) (files : FileSystem) (before : Inventory) : Footprint :=
  e.request.footprint e.run e.settings files before

/-- The tuning of its pipelines is in local files. -/
structure TunedLocally (e : Errand) : Prop where
  reader : isHosted e.request.readerConfig = false
  writer : isHosted e.request.writerConfig = false

/-- The runs have nothing in common. -/
structure Independent (files : FileSystem) (before : Inventory) (a b : Errand) : Prop where
  runs : a.run ≠ b.run
  feeds : a.feed ≠ b.feed
  databases : a.database ≠ b.database
  pipelines : ∀ name, a.Names files before name → ¬b.Names files before name

end Errand

/-- Carries out a run. -/
def DisturbedWorld.execute (d : DisturbedWorld) (e : Errand) (startedAt : Instant) :
    Except RunError Provisioned × DisturbedWorld :=
  d.provision e.request e.run e.rollback e.settings startedAt

/-- The world is in calm, and the managers hold what they were left with. The clock may have gone
on. -/
structure DisturbedWorld.Finds (files : FileSystem) (left : Inventory) (d : DisturbedWorld) :
    Prop where
  within : d.Within .calm
  files : d.world.files = files
  inventory : ∃ stamp, d.inventory = { left with stamp }

/-- The inventories hold the same, but for the ids of pipeline jobs and for when job records were
created. -/
structure Inventory.SameUpToIds (inv inv' : Inventory) : Prop where
  buckets : inv'.buckets = inv.buckets
  objects : inv'.objects = inv.objects
  feeds : inv'.feeds = inv.feeds
  databases : inv'.databases = inv.databases
  running : ∀ name, inv'.running.contains name = inv.running.contains name
  jobs : ∀ id, (inv'.jobs.get? id).map JobRecord.undated = (inv.jobs.get? id).map JobRecord.undated
  resources : ∀ id, (inv'.resourcesOf id).map JobResource.withoutId =
    (inv.resourcesOf id).map JobResource.withoutId

/-! ## What a run does not touch -/

/-- The keys outside a footprint. -/
def Footprint.others (own : Footprint) : Footprint where
  bucket name := ¬own.bucket name
  object path := ¬own.object path
  feed f := ¬own.feed f
  database uri := ¬own.database uri
  job id := ¬own.job id
  pipeline name := ¬own.pipeline name

/-- Inventories that agree outside a footprint hold the same at the keys outside. -/
theorem Inventory.AgreesOutside.sameAt {own : Footprint} {before after : Inventory}
    (h : AgreesOutside own before after) : SameAt own.others before after where
  located uri := by rw [Inventory.location?, Inventory.location?, h.defaultLocation, h.locations]
  jobs id hid := congrArg _ (h.jobs id hid)
  resources id hid := by
    unfold Inventory.resourcesOf
    rw [h.resources id hid]
  buckets := h.buckets
  objects := h.objects
  feeds := h.feeds
  databases := h.databases
  running name hname := by rw [Table.contains, Table.contains, h.running name hname]

/-- Footprints without a key in common. -/
structure Footprint.Disjoint (own own' : Footprint) : Prop where
  bucket : ∀ name, own.bucket name → ¬own'.bucket name
  object : ∀ path, own.object path → ¬own'.object path
  feed : ∀ f, own.feed f → ¬own'.feed f
  database : ∀ uri, own.database uri → ¬own'.database uri
  job : ∀ id, own.job id → ¬own'.job id
  pipeline : ∀ name, own.pipeline name → ¬own'.pipeline name

/-- What holds of the keys outside either of two disjoint sets of keys holds of all. -/
theorem forall_of_disjoint {κ : Type} {own own' good : κ → Prop}
    (hdisjoint : ∀ k, own k → ¬own' k) (h : ∀ k, ¬own k → good k) (h' : ∀ k, ¬own' k → good k)
    (k : κ) : good k := by
  by_cases hk : own k
  · exact h' k (hdisjoint k hk)
  · exact h k hk

/-- What is the same outside either of two disjoint footprints is the same everywhere. -/
theorem Inventory.SameAt.sameUpToIds {own own' : Footprint} {inv inv' : Inventory}
    (hdisjoint : own.Disjoint own') (h : SameAt own.others inv inv')
    (h' : SameAt own'.others inv inv') : inv.SameUpToIds inv' where
  buckets := Table.ext_get? (forall_of_disjoint hdisjoint.bucket h.buckets h'.buckets)
  objects := Table.ext_get? (forall_of_disjoint hdisjoint.object h.objects h'.objects)
  feeds := Table.ext_get? (forall_of_disjoint hdisjoint.feed h.feeds h'.feeds)
  databases := Table.ext_get? (forall_of_disjoint hdisjoint.database h.databases h'.databases)
  running := forall_of_disjoint hdisjoint.pipeline h.running h'.running
  jobs := forall_of_disjoint hdisjoint.job h.jobs h'.jobs
  resources := forall_of_disjoint hdisjoint.job h.resources h'.resources

/-! ## Footprints of runs that are tuned locally -/

/-- A local tuning file names the job whatever the objects are. -/
theorem Pipeline.jobName?_of_local {p : Pipeline} (h : isHosted p.target.tuningPath = false)
    (files : FileSystem) (objects objects' : ObjectPath → Option Text.Bytes) :
    p.jobName? files objects = p.jobName? files objects' := by
  simp only [jobName?, tuningAt?, tuningFile?, h]
  rfl

namespace Errand

variable {files : FileSystem} {before before' : Inventory} {a b e : Errand}

/-- It does not matter which of two independent runs is named first. -/
theorem Independent.symm (h : Independent files before a b) : Independent files before b a where
  runs := h.runs.symm
  feeds := h.feeds.symm
  databases := h.databases.symm
  pipelines name hb ha := h.pipelines name ha hb

/-- Tuned locally, no pipeline of the run reads a hosted tuning. -/
theorem TunedLocally.tuningPath (h : e.TunedLocally) (location : String) (role : PipelineRole) :
    isHosted ((e.request.catalogAt e.run e.settings location).pipeline role).target.tuningPath =
      false := by
  cases role with
  | reader => exact h.reader
  | writer => exact h.writer

/-- The keys of a run that is tuned locally do not depend on what the managers hold. -/
theorem TunedLocally.footprint_eq (h : e.TunedLocally) (files : FileSystem)
    (before before' : Inventory) : e.footprint files before = e.footprint files before' := by
  have hnames : e.Names files before = e.Names files before' := by
    funext name
    refine propext (exists_congr fun role => ?_)
    have hpath : isHosted (((e.request.fill e.run).catalog e.settings).pipeline
        role).target.tuningPath = false := h.tuningPath "" role
    rw [Pipeline.jobName?_of_local hpath]
  unfold Errand.footprint JobRequest.footprint
  exact congrArg (Footprint.mk _ _ _ _ _) hnames

/-- Runs that are independent have footprints without a key in common. -/
theorem Independent.disjoint (h : Independent files before a b) :
    (a.footprint files before).Disjoint (b.footprint files before) where
  bucket name := by
    rintro ⟨-, rfl⟩ ⟨-, hsame⟩
    exact h.runs (stagingBucketOf_injective hsame)
  object path := by
    rintro ⟨-, hbucket, -⟩ ⟨-, hbucket', -⟩
    exact h.runs (stagingBucketOf_injective (hbucket.symm.trans hbucket'))
  feed f := by
    rintro rfl hsame
    exact h.feeds hsame
  database uri := by
    rintro rfl hsame
    exact h.databases hsame
  job id := by
    rintro rfl hsame
    exact h.runs (jobIdOf_injective hsame)
  pipeline := h.pipelines

/-- A run stays outside the footprint of a run that is independent of it. -/
theorem Independent.confined (h : Independent files before a b) (ha : a.TunedLocally)
    (location : String) :
    (a.request.catalogAt a.run a.settings location).Confined files
      (b.footprint files before).others where
  registered := h.disjoint.job _ rfl
  completed := h.disjoint.job _ rfl
  bucket := by
    rintro ⟨-, hsame⟩
    have hbucket : (a.request.stagingBucket a.run) = stagingBucketOf b.run := hsame
    unfold JobRequest.stagingBucket at hbucket
    split at hbucket
    next => exact h.runs (stagingBucketOf_injective hbucket)
    next => exact stagingBucketOf_ne_empty _ hbucket.symm
  feed := h.disjoint.feed _ rfl
  database := h.disjoint.database _ rfl
  kind role := by
    cases role with
    | reader => rfl
    | writer => rfl
  tuning := ha.tuningPath location
  pipeline role name objects hname := by
    have hnames : (a.request.catalogAt a.run a.settings location).Names files before name := by
      refine ⟨role, ?_⟩
      rw [Pipeline.jobName?_of_local (ha.tuningPath location role) files _ objects, hname]
    exact h.pipelines name ((names_withLocation _ location a.settings files before name).1 hnames)

end Errand

/-! ## One run after different others -/

section Alike

variable {files : FileSystem} {own : Footprint} {start start' : Inventory} {r : JobRequest}
  {run : RunId} {settings : Settings} (startedAt startedAt' : Instant)

/-- Like outputs name the same pipeline, apart from its id. -/
theorem Pipeline.Output.Like.withoutId_running {o o' : Pipeline.Output}
    (h : o.Like start start' o') : o'.running.withoutId = o.running.withoutId := by
  rw [h.same]
  rfl

/-- What is answered of like outputs is the same, apart from the ids of pipeline jobs. -/
theorem Outputs.Like.withoutIds_provisioned {o o' : Outputs} (h : o.Like start start' o')
    (n : NormalizedRequest) (executed : Nat) :
    (n.provisioned o' executed).withoutIds = (n.provisioned o executed).withoutIds := by
  unfold Provisioned.withoutIds NormalizedRequest.provisioned
  dsimp only
  have hreader : o'.reader.running.withoutId = o.reader.running.withoutId :=
    (h.pipeline .reader).withoutId_running
  have hwriter : o'.writer.running.withoutId = o.writer.running.withoutId :=
    (h.pipeline .writer).withoutId_running
  rw [hreader, hwriter]

/-- The location of an instance is looked up in the same way. -/
theorem JobRequest.alike_locate :
    Plan.Alike files (Mirrored own start start')
      (fun result result' => result = result' ∧
        ∀ n, result = .ok n → ∃ location, n = r.fillAt run location)
      (r.locate run) (r.locate run) := by
  unfold locate normalize
  cases r.violation? with
  | some v => exact Plan.alike_pure ⟨rfl, fun n h => nomatch h⟩
  | none =>
    have hlookup : Plan.Alike files (Mirrored own start start') Eq
        (Plan.query (.call (.leaderLocation (r.fill run).targetInstance)))
        (Plan.query (.call (.leaderLocation (r.fill run).targetInstance))) := by
      intro inv inv' h
      obtain ⟨hreply, hmirrored⟩ := Inventory.Mirrored.served_leaderLocation _ inv inv' h
      exact ⟨hreply.eq, hmirrored⟩
    refine Plan.alike_bind hlookup ?_
    rintro reply _ rfl
    refine Plan.alike_pure ⟨rfl, fun n hn => ?_⟩
    cases hlocation : checkLocation (r.fill run).targetInstance reply with
    | error e =>
      rw [hlocation] at hn
      cases hn
    | ok location =>
      rw [hlocation] at hn
      cases hn
      exact ⟨location, rfl⟩

/-- The part of a run behind the look-up answers the same on inventories that look the same to it,
apart from the ids of pipeline jobs. -/
theorem NormalizedRequest.alike_provision {n : NormalizedRequest} (rollback : Bool)
    (h : (n.catalog settings).Confined files own) :
    Plan.Alike files (Mirrored own start start')
      (fun answer answer' => answer'.map Provisioned.withoutIds = answer.map Provisioned.withoutIds)
      (n.provision rollback settings startedAt) (n.provision rollback settings startedAt') := by
  have hlike : Outputs.Like start start' {} {} := by
    refine ⟨rfl, fun role => ?_⟩
    cases role with
    | reader => exact ⟨rfl, fun h => nomatch h⟩
    | writer => exact ⟨rfl, fun h => nomatch h⟩
  have hsaga := Catalog.alike_execute h rollback ⟨n.runId, startedAt, .cancellable⟩
    ⟨n.runId, startedAt', .cancellable⟩ {} {} hlike
  refine Plan.alike_bind hsaga ?_
  rintro ⟨result, o⟩ ⟨_, o'⟩ ⟨rfl, ho⟩
  refine Plan.alike_pure ?_
  cases result with
  | error e => rfl
  | ok executed => exact congrArg Except.ok (ho.withoutIds_provisioned n executed)

/-- A run on inventories that look the same at its keys answers the same, but for the ids of
pipeline jobs, and keeps them so. -/
theorem JobRequest.alike_provision (rollback : Bool)
    (h : ∀ location, (r.catalogAt run settings location).Confined files own) :
    Plan.Alike files (Mirrored own start start')
      (fun answer answer' => answer'.map Provisioned.withoutIds = answer.map Provisioned.withoutIds)
      (r.provision run rollback settings startedAt)
      (r.provision run rollback settings startedAt') := by
  refine Plan.alike_bind JobRequest.alike_locate ?_
  rintro result _ ⟨rfl, hresult⟩
  cases result with
  | error e => exact Plan.alike_pure rfl
  | ok n =>
    obtain ⟨location, rfl⟩ := hresult n rfl
    refine Plan.alike_bind
      (NormalizedRequest.alike_provision startedAt startedAt' rollback (h location)) ?_
    intro answer answer' hanswer
    refine Plan.alike_pure ?_
    cases answer with
    | error e =>
      cases answer' with
      | error e' =>
        cases hanswer
        rfl
      | ok p' => cases hanswer
    | ok p =>
      cases answer' with
      | error e' => cases hanswer
      | ok p' =>
        exact congrArg Except.ok (Except.ok.inj hanswer)

end Alike

/-! ## Both orders -/

namespace DisturbedWorld

variable {files : FileSystem} {start left left' : Inventory} {a b e : Errand}
  {d d' d₁ d₂ d₁' d₂' : DisturbedWorld}

/-- What was left by the last run can be come to, and the clock does not change that. -/
theorem Finds.reachable (h : d.Finds files left) (hreachable : left.Reachable) :
    d.inventory.Reachable := by
  obtain ⟨stamp, hinventory⟩ := h.inventory
  rw [hinventory]
  exact hreachable.later stamp

/-- What is found holds the same at all keys as what was left. -/
theorem Finds.sameAt (h : d.Finds files left) (own : Footprint) :
    SameAt own left d.inventory := by
  obtain ⟨stamp, hinventory⟩ := h.inventory
  rw [hinventory]
  exact .later own left stamp

/-- What a run leaves, where it found what can be come to, can be come to as well. -/
theorem Finds.execute_reachable (h : d.Finds files left) (hreachable : left.Reachable) (e : Errand)
    (startedAt : Instant) : (d.execute e startedAt).2.inventory.Reachable :=
  provision_reachable h.within (h.reachable hreachable) ..

/-- Outside its footprint, a run changes nothing. -/
theorem Finds.execute_sameAt (h : d.Finds files left) (start : Inventory)
    (hreachable : left.Reachable) (he : e.TunedLocally) (startedAt : Instant) :
    SameAt (e.footprint files start).others left (d.execute e startedAt).2.inventory := by
  refine (h.sameAt _).trans (AgreesOutside.sameAt ?_)
  rw [he.footprint_eq files start d.inventory, ← h.files]
  rcases provision_ends h.within (h.reachable hreachable) e.request e.run e.rollback e.settings
    startedAt with ⟨hsame, -⟩ | ⟨location, result, o, hended, -⟩
  · rw [execute, hsame]
    exact .refl _ _
  · have hsound := (h.reachable hreachable).sound
    rw [Errand.footprint, ← scenario_footprint .calm _ _ _ _ hsound location]
    exact hended.tracks.agreesOutside

/-- A run answers the same and leaves the same, where it finds the same outside the footprint of a
run that is independent of it. -/
theorem Finds.execute_alike (h : d.Finds files left) (h' : d'.Finds files left')
    (hreachable : left.Reachable) (hreachable' : left'.Reachable)
    (hindependent : Errand.Independent files start a b) (ha : a.TunedLocally)
    (hsame : SameAt (b.footprint files start).others left left') (startedAt startedAt' : Instant) :
    (d'.execute a startedAt').1.map Provisioned.withoutIds =
        (d.execute a startedAt).1.map Provisioned.withoutIds ∧
      SameAt (b.footprint files start).others (d.execute a startedAt).2.inventory
        (d'.execute a startedAt').2.inventory := by
  have hmirrored := Mirrored.initial (h.reachable hreachable).sound
    (h'.reachable hreachable').sound ((h.sameAt _).symm.trans (hsame.trans (h'.sameAt _)))
  obtain ⟨hanswer, hafter⟩ := JobRequest.alike_provision startedAt startedAt' a.rollback
    (hindependent.confined ha) _ _ hmirrored
  have hrun := run_of_calm h.within
    (a.request.provision a.run a.rollback a.settings startedAt)
  have hrun' := run_of_calm h'.within
    (a.request.provision a.run a.rollback a.settings startedAt')
  rw [h.files] at hrun
  rw [h'.files] at hrun'
  unfold execute provision
  rw [hrun.1, hrun.2, hrun'.1, hrun'.2]
  exact ⟨hanswer, hafter.toSameAt⟩

/-- A run answers the same whether it comes first or after a run that is independent of it, and
outside the footprint of that run both orders come to the same. -/
theorem execute_either (hreachable : start.Reachable)
    (hindependent : Errand.Independent files start a b) (ha : a.TunedLocally) (hb : b.TunedLocally)
    {t₁ t₁' : Instant} (h₁ : d₁.Finds files start)
    (h₂ : d₂.Finds files (d₁.execute a t₁).2.inventory) (h₁' : d₁'.Finds files start)
    (h₂' : d₂'.Finds files (d₁'.execute b t₁').2.inventory) (t₂ t₂' : Instant) :
    (d₂'.execute a t₂').1.map Provisioned.withoutIds =
        (d₁.execute a t₁).1.map Provisioned.withoutIds ∧
      SameAt (b.footprint files start).others (d₂.execute b t₂).2.inventory
        (d₂'.execute a t₂').2.inventory := by
  have hbefore := h₁'.execute_sameAt start hreachable hb t₁'
  have hafter := h₂.execute_sameAt start (h₁.execute_reachable hreachable a t₁) hb t₂
  obtain ⟨hanswer, hsame⟩ := h₁.execute_alike h₂' hreachable
    (h₁'.execute_reachable hreachable b t₁') hindependent ha hbefore t₁ t₂'
  exact ⟨hanswer, hafter.symm.trans hsame⟩

/-- Independent runs commute. From what the managers can come to hold, two independent runs in calm,
both tuned locally, answer the same in either order, but for the ids of pipeline jobs, and leave the
same behind. -/
theorem execute_commutes (hreachable : start.Reachable)
    (hindependent : Errand.Independent files start a b) (ha : a.TunedLocally) (hb : b.TunedLocally)
    {t₁ t₁' : Instant} (h₁ : d₁.Finds files start)
    (h₂ : d₂.Finds files (d₁.execute a t₁).2.inventory) (h₁' : d₁'.Finds files start)
    (h₂' : d₂'.Finds files (d₁'.execute b t₁').2.inventory) (t₂ t₂' : Instant) :
    (d₂'.execute a t₂').1.map Provisioned.withoutIds =
        (d₁.execute a t₁).1.map Provisioned.withoutIds ∧
      (d₂.execute b t₂).1.map Provisioned.withoutIds =
        (d₁'.execute b t₁').1.map Provisioned.withoutIds ∧
      (d₂.execute b t₂).2.inventory.SameUpToIds (d₂'.execute a t₂').2.inventory := by
  obtain ⟨hanswer, hsame⟩ :=
    execute_either hreachable hindependent ha hb h₁ h₂ h₁' h₂' t₂ t₂'
  obtain ⟨hanswer', hsame'⟩ :=
    execute_either hreachable hindependent.symm hb ha h₁' h₂' h₁ h₂ t₂' t₂
  exact ⟨hanswer, hanswer', hsame'.symm.sameUpToIds hindependent.disjoint hsame⟩

/-- A run that is carried out in a world finds what the last one has left there. -/
theorem Finds.execute (h : d.Finds files left) (e : Errand) (startedAt : Instant) :
    (d.execute e startedAt).2.Finds files (d.execute e startedAt).2.inventory := by
  obtain ⟨hwithin, hfiles⟩ :=
    provision_stays h.within e.request e.run e.rollback e.settings startedAt
  exact ⟨hwithin, hfiles.trans h.files, _, rfl⟩

end DisturbedWorld

/-! ## Two runs to look at -/

namespace Sample

/-- A change feed is there that keeps its records for a day only. -/
def withFeed : Inventory :=
  inventory.insertFeed ⟨"projects/p1/instances/inst/databases/db", "changes"⟩
    { retentionPeriod := "1d" }

/-- A world in which nothing goes wrong. -/
def fed : DisturbedWorld := world withFeed []

/-- A run that succeeds. -/
def errand : Errand := ⟨request, "abc", true, settings⟩

/-- A run that finds its change feed with other options, and so fails. -/
def misfed : Errand where
  request := { request with changeStreamName := "changes" }
  run := "xyz"
  rollback := true
  settings := { settings with readerSuffix := "r2", writerSuffix := "w2" }

/-- The two runs use different names, so they have nothing in common. -/
theorem independent : Errand.Independent (fun _ => .ok []) withFeed errand misfed := by
  refine ⟨by decide, by decide, by decide, ?_⟩
  rintro name ⟨role, hname⟩ ⟨role', hname'⟩
  cases role <;> cases role' <;> exact absurd (hname.trans hname'.symm) (by decide +kernel)

end Sample

namespace DisturbedWorld

open Sample (fed errand misfed)

/-- One run succeeds and the other fails and is taken back, in either order. -/
theorem execute_commutes_of_sample :
    (fed.execute errand .epoch).1.toBool = true ∧ (fed.execute misfed .epoch).1.toBool = false ∧
      ((fed.execute misfed .epoch).2.execute errand .epoch).1.map Provisioned.withoutIds =
        (fed.execute errand .epoch).1.map Provisioned.withoutIds ∧
      ((fed.execute errand .epoch).2.execute misfed .epoch).1.map Provisioned.withoutIds =
        (fed.execute misfed .epoch).1.map Provisioned.withoutIds ∧
      ((fed.execute errand .epoch).2.execute misfed .epoch).2.inventory.SameUpToIds
        ((fed.execute misfed .epoch).2.execute errand .epoch).2.inventory := by
  have hfinds : fed.Finds (fun _ => .ok []) Sample.withFeed :=
    ⟨Sample.within_nil _, rfl, _, rfl⟩
  refine ⟨by decide +kernel, by decide +kernel, ?_⟩
  exact execute_commutes (Sample.reachable.feed _ _) Sample.independent ⟨by decide, by decide⟩
    ⟨by decide, by decide⟩ hfinds (hfinds.execute errand .epoch) hfinds
    (hfinds.execute misfed .epoch) .epoch .epoch

end DisturbedWorld

end ReverseReplication
