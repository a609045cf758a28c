import ReverseReplication.Proofs.Wiring

/-!
# When a run succeeds

In calm, a run succeeds exactly if its request is located and every activity finds what it needs
(`DisturbedWorld.provision_succeeds_iff`). What an activity needs is said of the request, the local
files and what the managers hold before the run (`NormalizedRequest.Meets`): the descriptions can
be read, a change feed that is there has the options that are needed, and each pipeline has a
tuning from which it can be launched. A tuning may be one of the objects that the run itself
stages.

A run that is located and fails names the first activity that lacks something. For that, the saga
is followed once more, to where it stops (`Catalog.StopsAt`).
-/

namespace ReverseReplication

open ReverseReplication.Text (Bytes)

variable {files : FileSystem} {inv : Inventory} {ctx : Context}

namespace ActivityKind

/-- Each activity stands at its position. -/
theorem getElem?_position (k : ActivityKind) : all[k.position]? = some k := by
  cases k <;> rfl

/-- The position of an activity is where it stands. -/
theorem position_of_getElem? {k : ActivityKind} {n : Nat} (h : all[n]? = some k) :
    n = k.position := by
  have hnodup : all.Nodup := by decide
  obtain ⟨hn, hk⟩ := List.getElem?_eq_some_iff.1 h
  rw [← hk]
  exact (hnodup.idxOf_getElem n hn).symm

end ActivityKind

/-! ## Where a saga stops -/

namespace Catalog

variable (c : Catalog)

/-- How far a run has come when the activity at a place has its turn. -/
def reach (files : FileSystem) (startedAt : Instant) (kinds : List ActivityKind) (p : Standing)
    (n : Nat) : Standing :=
  (kinds.take n).foldl (c.advance files startedAt) p

/-- The first of some activities that does not find what it needs is the one at a place, counted
from zero. -/
structure StopsAt (files : FileSystem) (startedAt : Instant) (kinds : List ActivityKind)
    (p : Standing) (n : Nat) : Prop where
  lacking : ∃ k, kinds[n]? = some k ∧
    ¬c.Admits files k (c.reach files startedAt kinds p n).inventory
  earlier : ∀ i < n, ∀ k, kinds[i]? = some k →
    c.Admits files k (c.reach files startedAt kinds p i).inventory

variable {c} in
/-- If an activity is admitted, the run stops where the later ones do. -/
theorem StopsAt.later {startedAt : Instant} {k : ActivityKind} {rest : List ActivityKind}
    {p : Standing} {n : Nat} (hadmits : c.Admits files k p.inventory)
    (h : c.StopsAt files startedAt rest (c.advance files startedAt p k) n) :
    c.StopsAt files startedAt (k :: rest) p (n + 1) where
  lacking := h.lacking
  earlier := by
    intro i hi k' hk'
    cases i with
    | zero =>
      obtain rfl := Option.some.inj hk'
      exact hadmits
    | succ i => exact h.earlier i (Nat.lt_of_succ_lt_succ hi) k' hk'

/-- What the error of a saga in calm tells that has `executed` some activities and has the `rest`
to carry out. -/
def Stopped (files : FileSystem) (startedAt : Instant) (executed : Nat) (rest : List ActivityKind)
    (p : Standing) : Except SagaError Nat → Outputs → Inventory → Prop
  | .ok _, _, _ => True
  | .error e, _, _ => ∃ n, e.index = executed + n ∧ c.StopsAt files startedAt rest p n

/-- Carrying out the activities that are left, up to the one that fails. -/
theorem ensures_executeFrom_stopped {rollback : Bool} (done rest : List ActivityKind)
    (o : Outputs) :
    EnsuresFrom (Hazards.calm.rule files)
      (Saga.executeFrom rollback ctx (done.map c.activity) (rest.map c.activity)) o inv
      (c.Stopped files ctx.startedAt done.length rest ⟨o.pipeline, inv⟩) := by
  induction rest generalizing done o inv with
  | nil => exact trivial
  | cons k rest ih =>
    apply ensuresFrom_executeFrom
    refine (c.ensures_attempt_calm k o).mono ?_
    rintro (cause | u) o₁ inv₁ hends
    · refine EnsuresFrom.of_forall fun failures o₂ inv₂ => ⟨0, List.length_map .., ?_⟩
      exact ⟨⟨k, rfl, hends⟩, fun i hi => absurd hi (Nat.not_lt_zero i)⟩
    · obtain ⟨hadmits, hadvance⟩ := hends
      refine (ih (k :: done) o₁).mono ?_
      rw [hadvance]
      rintro (e | n) o₂ inv₂ hstopped
      · obtain ⟨n, hindex, hstops⟩ := hstopped
        refine ⟨n + 1, ?_, hstops.later hadmits⟩
        rw [hindex, List.length_cons]
        omega
      · trivial

/-- What an activity of a run needs, said of the inventory before the run. -/
def Needs (files : FileSystem) (inv : Inventory) : ActivityKind → Prop
  | .prepareStagingStore => c.stagingStore.Readable files
  | .prepareChangeFeed => c.changeFeed.Fits inv
  | .launchReader => c.reader.Launchable files (c.stagingStore.settle files inv).object?
  | .launchWriter => c.writer.Launchable files (c.stagingStore.settle files inv).object?
  | .registerJob => True
  | .prepareMetadataStore => True
  | .finalizeJob => True

variable {c}

/-- A run is ready if every activity has what it needs. -/
theorem ready_iff_needs : c.Ready files inv ↔ ∀ k, c.Needs files inv k := by
  constructor
  · intro hready k
    cases k with
    | prepareStagingStore => exact hready.readable
    | prepareChangeFeed => exact hready.fits
    | launchReader => exact hready.launchable .reader
    | launchWriter => exact hready.launchable .writer
    | registerJob => trivial
    | prepareMetadataStore => trivial
    | finalizeJob => trivial
  · intro hneeds
    refine ⟨hneeds .prepareStagingStore, hneeds .prepareChangeFeed, fun role => ?_⟩
    cases role with
    | reader => exact hneeds .launchReader
    | writer => exact hneeds .launchWriter

/-- When its turn comes, an activity finds what it needs if that is there before the run. -/
theorem admits_reach_iff {startedAt : Instant} {outputs : PipelineRole → Pipeline.Output}
    (hjob : c.jobCompletion.jobId = c.jobEntry.jobId) (k : ActivityKind) :
    c.Admits files k
        (c.reach files startedAt ActivityKind.all ⟨outputs, inv⟩ k.position).inventory ↔
      c.Needs files inv k := by
  cases k with
  | registerJob => exact Iff.rfl
  | prepareStagingStore => exact Iff.rfl
  | prepareChangeFeed => exact Iff.rfl
  | prepareMetadataStore => exact Iff.rfl
  | launchReader => exact Iff.rfl
  | launchWriter => exact Iff.rfl
  | finalizeJob =>
    refine iff_of_true ?_ trivial
    show (inv.jobs.insertNew c.jobEntry.jobId (c.jobEntry.record startedAt)).contains
      c.jobCompletion.jobId = true
    rw [hjob]
    exact Table.contains_insertNew ..

/-- So a run stops at the first activity that lacks something before the run. -/
theorem StopsAt.needs {startedAt : Instant} {outputs : PipelineRole → Pipeline.Output} {n : Nat}
    (hjob : c.jobCompletion.jobId = c.jobEntry.jobId)
    (h : c.StopsAt files startedAt ActivityKind.all ⟨outputs, inv⟩ n) :
    ∃ k, n = k.position ∧ ¬c.Needs files inv k ∧
      ∀ k', k'.position < n → c.Needs files inv k' := by
  obtain ⟨k, hk, hlacking⟩ := h.lacking
  obtain rfl := ActivityKind.position_of_getElem? hk
  refine ⟨k, rfl, fun hneeds => hlacking ((admits_reach_iff hjob k).2 hneeds), ?_⟩
  intro k' hlt
  exact (admits_reach_iff hjob k').1 (h.earlier _ hlt k' k'.getElem?_position)

end Catalog

/-! ## What a request asks for -/

namespace NormalizedRequest

variable (n : NormalizedRequest) (settings : Settings) (files : FileSystem) (inv : Inventory)

/-- The objects of the managers once the files of the request are staged. -/
def stagedObject? (path : ObjectPath) : Option Bytes :=
  ((n.catalog settings).stagingStore.stagedAt files path).or (inv.object? path)

/-- The launch is made from the parameters of the pipeline and from its tuning, which is empty where
the request names none. -/
def Resolves (role : PipelineRole) (launch : Launch) : Prop :=
  ∃ tuning,
    tuningAt? files (n.stagedObject? settings files inv)
        ((n.catalog settings).pipeline role).target.tuningPath = some tuning ∧
      Launch.make ((n.catalog settings).pipeline role).parameters
        (((n.catalog settings).pipeline role).resolve tuning) = .ok launch

def CanLaunch (role : PipelineRole) : Prop := ∃ launch, n.Resolves settings files inv role launch

/-- What the request asks for, by the activity that fails if it is not there. -/
def Meets : ActivityKind → Prop
  | .prepareStagingStore =>
    StagingStore.CanRead files n.request.sessionFilePath ∧
      StagingStore.CanRead files n.request.sourceConnectionConfig
  | .prepareChangeFeed =>
    ∀ actual, inv.feeds.get? ⟨n.targetDatabase, n.request.changeStreamName⟩ = some actual →
      actual.retentionPeriod = "7d" ∧ actual.valueCaptureType = "NEW_ROW"
  | .launchReader => n.CanLaunch settings files inv .reader
  | .launchWriter => n.CanLaunch settings files inv .writer
  | .registerJob => True
  | .prepareMetadataStore => True
  | .finalizeJob => True

/-- Only four activities can lack something. -/
theorem position_of_not_meets {k : ActivityKind} (h : ¬n.Meets settings files inv k) :
    k.position = 1 ∨ k.position = 2 ∨ k.position = 4 ∨ k.position = 5 := by
  cases k with
  | registerJob => exact absurd trivial h
  | prepareStagingStore => exact .inl rfl
  | prepareChangeFeed => exact .inr (.inl rfl)
  | prepareMetadataStore => exact absurd trivial h
  | launchReader => exact .inr (.inr (.inl rfl))
  | launchWriter => exact .inr (.inr (.inr rfl))
  | finalizeJob => exact absurd trivial h

end NormalizedRequest

/-- A launch can be made of a tuning exactly if the tuning has no fault. -/
theorem Launch.make_ok_iff {parameters : Parameters} {t : Tuning} :
    (∃ launch, Launch.make parameters t = .ok launch) ↔ Launch.fault? t = none := by
  unfold Launch.make
  cases Launch.fault? t with
  | none => exact iff_of_true ⟨_, rfl⟩ rfl
  | some e => simp

/-- A feed is accepted for its two options. -/
theorem Inventory.feedMismatch?_eq_none_iff {actual expected : FeedOptions} :
    feedMismatch? actual expected = none ↔
      actual.retentionPeriod = expected.retentionPeriod ∧
        actual.valueCaptureType = expected.valueCaptureType := by
  constructor
  · intro h
    rw [eq_of_feedMismatch? h]
    exact ⟨rfl, rfl⟩
  · rintro ⟨hretention, hcapture⟩
    rw [feedMismatch?, if_neg (not_not_intro hretention), if_neg (not_not_intro hcapture)]

namespace JobRequest

variable {r : JobRequest} {run : RunId} {settings : Settings} {location : String}

/-- Where nothing has to be staged, both files are hosted, so that none of them is read. -/
theorem readable_iff :
    (r.catalogAt run settings location).stagingStore.Readable files ↔
      StagingStore.CanRead files r.sessionFilePath ∧
        StagingStore.CanRead files r.sourceConnectionConfig := by
  constructor
  · intro hreadable
    cases hneeds : r.needsStaging with
    | true => exact hreadable hneeds
    | false =>
      have hhosted :
          isHosted r.sessionFilePath = true ∧ isHosted r.sourceConnectionConfig = true := by
        simp only [needsStaging, Bool.not_eq_false', Bool.and_eq_true] at hneeds
        exact hneeds.1
      constructor
      · intro hlocal
        rw [hhosted.1] at hlocal
        simp at hlocal
      · intro hlocal
        rw [hhosted.2] at hlocal
        simp at hlocal
  · intro hread _
    exact hread

/-- The catalog can launch a pipeline exactly if the request says so. -/
theorem launchable_iff (role : PipelineRole) :
    ((r.catalogAt run settings location).pipeline role).Launchable files
        ((r.catalogAt run settings location).stagingStore.settle files inv).object? ↔
      (r.fillAt run location).CanLaunch settings files inv role := by
  have hobjects : ((r.catalogAt run settings location).stagingStore.settle files inv).object? =
      (r.fillAt run location).stagedObject? settings files inv :=
    funext (StagingStore.object?_settle inv)
  unfold Pipeline.Launchable NormalizedRequest.CanLaunch NormalizedRequest.Resolves
  rw [hobjects, exists_comm]
  refine exists_congr fun tuning => ?_
  rw [exists_and_left]
  exact and_congr_right fun _ => Launch.make_ok_iff.symm

/-- What the activities need is what the request asks for. -/
theorem needs_iff_meets (k : ActivityKind) :
    (r.catalogAt run settings location).Needs files inv k ↔
      (r.fillAt run location).Meets settings files inv k := by
  cases k with
  | registerJob => exact Iff.rfl
  | prepareStagingStore => exact readable_iff
  | prepareChangeFeed =>
    exact forall_congr' fun actual => imp_congr_right fun _ => Inventory.feedMismatch?_eq_none_iff
  | prepareMetadataStore => exact Iff.rfl
  | launchReader => exact launchable_iff .reader
  | launchWriter => exact launchable_iff .writer
  | finalizeJob => exact Iff.rfl

/-- What the error of a run in calm tells: that the request is not located, or else which activity
is the first that lacks something. -/
def Blamed (r : JobRequest) (run : RunId) (settings : Settings) (files : FileSystem)
    (inv : Inventory) : RunError → Prop
  | .request _ => ∀ location, ¬r.Located run inv location
  | .saga e => ∃ location k, r.Located run inv location ∧ e.index = k.position ∧
    ¬(r.fillAt run location).Meets settings files inv k ∧
    ∀ k', k'.position < k.position → (r.fillAt run location).Meets settings files inv k'

/-- A run in calm that fails blames what is lacking. -/
theorem ensures_blamed (r : JobRequest) (run : RunId) (rollback : Bool) (settings : Settings)
    (startedAt : Instant) :
    (r.provision run rollback settings startedAt).Ensures (Hazards.calm.rule files) inv
      fun outcome _ => ∀ e, outcome = .error e → r.Blamed run settings files inv e := by
  apply ensures_provision_of_located
  · rintro (hmissing | ⟨cause, hfails⟩) e e' he
    · obtain rfl := Except.error.inj he
      exact hmissing
    · exact hfails.elim
  · intro location hlocated
    have hstart : ({} : Outputs).pipeline = fun _ => {} := by
      funext role
      cases role <;> rfl
    refine EnsuresFrom.mono ((r.catalogAt run settings location).ensures_executeFrom_stopped []
      ActivityKind.all {}) ?_
    rintro (e | n) o inv' hstopped e' he
    · obtain ⟨n, hindex, hstops⟩ := hstopped
      obtain ⟨k, rfl, hlacking, hearlier⟩ := hstops.needs rfl
      obtain rfl := Except.error.inj he
      rw [List.length_nil, Nat.zero_add] at hindex
      refine ⟨location, k, hlocated, hindex, ?_, fun k' hlt => ?_⟩
      · rw [← needs_iff_meets]
        exact hlacking
      · rw [← needs_iff_meets]
        exact hearlier k' hlt
    · cases he

end JobRequest

/-! ## When a run succeeds -/

/-- A request with a tuning file that is not there. -/
def Sample.untuned : JobRequest := { request with writerConfig := "gs://mine/writer.json" }

/-- Without its tuning the writer cannot be launched, and the run fails there. -/
theorem Sample.untuned_fails :
    ∃ error, ((world inventory []).provision untuned "abc" true settings .epoch).1 = .error error ∧
      ∀ e, error = .saga e → e.index = 5 := by
  have hfails : (sagaError? ((world inventory []).provision untuned "abc" true settings
      .epoch).1).any (fun e => decide (e.index = 5)) = true := by decide +kernel
  obtain ⟨e, he, hindex⟩ := exists_of_sagaError? _ hfails
  refine ⟨.saga e, he, ?_⟩
  intro e' hsame
  cases hsame
  exact of_decide_eq_true hindex

namespace DisturbedWorld

/-- In calm, a run succeeds if and only if its request is located and all that it asks for is there.
If it is located and fails, the error is one of its saga and names the first activity that lacks
something, which is one of four; if it is not located, its saga does not fail. -/
theorem provision_succeeds_iff {d : DisturbedWorld} (hwithin : d.Within .calm) (r : JobRequest)
    (run : RunId) (rollback : Bool) (settings : Settings) (startedAt : Instant) :
    let result := (d.provision r run rollback settings startedAt).1
    ((∃ p, result = .ok p) ↔ ∃ location, r.Located run d.inventory location ∧
      ∀ k, (r.fillAt run location).Meets settings d.world.files d.inventory k) ∧
    (∀ e, result = .error (.saga e) → ∃ location, r.Located run d.inventory location) ∧
    ∀ location, r.Located run d.inventory location → ∀ error, result = .error error →
      ∃ e k, error = .saga e ∧ e.index = k.position ∧
        (e.index = 1 ∨ e.index = 2 ∨ e.index = 4 ∨ e.index = 5) ∧
        ¬(r.fillAt run location).Meets settings d.world.files d.inventory k ∧
        ∀ k', k'.position < k.position →
          (r.fillAt run location).Meets settings d.world.files d.inventory k' := by
  have hblamed := ((r.ensures_blamed run rollback settings startedAt).run
    (respects .calm d.world.files) ⟨hwithin, rfl⟩).1
  have hready : ∀ location, (r.catalogAt run settings location).Ready d.world.files d.inventory ↔
      ∀ k, (r.fillAt run location).Meets settings d.world.files d.inventory k := fun location =>
    Catalog.ready_iff_needs.trans (forall_congr' JobRequest.needs_iff_meets)
  intro result
  refine ⟨⟨?_, ?_⟩, ?_, ?_⟩
  · rintro ⟨p, hp⟩
    obtain ⟨location, hlocated, hmet, -⟩ := settled_of_ok hwithin hp
    exact ⟨location, hlocated, (hready location).1 hmet⟩
  · rintro ⟨location, hlocated, hmeets⟩
    exact ⟨_, (ok_of_ready hwithin hlocated ((hready location).2 hmeets) rollback startedAt).1⟩
  · intro e he
    obtain ⟨location, k, hlocated, -⟩ := hblamed _ he
    exact ⟨location, hlocated⟩
  · intro location hlocated error herror
    have htold := hblamed error herror
    cases error with
    | request e => exact absurd hlocated (htold location)
    | saga e =>
      obtain ⟨location', k, hlocated', hindex, hlacking, hearlier⟩ := htold
      obtain rfl := hlocated.unique hlocated'
      refine ⟨e, k, rfl, hindex, ?_, hlacking, hearlier⟩
      rw [hindex]
      exact NormalizedRequest.position_of_not_meets _ _ _ _ hlacking

/-- The run of the sample finds all that it needs. If it named an object as the tuning of the writer
that is not there, it would fail when it comes to launch the writer. -/
theorem provision_succeeds_iff_of_sample :
    (∀ k, (Sample.request.fillAt "abc" "us-central1").Meets Sample.settings
      (Sample.world Sample.inventory []).world.files Sample.inventory k) ∧
    ∃ e, ((Sample.world Sample.inventory []).provision Sample.untuned "abc" true Sample.settings
        .epoch).1 = .error (.saga e) ∧ e.index = 5 ∧
      ¬(Sample.untuned.fillAt "abc" "us-central1").CanLaunch Sample.settings
        (Sample.world Sample.inventory []).world.files Sample.inventory .writer := by
  constructor
  · obtain ⟨location, hlocated, hmeets⟩ := (provision_succeeds_iff
      (Sample.within_nil Sample.inventory) Sample.request "abc" true Sample.settings .epoch).1.1
      Sample.succeeds
    obtain rfl : "us-central1" = location := Option.some.inj hlocated.found
    exact hmeets
  · have hlocated : Sample.untuned.Located "abc" Sample.inventory "us-central1" :=
      ⟨by decide +kernel, rfl, by decide +kernel⟩
    obtain ⟨error, hfails, hfifth⟩ := Sample.untuned_fails
    obtain ⟨e, k, rfl, hindex, -, hlacking, -⟩ := (provision_succeeds_iff
      (Sample.within_nil Sample.inventory) Sample.untuned "abc" true Sample.settings .epoch).2.2
      "us-central1" hlocated error hfails
    have hk : k = .launchWriter := by
      have hposition : k.position = 5 := hindex.symm.trans (hfifth e rfl)
      cases k <;> first | rfl | cases hposition
    rw [hk] at hlacking
    exact ⟨e, hfails, hfifth e rfl, hlacking⟩

end DisturbedWorld

end ReverseReplication
