import ReverseReplication.Proofs.Events
import ReverseReplication.Proofs.Ownership.Flags
import ReverseReplication.Proofs.Restoration

/-!
# Activities alone

An activity that creates something is carried out once, alone, and is then compensated any number of
times.

* Its flag is set exactly while what the transaction has created is there (`Catalog.Flags`).
* A transaction that fails has cleared the flag and restored the resources, unless an undo failed.
* A compensation does nothing where the flag is not set, takes back what was created, or fails and
  leaves both the flag and what was created (`Catalog.Retracted`).

All this holds however calls fail, as long as none says by mistake that what is to be undone is
gone, and whenever the run is cancelled (`DisturbedWorld.flags_track`).

A reply may be lost, since a call is given up as soon as a cancellation is noticed, even if it has
happened by then. Two replies must not be: the one to the call by which the transaction creates
something, and the one to the call by which a later compensation undoes it. All other calls of the
transaction may be cut off, and those by which it undoes something by itself never are. A pipeline
whose launch is cut off stays behind, and the activity does not know of it
(`DisturbedWorld.flags_miss`).
-/

namespace ReverseReplication

/-- As `audible`, and replies may be lost. -/
def Hazards.lossy : Hazards := { audible with loses := fun _ => True }

/-- Where what is there is not made to look gone, a run that loses no reply to a creating call knows
what its calls have done. -/
theorem Hazards.exact_replying {hz : Hazards}
    (hremovals : ∀ op ∈ undoings, ∀ what, ¬hz.fails op (.notFound what)) :
    (hz.replying creations).Exact where
  replies := fun _ hop hloses => hloses.1 hop
  removals := hremovals

/-- The resources are as they were, so the same things are held. -/
theorem Inventory.SameResources.holds_iff {before after : Inventory}
    (h : before.SameResources after) (x : Holding) : after.Holds x ↔ before.Holds x := by
  cases x with
  | bucket name => rw [Holds, Holds, h.buckets]
  | feed feed => rw [Holds, Holds, h.feeds]
  | database uri => rw [Holds, Holds, h.databases]
  | pipeline name id => rw [Holds, Holds, h.running]

namespace Catalog

variable (c : Catalog) (k : ActivityKind) (ctx : Context) (o : Outputs)

/-- The catalog in which nothing is staged, unless this is the activity that stages. -/
def alone : Catalog :=
  if k = .prepareStagingStore then c
  else { c with stagingStore := { c.stagingStore with stagingRequired := false } }

/-- The scenario of an activity that is carried out alone. -/
def scenario (hz : Hazards) (files : FileSystem) (before : Inventory) (sound : before.Sound) :
    Scenario where
  hazards := hz
  catalog := c.alone k
  files := files
  before := before
  sound := sound

/-- An activity that runs alone is the one of the catalog. -/
theorem activity_alone : (c.alone k).activity k = c.activity k := by
  cases k <;> rfl

/-- It makes what the catalog says. -/
theorem product_alone : (c.alone k).product o = c.product o := by
  funext k'
  unfold alone
  split <;> cases k' <;> rfl

variable {c k ctx o}

variable {hz : Hazards} {files files' : FileSystem} {before inv : Inventory} {sound : before.Sound}

/-- What is known of an activity that alone has been carried out or compensated. -/
structure Alone (c : Catalog) (k : ActivityKind) (hz : Hazards) (files : FileSystem)
    (before : Inventory) (sound : before.Sound) (o : Outputs) (inv : Inventory) : Prop where
  tracks : (c.scenario k hz files before sound).Tracks none o inv
  others : ∀ k', k' ≠ k → o.claims k' = false

/-- Carrying out an activity alone. If it fails, what it still claims could not be undone. -/
theorem ensures_alone (sound : before.Sound) :
    (c.transact k ctx {}).Ensures (hz.rule files) before fun result inv' =>
      c.Alone k hz files before sound result.2 inv' ∧
        ∀ e, result.1 = .error e → result.2.claims k = true →
          (c.scenario k hz files before sound).CannotUndo k := by
  have hclaims : ∀ k', ({} : Outputs).claims k' = false := by
    intro k'
    cases k' <;> rfl
  have hobjects :
      (c.scenario k hz files before sound).objectsAfter k.position = before.object? := by
    cases k <;> rfl
  have hbegun := Scenario.tracks_before (c.scenario k hz files before sound)
  have hends := @Scenario.ensures_transaction _ {} before ctx k (hobjects ▸ hbegun) (hclaims k)
  unfold scenario at hends
  rw [activity_alone] at hends
  refine Plan.Ensures.mono hends ?_
  rintro ⟨e | u, o'⟩ inv' hcarried
  · obtain ⟨hothers, htracks, hstuck⟩ := hcarried
    exact ⟨⟨htracks, fun k' hne => (hothers k' hne).trans (hclaims k')⟩, fun _ _ => hstuck⟩
  · obtain ⟨hothers, htracks⟩ := hcarried
    refine ⟨⟨htracks.forget, fun k' hne => (hothers k' hne).trans (hclaims k')⟩, fun e he => ?_⟩
    cases he

/-- Where nothing is hidden, what is new is what the activity claims. -/
theorem Alone.new_iff (h : c.Alone k hz files before sound o inv) (hexact : hz.Exact)
    (x : Holding) : inv.Holds x ∧ ¬before.Holds x ↔ o.claims k = true ∧ c.product o k = some x := by
  have hnew := h.tracks.new_iff hexact (x := x)
  rw [scenario, product_alone] at hnew
  refine hnew.trans ⟨?_, fun hx => ⟨k, hx⟩⟩
  rintro ⟨k', hclaim, hx⟩
  by_cases hk : k' = k
  · subst hk
    exact ⟨hclaim, hx⟩
  · rw [h.others k' hk] at hclaim
    cases hclaim

/-- Where nothing is hidden, and the activity claims nothing, the resources are as they were. -/
theorem Alone.sameResources (h : c.Alone k hz files before sound o inv) (hexact : hz.Exact)
    (hnone : o.claims k = false) : before.SameResources inv := by
  refine h.tracks.sameResources hexact fun k' => ?_
  by_cases hk : k' = k
  · rw [hk]
    exact hnone
  · exact h.others k' hk

/-- Compensating an activity alone that claims something, without losing the reply to the call that
undoes it. -/
theorem Alone.ensures_compensate (h : c.Alone k hz files before sound o inv) (hexact : hz.Exact)
    (hclaim : o.claims k = true) :
    (c.compensate k ctx o).Ensures ((Hazards.lossy.replying Hazards.undoings).rule files') inv
      fun result inv' =>
        (result = (.ok (), o.cleared k) ∧ c.Alone k hz files before sound (o.cleared k) inv') ∨
          ((∃ e, result = (.error e, o)) ∧ inv' = inv) := by
  have hends := @Scenario.Tracks.ensures_retraction (Hazards.lossy.replying Hazards.undoings) files'
    inv ctx _ o k h.tracks hexact Hazards.exact_audible.removals (fun _ hop hloses => hloses.1 hop)
    hclaim
  unfold scenario compensate at hends
  rw [activity_alone] at hends
  refine Plan.Ensures.mono hends ?_
  rintro result inv' (⟨hresult, htracks⟩ | hstuck)
  · refine .inl ⟨hresult, htracks, fun k' hne => ?_⟩
    rw [Outputs.claims_cleared_of_ne hne]
    exact h.others k' hne
  · exact .inr hstuck

/-! ## What flags are to say -/

/-- The flag of an activity is set exactly if something is there that was not there before, and this
is what the activity is to create. -/
structure Flags (c : Catalog) (k : ActivityKind) (before : Inventory) (o : Outputs)
    (after : Inventory) : Prop where
  flagged : o.claims k = true ↔ ∃ x, after.Holds x ∧ ¬before.Holds x
  product : ∀ x, after.Holds x → ¬before.Holds x → c.product o k = some x

/-- How a compensation ends that begins with the outputs `o` in the world `d`: with its events, its
result, the outputs, and the world that it leaves. -/
inductive Retracted (c : Catalog) (k : ActivityKind) (before : Inventory) (o : Outputs)
    (d : DisturbedWorld) :
    List Event → Except ActivityError Unit × Outputs → DisturbedWorld → Prop
  /-- The flag is not set, so nothing happens. -/
  | idle : o.claims k = false → Retracted c k before o d [] (.ok (), o) d
  /-- What was created is taken back, and nothing else. -/
  | removed {events : List Event} {o' : Outputs} {d' : DisturbedWorld} {x : Holding} :
    o.claims k = true → c.product o k = some x → d.inventory.Holds x → o'.claims k = false →
    (∀ y, d'.inventory.Holds y ↔ d.inventory.Holds y ∧ y ≠ x) →
    before.SameResources d'.inventory → Retracted c k before o d events (.ok (), o') d'
  /-- It fails, and the flag stays with what was created. -/
  | stuck {events : List Event} {e : ActivityError} {d' : DisturbedWorld} {x : Holding} :
    o.claims k = true → c.product o k = some x → d'.inventory.Holds x →
    d'.inventory = d.inventory → Retracted c k before o d events (.error e, o) d'

/-- What any number of compensations lead to, one after the other. Before each of them, calls may be
made to fail in other ways, and the run may be cancelled or get a context of its own; what the
managers hold stays. None of them loses the reply to its undoing. -/
inductive Later (c : Catalog) (k : ActivityKind) (o : Outputs) (inv : Inventory) :
    Outputs → Inventory → Prop
  | now : Later c k o inv o inv
  | again {o₁ : Outputs} {d : DisturbedWorld} {ctx : Context} :
    Later c k o inv o₁ d.inventory → d.Within .lossy →
    (∀ e ∈ DisturbedWorld.events (c.compensate k ctx o₁) d,
      e.Asks Hazards.undoings → ¬e.Lost) →
    Later c k o inv ((c.compensate k ctx o₁).run DisturbedWorld.answer d).1.2
      ((c.compensate k ctx o₁).run DisturbedWorld.answer d).2.inventory

variable {d : DisturbedWorld}

/-- The flag says what it is to say of an activity alone, where nothing is hidden. -/
theorem Alone.flags (h : c.Alone k hz files before sound o inv) (hexact : hz.Exact)
    (hk : k.undo?.isSome = true) : c.Flags k before o inv := by
  have hnew := h.new_iff hexact
  constructor
  · constructor
    · intro hclaim
      obtain ⟨x, hx⟩ : ∃ x, c.product o k = some x := by
        cases k <;> first | exact ⟨_, rfl⟩ | cases hk
      exact ⟨x, (hnew x).2 ⟨hclaim, hx⟩⟩
    · rintro ⟨x, hx⟩
      exact ((hnew x).1 hx).1
  · intro x hnow hbefore
    exact ((hnew x).1 ⟨hnow, hbefore⟩).2

/-- A compensation of an activity alone ends as it should, and may be followed by others. -/
theorem Alone.retracted (h : c.Alone k hz files before sound o d.inventory) (hexact : hz.Exact)
    (hk : k.undo?.isSome = true) (hwithin : d.Within .lossy)
    (hundone : ∀ e ∈ DisturbedWorld.events (c.compensate k ctx o) d,
      e.Asks Hazards.undoings → ¬e.Lost) :
    let ended := (c.compensate k ctx o).run DisturbedWorld.answer d
    c.Retracted k before o d (DisturbedWorld.events (c.compensate k ctx o) d) ended.1 ended.2 ∧
      c.Alone k hz files before sound ended.1.2 ended.2.inventory := by
  intro ended
  cases hclaim : o.claims k with
  | false =>
    have hidle : c.compensate k ctx o = pure (.ok (), o) := compensate_of_unclaimed hk hclaim
    have hended : ended = ((.ok (), o), d) := by
      simp only [ended, hidle, Plan.run_pure]
    rw [hended, hidle]
    exact ⟨.idle hclaim, h⟩
  | true =>
    obtain ⟨x, hheld, hnew⟩ := (h.flags hexact hk).flagged.1 hclaim
    obtain ⟨-, hx⟩ := (h.new_iff hexact x).1 ⟨hheld, hnew⟩
    have hends : (ended.1 = (.ok (), o.cleared k) ∧
          c.Alone k hz files before sound (o.cleared k) ended.2.inventory) ∨
        ((∃ e, ended.1 = (.error e, o)) ∧ ended.2.inventory = d.inventory) :=
      DisturbedWorld.ensured (h.ensures_compensate hexact hclaim)
        (DisturbedWorld.events_keep_replying hwithin hundone)
    clear_value ended
    obtain ⟨⟨result, o'⟩, d'⟩ := ended
    rcases hends with ⟨hresult, halone⟩ | ⟨⟨e, hresult⟩, hsame⟩
    · cases hresult
      have hnone := o.claims_cleared k
      have hrestored := halone.sameResources hexact hnone
      refine ⟨.removed hclaim hx hheld hnone (fun y => ?_) hrestored, halone⟩
      -- What was there before the transaction is all that is there after the compensation.
      rw [hrestored.holds_iff]
      constructor
      · intro hy
        refine ⟨h.tracks.still_holds hy, ?_⟩
        rintro rfl
        exact hnew hy
      · rintro ⟨hy, hne⟩
        refine Classical.byContradiction fun hbefore => ?_
        obtain ⟨-, hproduct⟩ := (h.new_iff hexact y).1 ⟨hy, hbefore⟩
        rw [hx] at hproduct
        exact hne (Option.some.inj hproduct).symm
    · cases hresult
      have hsame : d'.inventory = d.inventory := hsame
      rw [hsame]
      refine ⟨.stuck hclaim hx ?_ hsame, h⟩
      rw [hsame]
      exact hheld

/-- So do all that follow. -/
theorem Alone.later {o' : Outputs} {inv' : Inventory}
    (h : c.Alone k hz files before sound o inv) (hexact : hz.Exact) (hk : k.undo?.isSome = true)
    (hlater : c.Later k o inv o' inv') : c.Alone k hz files before sound o' inv' := by
  induction hlater with
  | now => exact h
  | again _ hwithin hundone ih => exact (ih.retracted hexact hk hwithin hundone).2

end Catalog

namespace DisturbedWorld

variable {c : Catalog} {k : ActivityKind} {d : DisturbedWorld}

/-- The flag of an activity that creates something says what there is to be undone: after its
transaction, if this has not lost the reply to its creating call, and through all compensations that
follow, up to one that loses the reply to its undoing. -/
theorem flags_track (hk : k.undo?.isSome = true) (hwithin : d.Within .lossy)
    (hreachable : d.inventory.Reachable) (ctx : Context)
    (hcreated : ∀ e ∈ events (c.transact k ctx {}) d, e.Asks Hazards.creations → ¬e.Lost) :
    let ended := (c.transact k ctx {}).run answer d
    c.Flags k d.inventory ended.1.2 ended.2.inventory ∧
      ((∃ e, ended.1.1 = .error e) →
        (∀ e ∈ events (c.transact k ctx {}) d, e.Asks Hazards.undoings → e.error? = none) →
        ended.1.2.claims k = false ∧ d.inventory.SameResources ended.2.inventory) ∧
      ∀ o d', c.Later k ended.1.2 ended.2.inventory o d'.inventory → d'.Within .lossy →
        ∀ ctx', (∀ e ∈ events (c.compensate k ctx' o) d', e.Asks Hazards.undoings → ¬e.Lost) →
          c.Retracted k d.inventory o d' (events (c.compensate k ctx' o) d')
            ((c.compensate k ctx' o).run answer d').1
            ((c.compensate k ctx' o).run answer d').2 := by
  intro ended
  have hkeep := events_keep_replying hwithin hcreated
  have hexact : (Hazards.lossy.replying Hazards.creations).Exact :=
    Hazards.exact_replying Hazards.exact_audible.removals
  obtain ⟨halone, -⟩ := ensured (Catalog.ensures_alone hreachable.sound) hkeep
  refine ⟨halone.flags hexact hk, ?_, ?_⟩
  · rintro ⟨e, he⟩ hundone
    -- In this run no undo failed, so it is one of those in which none may fail.
    have hforward : ∀ e ∈ events (c.transact k ctx {}) d,
        e.Keeps ((Hazards.abrupt.replying Hazards.creations).rule d.world.files) := by
      intro e he
      refine Hazards.rule_narrow (hkeep e he) id (fun call cause hcall herror _ hop => ?_)
        fun _ _ _ hloses => hloses
      rw [hundone e he ⟨call, hcall, hop⟩] at herror
      cases herror
    obtain ⟨halone', hstuck⟩ := ensured (Catalog.ensures_alone hreachable.sound) hforward
    have hnone : ended.1.2.claims k = false := by
      rw [Bool.eq_false_iff]
      intro hclaim
      obtain ⟨op, hop, _, hfails⟩ := hstuck e he hclaim
      apply hfails
      cases k <;> cases hop <;> decide
    have hexact' : (Hazards.abrupt.replying Hazards.creations).Exact :=
      Hazards.exact_replying Hazards.exact_forward.removals
    exact ⟨hnone, halone'.sameResources hexact' hnone⟩
  · intro o d' hlater hwithin' ctx' hundone
    exact ((halone.later hexact hk hlater).retracted hexact hk hwithin' hundone).1

end DisturbedWorld

/-! ## Two activities to look at -/

namespace Sample

/-- What the activities of the sample request are given. -/
def catalog : Catalog := (request.fillAt "abc" "us-central1").catalog settings

def context : Context := ⟨"abc", .epoch, .cancellable⟩

/-- A bucket can neither be recorded nor deleted. -/
def failing : List (Operation × ManagerError) :=
  [(.recordResource, .unavailable "down"), (.deleteBucket, .unavailable "locked")]

end Sample

namespace DisturbedWorld

open Sample (catalog context failing)

/-- A bucket that could not be deleted is still claimed, and a later compensation deletes it. -/
theorem flags_track_of_locked_bucket :
    let ended := (catalog.transact .prepareStagingStore context {}).run answer
      (Sample.world Sample.inventory failing)
    let freed := Sample.world ended.2.inventory []
    let undone := (catalog.compensate .prepareStagingStore context ended.1.2).run answer freed
    (∃ e, ended.1.1 = .error e) ∧ ended.1.2.stagingStore.bucketCreated = true ∧
      ended.2.inventory.Holds (.bucket "smt-rr-gcs-abc") ∧ undone.1.1 = .ok () ∧
      undone.1.2.stagingStore.bucketCreated = false ∧
      ¬undone.2.inventory.Holds (.bucket "smt-rr-gcs-abc") := by
  intro ended freed undone
  have hfailing : ∀ f ∈ failing, Hazards.audible.fails f.1 f.2 :=
    Sample.audible_of_unavailable (by simp [failing])
  have hreplied : (Sample.world Sample.inventory failing).Within
      (Hazards.lossy.replying Hazards.creations) := Sample.within hfailing
  have hcreated := events_not_lost (p := catalog.transact .prepareStagingStore context {}) hreplied
  have hfailed : ended.1.1 = .error (.external "recording staging bucket"
      (.manager (.unavailable "down"))) := rfl
  have hdone : undone.1.1 = .ok () := rfl
  obtain ⟨hflags, -, hlater⟩ := flags_track rfl (Sample.within hfailing) Sample.reachable context
    hcreated
  have hclaim : ended.1.2.stagingStore.bucketCreated = true := rfl
  obtain ⟨x, hheld, hnew⟩ := hflags.flagged.1 hclaim
  have hx := hflags.product x hheld hnew
  cases hx
  have hfreed : freed.Within (Hazards.lossy.replying Hazards.undoings) := Sample.within_nil _
  have hretracted : catalog.Retracted .prepareStagingStore Sample.inventory ended.1.2 freed _
      undone.1 undone.2 :=
    hlater ended.1.2 freed .now (Sample.within_nil _) context
      (events_not_lost hfreed)
  refine ⟨⟨_, hfailed⟩, hclaim, hheld, hdone, ?_⟩
  clear_value undone
  obtain ⟨⟨result, o⟩, d⟩ := undone
  cases hretracted with
  | removed _ hproduct _ hcleared hleft _ =>
    cases hproduct
    exact ⟨hcleared, fun hthere => ((hleft _).1 hthere).2 rfl⟩
  | stuck => cases hdone

/-- An activity whose launch is cut off leaves a pipeline running, and its flag says nothing. The
launcher gives way to others between starting a pipeline and replying with its id, so the
cancellation may fall in between. -/
theorem flags_miss :
    let severed := Sample.cutting Sample.inventory .launch
    let pipeline : Holding := .pipeline "smt-reverse-replication-reader-r1" "2026-01-01-1"
    let ended := (catalog.transact .launchReader context {}).run answer severed
    severed.Within .lossy ∧ severed.inventory.Reachable ∧ ended.1.1 = .error .cancelled ∧
      ended.1.2.claims .launchReader = false ∧ ended.2.inventory.Holds pipeline ∧
      ¬severed.inventory.Holds pipeline :=
  ⟨Sample.within_cutting trivial trivial, Sample.reachable, rfl, rfl, rfl, nofun⟩

/-- If only the recording of the pipeline is cut off, the activity knows what it has launched, and
cancels it. -/
example :
    let severed := Sample.cutting Sample.inventory .recordResource
    let ended := (catalog.transact .launchReader context {}).run answer severed
    ended.1.1 = .error .cancelled ∧ ended.1.2.claims .launchReader = false ∧
      ended.2.inventory.running.get? "smt-reverse-replication-reader-r1" = none ∧
      ended.2.inventory.isCancelled "2026-01-01-1" = true := ⟨rfl, rfl, rfl, rfl⟩

/-- If a later compensation is cut off at its undoing, and the manager gives way to others before it
replies, the database is gone and the activity still claims it. -/
example :
    let first := (catalog.transact .prepareMetadataStore context {}).run answer
      (Sample.world Sample.inventory [])
    let severed := Sample.cutting first.2.inventory .dropDatabase
    let ended := (catalog.compensate .prepareMetadataStore context first.1.2).run answer severed
    ended.1.1 = .error .cancelled ∧ ended.1.2.claims .prepareMetadataStore = true ∧
      ended.2.inventory.databases.get? catalog.metadataStore.databaseUri = none :=
  ⟨rfl, rfl, rfl⟩

end DisturbedWorld

end ReverseReplication
