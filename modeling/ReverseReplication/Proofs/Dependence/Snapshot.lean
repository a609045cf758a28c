import ReverseReplication.Proofs.Accounting
import ReverseReplication.Proofs.Dependence.History

/-!
# Snapshots of a run

A `Snapshot` is what the managers hold at a moment of a run, with the ids that its launches were
answered with by then. `Hazards.telling` is the rule by which queries lead from one to the next. A
launch whose answer was lost has started a pipeline, too, but the run does not know of it, and its
id is not listed.

Snapshots follow one another by calls (`Snapshot.Follows`). What a call keeps is said here once: a
holding is gone only by the operation that undoes it (`Inventory.Performed.holds`), and no listed
pipeline comes to run but by a launch (`Snapshot.RunsOnly.follows`).
-/

namespace ReverseReplication

open Inventory (Performed)

/-! ## Holdings -/

/-- The operation that undoes a holding. -/
def Holding.undo : Holding → Operation
  | .bucket _ => .deleteBucket
  | .feed _ => .dropFeed
  | .database _ => .dropDatabase
  | .pipeline .. => .cancel

instance (inv : Inventory) (x : Holding) : Decidable (inv.Holds x) :=
  match x with
  | .bucket name => inferInstanceAs (Decidable (inv.buckets.get? name).isSome)
  | .feed feed => inferInstanceAs (Decidable (inv.feeds.get? feed).isSome)
  | .database uri => inferInstanceAs (Decidable (inv.databases.get? uri).isSome)
  | .pipeline name id => inferInstanceAs (Decidable (inv.running.get? name = some id))

namespace Inventory.Performed

variable {inv inv' : Inventory} {c : Call} {reply : c.Reply}

/-- A holding stays, unless the call undoes one of its kind. -/
theorem holds (h : Performed inv c reply inv') {x : Holding} (hop : c.operation ≠ x.undo)
    (hx : inv.Holds x) : inv'.Holds x := by
  cases x with
  | bucket name =>
    cases h with
    | createBucket => exact Table.isSome_get?_insert hx
    | deleteBucket => exact absurd rfl hop
    | _ => exact hx
  | feed feed =>
    cases h with
    | createFeed => exact Table.isSome_get?_insert hx
    | dropFeed => exact absurd rfl hop
    | _ => exact hx
  | database uri =>
    cases h with
    | createDatabase => exact Table.isSome_get?_insert hx
    | dropDatabase => exact absurd rfl hop
    | _ => exact hx
  | pipeline name id =>
    cases h with
    | launch hfree =>
      show (inv.start _).2.running.get? name = some id
      rw [get?_running_start, if_neg]
      · exact hx
      · rintro rfl
        exact absurd (hx.symm.trans hfree) (Option.some_ne_none id)
    | cancel => exact absurd rfl hop
    | _ => exact hx

/-- No pipeline begins to run but by a launch. -/
theorem running_before (h : Performed inv c reply inv') (hsound : inv.Sound)
    (hop : c.operation ≠ .launch) {name id : String} (hrun : inv'.Holds (.pipeline name id)) :
    inv.Holds (.pipeline name id) := by
  cases h with
  | launch => exact absurd rfl hop
  | cancel hjob =>
    have hstopped := hsound.running_stop hjob name
    rw [show (inv.stop _ _).running.get? name = some id from hrun] at hstopped
    split at hstopped
    next => exact absurd hstopped (Option.some_ne_none id)
    next => exact hstopped.symm
  | _ => exact hrun

/-- Pipeline jobs stay under their ids. -/
theorem isSome_pipelines (h : Performed inv c reply inv') {id : String}
    (hid : (inv.pipelines.get? id).isSome) : (inv'.pipelines.get? id).isSome := by
  cases h with
  | launch =>
    rw [get?_pipelines_start]
    split
    next => rfl
    next => exact hid
  | cancel =>
    rw [get?_pipelines_stop]
    split
    next => rfl
    next => exact hid
  | _ => exact hid

end Inventory.Performed

/-! ## Launches that are answered -/

/-- The id that a launch is answered with. -/
def Call.launched? : (c : Call) → c.Reply → Option String
  | .launch _, id => some id
  | _, _ => none

/-- The id of a pipeline that a query was answered to have launched. -/
def Query.launched? : (q : Query) → q.Answer → Option String
  | .call c, .ok reply => c.launched? reply
  | .guarded _ c, some (.ok reply) => c.launched? reply
  | _, _ => none

/-- No other call tells of a launch. -/
theorem Call.launched?_eq_none {c : Call} (hop : c.operation ≠ .launch) (reply : c.Reply) :
    c.launched? reply = none := by
  cases c with
  | launch request => exact absurd rfl hop
  | _ => rfl

/-- The id of a launch is the one under which the pipeline job is found. -/
theorem Inventory.Performed.isSome_of_launched {inv inv' : Inventory} {c : Call} {reply : c.Reply}
    (h : Performed inv c reply inv') {id : String} (hid : c.launched? reply = some id) :
    (inv'.pipelines.get? id).isSome := by
  cases h with
  | launch =>
    cases hid
    rw [get?_pipelines_start, if_pos rfl]
    rfl
  | _ => cases hid

/-! ## Snapshots -/

/-- What the managers hold at a moment of a run, and the ids that its launches were answered with by
then. -/
structure Snapshot where
  inventory : Inventory
  launched : List String := []

/-- How queries may be answered, and which snapshot follows. -/
def Hazards.telling (hz : Hazards) (files : FileSystem) : Plan.Rule Snapshot := fun q s answer s' =>
  hz.rule files q s.inventory answer s'.inventory ∧
    s'.launched = s.launched ++ (q.launched? answer).toList

namespace Snapshot

/-- A call leads from one snapshot to another. Its answer may be lost. -/
inductive Follows (s : Snapshot) (c : Call) : Snapshot → Prop
  | answered {reply : c.Reply} {inv' : Inventory} :
    s.inventory.perform c = .ok (reply, inv') →
    Follows s c ⟨inv', s.launched ++ (c.launched? reply).toList⟩
  | unanswered {reply : c.Reply} {inv' : Inventory} :
    s.inventory.perform c = .ok (reply, inv') → Follows s c ⟨inv', s.launched⟩

/-- The operations keep what holds of a snapshot. -/
def KeptBy (ops : List Operation) (good : Snapshot → Prop) : Prop :=
  ∀ s s' c, c.operation ∈ ops → Follows s c s' → good s → good s'

variable {s s' : Snapshot} {c : Call} {ops : List Operation} {good good' : Snapshot → Prop}

/-- Whatever goes wrong, a query leads on by its call, or nowhere. -/
theorem follows_of_telling {hz : Hazards} {files : FileSystem} {q : Query} {answer : q.Answer}
    (h : hz.telling files q s answer s') :
    s' = s ∨ ∃ c, q.call? = some c ∧ s.Follows c s' := by
  obtain ⟨inv', launched'⟩ := s'
  obtain ⟨hrule, hlaunched⟩ := h
  dsimp only at hrule hlaunched
  subst hlaunched
  -- An answered call that has failed is not told of any launch.
  have hreplied : ∀ {c : Call} {reply : Except ManagerError c.Reply},
      hz.Replies s.inventory c reply inv' →
      (∃ e, reply = .error e ∧ inv' = s.inventory) ∨
        ∃ r, reply = .ok r ∧ s.inventory.perform c = .ok (r, inv') := by
    intro c reply hreply
    cases hreply with
    | failed => exact .inl ⟨_, rfl, rfl⟩
    | refused => exact .inl ⟨_, rfl, rfl⟩
    | performed hperform => exact .inr ⟨_, rfl, hperform⟩
  have hsame : ∀ {l : List String}, inv' = s.inventory → l = [] →
      (⟨inv', s.launched ++ l⟩ : Snapshot) = s := by
    rintro l rfl rfl
    rw [List.append_nil]
  cases q with
  | cancelled scope => exact .inl (hsame hrule.1 rfl)
  | file scope path =>
    cases answer with
    | some contents => exact .inl (hsame hrule.1 rfl)
    | none => exact .inl (hsame hrule.1 rfl)
  | call c =>
    obtain ⟨e, rfl, hinv⟩ | ⟨r, rfl, hperform⟩ := hreplied hrule
    · exact .inl (hsame hinv rfl)
    · exact .inr ⟨c, rfl, .answered hperform⟩
  | guarded scope c =>
    cases answer with
    | some reply =>
      obtain ⟨e, rfl, hinv⟩ | ⟨r, rfl, hperform⟩ := hreplied hrule
      · exact .inl (hsame hinv rfl)
      · exact .inr ⟨c, rfl, .answered hperform⟩
    | none =>
      obtain ⟨-, hinv | ⟨-, reply, hreply⟩⟩ := hrule
      · exact .inl (hsame hinv rfl)
      · obtain ⟨e, -, hinv⟩ | ⟨r, -, hperform⟩ := hreplied hreply
        · exact .inl (hsame hinv rfl)
        · refine .inr ⟨c, rfl, ?_⟩
          show s.Follows c ⟨inv', s.launched ++ []⟩
          rw [List.append_nil]
          exact .unanswered hperform

/-- What the operations keep is kept by queries that are about no other calls. -/
theorem KeptBy.telling (h : KeptBy ops good) {hz : Hazards} {files : FileSystem} (q : Query)
    (s : Snapshot) (answer : q.Answer) (s' : Snapshot)
    (hasked : ∀ c, q.call? = some c → c.operation ∈ ops) (htold : hz.telling files q s answer s')
    (hgood : good s) : good s' := by
  obtain rfl | ⟨c, hc, hfollows⟩ := follows_of_telling htold
  · exact hgood
  · exact h s s' c (hasked c hc) hfollows hgood

/-- Of two things that operations keep, they keep both. -/
theorem KeptBy.and (h : KeptBy ops good) (h' : KeptBy ops good') :
    KeptBy ops fun s => good s ∧ good' s :=
  fun s s' c hop hfollows hgood =>
    ⟨h s s' c hop hfollows hgood.1, h' s s' c hop hfollows hgood.2⟩

/-! ## Sound snapshots -/

/-- A snapshot of managers that are sound, and that know of every launch they answered. -/
structure Sound (s : Snapshot) : Prop where
  inventory : s.inventory.Sound
  known : ∀ id ∈ s.launched, (s.inventory.pipelines.get? id).isSome

/-- Calls keep snapshots sound: managers stay sound, and forget no pipeline. -/
theorem Sound.follows (h : s.Sound) (hfollows : s.Follows c s') : s'.Sound := by
  cases hfollows with
  | answered hperform =>
    have hperformed := Inventory.performed_of_perform hperform
    refine ⟨h.inventory.perform hperform, fun id hid => ?_⟩
    rcases List.mem_append.1 hid with hid | hid
    · exact hperformed.isSome_pipelines (h.known id hid)
    · exact hperformed.isSome_of_launched (Option.mem_toList.1 hid)
  | unanswered hperform =>
    have hperformed := Inventory.performed_of_perform hperform
    exact ⟨h.inventory.perform hperform, fun id hid => hperformed.isSome_pipelines (h.known id hid)⟩

/-- Any operation keeps a snapshot sound. -/
theorem keptBy_sound : KeptBy ops Sound := fun _ _ _ _ hfollows h => h.follows hfollows

/-- Of the pipelines that the run knows to have launched, only some are running. -/
def RunsOnly (allowed : String → Prop) (s : Snapshot) : Prop :=
  ∀ id ∈ s.launched, ∀ name, s.inventory.Holds (.pipeline name id) → allowed id

/-- More pipelines may be running than do. -/
theorem RunsOnly.mono {allowed allowed' : String → Prop} (h : s.RunsOnly allowed)
    (himp : ∀ id, allowed id → allowed' id) : s.RunsOnly allowed' :=
  fun id hid name hrun => himp id (h id hid name hrun)

/-- No other comes to run but by a launch. -/
theorem RunsOnly.follows {allowed : String → Prop} (h : s.RunsOnly allowed) (hsound : s.Sound)
    (hop : c.operation ≠ .launch) (hfollows : s.Follows c s') : s'.RunsOnly allowed := by
  cases hfollows with
  | answered hperform =>
    intro id hid name hrun
    rw [Call.launched?_eq_none hop, Option.toList_none, List.append_nil] at hid
    have hperformed := Inventory.performed_of_perform hperform
    exact h id hid name (hperformed.running_before hsound.inventory hop hrun)
  | unanswered hperform =>
    intro id hid name hrun
    have hperformed := Inventory.performed_of_perform hperform
    exact h id hid name (hperformed.running_before hsound.inventory hop hrun)

/-- What launches nothing brings no pipeline to run, so only the same ones go on. -/
theorem keptBy_runsOnly (hops : .launch ∉ ops) (allowed : String → Prop) :
    KeptBy ops fun s => s.Sound ∧ s.RunsOnly allowed := by
  rintro s s' c hop hfollows ⟨hsound, h⟩
  refine ⟨hsound.follows hfollows, h.follows hsound ?_ hfollows⟩
  intro hlaunch
  rw [hlaunch] at hop
  exact hops hop

/-- A holding is kept by all operations but the one that undoes it. -/
theorem keptBy_holds {x : Holding} (hops : x.undo ∉ ops) :
    KeptBy ops fun s => s.inventory.Holds x := by
  intro s s' c hop hfollows hx
  have hother : c.operation ≠ x.undo := by
    intro heq
    rw [heq] at hop
    exact hops hop
  cases hfollows with
  | answered hperform => exact (Inventory.performed_of_perform hperform).holds hother hx
  | unanswered hperform => exact (Inventory.performed_of_perform hperform).holds hother hx

end Snapshot

/-! ## Steps and snapshots -/

namespace Step

variable {hz : Hazards} {files : FileSystem} {σ α : Type} {o : σ} {s : Snapshot} {ctx : Context}
  {c : Call}

/-- What is ensured of what the managers hold is ensured of the snapshots. -/
theorem Ensures.telling {x : Step σ α} {post : Except ActivityError α → σ → Inventory → Prop}
    (h : x.Ensures (hz.rule files) o s.inventory post) :
    x.Ensures (hz.telling files) o s fun r o' s' => post r o' s'.inventory :=
  Plan.Ensures.refine (fun _ _ _ _ htold => htold.1) h

/-- What the operations of a step keep. -/
theorem AsksOnly.telling {ops : List Operation} {good : Snapshot → Prop} {x : Step σ α}
    (hx : x.AsksOnly ops) (hkept : Snapshot.KeptBy ops good) (hgood : good s) :
    x.Ensures (hz.telling files) o s fun _ _ s' => good s' :=
  Plan.AsksOnly.ensures (hx o) hkept.telling hgood

/-- A call whose reply is looked at. -/
theorem ensures_call_telling
    {post : Except ActivityError (Except ManagerError c.Reply) → σ → Snapshot → Prop}
    (denied : ∀ e, hz.Denies s.inventory c e → post (.ok (.error e)) o s)
    (performed : ∀ r inv', Performed s.inventory c r inv' →
      post (.ok (.ok r)) o ⟨inv', s.launched ++ (c.launched? r).toList⟩)
    (stopped : post (.error .cancelled) o s)
    (lost : ∀ r inv', Performed s.inventory c r inv' →
      post (.error .cancelled) o ⟨inv', s.launched⟩) :
    (call ctx c).Ensures (hz.telling files) o s post := by
  unfold call
  rw [ensures_bind, ensures_query]
  rintro answer ⟨inv', launched'⟩ ⟨hrule, hlaunched⟩
  dsimp only at hrule hlaunched
  subst hlaunched
  cases answer with
  | some reply =>
    show post (.ok reply) o _
    obtain ⟨e, hdenies, rfl, rfl⟩ | ⟨r, hperformed, rfl⟩ := Hazards.Replies.cases hrule
    · show post (.ok (.error e)) o ⟨s.inventory, s.launched ++ []⟩
      rw [List.append_nil]
      exact denied e hdenies
    · exact performed r inv' hperformed
  | none =>
    show post (.error .cancelled) o ⟨inv', s.launched ++ []⟩
    rw [List.append_nil]
    obtain ⟨-, rfl | ⟨-, reply, hreply⟩⟩ := hrule
    · exact stopped
    · obtain ⟨e, -, -, rfl⟩ | ⟨r, hperformed, -⟩ := hreply.cases
      · exact stopped
      · exact lost r inv' hperformed

end Step

end ReverseReplication
