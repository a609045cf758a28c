import Mathlib.Data.List.Nodup
import ReverseReplication.Proofs.Managers.Chronicle

/-!
# The tables of the pipeline launcher

The launcher keeps the accepted launches, the jobs by id, and the ids of running jobs by name, and
updates them separately. Whatever happens, they agree with each other and with what the launcher
has answered (`Chronicle.enrolled_after`), and cancelled jobs stay cancelled
(`Chronicle.cancelled_after`). Both are put together in `Chronicle.launcher_tables`.

The ids of cancelled jobs are still known. Cancelling one again changes nothing
(`Inventory.Sound.stop_of_cancelled`): its name may belong to a later job by then, which goes on.
-/

namespace ReverseReplication

open Inventory (Performed)

/-! ## Cancelling -/

/-- Cancelling a job that was cancelled changes nothing. -/
theorem Inventory.Sound.stop_of_cancelled {inv : Inventory} (h : inv.Sound) {id name : String}
    (hjob : inv.pipelines.get? id = some ⟨name, true⟩) : inv.stop id ⟨name, true⟩ = inv := by
  have hfree : inv.running.get? name ≠ some id := by
    intro hrun
    rw [h.running, hjob] at hrun
    simp at hrun
  have hpipelines : inv.pipelines.insert id ⟨name, true⟩ = inv.pipelines := by
    refine Table.ext_get? fun id' => ?_
    rw [Table.get?_insert]
    split
    next heq => rw [heq, hjob]
    next => rfl
  simp only [Inventory.stop, hpipelines, if_neg hfree]

/-- Nor does the call that cancels it again. -/
theorem Managers.inventory_cancel {m : Managers} (h : m.inventory.Sound) {id name : String}
    (hjob : m.inventory.pipelines.get? id = some ⟨name, true⟩) {projectId location : String} :
    (m.perform (.cancel projectId location id)).2.inventory = m.inventory := by
  rcases perform_cases m (.cancel projectId location id) with
    ⟨e, -, heq⟩ | ⟨e, -, heq⟩ | ⟨reply, inv', hperform, heq⟩
  · rw [heq]
  · rw [heq]
  · rw [heq]
    cases Inventory.performed_of_perform hperform with
    | cancel hold =>
      rw [hjob] at hold
      cases hold
      exact h.stop_of_cancelled hjob

/-- A job that was cancelled runs under no name. -/
theorem Inventory.Sound.running_ne {inv : Inventory} (h : inv.Sound) {id name : String}
    (hjob : inv.pipelines.get? id = some ⟨name, true⟩) (other : String) :
    inv.running.get? other ≠ some id := by
  intro hrun
  rw [h.running, hjob] at hrun
  simp at hrun

/-- Jobs are added and cancelled, and nothing else: one that was cancelled stays as it is. -/
theorem Inventory.Performed.cancelled {inv inv' : Inventory} {c : Call} {reply : c.Reply}
    (h : Performed inv c reply inv') (hsound : inv.Sound) {id name : String}
    (hjob : inv.pipelines.get? id = some ⟨name, true⟩) :
    inv'.pipelines.get? id = some ⟨name, true⟩ := by
  cases h with
  | @launch request _ =>
    rw [Inventory.get?_pipelines_start, if_neg]
    · exact hjob
    · rintro rfl
      rw [hsound.fresh request] at hjob
      simp at hjob
  | @cancel _ _ id' job hold =>
    rw [Inventory.get?_pipelines_stop]
    split
    next heq =>
      rw [← heq, hjob, Option.some.injEq] at hold
      rw [← hold]
    next => exact hjob
  | _ => exact hjob

/-! ## Contents that are put in -/

/-- Seeds launch nothing. -/
theorem Inventory.launched_sow (inv : Inventory) (seed : Seed) :
    (inv.sow seed).launched = inv.launched := by
  cases seed with
  | object path contents =>
    simp only [Inventory.sow, Inventory.putObject]
    split <;> rfl
  | _ => rfl

/-- Seeds bring no pipelines. -/
theorem Inventory.pipelines_sow (inv : Inventory) (seed : Seed) :
    (inv.sow seed).pipelines = inv.pipelines := by
  cases seed with
  | object path contents =>
    simp only [Inventory.sow, Inventory.putObject]
    split <;> rfl
  | _ => rfl

/-! ## Launches -/

/-- The launch that was accepted, with the id of its job. -/
def Deed.launch? : Deed → Option (Launch × String)
  | .done (.launch request) id => some (request, id)
  | _ => none

namespace Chronicle

/-- The accepted launches with the ids of their jobs, the latest first. -/
def launchesOf (deeds : List Deed) : List (Launch × String) := deeds.filterMap Deed.launch?

/-- The accepted launches with the ids of their jobs, the earliest first. -/
def launches (ch : Chronicle) : List (Launch × String) := (launchesOf ch.deeds).reverse

/-- What the launcher's tables have to do with the launches that were accepted. -/
structure Enrolled (deeds : List Deed) (inv : Inventory) : Prop where
  launched : inv.launched = (launchesOf deeds).reverse.map Prod.fst
  distinct : ((launchesOf deeds).map Prod.snd).Nodup
  /-- No job is forgotten. -/
  known : ∀ id ∈ (launchesOf deeds).map Prod.snd, (inv.pipelines.get? id).isSome

namespace Enrolled

variable {deeds : List Deed} {inv inv' : Inventory}

/-- What changes neither the launches nor the jobs keeps the tables in agreement. -/
theorem congr {deeds' : List Deed} (h : Enrolled deeds inv)
    (hdeeds : launchesOf deeds' = launchesOf deeds) (hlaunched : inv'.launched = inv.launched)
    (hpipelines : inv'.pipelines = inv.pipelines) : Enrolled deeds' inv' where
  launched := by rw [hlaunched, hdeeds, h.launched]
  distinct := hdeeds ▸ h.distinct
  known := by
    rw [hdeeds, hpipelines]
    exact h.known

/-- A launch enrols its job under the next number. -/
theorem launch (h : Enrolled deeds inv) (hsound : inv.Sound) (request : Launch) :
    Enrolled (.done (.launch request) (inv.start request).1 :: deeds) (inv.start request).2 where
  launched := by
    show inv.launched ++ [request] = _
    simp [launchesOf, Deed.launch?, h.launched]
  distinct := by
    refine List.nodup_cons.2 ⟨fun hmem => ?_, h.distinct⟩
    -- The id of the next launch is not among those of the jobs so far.
    have hknown := h.known _ hmem
    rw [hsound.fresh request] at hknown
    simp at hknown
  known := by
    intro id hid
    rw [Inventory.get?_pipelines_start]
    split
    next => rfl
    next hne => exact h.known id ((List.mem_cons.1 hid).resolve_left hne)

/-- Cancelling a job marks it as cancelled, and changes no other. -/
theorem cancel (h : Enrolled deeds inv) {projectId location id : String} (job : PipelineJob) :
    Enrolled (.done (.cancel projectId location id) () :: deeds) (inv.stop id job) where
  launched := h.launched
  distinct := h.distinct
  known := by
    intro id' hid
    rw [Inventory.get?_pipelines_stop]
    split
    next => rfl
    next => exact h.known id' hid

/-- Every call keeps the tables in agreement. -/
theorem performed (h : Enrolled deeds inv) (hsound : inv.Sound) {c : Call} {reply : c.Reply}
    (hperformed : Performed inv c reply inv') : Enrolled (.done c reply :: deeds) inv' := by
  cases hperformed with
  | launch => exact h.launch hsound _
  | cancel => exact h.cancel _
  | _ => exact h.congr rfl rfl rfl

end Enrolled

/-- Whatever happens, the tables agree. -/
theorem enrolled_after (defaultLocation : Option String) (stamp : String)
    (past : List Occurrence) :
    let now := (start defaultLocation stamp).after past
    now.inventory.Sound ∧ Enrolled now.deeds now.inventory := by
  refine keeps Enrolled ?_ ?_ ?_ (sound_start defaultLocation stamp) ?_ past
  · intro deeds inv c reply inv' hsound hperformed h
    exact h.performed hsound hperformed
  · intro deeds inv seed h
    exact h.congr rfl (inv.launched_sow seed) (inv.pipelines_sow seed)
  · intro deeds inv stamp h
    exact h.congr rfl rfl rfl
  · exact ⟨rfl, .nil, fun id hid => nomatch hid⟩

/-- Whatever happens, a job that was cancelled stays cancelled. -/
theorem cancelled_after {ch : Chronicle} (hsound : ch.inventory.Sound) {id name : String}
    (hjob : ch.inventory.pipelines.get? id = some ⟨name, true⟩) (future : List Occurrence) :
    (ch.after future).inventory.Sound ∧
      (ch.after future).inventory.pipelines.get? id = some ⟨name, true⟩ := by
  refine keeps (fun _ inv => inv.pipelines.get? id = some ⟨name, true⟩) ?_ ?_ ?_ hsound
    hjob future
  · intro deeds inv c reply inv' hsound hperformed h
    exact hperformed.cancelled hsound h
  · intro deeds inv seed h
    rw [inv.pipelines_sow seed]
    exact h
  · intro deeds inv stamp h
    exact h

/-- The tables of the launcher: whatever has happened to it, the names of running jobs lead to
their ids and to nothing else; the launches that were accepted are listed in their order and have
ids of their own; a launch that is rejected is only counted; and a job that was cancelled never
runs again, and takes no name from a later job when it is cancelled once more. -/
theorem launcher_tables (defaultLocation : Option String) (stamp : String)
    (past : List Occurrence) :
    let now := (start defaultLocation stamp).after past
    (∀ name id, now.inventory.running.get? name = some id ↔
      now.inventory.pipelines.get? id = some ⟨name, false⟩) ∧
    (∀ name id id', now.inventory.pipelines.get? id = some ⟨name, false⟩ →
      now.inventory.pipelines.get? id' = some ⟨name, false⟩ → id = id') ∧
    (now.launches.map Prod.snd).Nodup ∧
    now.inventory.launched = now.launches.map Prod.fst ∧
    (∀ request e, (now.managers.perform (.launch request)).1 = .error e →
      (now.managers.perform (.launch request)).2 =
        { now.managers with probe := now.managers.probe.count .launch }) ∧
    (∀ id name, now.inventory.pipelines.get? id = some ⟨name, true⟩ →
      (∀ future,
        (now.after future).inventory.pipelines.get? id = some ⟨name, true⟩ ∧
        ∀ other, (now.after future).inventory.running.get? other ≠ some id) ∧
      ∀ projectId location,
        (now.managers.perform (.cancel projectId location id)).2.inventory = now.inventory) := by
  intro now
  obtain ⟨hsound, henrolled⟩ := enrolled_after defaultLocation stamp past
  have hrunning := hsound.running
  refine ⟨hrunning, ?_, ?_, ?_, ?_, ?_⟩
  · intro name id id' hid hid'
    rw [← hrunning] at hid hid'
    exact Option.some.inj (hid.symm.trans hid')
  · show ((launchesOf now.deeds).reverse.map Prod.snd).Nodup
    rw [List.map_reverse, List.nodup_reverse]
    exact henrolled.distinct
  · exact henrolled.launched
  · exact fun request e => Managers.perform_rejected
  · intro id name hjob
    refine ⟨fun future => ?_, fun projectId location => ?_⟩
    · obtain ⟨hsound', hjob'⟩ := cancelled_after hsound hjob future
      exact ⟨hjob', hsound'.running_ne hjob'⟩
    · exact Managers.inventory_cancel hsound hjob

/-- A job is launched and cancelled, and its name is launched again: the name leads to the later
job, a third launch is rejected, and the later job goes on when the first is cancelled again. -/
theorem launcher_tables_of_relaunch :
    let etl : Launch := { (default : Launch) with jobName := "etl" }
    let now := (start none "2026").after [
      .call (.launch etl), .call (.cancel "p1" "here" "2026-1"), .call (.launch etl)]
    let again := (now.managers.perform (.cancel "p1" "here" "2026-1")).2.inventory
    again.running.get? "etl" = some "2026-2" ∧
      again.pipelines.get? "2026-2" = some ⟨"etl", false⟩ ∧
      (∀ future other,
        (now.after future).inventory.running.get? other ≠ some "2026-1") ∧
      (now.managers.perform (.launch etl)).2.inventory = now.inventory := by
  intro etl now again
  obtain ⟨hrunning, -, -, -, hrejected, hcancelled⟩ := launcher_tables none "2026" [
    .call (.launch etl), .call (.cancel "p1" "here" "2026-1"), .call (.launch etl)]
  have hfirst : now.inventory.pipelines.get? "2026-1" = some ⟨"etl", true⟩ := by decide +kernel
  have hlater : now.inventory.pipelines.get? "2026-2" = some ⟨"etl", false⟩ := by decide +kernel
  have htaken : (now.managers.perform (.launch etl)).1 = .error (.alreadyExists "etl") := by
    decide +kernel
  obtain ⟨hstays, hcancel⟩ := hcancelled "2026-1" "etl" hfirst
  have hsame : again = now.inventory := hcancel "p1" "here"
  refine ⟨?_, ?_, fun future other => (hstays future).2 other, ?_⟩
  · rw [hsame]
    exact (hrunning "etl" "2026-2").2 hlater
  · rw [hsame]
    exact hlater
  · rw [hrejected etl _ htaken]
    rfl

end Chronicle

end ReverseReplication
