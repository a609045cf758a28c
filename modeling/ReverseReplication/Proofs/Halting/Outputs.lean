import ReverseReplication.Proofs.Dependence.Operations
import ReverseReplication.Proofs.Failures.Steps
import ReverseReplication.Proofs.Halting.Activities

/-!
# What a failed transaction leaves in its output

An output is to be as at first until a transaction has succeeded. Carried out alone, while calls
that undo nothing may fail, the run may be cancelled and replies may be lost, a transaction that
fails has halted (`DisturbedWorld.transact_halted`). Its output is then as at first exactly if no
call has come to pass that sticks (`DisturbedWorld.transact_output_iff`).

* An activity that neither launches nor uploads anything always clears its output
  (`DisturbedWorld.transact_output_default`).
* A file that was put into a bucket of somebody else stays in the output, although the transaction
  has failed (`DisturbedWorld.transact_output_stale`).
* So do the id, the name and the command of a pipeline that was launched and was then cancelled.
-/

namespace ReverseReplication

namespace DisturbedWorld

variable {c : Catalog} {k : ActivityKind} {d : DisturbedWorld} {ctx : Context}
  {cause : ActivityError}

/-- A transaction that fails has halted. -/
theorem transact_halted (hwithin : d.Within .abrupt)
    (he : ((c.transact k ctx {}).run answer d).1.1 = .error cause) :
    let ended := (c.transact k ctx {}).run answer d
    (⟨ended.2.inventory, events (c.transact k ctx {}) d⟩ : Trace).Halted d.inventory
      (ended.1.2 = {}) := by
  intro ended
  obtain ⟨hends, hreset⟩ := ensured_traced
    (c.ensures_transact_ends (Outputs.blank_default k) (Trace.begun_nil d.inventory))
    (events_keep hwithin)
  rw [Outputs.reset_of_blank (Outputs.blank_default k)] at hreset
  exact (hends.halted cause he).congr (Outputs.eq_default_iff hreset)

/-- The output of a transaction that fails is as at first unless a launch was accepted, or a file
was put into a bucket that was there before. -/
theorem transact_output_iff (hwithin : d.Within .abrupt)
    (he : ((c.transact k ctx {}).run answer d).1.1 = .error cause) :
    ((c.transact k ctx {}).run answer d).1.2 = {} ↔
      ∀ e ∈ events (c.transact k ctx {}) d, ¬e.Sticks d.inventory :=
  (transact_halted hwithin he).blank_iff

/-- An activity that neither launches nor uploads anything does nothing that sticks. -/
theorem not_sticks_of_operations (hlaunch : .launch ∉ k.operations)
    (hwrite : .writeObject ∉ k.operations) :
    ∀ e ∈ events (c.transact k ctx {}) d, ¬e.Sticks d.inventory := by
  rintro e he ⟨-, call, hcall, hsticks⟩
  have hop := (c.asksOnly_transaction k {}).operation_mem he hcall
  cases call with
  | launch => exact hlaunch hop
  | writeObject => exact hwrite hop
  | _ => exact hsticks

/-- So its output is as at first whenever it fails. -/
theorem transact_output_default (hwithin : d.Within .abrupt) (hlaunch : .launch ∉ k.operations)
    (hwrite : .writeObject ∉ k.operations)
    (he : ((c.transact k ctx {}).run answer d).1.1 = .error cause) :
    ((c.transact k ctx {}).run answer d).1.2 = {} :=
  (transact_halted hwithin he).blank_iff.2 (not_sticks_of_operations hlaunch hwrite)

open Sample (catalog context)

/-- A database that could not be recorded leaves no trace in the output. -/
theorem transact_output_of_unrecorded_database :
    let ended := (catalog.transact .prepareMetadataStore context {}).run answer
      (Sample.world Sample.inventory [(.recordResource, .unavailable "down")])
    ended.1.1 = .error (.external "recording metadata database"
        (.manager (.unavailable "down"))) ∧ ended.1.2 = {} := by
  intro ended
  have hwithin : (Sample.world Sample.inventory [(.recordResource, .unavailable "down")]).Within
      .abrupt := by
    apply Sample.within
    intro f hf
    rw [List.mem_singleton.1 hf]
    show Operation.recordResource ∉ Hazards.undoings
    decide
  have he : ended.1.1 = .error (.external "recording metadata database"
      (.manager (.unavailable "down"))) := rfl
  refine ⟨he, (transact_output_iff hwithin he).2 ?_⟩
  exact not_sticks_of_operations (by decide) (by decide)

end DisturbedWorld

namespace Sample

/-- What the activities are given if both files are local. -/
def staging : Catalog :=
  ({ request with sourceConnectionConfig := "source.json" }.fillAt "abc" "us-central1").catalog
    settings

/-- The bucket was there before, and one file only can be put into it. -/
def choking : DisturbedWorld where
  world :=
    { managers := {
        inventory := inventory.insertBucket staging.stagingStore.bucket
        probe := Probe.fresh.failFrom .writeObject 2 (.unavailable "down") }
      files := fun _ => .ok []
      cancelled := false }

/-- Only an upload is made to fail, which undoes nothing. -/
theorem within_choking : choking.Within .abrupt := by
  refine ⟨⟨fun op nth e hfails => ?_, fun _ => trivial⟩, fun _ hmem => nomatch hmem⟩
  show op ∉ Hazards.undoings
  simp only [choking, Probe.failFrom] at hfails
  split at hfails
  next heq =>
    rw [heq]
    decide
  next => cases hfails

end Sample

namespace DisturbedWorld

open Sample (context)

/-- The second file could not be put into a bucket that was there before. The first one stays there,
and in the output: a compensation that has no bucket to delete clears nothing. -/
theorem transact_output_stale :
    let ended := (Sample.staging.transact .prepareStagingStore context {}).run answer
      Sample.choking
    Sample.choking.Within .abrupt ∧ Sample.choking.inventory.Reachable ∧
      (∃ cause, ended.1.1 = .error cause) ∧
      ended.1.2.stagingStore = ⟨false, ["session.json"]⟩ ∧ ended.1.2 ≠ {} := by
  intro ended
  have hfailed : ended.1.1 = .error (.external
      "uploading source.json to smt-rr-gcs-abc" (.manager (.unavailable "down"))) := rfl
  have hstaged : ended.1.2.stagingStore = ⟨false, ["session.json"]⟩ := rfl
  refine ⟨Sample.within_choking, .bucket _ Sample.reachable, ⟨_, hfailed⟩, hstaged, ?_⟩
  intro hdefault
  rw [hdefault] at hstaged
  cases hstaged

end DisturbedWorld

end ReverseReplication
