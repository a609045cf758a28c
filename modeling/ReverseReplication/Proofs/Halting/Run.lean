import ReverseReplication.Proofs.Failures.Turns
import ReverseReplication.Proofs.Halting.Activities

/-!
# A run that fails without rollback

Where compensation is disabled, the saga of a run stops with the transaction that fails. The turns
before it have succeeded, and what they have set up stays (`Unfolds.halts`). What the last
transaction itself has created it takes back by one call, which is the last of the run, so the
managers are left as they were when it began (`DisturbedWorld.provision_halts`).

This takes that no reply to a call with a lasting effect is lost in that transaction. An activity
whose creating call is cut off does not know of what it has created, and leaves it behind
(`DisturbedWorld.provision_drops`).
-/

namespace ReverseReplication

/-! ## The last turn -/

/-- What the managers hold after a turn, with the events of the turn. -/
def Turn.trace (turn : Turn) : Trace where
  now := turn.ended.2.inventory
  events := turn.events

/-- Without rollback, the turns of a saga that fails end with the transaction that has failed. -/
theorem Unfolds.halts {done rest : List ActivityKind} {turns : List Turn} {e : SagaError}
    (h : Unfolds false done rest turns (.error e)) :
    ∃ earlier turn, turns = earlier ++ [turn] ∧
      (∀ t ∈ earlier, t.side = .transaction ∧ t.result = .ok ()) ∧
      turn.side = .transaction ∧ turn.kind.position = e.index ∧ turn.result = .error e.cause ∧
      e.compensationFailures = [] := by
  generalize hresult : (.error e : Except SagaError Nat) = result at h
  induction h with
  | finished => cases hresult
  | @carriedOut k done rest first turns _ hlabel hok _ ih =>
    obtain ⟨earlier, turn, rfl, hearlier, hlast⟩ := ih hresult
    refine ⟨first :: earlier, turn, rfl, fun t ht => ?_, hlast⟩
    rcases List.mem_cons.1 ht with rfl | hrest
    · exact ⟨congrArg Prod.fst hlabel, hok⟩
    · exact hearlier t hrest
  | @failed k done rest turn back cause hlabel hfailed hback =>
    cases hresult
    obtain rfl : back = [] := List.map_eq_nil_iff.1 hback
    exact ⟨[], turn, rfl, List.forall_mem_nil _, congrArg Prod.fst hlabel,
      congrArg (fun label => label.2.position) hlabel, hfailed, rfl⟩

/-! ## Turns that begin as at first -/

/-- A plan leaves a world within its hazards. -/
theorem DisturbedWorld.within_run {α : Type} {hz : Hazards} {d : DisturbedWorld}
    (h : d.Within hz) (p : Plan α) : (p.run answer d).2.Within hz := by
  have hensures : p.Ensures (hz.rule d.world.files) d.inventory fun _ _ => True :=
    Plan.ensures_of_forall fun _ _ => trivial
  exact (hensures.run (respects hz d.world.files) ⟨h, rfl⟩).2.1

namespace Catalog

variable {c : Catalog} {ctx : Context} {o : Outputs} {d : DisturbedWorld}
  {done rest : List ActivityKind}

/-- Every turn begins with its output as at first, and so it ends as it should. -/
theorem ends_of_mem_turnsFrom {turn : Turn} (hwithin : d.Within .abrupt)
    (hdistinct : rest.Nodup) (hblank : ∀ k ∈ rest, o.Blank k)
    (hturn : turn ∈ c.turnsFrom false ctx done rest o d) :
    ∃ blank, turn.trace.Ends turn.world.inventory blank turn.result := by
  induction rest generalizing done o d with
  | nil => cases hturn
  | cons k rest ih =>
    obtain ⟨hfirst, hrest⟩ := List.nodup_cons.1 hdistinct
    obtain ⟨hends, hreset⟩ := DisturbedWorld.ensured_traced
      (c.ensures_attempt_ends (hblank k List.mem_cons_self) (Trace.begun_nil d.inventory))
      (DisturbedWorld.events_keep hwithin)
    rcases List.mem_cons.1 hturn with rfl | hlater
    · exact ⟨_, hends⟩
    · split at hlater
      next =>
        refine ih (DisturbedWorld.within_run hwithin _) hrest (fun k' hk' => ?_) hlater
        have hne : k' ≠ k := fun heq => hfirst (heq ▸ hk')
        exact (Outputs.blank_iff_of_reset_eq hreset hne).2 (hblank k' (List.mem_cons_of_mem k hk'))
      next => cases hlater

/-- Without rollback, the last turn leaves the world as the saga does. -/
theorem leaves_executeFrom :
    (((Saga.executeFrom false ctx (done.map c.activity) (rest.map c.activity)).run o).run
      DisturbedWorld.answer d).2 =
      (c.turnsFrom false ctx done rest o d).foldl (fun _ turn => turn.ended.2) d := by
  induction rest generalizing done o d with
  | nil => rfl
  | cons k rest ih =>
    rw [List.map_cons, Saga.executeFrom, StateT.run_bind, Plan.run_bind, turnsFrom, List.foldl_cons]
    dsimp only [Turn.result, Turn.ended]
    generalize Plan.run DisturbedWorld.answer _ d = ended
    obtain ⟨⟨cause | u, o'⟩, d'⟩ := ended
    · rfl
    · exact @ih o' d' (k :: done)

end Catalog

namespace DisturbedWorld

variable {d : DisturbedWorld} {r : JobRequest} {run : RunId} {settings : Settings}
  {startedAt : Instant} {turn : Turn} {earlier : List Turn}

/-- So every turn of a run ends. -/
theorem ends_of_mem_turns (hwithin : d.Within .abrupt)
    (hturn : turn ∈ d.turns r run false settings startedAt) :
    ∃ blank, turn.trace.Ends turn.world.inventory blank turn.result := by
  unfold turns at hturn
  split at hturn
  next n located hlocated =>
    have hwithin' : located.Within .abrupt := by
      have hrun := within_run hwithin (r.locate run)
      rw [hlocated] at hrun
      exact hrun
    exact Catalog.ends_of_mem_turnsFrom hwithin' (by decide)
      (fun k _ => Outputs.blank_default k) hturn
  next => cases hturn

/-- A run leaves the world as its last turn does. -/
theorem provision_leaves
    (hturns : d.turns r run false settings startedAt = earlier ++ [turn]) :
    (d.provision r run false settings startedAt).2 = turn.ended.2 := by
  unfold turns at hturns
  unfold provision JobRequest.provision
  rw [Plan.run_bind]
  generalize (r.locate run).run answer d = looked at hturns ⊢
  obtain ⟨error | n, located⟩ := looked
  · exact absurd hturns.symm (List.append_ne_nil_of_right_ne_nil _ (List.cons_ne_nil _ _))
  · have hleaves := @Catalog.leaves_executeFrom (n.catalog settings)
      ⟨n.runId, startedAt, .cancellable⟩ {} located [] ActivityKind.all
    dsimp only at hturns ⊢
    rw [hturns, List.foldl_append] at hleaves
    unfold NormalizedRequest.provision
    rw [Plan.run_bind, Plan.run_bind]
    exact hleaves

/-- Looking up where an instance is undoes nothing. -/
theorem not_undoes_of_mem_locate {event : Event} (h : event ∈ events (r.locate run) d) :
    ¬event.Undoes := by
  have hasks : (r.locate run).AsksOnly [.leaderLocation] := by
    unfold JobRequest.locate
    split
    next => exact trivial
    next =>
      refine Plan.asksOnly_bind ⟨?_, fun _ => trivial⟩ fun _ => trivial
      rintro _ ⟨⟩
      exact List.mem_cons_self
  rintro ⟨c, hc, hundoes⟩
  have hplain : c.operation ∈ Hazards.plain := by
    rw [List.mem_singleton.1 (hasks.operation_mem h hc)]
    exact List.mem_cons_self
  exact Call.not_undoes_of_plain hplain hundoes

/-- A run that fails without rollback has carried out its activities up to the one that fails, and
leaves the managers as they were when that one began. No compensation was tried, and nothing was
undone but what this activity had just created. -/
theorem provision_halts (hwithin : d.Within .abrupt) {e : SagaError}
    (he : (d.provision r run false settings startedAt).1 = .error (.saga e)) :
    e.compensationFailures = [] ∧
      ∃ earlier turn, d.turns r run false settings startedAt = earlier ++ [turn] ∧
        (∀ t ∈ earlier, t.side = .transaction ∧ t.result = .ok ()) ∧
        turn.side = .transaction ∧ turn.kind.position = e.index ∧ turn.result = .error e.cause ∧
        ((∀ event ∈ turn.events, event.Asks Hazards.lasting → ¬event.Lost) →
          turn.world.inventory.Untouched
            (d.provision r run false settings startedAt).2.inventory) ∧
        UndoesOwn turn.world.inventory turn.events ∧
        ∃ before, events (r.provision run false settings startedAt) d = before ++ turn.events ∧
          ∀ event ∈ before, ¬event.Undoes := by
  obtain ⟨hevents, ⟨-, hnone⟩ | ⟨result, hunfolds, hresult⟩⟩ :=
    unfolds_provision d r run false settings startedAt
  · exact absurd he (hnone e)
  rw [(hresult e).1 he] at hunfolds
  obtain ⟨earlier, turn, hturns, hearlier, hside, hindex, hfailed, hlisted⟩ := hunfolds.halts
  have hmem : ∀ t, t ∈ earlier ++ [turn] → t ∈ d.turns r run false settings startedAt := by
    rw [hturns]
    exact fun t ht => ht
  obtain ⟨blank, hends⟩ := ends_of_mem_turns hwithin
    (hmem turn (List.mem_append_right _ List.mem_cons_self))
  have hhalted := hends.halted e.cause hfailed
  refine ⟨hlisted, earlier, turn, hturns, hearlier, hside, hindex, hfailed, ?_,
    hhalted.undoesOwn, events (r.locate run) d ++ earlier.flatMap Turn.events, ?_, ?_⟩
  · rw [provision_leaves hturns]
    exact hhalted.untouched
  · rw [hevents, hturns, List.flatMap_append, List.flatMap_singleton, List.append_assoc]
  · intro event hevent
    rcases List.mem_append.1 hevent with hlocate | hearly
    · exact not_undoes_of_mem_locate hlocate
    · obtain ⟨t, ht, hof⟩ := List.mem_flatMap.1 hearly
      obtain ⟨_, hended⟩ := ends_of_mem_turns hwithin (hmem t (List.mem_append_left _ ht))
      exact hended.forward (hearlier t ht).2 event hof

/-- The change feed is refused: the staging bucket stays, and everything is as it was when the feed
was to be prepared. -/
theorem provision_halts_of_refused_feed :
    let refusing := Sample.world Sample.inventory [(.createFeed, .unavailable "down")]
    let ended := refusing.provision Sample.request "abc" false Sample.settings .epoch
    ∃ e, ∃ turn : Turn, ended.1 = .error (.saga e) ∧ turn.kind = .prepareChangeFeed ∧
      turn.kind.position = e.index ∧ turn.world.inventory.Untouched ended.2.inventory ∧
      ended.2.inventory.Holds (.bucket "smt-rr-gcs-abc") := by
  intro refusing ended
  have hforward : ∀ f ∈ [(Operation.createFeed, ManagerError.unavailable "down")],
      f.1 ∉ Hazards.undoings := by decide
  have habrupt : refusing.Within .abrupt := Sample.within hforward
  have hreplied : refusing.Within (Hazards.abrupt.replying Hazards.lasting) :=
    Sample.within hforward
  have he : ended.1 = .error (.saga {
      index := 2
      activity := "PrepareChangeFeed"
      cause := .external "creating change stream" (.manager (.unavailable "down"))
      compensationFailures := [] }) := rfl
  obtain ⟨-, _, turn, -, -, -, hindex, -, huntouched, -, before, hevents, -⟩ :=
    provision_halts habrupt he
  have hkind : turn.kind = .prepareChangeFeed :=
    ActivityKind.position_injective hindex
  refine ⟨_, turn, he, hkind, hindex, huntouched fun event hevent => ?_, rfl⟩
  have hmem : event ∈ events (Sample.request.provision "abc" false Sample.settings .epoch)
      refusing := by
    rw [hevents]
    exact List.mem_append_right _ hevent
  exact events_not_lost hreplied event hmem

/-- The reading pipeline is launched, and the run is cancelled before the launcher has replied with
its id: between starting a pipeline and replying it gives way to others. The run does not know of
the pipeline, so it goes on running, although it did not when it was to be launched. -/
theorem provision_drops :
    let severed := Sample.cutting Sample.inventory .launch
    let pipeline : Holding := .pipeline "smt-reverse-replication-reader-r1" "2026-01-01-1"
    let ended := severed.provision Sample.request "abc" false Sample.settings .epoch
    severed.Within .abrupt ∧ severed.inventory.Reachable ∧
      (∃ e, ended.1 = .error (.saga e) ∧ e.index = 4) ∧
      ∃ turn ∈ severed.turns Sample.request "abc" false Sample.settings .epoch,
        turn.kind.position = 4 ∧ turn.result = .error .cancelled ∧
        ¬turn.world.inventory.Holds pipeline ∧ ended.2.inventory.Holds pipeline := by
  intro severed pipeline ended
  have hindex : (Sample.sagaError? ended.1).any (fun e => e.index == 4) = true := by
    decide +kernel
  have hturn : ∃ turn ∈ severed.turns Sample.request "abc" false Sample.settings .epoch,
      turn.kind.position = 4 ∧ turn.result = .error .cancelled ∧
        turn.world.inventory.running.get? "smt-reverse-replication-reader-r1" ≠
          some "2026-01-01-1" := by decide +kernel
  have hleft : ended.2.inventory.running.get? "smt-reverse-replication-reader-r1" =
      some "2026-01-01-1" := by decide +kernel
  obtain ⟨e, he, hposition⟩ := Sample.exists_of_sagaError? _ hindex
  obtain ⟨turn, hmem, hkind, hcancelled, hnew⟩ := hturn
  exact ⟨Sample.within_cutting trivial trivial, Sample.reachable, ⟨e, he, beq_iff_eq.1 hposition⟩,
    turn, hmem, hkind, hcancelled, hnew, hleft⟩

end DisturbedWorld

end ReverseReplication
