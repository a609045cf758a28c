import ReverseReplication.Proofs.Failures.Turns

/-!
# Which errors a run absorbs

In a run, an error that a transaction is answered with on its way forward is absorbed, and the
transaction goes on, if something that was to be created is there already. Any other ends the run at
that activity and is its cause, whatever is undone then. On the way back an error is absorbed if
something that was to be undone is gone. Any other is listed among the failed compensations, and the
compensations of the activities before it follow all the same (`DisturbedWorld.provision_absorbs`).

This holds in every disturbed world: whatever the managers hold, whichever calls are made to fail,
and whatever other parties do meanwhile.
-/

namespace ReverseReplication

namespace Turn

/-- What becomes of a run when a call of a transaction is answered with an error, before the `later`
events of the transaction. -/
structure DecidedBy (t : Turn) (c : Call) (err : ManagerError) (later : List Event)
    (outcome : Except RunError Provisioned) : Prop where
  goesOn : GoesOn later (Step.failure? t.result) ↔ c.Absorbs err .transaction
  followed : c.Absorbs err .transaction → c.FollowedBy later
  ends : ¬c.Absorbs err .transaction → ∃ e, outcome = .error (.saga e) ∧
    e.index = t.kind.position ∧ e.activity = t.kind.render ∧ c.Blames err e.cause

/-- What becomes of a run when a call of a compensation is answered with an error. -/
structure ListedFor (t : Turn) (c : Call) (err : ManagerError) (e : SagaError) : Prop where
  listed : (∃ f ∈ e.compensationFailures, f.IsOf t.kind) ↔ ¬c.Absorbs err .compensation
  blames : ∀ f ∈ e.compensationFailures, f.IsOf t.kind → c.Blames err f.error

end Turn

namespace DisturbedWorld

variable {d : DisturbedWorld} {r : JobRequest} {run : RunId} {rollback : Bool} {settings : Settings}
  {startedAt : Instant} {turn : Turn}

section unfolding

variable {result : Except SagaError Nat} {outcome : Except RunError Provisioned} {c : Call}
  {err : ManagerError} {event : Event}

/-- How a transaction went on after an error decides how the run ends. -/
theorem decidedBy_of_unfolds (hturn : turn ∈ d.turns r run rollback settings startedAt)
    (hunfolds : Unfolds rollback [] ActivityKind.all (d.turns r run rollback settings startedAt)
      result)
    (houtcome : ∀ e, outcome = .error (.saga e) ↔ result = .error e)
    (hside : turn.side = .transaction) {earlier later : List Event}
    (hsplit : turn.events = earlier ++ event :: later)
    (hquery : event.query = .guarded .cancellable c) (herr : event.error? = some err) :
    turn.DecidedBy c err later outcome := by
  obtain ⟨n, -, hcarries⟩ := d.carriesOut_of_mem_turns r run rollback settings startedAt hturn
  rcases (hcarries.reported rfl hside).at_error hsplit hquery herr with
    ⟨habsorbs, hgoes, hfollowed⟩ | ⟨hrefused, hback, cause, hcause, hblames⟩
  · exact ⟨⟨fun _ => habsorbs, fun _ => hgoes⟩, fun _ => hfollowed, fun h => absurd habsorbs h⟩
  · refine ⟨⟨?_, fun h => absurd h hrefused⟩, fun h => absurd h hrefused, fun _ => ?_⟩
    · rintro (hok | ⟨event', hmem, hforward⟩)
      · rw [hcause] at hok
        cases hok
      · exact absurd hforward (hback event' hmem)
    · obtain ⟨e, he, hindex, hactivity, rfl⟩ :=
        hunfolds.of_transaction hturn hside (Step.failure?_eq_some hcause)
      exact ⟨e, (houtcome e).2 he, hindex, hactivity, hblames⟩

/-- An error of a compensation is in the list of the run's error, unless it is absorbed. -/
theorem listedFor_of_unfolds (hturn : turn ∈ d.turns r run rollback settings startedAt)
    (hunfolds : Unfolds rollback [] ActivityKind.all (d.turns r run rollback settings startedAt)
      result)
    (hside : turn.side = .compensation) (hevent : event ∈ turn.events)
    (hc : event.query.call? = some c) (herr : event.error? = some err) :
    ∃ e, result = .error e ∧ turn.ListedFor c err e := by
  obtain ⟨n, -, hcarries⟩ := d.carriesOut_of_mem_turns r run rollback settings startedAt hturn
  obtain ⟨e, he, hlisted⟩ := hunfolds.of_compensation rfl hturn hside
  refine ⟨e, he, ?_⟩
  rcases hcarries.compensation_at_error hside hevent hc herr with
    ⟨habsorbs, hok⟩ | ⟨hrefused, cause, hcause, hblames⟩
  · have hnone : ∀ f ∈ e.compensationFailures, ¬f.IsOf turn.kind := by
      intro f hmem hf
      have hfailed := (hlisted f hf).1 hmem
      rw [hok] at hfailed
      cases hfailed
    refine ⟨⟨?_, fun h => absurd habsorbs h⟩, fun f hmem hf => absurd hf (hnone f hmem)⟩
    rintro ⟨f, hmem, hf⟩
    exact absurd hf (hnone f hmem)
  · refine ⟨⟨fun _ => hrefused, fun _ => ?_⟩, fun f hmem hf => ?_⟩
    · let f : CompensationFailure := ⟨turn.kind.position, turn.kind.render, cause⟩
      exact ⟨f, (hlisted f ⟨rfl, rfl⟩).2 hcause, rfl, rfl⟩
    · have hfailed := (hlisted f hf).1 hmem
      rw [hcause] at hfailed
      cases hfailed
      exact hblames

end unfolding

/-- Which errors a run absorbs on its way forward and on its way back, and what becomes of it for
the others. -/
theorem provision_absorbs (d : DisturbedWorld) (r : JobRequest) (run : RunId) (rollback : Bool)
    (settings : Settings) (startedAt : Instant) :
    let outcome := (d.provision r run rollback settings startedAt).1
    let turns := d.turns r run rollback settings startedAt
    events (r.provision run rollback settings startedAt) d =
        events (r.locate run) d ++ turns.flatMap Turn.events ∧
      (∀ e, outcome = .error (.saga e) → ∃ earlier k later,
        ActivityKind.all = earlier ++ k :: later ∧ e.index = k.position ∧ e.activity = k.render ∧
          turns.map Turn.label = (earlier ++ [k]).map (.transaction, ·) ++
            (if rollback then earlier.reverse else []).map (.compensation, ·)) ∧
      (∀ turn ∈ turns, turn.side = .transaction → ∀ earlier event later c err,
        turn.events = earlier ++ event :: later → event.query = .guarded .cancellable c →
        event.error? = some err → turn.DecidedBy c err later outcome) ∧
      ∀ turn ∈ turns, turn.side = .compensation → ∀ event ∈ turn.events, ∀ c err,
        event.query.call? = some c → event.error? = some err →
          ∃ e, outcome = .error (.saga e) ∧ turn.ListedFor c err e := by
  intro outcome turns
  obtain ⟨hevents, hends⟩ := d.unfolds_provision r run rollback settings startedAt
  rcases hends with ⟨hnone, hno⟩ | ⟨result, hunfolds, houtcome⟩
  · have hempty : ∀ turn, turn ∉ turns := by
      intro turn hturn
      change turn ∈ d.turns r run rollback settings startedAt at hturn
      rw [hnone] at hturn
      cases hturn
    refine ⟨hevents, fun e he => absurd he (hno e), ?_, ?_⟩
    · exact fun turn hturn => absurd hturn (hempty turn)
    · exact fun turn hturn => absurd hturn (hempty turn)
  refine ⟨hevents, ?_, ?_, ?_⟩
  · intro e he
    rw [(houtcome e).1 he] at hunfolds
    obtain ⟨earlier, k, later, hall, hindex, hactivity, hlabels⟩ := hunfolds.labels
    rw [List.append_nil] at hlabels
    exact ⟨earlier, k, later, hall, hindex, hactivity, hlabels⟩
  · intro turn hturn hside earlier event later c err hsplit hquery herr
    exact decidedBy_of_unfolds hturn hunfolds houtcome hside hsplit hquery herr
  · intro turn hturn hside event hevent c err hcall herr
    obtain ⟨e, he, hlisted⟩ := listedFor_of_unfolds hturn hunfolds hside hevent hcall herr
    exact ⟨e, (houtcome e).2 he, hlisted⟩

end DisturbedWorld

/-! ## A run to look at -/

namespace Sample

/-- The turns of the run of the request, with rollback. -/
def turns (inventory : Inventory) (failing : List (Operation × ManagerError)) : List Turn :=
  (world inventory failing).turns request "abc" true settings .epoch

/-- In the turn, a call of the operation is answered with the error. -/
def isAnswered (side : Saga.Side) (k : ActivityKind) (op : Operation) (err : ManagerError)
    (t : Turn) : Bool :=
  t.label = (side, k) ∧ t.events.any fun event =>
    event.query.call?.any (·.operation = op) ∧ event.error? = some err ∧
      event.query.isCheck = decide (side = .transaction)

/-- A turn in which a call was seen to be answered with an error is there, with the event. -/
theorem exists_of_isAnswered {turns : List Turn} {side : Saga.Side} {k : ActivityKind}
    {op : Operation} {err : ManagerError} (h : turns.any (isAnswered side k op err) = true) :
    ∃ turn ∈ turns, turn.side = side ∧ turn.kind = k ∧ ∃ event ∈ turn.events, ∃ c,
      event.query.call? = some c ∧ c.operation = op ∧ event.error? = some err ∧
      event.query.isCheck = decide (side = .transaction) := by
  obtain ⟨turn, hturn, hanswered⟩ := List.any_eq_true.1 h
  obtain ⟨hlabel, hany⟩ := of_decide_eq_true hanswered
  obtain ⟨event, hevent, htest⟩ := List.any_eq_true.1 hany
  obtain ⟨hcall, herr, hcheck⟩ := of_decide_eq_true htest
  obtain ⟨c, hc, hop⟩ := (Option.any_eq_true _ _).1 hcall
  exact ⟨turn, hturn, congrArg Prod.fst hlabel, congrArg Prod.snd hlabel, event, hevent, c, hc,
    of_decide_eq_true hop, herr, hcheck⟩

end Sample

/-- The reader cannot be launched, and then the metadata database cannot be dropped. Neither error
is absorbed. -/
theorem DisturbedWorld.provision_absorbs_of_launch_down :
    let failing := [(.launch, .unavailable "down"), (.dropDatabase, .unavailable "busy")]
    ∃ e, (Sample.run Sample.inventory failing).1 = .error (.saga e) ∧
      e.index = ActivityKind.launchReader.position ∧
      (∃ context, e.cause = .external context (.manager (.unavailable "down"))) ∧
      ∃ f ∈ e.compensationFailures, f.IsOf .prepareMetadataStore ∧
        ∃ context, f.error = .external context (.manager (.unavailable "busy")) := by
  intro failing
  obtain ⟨-, -, hforward, hbackward⟩ := provision_absorbs (Sample.world Sample.inventory failing)
    Sample.request "abc" true Sample.settings .epoch
  have hlaunch : (Sample.turns Sample.inventory failing).any
      (Sample.isAnswered .transaction .launchReader .launch (.unavailable "down")) = true := by
    decide +kernel
  have hdrop : (Sample.turns Sample.inventory failing).any
      (Sample.isAnswered .compensation .prepareMetadataStore .dropDatabase
        (.unavailable "busy")) = true := by
    decide +kernel
  obtain ⟨turn, hturn, hside, hkind, event, hevent, c, hc, -, herr, hcheck⟩ :=
    Sample.exists_of_isAnswered hlaunch
  obtain ⟨back, hmem, hback, hundone, event', hevent', c', hc', -, herr', -⟩ :=
    Sample.exists_of_isAnswered hdrop
  obtain ⟨earlier, later, hsplit⟩ := List.append_of_mem hevent
  have hdecided := hforward turn hturn hside earlier event later c _ hsplit
    (Query.eq_guarded hc hcheck) herr
  obtain ⟨e, he, hindex, -, hblames⟩ := hdecided.ends fun habsorbs => by cases habsorbs.2
  obtain ⟨e', he', hlisted⟩ := hbackward back hmem hback event' hevent' c' _ hc' herr'
  obtain rfl : e = e' := by
    cases he.symm.trans he'
    rfl
  obtain ⟨f, hf, hplace⟩ := hlisted.listed.2 fun habsorbs => by cases habsorbs.2
  refine ⟨e, he, hindex.trans (congrArg _ hkind), hblames.of_unavailable,
    f, hf, hundone ▸ hplace, ?_⟩
  exact (hlisted.blames f hf hplace).of_unavailable

end ReverseReplication
