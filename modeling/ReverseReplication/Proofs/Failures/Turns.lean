import Mathlib.Data.List.Nodup
import ReverseReplication.Proofs.Failures.Activities
import ReverseReplication.Proofs.Ownership.Run

/-!
# The turns of a run

A run is a look-up and then a sequence of turns, one for each transaction that is begun and one for
each compensation (`DisturbedWorld.turns`). The events of the run are those of the look-up and of
the turns, in this order (`DisturbedWorld.unfolds_provision`).

How the turns end decides how the saga ends (`Unfolds`): the turns of transactions end with the
first that fails, which is the one that the error names, and the error lists the turns of
compensations that fail.
-/

namespace ReverseReplication

/-- Each activity has a place of its own in the order. -/
theorem ActivityKind.position_injective {k k' : ActivityKind} (h : k.position = k'.position) :
    k = k' := by
  have hmem : k ∈ all := by cases k <;> decide
  exact (List.idxOf_inj hmem).1 h

/-- A turn of an activity: its transaction, unless the run is cancelled by then, or its
compensation. -/
structure Turn where
  side : Saga.Side
  kind : ActivityKind
  plan : Plan (Except ActivityError Unit × Outputs)
  /-- The world in which the turn begins. -/
  world : DisturbedWorld

namespace Turn

def events (t : Turn) : List Event := DisturbedWorld.events t.plan t.world

def ended (t : Turn) : (Except ActivityError Unit × Outputs) × DisturbedWorld :=
  t.plan.run DisturbedWorld.answer t.world

def result (t : Turn) : Except ActivityError Unit := t.ended.1.1

/-- Which turn it is. -/
def label (t : Turn) : Saga.Side × ActivityKind := (t.side, t.kind)

/-- The turn as a failed compensation, if it has failed. -/
def failure? (t : Turn) : Option CompensationFailure :=
  match t.result with
  | .ok () => none
  | .error error => some ⟨t.kind.position, t.kind.render, error⟩

/-- A failed compensation is listed under its activity, with its error. -/
theorem failure?_eq_some {t : Turn} {f : CompensationFailure} (h : t.failure? = some f) :
    t.result = .error f.error ∧ f.IsOf t.kind := by
  unfold failure? at h
  split at h
  next => cases h
  next error hresult =>
    cases h
    exact ⟨hresult, rfl, rfl⟩

end Turn

/-! ## The turns of a saga -/

namespace Catalog

/-- The turns of compensations, the last activity first. -/
def turnsBack (c : Catalog) (ctx : Context) :
    List ActivityKind → Outputs → DisturbedWorld → List Turn
  | [], _, _ => []
  | k :: earlier, o, d =>
    let turn : Turn := ⟨.compensation, k, c.compensate k ctx.detach o, d⟩
    turn :: c.turnsBack ctx earlier turn.ended.1.2 turn.ended.2

/-- The turns of the activities that are left, and of the compensations if one of them fails. -/
def turnsFrom (c : Catalog) (rollback : Bool) (ctx : Context) :
    List ActivityKind → List ActivityKind → Outputs → DisturbedWorld → List Turn
  | _, [], _, _ => []
  | done, k :: rest, o, d =>
    let turn : Turn := ⟨.transaction, k, (Saga.attempt ctx (c.activity k)).run o, d⟩
    turn :: match turn.result with
      | .ok () => c.turnsFrom rollback ctx (k :: done) rest turn.ended.1.2 turn.ended.2
      | .error _ => if rollback then c.turnsBack ctx done turn.ended.1.2 turn.ended.2 else []

end Catalog

/-- How the turns of a saga unfold, by the activities that are done, last first, and those that are
left. -/
inductive Unfolds (rollback : Bool) :
    List ActivityKind → List ActivityKind → List Turn → Except SagaError Nat → Prop
  | finished (done : List ActivityKind) (n : Nat) : Unfolds rollback done [] [] (.ok n)
  | carriedOut {k : ActivityKind} {done rest : List ActivityKind} {turn : Turn} {turns : List Turn}
    {result : Except SagaError Nat} : turn.label = (.transaction, k) → turn.result = .ok () →
    Unfolds rollback (k :: done) rest turns result →
    Unfolds rollback done (k :: rest) (turn :: turns) result
  | failed {k : ActivityKind} {done : List ActivityKind} (rest : List ActivityKind) {turn : Turn}
    {back : List Turn} {cause : ActivityError} : turn.label = (.transaction, k) →
    turn.result = .error cause →
    back.map Turn.label = (if rollback then done else []).map (.compensation, ·) →
    Unfolds rollback done (k :: rest) (turn :: back)
      (.error ⟨k.position, k.render, cause, back.filterMap Turn.failure?⟩)

namespace Catalog

variable {c : Catalog} {ctx : Context} {o : Outputs} {d : DisturbedWorld} {rollback : Bool}
  {done rest : List ActivityKind}

/-- There is one turn for each activity that is undone, the last one first. -/
theorem label_turnsBack :
    (c.turnsBack ctx done o d).map Turn.label = done.map (.compensation, ·) := by
  induction done generalizing o d with
  | nil => rfl
  | cons k earlier ih =>
    rw [turnsBack, List.map_cons, List.map_cons, ih]
    rfl

/-- The compensations are their turns: they have the events of the turns, and list those that have
failed. -/
theorem unfolds_compensate (c : Catalog) (ctx : Context) (o : Outputs) (d : DisturbedWorld)
    (hdone : done.reverse <+: ActivityKind.all) :
    let plan := (Saga.compensate ctx.detach (done.map c.activity)).run o
    let turns := c.turnsBack ctx done o d
    DisturbedWorld.events plan d = turns.flatMap Turn.events ∧
      (plan.run DisturbedWorld.answer d).1.1 = turns.filterMap Turn.failure? := by
  induction done generalizing o d with
  | nil => exact ⟨rfl, rfl⟩
  | cons k earlier ih =>
    rw [List.reverse_cons] at hdone
    have hposition : k.position = earlier.length := by
      rw [ActivityKind.position_of_prefix hdone, List.length_reverse]
    have hname : (c.activity k).name = k.render := by cases k <;> rfl
    have hthen := fun o' d' => ih o' d' ((List.prefix_append _ _).trans hdone)
    dsimp only
    rw [List.map_cons, Saga.compensate, StateT.run_bind, DisturbedWorld.events_bind, Plan.run_bind,
      turnsBack, List.flatMap_cons, List.filterMap_cons]
    dsimp only [Turn.failure?, Turn.result, Turn.ended, Turn.events, compensate]
    generalize Plan.run DisturbedWorld.answer _ d = ended
    obtain ⟨⟨result, o'⟩, d'⟩ := ended
    obtain ⟨hevents, hfailures⟩ := hthen o' d'
    rw [StateT.run_bind, DisturbedWorld.events_bind, Plan.run_bind, hevents]
    rw [List.length_map, hposition, hname]
    cases result with
    | ok u =>
      refine ⟨congrArg (_ ++ ·) (List.append_nil _), ?_⟩
      exact hfailures
    | error e =>
      refine ⟨congrArg (_ ++ ·) (List.append_nil _), ?_⟩
      exact congrArg (_ :: ·) hfailures

/-- The saga is its turns: it has their events, and ends as they say. -/
theorem unfolds_executeFrom (hsplit : ActivityKind.all = done.reverse ++ rest) :
    let plan := (Saga.executeFrom rollback ctx (done.map c.activity) (rest.map c.activity)).run o
    let turns := c.turnsFrom rollback ctx done rest o d
    DisturbedWorld.events plan d = turns.flatMap Turn.events ∧
      Unfolds rollback done rest turns (plan.run DisturbedWorld.answer d).1.1 := by
  induction rest generalizing done o d with
  | nil => exact ⟨rfl, .finished done _⟩
  | cons k rest ih =>
    have hnext : done.reverse ++ [k] <+: ActivityKind.all :=
      ⟨rest, by rw [hsplit, List.append_assoc, List.singleton_append]⟩
    have hposition : k.position = done.length := by
      rw [ActivityKind.position_of_prefix hnext, List.length_reverse]
    have hname : (c.activity k).name = k.render := by cases k <;> rfl
    have hsplit' : ActivityKind.all = (k :: done).reverse ++ rest := by
      rw [hsplit, List.reverse_cons, List.append_assoc, List.singleton_append]
    have hthen := fun o' d' => ih (o := o') (d := d') hsplit'
    have hback := fun o' d' =>
      unfolds_compensate c ctx o' d' ((List.prefix_append _ _).trans hnext)
    dsimp only
    rw [List.map_cons, Saga.executeFrom, StateT.run_bind, DisturbedWorld.events_bind, Plan.run_bind,
      turnsFrom]
    obtain ⟨turn, hturn⟩ : ∃ turn : Turn,
        turn = ⟨.transaction, k, (Saga.attempt ctx (c.activity k)).run o, d⟩ := ⟨_, rfl⟩
    have hlabel : turn.label = (.transaction, k) := by rw [hturn, Turn.label]
    have hevents : DisturbedWorld.events ((Saga.attempt ctx (c.activity k)).run o) d =
        turn.events := by rw [hturn, Turn.events]
    rcases hended : Plan.run DisturbedWorld.answer _ d with ⟨⟨result, o'⟩, d'⟩
    have hresult : turn.result = result := by rw [hturn, Turn.result, Turn.ended, hended]
    have hturned : turn.ended = ((result, o'), d') := by rw [hturn, Turn.ended, hended]
    rw [← hturn, hresult, hturned, hevents, List.flatMap_cons]
    -- The first turn decides: the saga goes on behind it, or ends with it and is rolled back.
    cases result with
    | ok u =>
      obtain ⟨hrest, hunfolds⟩ := hthen o' d'
      exact ⟨congrArg (_ ++ ·) hrest, .carriedOut hlabel hresult hunfolds⟩
    | error cause =>
      rw [List.length_map, ← hposition, hname]
      cases rollback with
      | false =>
        exact ⟨rfl, .failed rest hlabel hresult rfl⟩
      | true =>
        obtain ⟨hrest, hfailures⟩ := hback o' d'
        dsimp only
        rw [if_pos rfl, if_pos rfl, StateT.run_bind, DisturbedWorld.events_bind, Plan.run_bind,
          hrest, hfailures]
        refine ⟨congrArg (_ ++ ·) (List.append_nil _), ?_⟩
        exact .failed rest hlabel hresult label_turnsBack

/-- The saga of a run is its turns, from the first activity on. -/
theorem unfolds_execute (c : Catalog) (rollback : Bool) (ctx : Context) (d : DisturbedWorld) :
    let plan := (Saga.execute rollback ctx c.activities).run {}
    let turns := c.turnsFrom rollback ctx [] ActivityKind.all {} d
    DisturbedWorld.events plan d = turns.flatMap Turn.events ∧
      Unfolds rollback [] ActivityKind.all turns (plan.run DisturbedWorld.answer d).1.1 := by
  have hsplit : ActivityKind.all = [].reverse ++ ActivityKind.all := rfl
  exact unfolds_executeFrom hsplit

/-- What a turn carries out. -/
structure CarriesOut (c : Catalog) (ctx : Context) (turn : Turn) : Prop where
  transaction : turn.side = .transaction →
    ∃ o, turn.plan = (Saga.attempt ctx (c.activity turn.kind)).run o
  compensation : turn.side = .compensation → ∃ o, turn.plan = c.compensate turn.kind ctx.detach o

section carriesOut

variable {turn : Turn} (h : c.CarriesOut ctx turn)

include h

/-- The events of a transaction account for its failure. -/
theorem CarriesOut.reported (hctx : ctx.scope = .cancellable) (hside : turn.side = .transaction) :
    Reported (c.Rejects · turn.kind) turn.events (Step.failure? turn.result) := by
  obtain ⟨o, hplan⟩ := h.transaction hside
  unfold Turn.events Turn.result Turn.ended
  rw [hplan]
  exact reported_attempt hctx turn.kind o turn.world

/-- What becomes of an error on the way back. -/
theorem CarriesOut.compensation_at_error (hside : turn.side = .compensation) {event : Event}
    {call : Call} {err : ManagerError} (hevent : event ∈ turn.events)
    (hcall : event.query.call? = some call) (herr : event.error? = some err) :
    (call.Absorbs err .compensation ∧ turn.result = .ok ()) ∨
      (¬call.Absorbs err .compensation ∧
        ∃ cause, turn.result = .error cause ∧ call.Blames err cause) := by
  obtain ⟨o, hplan⟩ := h.compensation hside
  unfold Turn.events at hevent
  unfold Turn.result Turn.ended
  rw [hplan] at hevent ⊢
  exact compensate_at_error hevent hcall herr

end carriesOut

/-- Every turn of the way back carries out an activity of the catalog. -/
theorem carriesOut_of_mem_turnsBack {turn : Turn} (h : turn ∈ c.turnsBack ctx done o d) :
    c.CarriesOut ctx turn := by
  induction done generalizing o d with
  | nil => cases h
  | cons k earlier ih =>
    rcases List.mem_cons.1 h with rfl | hrest
    · exact ⟨nofun, fun _ => ⟨o, rfl⟩⟩
    · exact ih hrest

/-- So does every turn of the rest of the run. -/
theorem carriesOut_of_mem_turnsFrom {turn : Turn}
    (h : turn ∈ c.turnsFrom rollback ctx done rest o d) : c.CarriesOut ctx turn := by
  induction rest generalizing done o d with
  | nil => cases h
  | cons k rest ih =>
    rcases List.mem_cons.1 h with rfl | hrest
    · exact ⟨fun _ => ⟨o, rfl⟩, nofun⟩
    · split at hrest
      next => exact ih hrest
      next =>
        split at hrest
        next => exact carriesOut_of_mem_turnsBack hrest
        next => cases hrest

end Catalog

namespace Unfolds

variable {rollback : Bool} {done rest : List ActivityKind} {turns : List Turn}
  {result : Except SagaError Nat} {e : SagaError} {turn : Turn}

/-- Which turns there are when a saga has failed. -/
theorem labels (h : Unfolds rollback done rest turns (.error e)) :
    ∃ earlier k later, rest = earlier ++ k :: later ∧ e.index = k.position ∧
      e.activity = k.render ∧
      turns.map Turn.label = (earlier ++ [k]).map (.transaction, ·) ++
        (if rollback then earlier.reverse ++ done else []).map (.compensation, ·) := by
  generalize hresult : (.error e : Except SagaError Nat) = result at h
  induction h with
  | finished => cases hresult
  | @carriedOut k done rest turn turns _ hlabel _ _ ih =>
    obtain ⟨earlier, k', later, rfl, hindex, hactivity, hlabels⟩ := ih hresult
    refine ⟨k :: earlier, k', later, rfl, hindex, hactivity, ?_⟩
    rw [List.map_cons, hlabel, hlabels, List.reverse_cons, List.append_assoc,
      List.singleton_append]
    rfl
  | failed rest hlabel _ hback =>
    cases hresult
    refine ⟨[], _, rest, rfl, rfl, rfl, ?_⟩
    rw [List.map_cons, hlabel, hback]
    rfl

/-- The error of a saga is that of the transaction that has failed. -/
theorem of_transaction (h : Unfolds rollback done rest turns result) (hturn : turn ∈ turns)
    (hside : turn.side = .transaction) {cause : ActivityError}
    (hcause : turn.result = .error cause) :
    ∃ e, result = .error e ∧ e.index = turn.kind.position ∧ e.activity = turn.kind.render ∧
      e.cause = cause := by
  induction h with
  | finished => cases hturn
  | carriedOut _ hok _ ih =>
    rcases List.mem_cons.1 hturn with rfl | hrest
    · rw [hok] at hcause
      cases hcause
    · exact ih hrest
  | @failed k _ _ first back _ hlabel hfailed hback =>
    rcases List.mem_cons.1 hturn with rfl | hrest
    · rw [hfailed] at hcause
      cases hcause
      obtain rfl : turn.kind = k := congrArg Prod.snd hlabel
      exact ⟨_, rfl, rfl, rfl, rfl⟩
    · have hmem : turn.label ∈ back.map Turn.label := List.mem_map_of_mem hrest
      rw [hback] at hmem
      obtain ⟨k', -, hk'⟩ := List.mem_map.1 hmem
      rw [Turn.label, hside] at hk'
      cases hk'

/-- The cause of a saga's failure is that of one of its transactions. -/
theorem cause (h : Unfolds rollback done rest turns (.error e)) :
    ∃ turn ∈ turns, turn.side = .transaction ∧ turn.result = .error e.cause := by
  generalize hresult : (.error e : Except SagaError Nat) = result at h
  induction h with
  | finished => cases hresult
  | carriedOut _ _ _ ih =>
    obtain ⟨turn, hturn, hends⟩ := ih hresult
    exact ⟨turn, List.mem_cons_of_mem _ hturn, hends⟩
  | failed _ hlabel hfailed =>
    cases hresult
    exact ⟨_, List.mem_cons_self, congrArg Prod.fst hlabel, hfailed⟩

/-- The error of a saga lists a compensation if it has failed. -/
theorem of_compensation (h : Unfolds rollback done rest turns result)
    (hsplit : ActivityKind.all = done.reverse ++ rest) (hturn : turn ∈ turns)
    (hside : turn.side = .compensation) :
    ∃ e, result = .error e ∧ ∀ f : CompensationFailure, f.IsOf turn.kind →
      (f ∈ e.compensationFailures ↔ turn.result = .error f.error) := by
  have hfirst : ∀ {first : Turn} {k : ActivityKind}, first.label = (.transaction, k) →
      turn ≠ first := by
    rintro first k hlabel rfl
    rw [Turn.label, hside] at hlabel
    cases hlabel
  induction h with
  | finished => cases hturn
  | carriedOut hlabel _ _ ih =>
    refine ih ?_ ((List.mem_cons.1 hturn).resolve_left (hfirst hlabel))
    rw [hsplit, List.reverse_cons, List.append_assoc, List.singleton_append]
  | @failed k done rest _ back cause hlabel _ hback =>
    have hmem := (List.mem_cons.1 hturn).resolve_left (hfirst hlabel)
    -- Each activity is compensated once at most, so a failure that is listed is that of its turn.
    have hdistinct : (back.map Turn.label).Nodup := by
      have hdone : done.Nodup := by
        have hall : (done.reverse ++ k :: rest).Nodup := hsplit ▸ by decide
        exact List.nodup_reverse.1 (List.nodup_append.1 hall).1
      rw [hback]
      refine List.Nodup.map (fun _ _ heq => congrArg Prod.snd heq) ?_
      split
      next => exact hdone
      next => exact List.nodup_nil
    refine ⟨_, rfl, fun f hf => ?_⟩
    rw [List.mem_filterMap]
    constructor
    · rintro ⟨other, hother, hfailure⟩
      obtain ⟨hresult, hplace⟩ := Turn.failure?_eq_some hfailure
      obtain rfl : other = turn := by
        refine List.inj_on_of_nodup_map hdistinct hother hmem ?_
        have hkind := ActivityKind.position_injective (hplace.1.symm.trans hf.1)
        have hlabel : other.label ∈ back.map Turn.label := List.mem_map_of_mem hother
        rw [hback] at hlabel
        obtain ⟨_, -, hk⟩ := List.mem_map.1 hlabel
        have hother' : other.side = .compensation := (congrArg Prod.fst hk).symm
        rw [Turn.label, Turn.label, hside, hkind, hother']
      exact hresult
    · intro hresult
      refine ⟨turn, hmem, ?_⟩
      rw [Turn.failure?, hresult, ← hf.1, ← hf.2]

end Unfolds

/-! ## The turns of a run -/

namespace DisturbedWorld

variable (d : DisturbedWorld) (r : JobRequest) (run : RunId) (rollback : Bool) (settings : Settings)
  (startedAt : Instant)

/-- The turns of a run, in their order. A run that is not located has none. -/
def turns : List Turn :=
  match (r.locate run).run answer d with
  | (.ok n, located) =>
    (n.catalog settings).turnsFrom rollback ⟨n.runId, startedAt, .cancellable⟩ []
      ActivityKind.all {} located
  | (.error _, _) => []

/-- The turns of a run are those of the catalog of its request. -/
theorem carriesOut_of_mem_turns {turn : Turn}
    (h : turn ∈ d.turns r run rollback settings startedAt) :
    ∃ n, ((r.locate run).run answer d).1 = .ok n ∧
      (n.catalog settings).CarriesOut ⟨n.runId, startedAt, .cancellable⟩ turn := by
  unfold turns at h
  split at h
  next n _ hlocated =>
    refine ⟨n, ?_, Catalog.carriesOut_of_mem_turnsFrom h⟩
    rw [hlocated]
  next => cases h

/-- A run fails as its saga does. -/
theorem provision_error_iff {n : NormalizedRequest} {d : DisturbedWorld} {rollback : Bool}
    {settings : Settings} {startedAt : Instant} {e : SagaError} :
    let plan := (Saga.execute rollback ⟨n.runId, startedAt, .cancellable⟩
      (n.catalog settings).activities).run {}
    ((n.provision rollback settings startedAt).run answer d).1 = .error e ↔
      (plan.run answer d).1.1 = .error e := by
  unfold NormalizedRequest.provision
  dsimp only
  rw [Plan.run_bind]
  generalize Plan.run answer _ d = ended
  obtain ⟨⟨cause | executed, outputs⟩, after⟩ := ended
  · constructor
    · intro he
      cases he
      rfl
    · intro he
      cases he
      rfl
  · exact ⟨nofun, nofun⟩

/-- A run is its look-up and its turns: it has their events, and its saga ends as the turns say. -/
theorem unfolds_provision :
    let turns := d.turns r run rollback settings startedAt
    events (r.provision run rollback settings startedAt) d =
        events (r.locate run) d ++ turns.flatMap Turn.events ∧
      (turns = [] ∧ (∀ e, (d.provision r run rollback settings startedAt).1 ≠ .error (.saga e)) ∨
        ∃ result, Unfolds rollback [] ActivityKind.all turns result ∧
          ∀ e, (d.provision r run rollback settings startedAt).1 = .error (.saga e) ↔
            result = .error e) := by
  unfold turns provision JobRequest.provision
  rw [events_bind, Plan.run_bind]
  rcases (r.locate run).run answer d with ⟨error | n, located⟩
  · exact ⟨congrArg (_ ++ ·) rfl, .inl ⟨rfl, nofun⟩⟩
  · dsimp only
    obtain ⟨hevents, hunfolds⟩ := (n.catalog settings).unfolds_execute rollback
      ⟨n.runId, startedAt, .cancellable⟩ located
    rw [events_bind, Plan.run_bind]
    refine ⟨congrArg (_ ++ ·) ?_, .inr ⟨_, hunfolds, fun e => ?_⟩⟩
    · unfold NormalizedRequest.provision
      rw [events_bind, hevents]
      exact (List.append_nil _).trans (List.append_nil _)
    · refine Iff.trans ?_ provision_error_iff
      generalize (n.provision rollback settings startedAt).run answer located = ended
      obtain ⟨cause | provisioned, after⟩ := ended
      · constructor
        · intro he
          cases he
          rfl
        · intro he
          cases he
          rfl
      · exact ⟨nofun, nofun⟩

end DisturbedWorld

end ReverseReplication
