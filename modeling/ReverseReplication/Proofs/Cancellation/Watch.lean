import ReverseReplication.Proofs.Hazards

/-!
# Watching for the cancellation

A run looks at its cancellation at `checks`: before each activity, and when it makes a guarded call
or reads a local file under its own context. A `WatchedWorld` counts the checks, can cancel the run
just before one of them, and lists the calls that are made from then on. Nothing else goes wrong in
it.

A run that is not to be cancelled is the run in the world that is watched
(`WatchedWorld.run_uncancelled`). When it is cancelled before a check that it would have come to, it
ends cancelled, and up to that check it has asked what it would have asked
(`WatchedWorld.run_cancelled`).
-/

namespace ReverseReplication

/-! ## Checks -/

namespace Query

/-- Does the query look at the cancellation of the run? -/
def isCheck : Query → Bool
  | .cancelled scope => scope = .cancellable
  | .call _ => false
  | .guarded scope _ => scope = .cancellable
  | .file scope _ => scope = .cancellable

/-- Is the query the one that is asked before an activity is carried out? -/
def isBoundary : Query → Bool
  | .cancelled _ => true
  | _ => false

/-- The call that is made for a query. One that is given up is not. -/
def made? : (q : Query) → q.Answer → Option Call
  | .call c, _ => some c
  | .guarded _ c, some _ => some c
  | .guarded _ _, none => none
  | .cancelled _, _ => none
  | .file _ _, _ => none

end Query

/-- A world that is cancelled just before one of the checks, and keeps a record. -/
structure WatchedWorld where
  world : World
  /-- Before which check the run is cancelled, counted from zero; it is not, if none. -/
  cancelAt : Option Nat := none
  /-- The checks so far, up to the one that first sees the cancellation. -/
  checks : List Query := []
  /-- The calls made since the cancellation. -/
  callsSince : List Call := []

namespace WatchedWorld

/-- Comes to a query. The first check that sees the cancellation is the last to be recorded. -/
def reach (w : WatchedWorld) (q : Query) : WatchedWorld :=
  if q.isCheck && !w.world.cancelled then
    { w with
      world := if w.cancelAt = some w.checks.length then w.world.cancel else w.world
      checks := w.checks ++ [q] }
  else w

/-- Answers a query as the world does. -/
def answer : Plan.Handler WatchedWorld := fun q w =>
  let reached := w.reach q
  let result := reached.world.answer q
  (result.1, { reached with
    world := result.2
    callsSince := if reached.world.cancelled then
        reached.callsSince ++ (q.made? result.1).toList
      else reached.callsSince })

/-- What the managers hold. -/
def inventory (w : WatchedWorld) : Inventory := w.world.managers.inventory

/-- How many activities were begun so far. -/
def begun (w : WatchedWorld) : Nat := w.checks.countP Query.isBoundary

variable {w : WatchedWorld} {q : Query} {α : Type}

/-! ## What a query does -/

/-- Answering does not cancel. -/
theorem cancelled_answer (w : World) (q : Query) : (w.answer q).2.cancelled = w.cancelled := by
  cases q with
  | cancelled scope => rfl
  | call c => rfl
  | guarded scope c =>
    rw [World.answer]
    split <;> rfl
  | file scope path =>
    rw [World.answer]
    split <;> rfl

/-- A cancellation comes when a check is reached, and not with its answer. -/
theorem cancelled_answer_eq (w : WatchedWorld) (q : Query) :
    (answer q w).2.world.cancelled = (w.reach q).world.cancelled :=
  cancelled_answer _ q

/-- Answering adds no checks to those that were reached. -/
theorem checks_answer (w : WatchedWorld) (q : Query) :
    (answer q w).2.checks = (w.reach q).checks := rfl

/-- A run that is never to be cancelled is spared by each check. -/
theorem spared_of_none (hnone : w.cancelAt = none) (n : Nat) : w.cancelAt ≠ some n := by
  rw [hnone]
  exact (Option.some_ne_none n).symm

/-- When the run is to be cancelled does not change as it reaches queries. -/
theorem cancelAt_reach (w : WatchedWorld) (q : Query) : (w.reach q).cancelAt = w.cancelAt := by
  unfold reach
  split <;> rfl

/-- Nor does it change when they are answered. -/
theorem cancelAt_answer (w : WatchedWorld) (q : Query) :
    (answer q w).2.cancelAt = w.cancelAt := w.cancelAt_reach q

/-- After the cancellation, checks are not counted any more. -/
theorem reach_of_cancelled (h : w.world.cancelled = true) (q : Query) : w.reach q = w := by
  rw [reach, h, Bool.not_true, Bool.and_false, if_neg Bool.false_ne_true]

/-- What is no check is passed without notice. -/
theorem reach_of_not_check (h : q.isCheck = false) (w : WatchedWorld) : w.reach q = w := by
  rw [reach, h, Bool.false_and, if_neg Bool.false_ne_true]

/-- A check before which the run is not cancelled. -/
theorem reach_spared (h : q.isCheck = true) (hlive : w.world.cancelled = false)
    (hk : w.cancelAt ≠ some w.checks.length) :
    w.reach q = { w with checks := w.checks ++ [q] } := by
  rw [reach, h, hlive, Bool.not_false, Bool.and_self, if_pos rfl, if_neg hk]

/-- The check before which the run is cancelled. -/
theorem reach_stopped (h : q.isCheck = true) (hlive : w.world.cancelled = false)
    (hk : w.cancelAt = some w.checks.length) :
    w.reach q = { w with world := w.world.cancel, checks := w.checks ++ [q] } := by
  rw [reach, h, hlive, Bool.not_false, Bool.and_self, if_pos rfl, if_pos hk]

/-! ## What a run does -/

/-- A plan that asks goes on from what it is answered. -/
theorem run_ask (next : q.Answer → Plan α) (w : WatchedWorld) :
    (Plan.ask q next).run answer w = (next (answer q w).1).run answer (answer q w).2 := rfl

/-- If it is not to be cancelled, a run in a watched world is the run in the world. -/
theorem run_uncancelled (p : Plan α) (hnone : w.cancelAt = none) :
    (p.run answer w).1 = (p.run World.answer w.world).1 ∧
      (p.run answer w).2.world = (p.run World.answer w.world).2 := by
  induction p generalizing w with
  | done a => exact ⟨rfl, rfl⟩
  | ask q next ih =>
    have hworld : (w.reach q).world = w.world := by
      unfold reach
      split
      next =>
        dsimp only
        rw [if_neg (spared_of_none hnone _)]
      next => rfl
    have hthen := ih (answer q w).1 ((w.cancelAt_answer q).trans hnone)
    unfold answer at hthen
    dsimp only at hthen
    rw [hworld] at hthen
    rw [run_ask]
    unfold answer
    dsimp only
    rw [hworld]
    exact hthen

/-- Once it is cancelled, a run stays cancelled and comes to no further check. -/
theorem run_of_cancelled (p : Plan α) (h : w.world.cancelled = true) :
    (p.run answer w).2.world.cancelled = true ∧ (p.run answer w).2.checks = w.checks := by
  induction p generalizing w with
  | done a => exact ⟨h, rfl⟩
  | ask q next ih =>
    have hreach := w.reach_of_cancelled h q
    have hthen : (answer q w).2.world.cancelled = true := by
      rw [cancelled_answer_eq, hreach, h]
    obtain ⟨hcancelled, hchecks⟩ := ih _ hthen
    rw [checks_answer, hreach] at hchecks
    exact ⟨hcancelled, hchecks⟩

/-- What a run has come to it has come to. -/
theorem prefix_checks_run (p : Plan α) (w : WatchedWorld) :
    w.checks <+: (p.run answer w).2.checks := by
  induction p generalizing w with
  | done a => exact List.prefix_refl _
  | ask q next ih =>
    refine List.IsPrefix.trans ?_ (ih _ _)
    show w.checks <+: (w.reach q).checks
    unfold reach
    split
    next => exact List.prefix_append _ _
    next => exact List.prefix_refl _

/-- The same world, to be cancelled before a check. -/
def cancelling (w : WatchedWorld) (k : Nat) : WatchedWorld := { w with cancelAt := some k }

/-- A cancellation that is planned for another check makes no difference to this one. -/
theorem reach_cancelling {k : Nat} (hnone : w.cancelAt = none)
    (hk : q.isCheck = true → w.checks.length ≠ k) :
    (w.cancelling k).reach q = (w.reach q).cancelling k := by
  cases hcheck : q.isCheck with
  | false => rw [reach_of_not_check hcheck, reach_of_not_check hcheck]
  | true =>
    cases hlive : w.world.cancelled with
    | true => rw [reach_of_cancelled hlive, reach_of_cancelled (w := w.cancelling k) hlive]
    | false =>
      have hspared : (w.cancelling k).cancelAt ≠ some (w.cancelling k).checks.length :=
        fun heq => hk hcheck (Option.some.inj heq).symm
      rw [reach_spared hcheck hlive (spared_of_none hnone _),
        reach_spared (w := w.cancelling k) hcheck hlive hspared]
      rfl

/-- Before the check at which it is cancelled, a run is answered as if it were not. -/
theorem answer_cancelling {k : Nat} (hnone : w.cancelAt = none)
    (hk : q.isCheck = true → w.checks.length ≠ k) :
    answer q (w.cancelling k) = ((answer q w).1, (answer q w).2.cancelling k) := by
  unfold answer
  rw [reach_cancelling hnone hk]
  rfl

/-- A run that is cancelled before its next check ends cancelled, and that check is the last. -/
theorem run_stopped (next : q.Answer → Plan α) (hcheck : q.isCheck = true)
    (hlive : w.world.cancelled = false) (hnone : w.cancelAt = none) :
    let undisturbed := (Plan.ask q next).run answer w
    let cancelled := (Plan.ask q next).run answer (w.cancelling w.checks.length)
    cancelled.2.world.cancelled = true ∧
      cancelled.2.checks = undisturbed.2.checks.take (w.checks.length + 1) := by
  intro undisturbed cancelled
  have hreach := reach_stopped (w := w.cancelling w.checks.length) hcheck hlive rfl
  have hcancelled : (answer q (w.cancelling w.checks.length)).2.world.cancelled = true := by
    rw [cancelled_answer_eq, hreach]
    rfl
  obtain ⟨hended, hsame⟩ := run_of_cancelled
    (next (answer q (w.cancelling w.checks.length)).1) hcancelled
  rw [checks_answer, hreach] at hsame
  have hprefix := prefix_checks_run (next (answer q w).1) (answer q w).2
  rw [checks_answer, reach_spared hcheck hlive (spared_of_none hnone _), List.prefix_iff_eq_take,
    List.length_append, List.length_singleton] at hprefix
  exact ⟨hended, hsame.trans hprefix⟩

/-- A run that is cancelled before a check that it would have come to ends cancelled, and it has
come to the same checks up to that one. -/
theorem run_cancelled (p : Plan α) {k : Nat} (hlive : w.world.cancelled = false)
    (hnone : w.cancelAt = none) (hle : w.checks.length ≤ k)
    (hlt : k < (p.run answer w).2.checks.length) :
    (p.run answer (w.cancelling k)).2.world.cancelled = true ∧
      (p.run answer (w.cancelling k)).2.checks = (p.run answer w).2.checks.take (k + 1) := by
  induction p generalizing w with
  | done a => exact absurd hlt (Nat.not_lt_of_le hle)
  | ask q next ih =>
    -- The cancellation comes at this query, or it is still ahead and both runs go on alike.
    by_cases hk : q.isCheck = true → w.checks.length ≠ k
    · have hthen : (answer q w).2.world.cancelled = false ∧ (answer q w).2.checks.length ≤ k := by
        rw [cancelled_answer_eq, checks_answer]
        cases hcheck : q.isCheck with
        | false =>
          rw [reach_of_not_check hcheck]
          exact ⟨hlive, hle⟩
        | true =>
          rw [reach_spared hcheck hlive (spared_of_none hnone _), List.length_append,
            List.length_singleton]
          exact ⟨hlive, Nat.lt_of_le_of_ne hle (hk hcheck)⟩
      rw [run_ask] at hlt ⊢
      rw [run_ask, answer_cancelling hnone hk]
      exact ih _ hthen.1 ((w.cancelAt_answer q).trans hnone) hthen.2 hlt
    · rw [Classical.not_imp, Decidable.not_not] at hk
      obtain ⟨hcheck, rfl⟩ := hk
      exact run_stopped next hcheck hlive hnone

end WatchedWorld

/-! ## What goes wrong in a watched world -/

/-- The run may be cancelled, and nothing else goes wrong. -/
def Hazards.interruption : Hazards where
  fails _ _ := False
  cancels := True
  loses _ := False

/-- A watched world keeps to the rule for runs that are only cancelled. -/
theorem WatchedWorld.respects (files : FileSystem) :
    Plan.Respects answer (Hazards.interruption.rule files) inventory
      fun w => w.world.Within .interruption ∧ w.world.files = files := by
  have hreach : ∀ q (w : WatchedWorld), w.world.Within .interruption →
      (w.reach q).world.Within .interruption ∧ (w.reach q).world.files = w.world.files ∧
        (w.reach q).inventory = w.inventory := by
    intro q w h
    unfold reach inventory
    split
    next =>
      dsimp only
      split
      next => exact ⟨⟨h.failures, fun _ => trivial⟩, rfl, rfl⟩
      next => exact ⟨h, rfl, rfl⟩
    next => exact ⟨h, rfl, rfl⟩
  constructor
  · rintro q w ⟨h, rfl⟩
    obtain ⟨hwithin, hfiles, hinventory⟩ := hreach q w h
    rw [← hfiles, ← hinventory]
    exact (hwithin.answer q).1
  · rintro q w ⟨h, rfl⟩
    obtain ⟨hwithin, hfiles, -⟩ := hreach q w h
    obtain ⟨-, hthen, hsame⟩ := hwithin.answer q
    exact ⟨hthen, hsame.trans hfiles⟩

end ReverseReplication
