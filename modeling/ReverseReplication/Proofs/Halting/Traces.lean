import ReverseReplication.Proofs.Failures.Accounts
import ReverseReplication.Proofs.Holdings
import ReverseReplication.Proofs.Ownership.Alone

/-!
# Where a transaction stands

A transaction that is carried out while calls fail, the run is cancelled and replies are lost
(`Hazards.abrupt`) stands in one of three ways, as seen from its trace.

* It has `Begun`: it has created nothing yet, and has left everything as it was.
* It has `Made` something that was not there before, and one call takes this back
  (`Inventory.Created`).
* It has `Halted`: it has failed, and everything is as it was, as long as none of the calls that
  have a lasting effect was given up after it had happened. Its last event undoes at most what an
  earlier one has created (`UndoesOwn`).

On the way its output is filled, and what a call that sticks has put into it stays there when all
else is undone (`Event.Sticks`). Where the transaction stands does not change when it looks
something up or records it (`Trace.Kept`).
-/

namespace ReverseReplication

open Inventory (Performed)

/-! ## Calls -/

namespace Hazards

/-- The operations of the way forward whose effect outlives the transaction. -/
def lasting : List Operation := .updateJobStatus :: creations

/-- The operations that look something up, or record it. -/
def plain : List Operation := [
  .leaderLocation, .recordResource, .readObject, .feedExists, .validateFeedOptions, .databaseExists,
  .findActive]

end Hazards

namespace Call

/-- The call takes something away, or says of a job that it does not run. -/
def Undoes : Call → Prop
  | .updateJobStatus _ status => status ≠ .running
  | c => c.operation ∈ Hazards.undoings

/-- If the call succeeds, this stays in the output of a transaction that began with `before`, even
if it fails then: a launch, and an upload into a bucket that was there already. -/
def Sticks (before : Inventory) : Call → Prop
  | .launch _ => True
  | .writeObject bucket _ _ => (before.buckets.get? bucket).isSome
  | _ => False

/-- What a call creates, given its reply, and the call that takes it back. -/
inductive Reverts : (c : Call) → c.Reply → Holding → Call → Prop
  | bucket {projectId : String} {bucket : Bucket} :
    Reverts (.createBucket projectId bucket) () (.bucket bucket.name) (.deleteBucket bucket.name)
  | feed {feed : FeedName} {options : FeedOptions} :
    Reverts (.createFeed feed options) () (.feed feed) (.dropFeed feed)
  | database {uri : String} :
    Reverts (.createDatabase uri) () (.database uri) (.dropDatabase uri)
  | pipeline {request : Launch} {id projectId location : String} :
    Reverts (.launch request) id (.pipeline request.jobName id) (.cancel projectId location id)

variable {c undo : Call} {before : Inventory}

/-- Looking something up, or recording it, undoes nothing. -/
theorem not_undoes_of_plain (hc : c.operation ∈ Hazards.plain) : ¬c.Undoes := by
  cases c <;> simp [operation, Hazards.plain, Undoes, Hazards.undoings] at hc ⊢

/-- What creates something undoes nothing. -/
theorem not_undoes_of_creations (hc : c.operation ∈ Hazards.creations) : ¬c.Undoes := by
  cases c <;> simp [operation, Hazards.creations, Undoes, Hazards.undoings] at hc ⊢

/-- It leaves nothing in an output that would have to be cleared. -/
theorem not_sticks_of_plain (hc : c.operation ∈ Hazards.plain) : ¬c.Sticks before := by
  cases c <;> simp [operation, Hazards.plain, Sticks] at hc ⊢

namespace Reverts

variable {r : c.Reply} {x : Holding} (h : c.Reverts r x undo)

include h

/-- What another call takes back was created. -/
theorem operation_creations : c.operation ∈ Hazards.creations := by
  cases h <;> simp [operation, Hazards.creations]

/-- What takes something back is one of the undoing operations. -/
theorem operation_undo : undo.operation ∈ Hazards.undoings := by
  cases h <;> simp [operation, Hazards.undoings]

/-- Taking something back leaves nothing in an output. -/
theorem not_sticks : ¬undo.Sticks before := by
  cases h <;> simp [Sticks]

/-- The call creates it, and nothing else. -/
theorem gains {inv inv' : Inventory} (hc : Performed inv c r inv') : inv.Gains x inv' := by
  cases h with
  | bucket =>
    cases hc with
    | createBucket hfree => exact Inventory.gains_createBucket hfree
  | feed =>
    cases hc with
    | createFeed hfree => exact Inventory.gains_createFeed hfree
  | database =>
    cases hc with
    | createDatabase hfree => exact Inventory.gains_createDatabase hfree
  | pipeline =>
    cases hc with
    | launch hfree => exact Inventory.gains_launch hfree

end Reverts

end Call

/-! ## What the managers hold -/

namespace Inventory

/-- Resources and job records are as they were. -/
structure Untouched (before after : Inventory) : Prop extends before.SameResources after where
  jobs : after.jobs = before.jobs

/-- Nothing has changed but objects, and what is recorded of resources. -/
structure Steady (before after : Inventory) : Prop extends before.Untouched after where
  pipelines : after.pipelines = before.pipelines

variable {inv inv' inv'' : Inventory}

/-- Where nothing happens, all is as it was. -/
theorem Untouched.refl (inv : Inventory) : inv.Untouched inv := ⟨⟨rfl, rfl, rfl, rfl⟩, rfl⟩

/-- What is as it was twice over is as it was. -/
theorem Untouched.trans (h : inv.Untouched inv') (h' : inv'.Untouched inv'') :
    inv.Untouched inv'' where
  buckets := h'.buckets.trans h.buckets
  feeds := h'.feeds.trans h.feeds
  databases := h'.databases.trans h.databases
  running := h'.running.trans h.running
  jobs := h'.jobs.trans h.jobs

theorem Steady.refl (inv : Inventory) : inv.Steady inv := ⟨.refl inv, rfl⟩

/-- What changes only objects and records twice over changes only these. -/
theorem Steady.trans (h : inv.Steady inv') (h' : inv'.Steady inv'') : inv.Steady inv'' :=
  ⟨h.toUntouched.trans h'.toUntouched, h'.pipelines.trans h.pipelines⟩

/-- Looking something up, recording a resource or writing an object leaves all else alone. -/
theorem Performed.steady {c : Call} {r : c.Reply} (h : Performed inv c r inv')
    (hc : c.operation ∈ .writeObject :: Hazards.plain) : inv.Steady inv' := by
  cases h <;>
    first
    | exact .refl _
    | exact ⟨⟨⟨rfl, rfl, rfl, rfl⟩, rfl⟩, rfl⟩
    | simp [Call.operation, Hazards.plain] at hc

/-- Something was created since, and nothing else has happened that matters. -/
inductive Created (start : Inventory) (x : Holding) (undo : Call) (now : Inventory) : Prop
  | intro {before made : Inventory} {c : Call} {r : c.Reply} :
    start.Untouched before → Performed before c r made → c.Reverts r x undo → made.Steady now →
    Created start x undo now

namespace Created

variable {start now after : Inventory} {x : Holding} {undo : Call} (h : start.Created x undo now)

include h

/-- What was created was not there when the transaction began. -/
theorem fresh : ¬start.Holds x := by
  obtain ⟨huntouched, hc, hreverts, -⟩ := h
  rw [← huntouched.toSameResources.holds_iff]
  exact (hreverts.gains hc).fresh

/-- It is still there. -/
theorem held : now.Holds x := by
  obtain ⟨-, hc, hreverts, hsteady⟩ := h
  rw [hsteady.toSameResources.holds_iff]
  exact ((hreverts.gains hc).holds x).2 (.inr rfl)

/-- What matters stays as it is while nothing happens that does. -/
theorem steady (hsteady : now.Steady after) : start.Created x undo after := by
  obtain ⟨huntouched, hc, hreverts, hbefore⟩ := h
  exact ⟨huntouched, hc, hreverts, hbefore.trans hsteady⟩

/-- The call that takes it back undoes something. -/
theorem operation_undo : undo.operation ∈ Hazards.undoings := by
  obtain ⟨-, -, hreverts, -⟩ := h
  exact hreverts.operation_undo

/-- Taking it back leaves nothing in the output. -/
theorem not_sticks {before : Inventory} : ¬undo.Sticks before := by
  obtain ⟨-, -, hreverts, -⟩ := h
  exact hreverts.not_sticks

/-- It can be taken back. -/
theorem accepted (e : ManagerError) : now.perform undo ≠ .error e := by
  intro hrefused
  have hheld := h.held
  obtain ⟨-, hc, hreverts, hsteady⟩ := h
  cases hreverts with
  | bucket => simp [Holds, (deleteBucket_refused hrefused).2] at hheld
  | feed => simp [Holds, (dropFeed_refused hrefused).2] at hheld
  | database => simp [Holds, (dropDatabase_refused hrefused).2] at hheld
  | pipeline =>
    have hgone := (cancel_refused hrefused).2
    cases hc with
    | launch hfree =>
      rw [hsteady.pipelines, Inventory.start, Table.get?_insert, if_pos rfl] at hgone
      cases hgone

/-- When it is taken back, everything is as it was. -/
theorem restored {r : undo.Reply} (hundo : Performed now undo r after) :
    start.Untouched after := by
  obtain ⟨huntouched, hc, hreverts, hsteady⟩ := h
  refine huntouched.trans ?_
  cases hreverts with
  | bucket =>
    cases hc with
    | createBucket hfree =>
      cases hundo
      refine ⟨⟨?_, hsteady.feeds, hsteady.databases, hsteady.running⟩, hsteady.jobs⟩
      rw [hsteady.buckets]
      exact Table.erase_insert hfree
  | feed =>
    cases hc with
    | createFeed hfree =>
      cases hundo
      refine ⟨⟨hsteady.buckets, ?_, hsteady.databases, hsteady.running⟩, hsteady.jobs⟩
      rw [hsteady.feeds]
      exact Table.erase_insert hfree
  | database =>
    cases hc with
    | createDatabase hfree =>
      cases hundo
      refine ⟨⟨hsteady.buckets, hsteady.feeds, ?_, hsteady.running⟩, hsteady.jobs⟩
      rw [hsteady.databases]
      exact Table.erase_insert hfree
  | pipeline =>
    cases hc with
    | launch hfree =>
      cases hundo with
      | @cancel _ _ id job hjob =>
        refine ⟨⟨hsteady.buckets, hsteady.feeds, hsteady.databases, ?_⟩, hsteady.jobs⟩
        rw [hsteady.pipelines, Inventory.start, Table.get?_insert, if_pos rfl] at hjob
        cases hjob
        simp only [Inventory.stop, hsteady.running, Inventory.start, Table.get?_insert, if_true]
        exact Table.erase_insert hfree

end Created

end Inventory

/-! ## Events -/

namespace Event

/-- The event is a call that undoes something, whether or not that succeeds. -/
def Undoes (e : Event) : Prop := ∃ c, e.query.call? = some c ∧ c.Undoes

/-- The event is a call that was answered with success. -/
def Succeeds : Event → Prop
  | ⟨.call _, .ok _, _, _⟩ => True
  | ⟨.guarded _ _, some (.ok _), _, _⟩ => True
  | _ => False

/-- The event is a call that succeeds, and this stays in the output of a transaction that began with
`before`, even if it fails then. -/
def Sticks (before : Inventory) (e : Event) : Prop :=
  e.Succeeds ∧ ∃ c, e.query.call? = some c ∧ c.Sticks before

/-- Something is held after the event and was not held before it. -/
def Adds (e : Event) (x : Holding) : Prop := ¬e.before.Holds x ∧ e.after.Holds x

/-- Something was held before the event and is not held after it. -/
def Removes (e : Event) (x : Holding) : Prop := e.before.Holds x ∧ ¬e.after.Holds x

variable {q : Query} {answer : q.Answer} {before after start : Inventory}

/-- If the call of a query undoes nothing, neither does its event, however it is answered. -/
theorem not_undoes (h : ∀ c, q.call? = some c → ¬c.Undoes) :
    ¬(⟨q, answer, before, after⟩ : Event).Undoes := by
  rintro ⟨c, hc, hundoes⟩
  exact h c hc hundoes

/-- If the call of a query leaves nothing in the output, neither does its event. -/
theorem not_sticks (h : ∀ c, q.call? = some c → ¬c.Sticks start) :
    ¬(⟨q, answer, before, after⟩ : Event).Sticks start := by
  rintro ⟨-, c, hc, hsticks⟩
  exact h c hc hsticks

end Event

/-- No event undoes anything, or only the last one does: it takes back what was not there before
and was created by one of the events. -/
def UndoesOwn (before : Inventory) (events : List Event) : Prop :=
  (∀ e ∈ events, ¬e.Undoes) ∨
    ∃ front undo x, events = front ++ [undo] ∧ (∀ e ∈ front, ¬e.Undoes) ∧ ¬before.Holds x ∧
      (∃ e ∈ front, e.Adds x) ∧ undo.Removes x

/-! ## Traces -/

namespace Trace

/-- Nothing was undone, and `blank` says whether nothing has come to pass that sticks. -/
structure Builds (t : Trace) (start : Inventory) (blank : Prop) : Prop where
  undoesNothing : ∀ e ∈ t.events, ¬e.Undoes
  blank_iff : blank ↔ ∀ e ∈ t.events, ¬e.Sticks start

/-- The transaction has created nothing yet. -/
structure Begun (t : Trace) (start : Inventory) (blank : Prop) : Prop
    extends t.Builds start blank where
  untouched : start.Untouched t.now

/-- The transaction has created something, and nothing else has happened. -/
structure Made (t : Trace) (start : Inventory) (x : Holding) (undo : Call) (blank : Prop) : Prop
    extends t.Builds start blank where
  creator : ∃ e ∈ t.events, e.Adds x
  created : start.Created x undo t.now

/-- The transaction has failed, and has undone what it had created. -/
structure Halted (t : Trace) (start : Inventory) (blank : Prop) : Prop where
  untouched : (∀ e ∈ t.events, e.Asks Hazards.lasting → ¬e.Lost) → start.Untouched t.now
  undoesOwn : UndoesOwn start t.events
  blank_iff : blank ↔ ∀ e ∈ t.events, ¬e.Sticks start

/-- What holds of a trace and is kept by queries that look something up or record it. -/
def Kept (good : Trace → Prop) : Prop :=
  ∀ (t : Trace) (q : Query) (answer : q.Answer) (after : Inventory),
    (∀ c, q.call? = some c → c.operation ∈ Hazards.plain) → t.now.Steady after → good t →
    good (t.push q answer after)

variable {t : Trace} {start after : Inventory} {blank blank' : Prop} {q : Query}
  {answer : q.Answer} {x : Holding} {undo : Call}

/-- What is said of the output may be put in other words. -/
theorem Builds.congr (h : t.Builds start blank) (hblank : blank' ↔ blank) :
    t.Builds start blank' :=
  ⟨h.undoesNothing, hblank.trans h.blank_iff⟩

/-- One more event that undoes nothing. -/
theorem Builds.push (h : t.Builds start blank) (hforth : ∀ c, q.call? = some c → ¬c.Undoes)
    (hblank : blank' ↔ blank ∧ ¬(⟨q, answer, t.now, after⟩ : Event).Sticks start) :
    (t.push q answer after).Builds start blank' where
  undoesNothing := by
    intro e he
    rcases mem_events_push.1 he with hmem | rfl
    · exact h.undoesNothing e hmem
    · exact Event.not_undoes hforth
  blank_iff := by
    rw [hblank, h.blank_iff]
    constructor
    · rintro ⟨hbefore, hlast⟩ e he
      rcases mem_events_push.1 he with hmem | rfl
      · exact hbefore e hmem
      · exact hlast
    · intro hall
      refine ⟨fun e he => hall e (mem_events_push.2 (.inl he)), ?_⟩
      exact hall _ (mem_events_push.2 (.inr rfl))

/-- One more event that sticks no more than it undoes anything. -/
theorem Builds.push_same (h : t.Builds start blank) (hforth : ∀ c, q.call? = some c → ¬c.Undoes)
    (hlast : ¬(⟨q, answer, t.now, after⟩ : Event).Sticks start) :
    (t.push q answer after).Builds start blank :=
  h.push hforth ⟨fun hblank => ⟨hblank, hlast⟩, And.left⟩

/-- Nothing has happened yet. -/
theorem begun_nil (inv : Inventory) : (⟨inv, []⟩ : Trace).Begun inv True where
  undoesNothing := List.forall_mem_nil _
  blank_iff := iff_of_true trivial (List.forall_mem_nil _)
  untouched := .refl inv

theorem Begun.congr (h : t.Begun start blank) (hblank : blank' ↔ blank) : t.Begun start blank' :=
  ⟨h.toBuilds.congr hblank, h.untouched⟩

theorem Halted.congr (h : t.Halted start blank) (hblank : blank' ↔ blank) :
    t.Halted start blank' :=
  ⟨h.untouched, h.undoesOwn, hblank.trans h.blank_iff⟩

/-- A transaction that has created nothing has nothing to undo when it fails. -/
theorem Begun.halted (h : t.Begun start blank) : t.Halted start blank :=
  ⟨fun _ => h.untouched, .inl h.undoesNothing, h.blank_iff⟩

/-- Looking something up, or recording it, creates nothing. -/
theorem kept_begun (start : Inventory) (blank : Prop) : Kept (·.Begun start blank) := by
  intro t q answer after hq hsteady h
  refine ⟨h.toBuilds.push_same (fun c hc => Call.not_undoes_of_plain (hq c hc)) ?_, ?_⟩
  · exact Event.not_sticks fun c hc => Call.not_sticks_of_plain (hq c hc)
  · exact h.untouched.trans hsteady.toUntouched

/-- The event that has created something stays among the events. -/
theorem Made.creator_push (h : t.Made start x undo blank) :
    ∃ e ∈ (t.push q answer after).events, e.Adds x :=
  exists_event_push.2 (.inl h.creator)

/-- Looking something up, or recording it, does not take back what was created. -/
theorem kept_made (start : Inventory) (x : Holding) (undo : Call) (blank : Prop) :
    Kept (·.Made start x undo blank) := by
  intro t q answer after hq hsteady h
  refine ⟨h.toBuilds.push_same (fun c hc => Call.not_undoes_of_plain (hq c hc)) ?_,
    h.creator_push, h.created.steady hsteady⟩
  exact Event.not_sticks fun c hc => Call.not_sticks_of_plain (hq c hc)

/-- The call has created something. -/
theorem Begun.made {c : Call} {r : c.Reply} {scope : Scope} (h : t.Begun start blank)
    (hc : Performed t.now c r after) (hreverts : c.Reverts r x undo)
    (hblank : blank' ↔ blank ∧ ¬c.Sticks start) :
    (t.push (.guarded scope c) (some (.ok r)) after).Made start x undo blank' := by
  have hgains := hreverts.gains hc
  refine ⟨h.toBuilds.push ?_ ?_, exists_event_push.2 (.inr ⟨hgains.fresh, ?_⟩),
    h.untouched, hc, hreverts, .refl after⟩
  · rintro _ ⟨⟩
    exact Call.not_undoes_of_creations hreverts.operation_creations
  · rw [hblank]
    refine and_congr_right fun _ => not_congr ⟨fun hsticks => ⟨trivial, c, rfl, hsticks⟩, ?_⟩
    rintro ⟨-, _, ⟨⟩, hsticks⟩
    exact hsticks
  · exact (hgains.holds x).2 (.inr rfl)

/-- What was created has been taken back. -/
theorem Made.halted {r : undo.Reply} {scope : Scope} (h : t.Made start x undo blank)
    (hundo : Performed t.now undo r after) :
    (t.push (.guarded scope undo) (some (.ok r)) after).Halted start blank where
  untouched := fun _ => h.created.restored hundo
  undoesOwn := by
    refine .inr ⟨t.events, _, x, rfl, h.undoesNothing, h.created.fresh, h.creator,
      h.created.held, ?_⟩
    rw [(h.created.restored hundo).toSameResources.holds_iff]
    exact h.created.fresh
  blank_iff := by
    have hlast : ¬(⟨.guarded scope undo, some (.ok r), t.now, after⟩ : Event).Sticks start := by
      refine Event.not_sticks ?_
      rintro _ ⟨⟩
      exact h.created.not_sticks
    rw [h.blank_iff]
    constructor
    · intro hbefore e he
      rcases mem_events_push.1 he with hmem | rfl
      · exact hbefore e hmem
      · exact hlast
    · exact fun hall e he => hall e (mem_events_push.2 (.inl he))

end Trace

end ReverseReplication
