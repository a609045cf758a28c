import ReverseReplication.Proofs.Hazards
import ReverseReplication.Proofs.Reachable

/-!
# What happens to managers

Managers begin empty. Then they are called, contents are put in without a call, operations are made
to fail or to succeed again, and the clock goes on (`Occurrence`). A `Chronicle` keeps, beside the
managers, what they have taken in so far: the calls that succeeded, with their replies, and the
contents that were put in (`Deed`). What failed is in no chronicle.

What a chronicle can say of the managers is proved by `Chronicle.keeps`: it has to hold whatever
one deed does, and nothing else changes what the managers hold but the clock.
-/

namespace ReverseReplication

open Inventory (Performed)
open ReverseReplication.Text (Bytes)

/-- Contents that are put into the managers without a call. -/
inductive Seed where
  | location (instanceUri location : String)
  | job (record : JobRecord)
  | bucket (bucket : Bucket)
  | feed (feed : FeedName) (options : FeedOptions)
  | database (uri : String)
  | object (path : String) (contents : Bytes)

/-- Puts contents in. -/
def Inventory.sow (inv : Inventory) : Seed → Inventory
  | .location instanceUri location => inv.insertLocation instanceUri location
  | .job record => inv.insertJob record
  | .bucket bucket => inv.insertBucket bucket
  | .feed feed options => inv.insertFeed feed options
  | .database uri => inv.insertDatabase uri
  | .object path contents => inv.putObject path contents

/-- Putting contents in keeps an inventory sound. -/
theorem Inventory.Sound.sow {inv : Inventory} (h : inv.Sound) (seed : Seed) :
    (inv.sow seed).Sound := by
  cases seed with
  | location instanceUri location => exact h.congr rfl rfl rfl rfl rfl
  | job record => exact h.congr rfl rfl rfl rfl rfl
  | bucket bucket => exact h.withBucket bucket.name bucket
  | feed feed options => exact h.congr rfl rfl rfl rfl rfl
  | database uri => exact h.congr rfl rfl rfl rfl rfl
  | object path contents => exact h.putObject path contents

/-- A call that fails is only counted. -/
theorem Managers.perform_rejected {m : Managers} {c : Call} {e : ManagerError}
    (h : (m.perform c).1 = .error e) :
    (m.perform c).2 = { m with probe := m.probe.count c.operation } := by
  rcases perform_cases m c with ⟨e', -, heq⟩ | ⟨e', -, heq⟩ | ⟨reply, inv', -, heq⟩
  · rw [heq]
  · rw [heq]
  · rw [heq] at h
    cases h

/-- What may happen to managers. -/
inductive Occurrence where
  | call (c : Call)
  | seed (seed : Seed)
  /-- The operation is made to fail from its `nth` call on. -/
  | failFrom (op : Operation) (nth : Nat) (error : ManagerError)
  /-- The operation may succeed again. -/
  | clear (op : Operation)
  /-- The clock goes on. -/
  | clock (stamp : String)

/-- What managers have taken in. -/
inductive Deed where
  | done (c : Call) (reply : c.Reply)
  | sown (seed : Seed)

/-- Managers, and what they have taken in since they were empty, the latest first. -/
structure Chronicle where
  managers : Managers
  deeds : List Deed

namespace Chronicle

/-- Empty managers. -/
def start (defaultLocation : Option String) (stamp : String) : Chronicle :=
  ⟨.fresh defaultLocation stamp, []⟩

def inventory (ch : Chronicle) : Inventory := ch.managers.inventory

/-- Something happens. -/
def step (ch : Chronicle) : Occurrence → Chronicle
  | .call c =>
    match ch.managers.perform c with
    | (.ok reply, managers) => ⟨managers, .done c reply :: ch.deeds⟩
    | (.error _, managers) => { ch with managers }
  | .seed seed => ⟨{ ch.managers with inventory := ch.inventory.sow seed }, .sown seed :: ch.deeds⟩
  | .failFrom op nth error =>
    { ch with managers := { ch.managers with probe := ch.managers.probe.failFrom op nth error } }
  | .clear op => { ch with managers := { ch.managers with probe := ch.managers.probe.clear op } }
  | .clock stamp =>
    { ch with managers := { ch.managers with inventory := { ch.inventory with stamp } } }

/-- Several things happen, one after the other. -/
def after (ch : Chronicle) (occurrences : List Occurrence) : Chronicle := occurrences.foldl step ch

/-- At the start there is nothing that could contradict anything. -/
theorem sound_start (defaultLocation : Option String) (stamp : String) :
    (start defaultLocation stamp).inventory.Sound :=
  (Inventory.Reachable.initial defaultLocation stamp).sound

/-- What an occurrence does: the managers perform a call, contents are put in, or nothing changes in
what the managers hold but the clock. -/
theorem step_cases (ch : Chronicle) (o : Occurrence) :
    (∃ c reply, (ch.step o).deeds = .done c reply :: ch.deeds ∧
      ch.inventory.perform c = .ok (reply, (ch.step o).inventory)) ∨
    (∃ seed, (ch.step o).deeds = .sown seed :: ch.deeds ∧
      (ch.step o).inventory = ch.inventory.sow seed) ∨
    (∃ stamp, (ch.step o).deeds = ch.deeds ∧
      (ch.step o).inventory = { ch.inventory with stamp }) := by
  cases o with
  | call c =>
    rcases Managers.perform_cases ch.managers c with
      ⟨e, -, heq⟩ | ⟨e, -, heq⟩ | ⟨reply, inv', hperform, heq⟩
    · refine .inr (.inr ⟨ch.inventory.stamp, ?_⟩)
      simp only [step, inventory, heq, and_self]
    · refine .inr (.inr ⟨ch.inventory.stamp, ?_⟩)
      simp only [step, inventory, heq, and_self]
    · refine .inl ⟨c, reply, ?_⟩
      simp only [step, inventory, heq, true_and]
      exact hperform
  | seed seed => exact .inr (.inl ⟨seed, rfl, rfl⟩)
  | failFrom op nth error => exact .inr (.inr ⟨ch.inventory.stamp, rfl, rfl⟩)
  | clear op => exact .inr (.inr ⟨ch.inventory.stamp, rfl, rfl⟩)
  | clock stamp => exact .inr (.inr ⟨stamp, rfl, rfl⟩)

/-- What every deed keeps, and the clock, holds whatever happens, and the managers stay sound. -/
theorem keeps (good : List Deed → Inventory → Prop)
    (done : ∀ {deeds inv c reply inv'}, Inventory.Sound inv → Performed inv c reply inv' →
      good deeds inv → good (.done c reply :: deeds) inv')
    (sown : ∀ {deeds inv} seed, good deeds inv → good (.sown seed :: deeds) (inv.sow seed))
    (clock : ∀ {deeds inv} stamp, good deeds inv → good deeds { inv with stamp })
    {ch : Chronicle} (hsound : ch.inventory.Sound) (hgood : good ch.deeds ch.inventory)
    (occurrences : List Occurrence) :
    (ch.after occurrences).inventory.Sound ∧
      good (ch.after occurrences).deeds (ch.after occurrences).inventory := by
  induction occurrences generalizing ch with
  | nil => exact ⟨hsound, hgood⟩
  | cons o rest ih =>
    rcases step_cases ch o with ⟨c, reply, hdeeds, hperform⟩ | ⟨seed, hdeeds, hinv⟩ |
      ⟨stamp, hdeeds, hinv⟩
    · refine ih (hsound.perform hperform) ?_
      rw [hdeeds]
      exact done hsound (Inventory.performed_of_perform hperform) hgood
    · refine ih (hinv ▸ hsound.sow seed) ?_
      rw [hdeeds, hinv]
      exact sown seed hgood
    · refine ih (hinv ▸ hsound.congr rfl rfl rfl rfl rfl) ?_
      rw [hdeeds, hinv]
      exact clock stamp hgood

end Chronicle

end ReverseReplication
