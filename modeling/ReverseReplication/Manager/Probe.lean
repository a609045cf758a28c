import ReverseReplication.Manager.Inventory

/-!
# Counting calls and making them fail

A `Probe` counts the calls of each operation and can make an operation fail, from some call on. A
call that is made to fail is counted like any other. `Managers` are an inventory behind a probe.
-/

namespace ReverseReplication

/-- Counts the calls of each operation, and says from which call on it fails with which error. -/
structure Probe where
  counts : Operation → Nat
  failures : Operation → Option (Nat × ManagerError)

namespace Probe

/-- Nothing has been called, and nothing fails. -/
def fresh : Probe := ⟨fun _ => 0, fun _ => none⟩

/-- Makes an operation fail from the `nth` call on. -/
def failFrom (p : Probe) (op : Operation) (nth : Nat) (error : ManagerError) : Probe :=
  { p with failures := fun o => if o = op then some (nth, error) else p.failures o }

/-- Makes every further call of an operation fail. -/
def failOn (p : Probe) (op : Operation) (error : ManagerError) : Probe := p.failFrom op 0 error

/-- Lets an operation succeed again. -/
def clear (p : Probe) (op : Operation) : Probe :=
  { p with failures := fun o => if o = op then none else p.failures o }

/-- Counts a call. -/
def count (p : Probe) (op : Operation) : Probe :=
  { p with counts := fun o => if o = op then p.counts o + 1 else p.counts o }

/-- The error that the call counted last is made to fail with. -/
def failure? (p : Probe) (op : Operation) : Option ManagerError :=
  match p.failures op with
  | some (nth, error) => if nth ≤ p.counts op then some error else none
  | none => none

end Probe

/-- The managers: what they hold, behind a probe. -/
structure Managers where
  inventory : Inventory
  probe : Probe

namespace Managers

/-- Empty managers, where every instance has the given location. -/
def fresh (defaultLocation : Option String) (stamp : String) : Managers :=
  ⟨{ defaultLocation, stamp }, .fresh⟩

/-- Counts a call and answers it. -/
def perform (m : Managers) (c : Call) : Except ManagerError c.Reply × Managers :=
  let probe := m.probe.count c.operation
  match probe.failure? c.operation with
  | some error => (.error error, { m with probe })
  | none =>
    match m.inventory.perform c with
    | .ok (reply, inventory) => (.ok reply, ⟨inventory, probe⟩)
    | .error error => (.error error, { m with probe })

end Managers

end ReverseReplication
