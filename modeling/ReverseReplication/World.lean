import ReverseReplication.Manager.Probe
import ReverseReplication.Plan

/-!
# The world a plan runs in

A `World` is the managers, the local files, and whether the run is cancelled. It answers queries at
once: a query that is given up when its scope is cancelled is given up if that is so before it
begins, and then nothing happens.
-/

namespace ReverseReplication

/-- What plans ask. -/
structure World where
  managers : Managers
  files : FileSystem
  /-- Is the run cancelled? -/
  cancelled : Bool

namespace World

/-- Is the run cancelled, as far as a scope can see? -/
def isCancelled (w : World) (scope : Scope) : Bool := w.cancelled && scope = .cancellable

/-- Cancels the run. -/
def cancel (w : World) : World := { w with cancelled := true }

/-- Changes what the managers hold. -/
def onInventory (f : Inventory → Inventory) (w : World) : World :=
  { w with managers := { w.managers with inventory := f w.managers.inventory } }

/-- Changes which calls fail. -/
def onProbe (f : Probe → Probe) (w : World) : World :=
  { w with managers := { w.managers with probe := f w.managers.probe } }

/-- Makes a call. -/
def perform (w : World) (c : Call) : Except ManagerError c.Reply × World :=
  let (reply, managers) := w.managers.perform c
  (reply, { w with managers })

/-- Answers a query. -/
def answer : Plan.Handler World
  | .cancelled scope, w => (w.isCancelled scope, w)
  | .call c, w => w.perform c
  | .guarded scope c, w =>
    if w.isCancelled scope then (none, w)
    else
      let (reply, w) := w.perform c
      (some reply, w)
  | .file scope path, w =>
    if w.isCancelled scope then (none, w) else (some (w.files path), w)

end World

end ReverseReplication
