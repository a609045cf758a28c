import ReverseReplication.World

/-!
# Interference around calls

Other parties may act on the managers, or cancel the run, just before or after a call. A `Hook` is
one such act. It may also let the call wait, so that a cancellation is noticed: then a call that is
guarded is given up, before it happens or with its reply lost. A `DisturbedWorld` is a world with
hooks; it answers queries as the world does, and plays the hooks around each call.
-/

namespace ReverseReplication

/-- When a hook is played. -/
inductive Moment where
  | before
  | after
  deriving DecidableEq, Repr

/-- An act of another party around a call. -/
structure Hook where
  operation : Operation
  moment : Moment
  /-- Around which call of the operation, counted from one; around every call if none. -/
  nth : Option Nat
  act : World → World
  /-- Does the call wait after the act? -/
  waits : Bool

/-- A world in which other parties act around calls. -/
structure DisturbedWorld where
  world : World
  hooks : List Hook := []
  /-- The calls of each operation so far. -/
  counts : Operation → Nat := fun _ => 0

namespace DisturbedWorld

/-- Counts a call. -/
def count (d : DisturbedWorld) (op : Operation) : DisturbedWorld :=
  { d with counts := fun o => if o = op then d.counts o + 1 else d.counts o }

/-- The hooks to be played around the call that was counted last. -/
def due (d : DisturbedWorld) (op : Operation) (moment : Moment) : List Hook :=
  d.hooks.filter fun h =>
    h.operation = op && h.moment = moment && h.nth.all (· = d.counts op)

/-- Plays hooks in their order. The result says whether the call is given up: it is as soon as it
waits while its guard, if it has one, sees the cancellation. Later hooks are not played then. -/
def play (guard? : Option Scope) : List Hook → World → Bool × World
  | [], w => (false, w)
  | h :: rest, w =>
    let w := h.act w
    if h.waits && guard?.any w.isCancelled then (true, w) else play guard? rest w

/-- Makes a call, with the hooks around it. -/
def perform (d : DisturbedWorld) (guard? : Option Scope) (c : Call) :
    Option (Except ManagerError c.Reply) × DisturbedWorld :=
  let d := d.count c.operation
  let (givenUp, w) := play guard? (d.due c.operation .before) d.world
  if givenUp then (none, { d with world := w })
  else
    let (reply, w) := w.perform c
    let (givenUp, w) := play guard? (d.due c.operation .after) w
    (if givenUp then none else some reply, { d with world := w })

/-- Makes a call that is never given up. -/
def performUnguarded (d : DisturbedWorld) (c : Call) :
    Except ManagerError c.Reply × DisturbedWorld :=
  let d := d.count c.operation
  let (_, w) := play none (d.due c.operation .before) d.world
  let (reply, w) := w.perform c
  let (_, w) := play none (d.due c.operation .after) w
  (reply, { d with world := w })

/-- Answers a query. -/
def answer : Plan.Handler DisturbedWorld
  | .cancelled scope, d => (d.world.isCancelled scope, d)
  | .call c, d => d.performUnguarded c
  | .guarded scope c, d =>
    if d.world.isCancelled scope then (none, d) else d.perform (some scope) c
  | .file scope path, d =>
    if d.world.isCancelled scope then (none, d) else (some (d.world.files path), d)

end DisturbedWorld

end ReverseReplication
