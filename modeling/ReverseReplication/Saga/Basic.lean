import ReverseReplication.Instant
import ReverseReplication.Naming
import ReverseReplication.Saga.Error

/-!
# Sagas

A saga is a list of activities that are carried out one after the other. The first transaction that
fails ends the saga; the activities before it are then compensated, the last one first, under a
context that the cancellation of the run does not reach (`Saga.execute`). Compensations that fail
do not stop the others (`Saga.compensate`).

Activities are computations of any monad in which the cancellation of a context can be seen. The
saga itself does nothing but call them.
-/

namespace ReverseReplication

/-- Does the cancellation of the run reach a context? -/
inductive Scope where
  | cancellable
  | detached
  deriving DecidableEq, Repr

/-- What the activities of a run share. -/
structure Context where
  run : RunId
  startedAt : Instant
  scope : Scope
  deriving DecidableEq, Repr

/-- The context of the same run that its cancellation does not reach. -/
def Context.detach (ctx : Context) : Context := { ctx with scope := .detached }

/-- A step of a saga: what it does, and how it is undone. -/
structure Activity (m : Type → Type) where
  name : String
  transaction : Context → m (Except ActivityError Unit)
  /-- Undoes what the transaction did. -/
  compensation : Context → m (Except ActivityError Unit)

/-- A monad in which the cancellation of a context can be seen. -/
class Cancellable (m : Type → Type) where
  isCancelled : Context → m Bool

namespace Saga

variable {m : Type → Type} [Monad m]

/-- Compensates activities, given last first, and lists the compensations that failed. -/
def compensate (ctx : Context) : List (Activity m) → m (List CompensationFailure)
  | [] => pure []
  | a :: earlier => do
    let result ← a.compensation ctx
    let failures ← compensate ctx earlier
    match result with
    | .ok () => pure failures
    | .error e => pure (⟨earlier.length, a.name, e⟩ :: failures)

variable [Cancellable m]

/-- Carries out one activity, unless its context is cancelled. -/
def attempt (ctx : Context) (a : Activity m) : m (Except ActivityError Unit) := do
  if ← Cancellable.isCancelled ctx then pure (.error .cancelled) else a.transaction ctx

/-- Carries out the activities that are left; `completed` lists the others, last first. -/
def executeFrom (rollback : Bool) (ctx : Context) :
    List (Activity m) → List (Activity m) → m (Except SagaError Nat)
  | completed, [] => pure (.ok completed.length)
  | completed, a :: rest => do
    match ← attempt ctx a with
    | .ok () => executeFrom rollback ctx (a :: completed) rest
    | .error cause =>
      let failures ← if rollback then compensate ctx.detach completed else pure []
      pure (.error ⟨completed.length, a.name, cause, failures⟩)

/-- Carries out activities and counts them. If one fails, those before it are compensated where
`rollback` says so. -/
def execute (rollback : Bool) (ctx : Context) (activities : List (Activity m)) :
    m (Except SagaError Nat) :=
  executeFrom rollback ctx [] activities

end Saga

end ReverseReplication
