import ReverseReplication.Manager.Error
import ReverseReplication.Saga.Basic
import ReverseReplication.Table

/-!
# Scripted sagas

Activities written as lists of small actions, over a `Scene` that holds a journal, a set of
resources and the cancellation of the run. They show what a saga calls, in which order and under
which context.
-/

namespace ReverseReplication.Script

/-- What scripted activities act on. -/
structure Scene where
  journal : List String := []
  resources : Table String Unit := .empty
  /-- Is the run cancelled? -/
  cancelled : Bool := false
  deriving DecidableEq

abbrev Play := StateM Scene

/-- A run is cancelled for every context that its cancellation reaches. -/
def Scene.isCancelled (scene : Scene) (ctx : Context) : Bool :=
  scene.cancelled && ctx.scope = .cancellable

instance : Cancellable Play where
  isCancelled ctx := do return (← get).isCancelled ctx

/-- When a guarded computation is ready. -/
inductive Future where
  /-- At once, or after it was suspended. -/
  | ready
  /-- At once, having cancelled the run. -/
  | cancel
  /-- After it cancelled the run and was suspended. -/
  | cancelAndWait
  deriving DecidableEq, Repr

/-- One action of an activity. -/
inductive Action where
  | log (text : String)
  /-- Puts a resource in. -/
  | add (resource : String)
  /-- Takes a resource out. -/
  | remove (resource : String)
  /-- Logs what the context says. -/
  | context
  /-- Logs what the detached context says. -/
  | detach
  /-- Waits for cancellation, if it has come already. -/
  | wait
  /-- Cancels the run. -/
  | cancel
  /-- Guards a computation with the cancellation of the context. -/
  | guarded (future : Future) (text : String) (ignore : Bool)
  | fail (error : ActivityError)
  | unknown (name : String)
  deriving DecidableEq, Repr

/-- Adds a line to the journal. -/
def log (line : String) : Play Unit := modify fun s => { s with journal := s.journal ++ [line] }

/-- Cancels the run. -/
def cancelRun : Play Unit := modify fun s => { s with cancelled := true }

/-- A truth value in the journal. -/
def showBool (b : Bool) : String := if b then "true" else "false"

/-- What a context says about itself. -/
def describe (ctx : Context) : Play String := do
  return "run_id=" ++ ctx.run ++ " cancelled=" ++ showBool ((← get).isCancelled ctx)

/-- Guards a computation: cancellation wins whenever both it and a result are there. -/
def guarded (ctx : Context) (future : Future) : Play (Except ActivityError Unit) := do
  if (← get).isCancelled ctx then return .error .cancelled
  match future with
  | .ready => return .ok ()
  | .cancel =>
    cancelRun
    return .ok ()
  | .cancelAndWait =>
    cancelRun
    if (← get).isCancelled ctx then return .error .cancelled else return .ok ()

/-- Carries out an action. -/
def perform (ctx : Context) : Action → Play (Except ActivityError Unit)
  | .log text => do
    log text
    return .ok ()
  | .add resource => do
    modify fun s => { s with resources := s.resources.insert resource () }
    return .ok ()
  | .remove resource => do
    let present := (← get).resources.contains resource
    modify fun s => { s with resources := s.resources.erase resource }
    log ("remove " ++ resource ++ ": " ++ showBool present)
    return .ok ()
  | .context => do
    log (← describe ctx)
    return .ok ()
  | .detach => do
    let sameStart := showBool (ctx.detach.startedAt = ctx.startedAt)
    log ((← describe ctx.detach) ++ " same_start=" ++ sameStart)
    return .ok ()
  | .wait => do
    log (if (← get).isCancelled ctx then "waited" else "not cancelled")
    return .ok ()
  | .cancel => do
    cancelRun
    return .ok ()
  | .guarded future text ignore => do
    match ← guarded ctx future with
    | .ok () =>
      log ("guard ok " ++ text)
      return .ok ()
    | .error e =>
      if ignore then
        log ("guard err " ++ e.message)
        return .ok ()
      else return .error e
  | .fail error => return .error error
  | .unknown name => do
    log ("unknown action " ++ name)
    return .ok ()

/-- Carries out actions until one fails. -/
def performAll (ctx : Context) : List Action → Play (Except ActivityError Unit)
  | [] => return .ok ()
  | action :: rest => do
    match ← perform ctx action with
    | .ok () => performAll ctx rest
    | .error e => return .error e

/-- An activity given by its actions. Each call is logged. -/
def activity (name : String) (transaction compensation : List Action) : Activity Play where
  name := name
  transaction ctx := do
    log ("T " ++ name)
    performAll ctx transaction
  compensation ctx := do
    log ("C " ++ name)
    performAll ctx compensation

end ReverseReplication.Script
