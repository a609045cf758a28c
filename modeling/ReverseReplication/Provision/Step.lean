import ReverseReplication.Plan

/-!
# Steps of provisioning activities

A `Step σ α` asks the world, may fail with an activity's error, and keeps an output of type `σ`
that outlives a failure: what a transaction has created by the time it fails is still known to the
undo that follows.
-/

namespace ReverseReplication

open ReverseReplication.Text (Bytes)

/-- A computation of an activity whose output is a `σ`. -/
abbrev Step (σ α : Type) := ExceptT ActivityError (StateT σ Plan) α

/-- The cancellation of a context is seen by asking for it. -/
instance {σ : Type} : Cancellable (StateT σ Plan) where
  isCancelled ctx := liftM (Plan.query (.cancelled ctx.scope))

namespace Step

variable {σ τ α : Type}

/-! ## Asking -/

/-- Asks a query. -/
def query (q : Query) : Step σ q.Answer := liftM (m := StateT σ Plan) (liftM (Plan.query q))

/-- Goes on with an answer, unless it was given up. -/
def orCancelled : Option α → Step σ α
  | some a => pure a
  | none => throw .cancelled

/-- Makes a call. -/
def call (ctx : Context) (c : Call) : Step σ (Except ManagerError c.Reply) := do
  orCancelled (← query (.guarded ctx.scope c))

/-- Goes on with a reply. An error of the manager is one of what was being done. -/
def orFail (doing : String) : Except ManagerError α → Step σ α
  | .ok a => pure a
  | .error e => throw (.ofManager doing e)

/-- Makes a call that has to succeed. -/
def need (ctx : Context) (doing : String) (c : Call) : Step σ c.Reply := do
  orFail doing (← call ctx c)

/-- Makes a call that removes something. It is as good if that is gone already. -/
def remove (ctx : Context) (doing : String) (c : Call) : Step σ Unit := do
  match ← call ctx c with
  | .ok _ => pure ()
  | .error (.notFound _) => pure ()
  | .error e => throw (.ofManager doing e)

/-- Reads a local file. -/
def readFile (ctx : Context) (doing path : String) : Step σ Bytes := do
  match ← orCancelled (← query (.file ctx.scope path)) with
  | .ok contents => pure contents
  | .error e => throw (.external doing (.file e))

/-! ## Undoing -/

/-- If the step fails, `undo` is carried out, and the failure stays the one of the step. -/
def undoing (undo : Step σ Unit) (step : Step σ α) : Step σ α :=
  tryCatch step fun e => do
    tryCatch undo fun _ => pure ()
    throw e

/-! ## Outputs of several activities -/

/-- A part of a larger output. -/
structure Part (τ σ : Type) where
  get : τ → σ
  set : σ → τ → τ

/-- A step on a part of a larger output. -/
def within (part : Part τ σ) (step : Step σ Unit) : StateT τ Plan (Except ActivityError Unit) :=
  fun whole => do
    let (result, output) ← step.run.run (part.get whole)
    pure (result, part.set output whole)

end Step

end ReverseReplication
