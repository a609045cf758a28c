import ReverseReplication.Json.ReadError
import ReverseReplication.LocalFile
import ReverseReplication.Manager.Error
import ReverseReplication.Pipeline.Launch

/-!
# Errors of activities and sagas

An activity fails with an `ActivityError`. A failed saga (`SagaError`) reports the activity that
failed and why; the compensations that failed as well are listed beside that and never replace it.
-/

namespace ReverseReplication

/-- What lies behind the failure of something outside the saga. -/
inductive Cause where
  | manager (error : ManagerError)
  | file (error : FileError)
  | launch (error : LaunchError)
  | text (message : String)
  deriving DecidableEq, Repr

def Cause.message : Cause → String
  | .manager error => error.message
  | .file error => error.message
  | .launch error => error.message
  | .text message => message

/-- Why an activity failed. -/
inductive ActivityError where
  /-- Something outside failed, while doing what `context` says. -/
  | external (context : String) (cause : Cause)
  /-- A resource exists, but not in the state that is needed. -/
  | invalidState (detail : String)
  /-- Some data could not be read or written. -/
  | serialization (detail : String)
  /-- The context was cancelled. -/
  | cancelled
  deriving DecidableEq, Repr

namespace ActivityError

def message : ActivityError → String
  | .external context cause => context ++ ": " ++ cause.message
  | .invalidState detail => "invalid resource state: " ++ detail
  | .serialization detail => "serialization error: " ++ detail
  | .cancelled => "activity cancelled"

def isCancelled (e : ActivityError) : Bool := e = .cancelled

/-- The error of a manager as the error of an activity. A call that the manager gave up counts as
cancelled, whatever was being done. -/
def ofManager (context : String) : ManagerError → ActivityError
  | .cancelled => .cancelled
  | e => .external context (.manager e)

end ActivityError

/-- A compensation that failed. -/
structure CompensationFailure where
  /-- The place of the activity in the saga, counted from zero. -/
  index : Nat
  activity : String
  error : ActivityError
  deriving DecidableEq, Repr

/-- An activity as it is named in messages, where places are counted from one. -/
def showActivity (index : Nat) (name : String) : String :=
  "activity #" ++ String.ofList (Text.Decimal.digits (index + 1)) ++ " (" ++ name ++ ")"

def CompensationFailure.message (f : CompensationFailure) : String :=
  "compensation of " ++ showActivity f.index f.activity ++ " failed: " ++ f.error.message

/-- A saga that failed. -/
structure SagaError where
  /-- The place of the activity that failed, counted from zero. -/
  index : Nat
  activity : String
  cause : ActivityError
  /-- The compensations that failed, in the order in which they were tried. -/
  compensationFailures : List CompensationFailure
  deriving DecidableEq, Repr

namespace SagaError

/-- The place of the activity that failed, counted from one. -/
def position (e : SagaError) : Nat := e.index + 1

def isCancelled (e : SagaError) : Bool := e.cause.isCancelled

/-- What the message says about compensations that failed. -/
def summary (failures : List CompensationFailure) : String :=
  if failures = [] then ""
  else
    " (" ++ String.ofList (Text.Decimal.digits failures.length) ++ " compensation(s) failed: "
      ++ "; ".intercalate (failures.map CompensationFailure.message) ++ ")"

def message (e : SagaError) : String :=
  "error executing " ++ showActivity e.index e.activity ++ ": " ++ e.cause.message
    ++ summary e.compensationFailures

end SagaError

end ReverseReplication
