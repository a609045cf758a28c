import ReverseReplication.Config.Load
import ReverseReplication.Interference
import ReverseReplication.Provision.Run

/-!
# Sessions

A session works step by step on one set of managers: it puts things in, calls managers, carries out
single activities or whole runs, and lets other parties interfere. The activities that it has at
hand keep their outputs between their steps. Reading a tuning file alone is not interfered with.
-/

namespace ReverseReplication

/-- An activity at hand. -/
structure Installed where
  catalog : Catalog
  kind : ActivityKind
  outputs : Outputs := {}

/-- The state of a session. -/
structure Session where
  disturbed : DisturbedWorld
  /-- The run of the current context. -/
  run : RunId := "run"
  startedAt : Instant := .epoch
  activities : Table String Installed := .empty

namespace Session

/-- A session with empty managers. -/
def fresh (files : FileSystem) (defaultLocation : Option String) (stamp : String) : Session where
  disturbed := { world := ⟨.fresh defaultLocation stamp, files, false⟩ }

def world (s : Session) : World := s.disturbed.world

def inventory (s : Session) : Inventory := s.world.managers.inventory

/-! ## Changing the world -/

/-- Changes the world. -/
def changeWorld (s : Session) (f : World → World) : Session :=
  { s with disturbed := { s.disturbed with world := f s.disturbed.world } }

/-- Adds a hook, to be played after those that are there. -/
def addHook (s : Session) (h : Hook) : Session :=
  { s with disturbed := { s.disturbed with hooks := s.disturbed.hooks ++ [h] } }

/-- Takes all hooks away. -/
def clearHooks (s : Session) : Session := { s with disturbed := { s.disturbed with hooks := [] } }

/-- Begins a new context, which may be cancelled from the beginning. -/
def newContext (s : Session) (run : RunId) (cancelled : Bool) : Session :=
  { s.changeWorld fun w => { w with cancelled } with run }

/-! ## Carrying out -/

/-- Runs a plan. -/
def runPlan {α : Type} (s : Session) (p : Plan α) : α × Session :=
  let (a, disturbed) := p.run DisturbedWorld.answer s.disturbed
  (a, { s with disturbed })

/-- Calls a manager. -/
def call (s : Session) (c : Call) : Except ManagerError c.Reply × Session :=
  s.runPlan (Plan.query (.call c))

/-- The current context, or the detached one. -/
def context (s : Session) (detached : Bool) : Context :=
  ⟨s.run, s.startedAt, if detached then .detached else .cancellable⟩

/-- Keeps an activity at hand. -/
def install (s : Session) (id : String) (catalog : Catalog) (kind : ActivityKind) : Session :=
  { s with activities := s.activities.insert id { catalog, kind } }

/-- Which of its two steps an activity carries out. -/
inductive Direction where
  | transaction
  | compensation
  deriving DecidableEq, Repr

/-- Carries out a step of an activity at hand. -/
def carryOut (s : Session) (id : String) (installed : Installed) (direction : Direction)
    (detached : Bool) : Except ActivityError Unit × Installed × Session :=
  let activity := installed.catalog.activity installed.kind
  let step := match direction with
    | .transaction => activity.transaction
    | .compensation => activity.compensation
  let ((result, outputs), s) :=
    s.runPlan ((step (s.context detached)).run installed.outputs)
  let installed := { installed with outputs }
  (result, installed, { s with activities := s.activities.insert id installed })

/-- Reads a tuning file, without interference. -/
def loadTuning (s : Session) (path : String) : Except ActivityError Tuning × Session :=
  let plan : Plan (Except ActivityError Tuning × Unit) :=
    (Step.loadTuning (σ := Unit) (s.context false) path).run.run ()
  let ((result, ()), w) := plan.run World.answer s.world
  (result, s.changeWorld fun _ => w)

/-- Carries out a run in a new context. -/
def provision (s : Session) (request : JobRequest) (run : RunId) (rollback : Bool)
    (settings : Settings) (cancelled : Bool) : Except RunError Provisioned × Session :=
  (s.newContext run cancelled).runPlan (request.provision run rollback settings s.startedAt)

/-- Normalizes a request. -/
def validate (s : Session) (request : JobRequest) (run : RunId) :
    Except RequestError NormalizedRequest × Session :=
  s.runPlan (request.locate run)

end Session

end ReverseReplication
