import ReverseReplication.Json.Variant

/-!
# Job status

A job record is created, and from then on its status says whether the pipelines run or the run
that created it failed.
-/

namespace ReverseReplication

/-- The status of a job record. -/
inductive JobStatus where
  | created
  | running
  | failed
  deriving DecidableEq, Repr, Inhabited

namespace JobStatus

def render : JobStatus → String
  | .created => "CREATED"
  | .running => "RUNNING"
  | .failed => "FAILED"

/-- The statuses by their names. -/
def known : List (String × JobStatus) :=
  [created, running, failed].map fun s => (s.render, s)

/-- The status with the given name, or a message that there is none. -/
def parse (s : String) : Except String JobStatus :=
  match known.lookup s with
  | some status => .ok status
  | none => .error ("Invalid JobStatus: " ++ s)

def codec : Json.Codec JobStatus := Json.Variants.codec ⟨known, render⟩

end JobStatus

end ReverseReplication
