/-!
# Errors of resource managers

Every call to a resource manager may fail, in one of five ways. A manager says that a name is taken
with `alreadyExists`, so a caller can treat a repeated creation as done.
-/

namespace ReverseReplication

/-- Why a call to a resource manager failed. -/
inductive ManagerError where
  | alreadyExists (what : String)
  | notFound (what : String)
  | invalidState (detail : String)
  | unavailable (detail : String)
  | cancelled
  deriving DecidableEq, Repr, Inhabited

namespace ManagerError

def message : ManagerError → String
  | .alreadyExists what => "resource already exists: " ++ what
  | .notFound what => "resource not found: " ++ what
  | .invalidState detail => "invalid resource state: " ++ detail
  | .unavailable detail => "service unavailable: " ++ detail
  | .cancelled => "operation cancelled"

def isAlreadyExists : ManagerError → Bool
  | .alreadyExists _ => true
  | _ => false

def isNotFound : ManagerError → Bool
  | .notFound _ => true
  | _ => false

end ManagerError

end ReverseReplication
