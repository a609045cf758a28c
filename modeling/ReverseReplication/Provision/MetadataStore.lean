import ReverseReplication.Provision.Step

/-!
# The metadata database of a run

The pipelines keep tables of their own in a database. A database that is there already is used;
only one that this run created is dropped again.
-/

namespace ReverseReplication

/-- The database that is needed. -/
structure MetadataStore where
  jobId : JobId
  projectId : String
  location : String
  databaseUri : String
  deriving DecidableEq, Repr

namespace MetadataStore

structure Output where
  /-- Did this run create the database? -/
  created : Bool := false
  deriving DecidableEq, Repr, Inhabited

def resource (d : MetadataStore) : JobResource where
  jobId := d.jobId
  kind := .metadataDatabase
  externalId := d.databaseUri
  projectId := d.projectId
  location := d.location

/-- Drops the database, if this run created it. -/
def compensation (d : MetadataStore) (ctx : Context) : Step Output Unit := do
  if (← get).created then
    Step.remove ctx "dropping metadata database" (.dropDatabase d.databaseUri)
    set { created := false : Output }

/-- Records the database that this run created. If that fails, it is dropped at once. -/
def record (d : MetadataStore) (ctx : Context) : Step Output Unit :=
  Step.undoing (d.compensation ctx.detach)
    (Step.need ctx "recording metadata database" (.recordResource d.resource))

/-- Creates the database, unless somebody else created it meanwhile. -/
def create (d : MetadataStore) (ctx : Context) : Step Output Unit := do
  match ← Step.call ctx (.createDatabase d.databaseUri) with
  | .ok () =>
    set { created := true : Output }
    d.record ctx
  | .error (.alreadyExists _) => pure ()
  | .error e => throw (.ofManager "creating metadata database" e)

/-- Makes sure that the database is there. -/
def transaction (d : MetadataStore) (ctx : Context) : Step Output Unit := do
  if !(← Step.need ctx "checking metadata database" (.databaseExists d.databaseUri)) then
    d.create ctx

end MetadataStore

end ReverseReplication
