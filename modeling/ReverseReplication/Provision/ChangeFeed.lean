import ReverseReplication.Provision.Step

/-!
# The change feed of a run

The reader consumes a change feed of the target database. A feed that is there already is used if
it has the options that are needed, and it is never altered; only a feed that this run created is
dropped again.
-/

namespace ReverseReplication

/-- The feed that is needed. -/
structure ChangeFeed where
  jobId : JobId
  projectId : String
  location : String
  databaseUri : String
  changeStreamName : String
  options : FeedOptions
  deriving DecidableEq, Repr

namespace ChangeFeed

structure Output where
  /-- Did this run create the feed? -/
  created : Bool := false
  deriving DecidableEq, Repr, Inhabited

def feedName (f : ChangeFeed) : FeedName := ⟨f.databaseUri, f.changeStreamName⟩

def resource (f : ChangeFeed) : JobResource where
  jobId := f.jobId
  kind := .changeFeed
  externalId := changeStreamUri f.databaseUri f.changeStreamName
  projectId := f.projectId
  location := f.location

/-- Accepts a feed that is there already, if it has the options that are needed. -/
def validateExisting (f : ChangeFeed) (ctx : Context) : Step Output Unit := do
  match ← Step.call ctx (.validateFeedOptions f.feedName f.options) with
  | .ok () => pure ()
  | .error (.invalidState detail) =>
    throw (.invalidState ("change stream " ++ f.changeStreamName ++ " exists on " ++ f.databaseUri
      ++ " with incorrect options: " ++ detail))
  | .error e => throw (.ofManager "validating change stream options" e)

/-- Drops the feed, if this run created it. -/
def compensation (f : ChangeFeed) (ctx : Context) : Step Output Unit := do
  if (← get).created then
    Step.remove ctx "dropping change stream" (.dropFeed f.feedName)
    set { created := false : Output }

/-- Records the feed that this run created. If that fails, the feed is dropped at once. -/
def record (f : ChangeFeed) (ctx : Context) : Step Output Unit :=
  Step.undoing (f.compensation ctx.detach)
    (Step.need ctx "recording change stream" (.recordResource f.resource))

/-- Creates the feed. One that somebody else created meanwhile is treated like one that was there
before. -/
def create (f : ChangeFeed) (ctx : Context) : Step Output Unit := do
  match ← Step.call ctx (.createFeed f.feedName f.options) with
  | .ok () =>
    set { created := true : Output }
    f.record ctx
  | .error (.alreadyExists _) => f.validateExisting ctx
  | .error e => throw (.ofManager "creating change stream" e)

/-- Makes sure that the feed is there. -/
def transaction (f : ChangeFeed) (ctx : Context) : Step Output Unit := do
  if ← Step.need ctx "checking change stream" (.feedExists f.feedName) then f.validateExisting ctx
  else f.create ctx

end ChangeFeed

end ReverseReplication
