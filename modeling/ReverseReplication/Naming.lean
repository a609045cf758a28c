/-!
# Names of provisioned resources

Everything that a run creates is named after the run, so a second attempt of the same run finds
what the first one created. Databases and instances are addressed by their resource URIs.
-/

namespace ReverseReplication

/-- The token of one provisioning run. -/
abbrev RunId := String

/-- The identifier of a job record. -/
abbrev JobId := String

/-! ## Resource URIs -/

def instanceUri (projectId instanceId : String) : String :=
  "projects/" ++ projectId ++ "/instances/" ++ instanceId

def databaseUri (projectId instanceId databaseId : String) : String :=
  instanceUri projectId instanceId ++ "/databases/" ++ databaseId

/-- The URI of a change stream of a database. -/
def changeStreamUri (database name : String) : String := database ++ "/changeStreams/" ++ name

/-! ## Names made from the run -/

/-- The job record of a run. -/
def jobIdOf (run : RunId) : JobId := "smt-job-" ++ run

/-- The staging bucket of a run. -/
def stagingBucketOf (run : RunId) : String := "smt-rr-gcs-" ++ run

/-- The metadata database of a run. -/
def metadataDatabaseOf (run : RunId) : String := "smt-rr-metadata-" ++ run

/-- The change stream of a run, before it is made an identifier. -/
def changeStreamOf (run : RunId) : String := "smt-rr-cs-" ++ run

/-- A name as a change stream identifier: hyphens may not stand in one, so each is replaced by an
underscore. -/
def streamIdentifier (name : String) : String :=
  String.ofList (name.toList.map fun c => if c = '-' then '_' else c)

/-! ## Fixed names -/

/-- The staged session file. -/
def sessionObject : String := "session.json"

/-- The staged source connection file. -/
def sourceConnectionObject : String := "source-connection-config.json"

/-- The label of a bucket that carries the job it belongs to. -/
def jobIdLabel : String := "smt-job-id"

/-! ## Names of different runs -/

/-- Different runs have different job ids. -/
theorem jobIdOf_injective {run run' : RunId} (h : jobIdOf run = jobIdOf run') : run = run' :=
  (String.append_right_inj _).1 h

/-- Different runs stage into different buckets. -/
theorem stagingBucketOf_injective {run run' : RunId}
    (h : stagingBucketOf run = stagingBucketOf run') : run = run' :=
  (String.append_right_inj _).1 h

/-- A name made from the run is not empty, whatever the run. -/
theorem append_ne_empty {stem : String} (h : stem ≠ "") (run : RunId) : stem ++ run ≠ "" := by
  intro hempty
  exact h (String.append_eq_empty_iff.1 hempty).1

/-- A staging bucket always has a name, whatever the run is called. -/
theorem stagingBucketOf_ne_empty (run : RunId) : stagingBucketOf run ≠ "" :=
  append_ne_empty (by decide) run

/-! ## Change stream identifiers -/

/-- Each hyphen is replaced, and nothing else. -/
theorem toList_streamIdentifier (name : String) :
    (streamIdentifier name).toList = name.toList.map fun c => if c = '-' then '_' else c := by
  rw [streamIdentifier, String.toList_ofList]

/-- Hyphens are replaced, so an identifier of a change stream has none. -/
theorem hyphen_not_mem_streamIdentifier (name : String) : '-' ∉ (streamIdentifier name).toList := by
  rw [toList_streamIdentifier]
  intro h
  obtain ⟨c, -, hc⟩ := List.mem_map.1 h
  split at hc
  next => cases hc
  next hne => exact hne hc

/-- A name without hyphens is an identifier. -/
theorem streamIdentifier_of_hyphen_free {name : String} (h : '-' ∉ name.toList) :
    streamIdentifier name = name := by
  have hmap : (name.toList.map fun c => if c = '-' then '_' else c) = name.toList := by
    refine (List.map_congr_left fun c hc => if_neg ?_).trans (List.map_id _)
    rintro rfl
    exact h hc
  rw [streamIdentifier, hmap, String.ofList_toList]

/-- Only the empty name is turned into the empty identifier. -/
theorem streamIdentifier_ne_empty {name : String} (h : name ≠ "") : streamIdentifier name ≠ "" := by
  intro hempty
  have hchars := toList_streamIdentifier name
  rw [hempty] at hchars
  exact h (String.toList_eq_nil_iff.1 (List.map_eq_nil_iff.1 hchars.symm))

end ReverseReplication
