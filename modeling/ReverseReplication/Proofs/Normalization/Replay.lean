import ReverseReplication.Proofs.Normalization.Acceptance
import ReverseReplication.Proofs.RoundTrip

/-!
# Replaying a stored request

A request that was normalized can be read back from what is stored of it, and normalized again.
Filling leaves no field with a default empty (`JobRequest.Filled`), so it changes nothing the second
time, whatever the run, and the checks pass each default that it puts in. One thing is lost: that
the data directory was not the caller's. If it was all that had to be staged, the replay sees no
need for a staging bucket, though the directory lies in one (`JobRequest.normalize_replayed`).
-/

namespace ReverseReplication

open ReverseReplication.Text (utf8)

namespace JobRequest

variable {r : JobRequest} {run : RunId}

/-! ## Filled requests -/

/-- No field that has a default is left to it. -/
structure Filled (r : JobRequest) : Prop where
  jobName : r.jobName ≠ ""
  sourceType : r.sourceType ≠ ""
  metadataInstance : r.metadataInstance ≠ ""
  metadataDatabase : r.metadataDatabase ≠ ""
  gcsDataDirectory : r.gcsDataDirectory ≠ ""
  changeStreamName : r.changeStreamName ≠ ""
  hyphen_free : '-' ∉ r.changeStreamName.toList
  filtrationMode : r.filtrationMode ≠ ""
  timerInterval : ¬r.timerInterval < 1
  windowDuration : r.windowDuration ≠ ""

/-- The data directory that a run makes up is hosted. -/
theorem underScheme_dataDirectoryOf (run : RunId) : UnderScheme (dataDirectoryOf run) :=
  isHosted_iff_underScheme.1 (ObjectPath.isHosted_render _)

/-- The metadata is kept in the instance of the request, so that has to be named. -/
theorem filled_fillDefaults (h : r.instanceId ≠ "") (run : RunId) :
    (r.fillDefaults run).Filled where
  jobName := orElse_ne_empty _ (append_ne_empty (by decide) run)
  sourceType := orElse_ne_empty _ (by decide)
  metadataInstance := orElse_ne_empty _ h
  metadataDatabase := orElse_ne_empty _ (append_ne_empty (by decide) run)
  gcsDataDirectory := orElse_ne_empty _ (underScheme_dataDirectoryOf run).ne_empty
  changeStreamName :=
    streamIdentifier_ne_empty (orElse_ne_empty _ (append_ne_empty (by decide) run))
  hyphen_free := hyphen_not_mem_streamIdentifier _
  filtrationMode := orElse_ne_empty _ (by decide)
  timerInterval := by
    show ¬(if r.timerInterval < 1 then 1 else r.timerInterval) < 1
    split
    · decide
    · assumption
  windowDuration := orElse_ne_empty _ (by decide)

/-- Filling changes nothing about a filled request. -/
theorem Filled.fillDefaults_eq (h : r.Filled) (run : RunId) : r.fillDefaults run = r := by
  unfold fillDefaults
  rw [orElse_of_ne h.jobName, orElse_of_ne h.sourceType, orElse_of_ne h.metadataInstance,
    orElse_of_ne h.metadataDatabase, orElse_of_ne h.gcsDataDirectory,
    orElse_of_ne h.changeStreamName, streamIdentifier_of_hyphen_free h.hyphen_free,
    orElse_of_ne h.filtrationMode, if_neg h.timerInterval, orElse_of_ne h.windowDuration]

/-! ## The checks of a filled request -/

/-- Every default meets what is required of its field. -/
theorem holds_fillDefaults (r : JobRequest) (run : RunId) :
    ∀ c ∈ requirements, c.Holds r → c.Holds (r.fillDefaults run) := by
  have hsource (h : r.sourceType = "" ∨ r.sourceType = "mysql") :
      (r.fillDefaults run).sourceType = "mysql" :=
    orElse_holds (P := fun source => source = "mysql") rfl h
  have hdirectory (h : r.gcsDataDirectory = "" ∨ UnderScheme r.gcsDataDirectory) :
      UnderScheme (r.fillDefaults run).gcsDataDirectory :=
    orElse_holds (underScheme_dataDirectoryOf run) h
  have hfilter (h : r.filtrationMode = "" ∨ r.filtrationMode = "forward_migration" ∨
      r.filtrationMode = "none") : (r.fillDefaults run).filtrationMode = "forward_migration" ∨
        (r.fillDefaults run).filtrationMode = "none" :=
    orElse_holds (P := fun mode => mode = "forward_migration" ∨ mode = "none") (.inl rfl) h
  simp only [requirements, List.forall_mem_cons]
  exact ⟨id, id, id, id, id, fun h => .inr (hsource h), fun h => .inr (hdirectory h),
    fun h => .inr (hfilter h), id, fun _ hc => absurd hc List.not_mem_nil⟩

/-- Filling in defaults breaks no requirement of an accepted request. -/
theorem violation?_fillDefaults (h : r.violation? = none) (run : RunId) :
    (r.fillDefaults run).violation? = none :=
  violation?_eq_none_iff.2 fun c hc =>
    r.holds_fillDefaults run c hc (violation?_eq_none_iff.1 h c hc)

/-! ## Filling again -/

/-- A path that is not hosted calls for the staging bucket, so it may be taken from the bucket of
the run whether the request needs it or not. -/
theorem hostedPath_stagingBucket {path : String} (object : String)
    (hneeds : isHosted path = false → r.needsStaging = true) :
    hostedPath (r.stagingBucket run) path object =
      hostedPath (stagingBucketOf run) path object := by
  unfold hostedPath
  split
  next => rfl
  next hlocal => rw [stagingBucket, if_pos (hneeds (Bool.eq_false_iff.2 hlocal))]

/-- The session file stays if it is hosted, and is in the bucket otherwise. -/
theorem sessionFile_fill (r : JobRequest) (run : RunId) :
    (r.fill run).sessionFile =
      hostedPath (stagingBucketOf run) r.sessionFilePath sessionObject :=
  hostedPath_stagingBucket sessionObject fun hlocal => by simp [needsStaging, hlocal]

/-- The file of the source connection stays if it is hosted, and is in the bucket otherwise. -/
theorem sourceConnection_fill (r : JobRequest) (run : RunId) :
    (r.fill run).sourceConnection =
      hostedPath (stagingBucketOf run) r.sourceConnectionConfig sourceConnectionObject :=
  hostedPath_stagingBucket sourceConnectionObject fun hlocal => by simp [needsStaging, hlocal]

/-- Filling what was filled for the same run decides on the staging bucket anew, and changes nothing
else. -/
theorem fill_fillDefaults (h : r.instanceId ≠ "") (run : RunId) :
    (r.fillDefaults run).fill run =
      { r.fill run with
        stagingRequired := (r.fillDefaults run).needsStaging
        stagingBucketName := (r.fillDefaults run).stagingBucket run } := by
  have hrequest : ((r.fillDefaults run).fill run).request = (r.fill run).request :=
    (filled_fillDefaults h run).fillDefaults_eq run
  have hsession : ((r.fillDefaults run).fill run).sessionFile = (r.fill run).sessionFile :=
    ((r.fillDefaults run).sessionFile_fill run).trans (r.sessionFile_fill run).symm
  have hconnection :
      ((r.fillDefaults run).fill run).sourceConnection = (r.fill run).sourceConnection :=
    ((r.fillDefaults run).sourceConnection_fill run).trans (r.sourceConnection_fill run).symm
  dsimp only
  rw [← hrequest, ← hsession, ← hconnection]
  rfl

/-- The data directory is all of the request that has to be staged. -/
def StagesOnlyData (r : JobRequest) : Prop :=
  UnderScheme r.sessionFilePath ∧ UnderScheme r.sourceConnectionConfig ∧ r.gcsDataDirectory = ""

instance : DecidablePred StagesOnlyData := fun r =>
  inferInstanceAs (Decidable (UnderScheme r.sessionFilePath ∧
    UnderScheme r.sourceConnectionConfig ∧ r.gcsDataDirectory = ""))

/-- The two files have to be staged as before, but there is a data directory now. -/
theorem needsStaging_fillDefaults (r : JobRequest) (run : RunId) :
    (r.fillDefaults run).needsStaging =
      if r.StagesOnlyData then false else r.needsStaging := by
  have hgiven : (r.fillDefaults run).gcsDataDirectory ≠ "" :=
    orElse_ne_empty _ (underScheme_dataDirectoryOf run).ne_empty
  have hagain : (r.fillDefaults run).needsStaging =
      !(isHosted r.sessionFilePath && isHosted r.sourceConnectionConfig) := by
    rw [needsStaging, decide_eq_true hgiven, Bool.and_true]
    rfl
  have honly : r.StagesOnlyData ↔ isHosted r.sessionFilePath = true ∧
      isHosted r.sourceConnectionConfig = true ∧ r.gcsDataDirectory = "" := by
    rw [StagesOnlyData, isHosted_iff_underScheme, isHosted_iff_underScheme]
  rw [hagain, needsStaging]
  split
  next hdata =>
    obtain ⟨hsession, hconnection, -⟩ := honly.1 hdata
    rw [hsession, hconnection]
    rfl
  next hmore =>
    rw [honly] at hmore
    revert hmore
    cases isHosted r.sessionFilePath <;> cases isHosted r.sourceConnectionConfig <;> simp

/-- The text that is stored of a normalized request reads as the request in it. That request is
accepted as it is, whatever the run. For the same run everything comes out the same, except that a
run whose data directory alone was staged is left without its staging bucket. -/
theorem normalize_replayed {n : NormalizedRequest} (h : r.normalize run = .ok n) :
    (∀ location settings,
      codec.decode (utf8 (({ n with location } : NormalizedRequest).catalog settings
        |>.jobEntry.jobData)) = .ok n.request) ∧
    (∀ run', ∃ n', n.request.normalize run' = .ok n' ∧ n'.request = n.request) ∧
      n.request.normalize run = .ok
        (if r.StagesOnlyData then { n with stagingRequired := false, stagingBucketName := "" }
        else n) := by
  obtain ⟨hvalid, rfl⟩ := normalize_eq_ok_iff.1 h
  have hinstance := instanceId_of_accepted hvalid
  have hagain := violation?_fillDefaults hvalid
  refine ⟨fun location settings => NormalizedRequest.decode_request _, fun run' => ?_, ?_⟩
  · exact ⟨_, normalize_eq_ok_iff.2 ⟨hagain run, rfl⟩,
      (filled_fillDefaults hinstance run).fillDefaults_eq run'⟩
  · refine normalize_eq_ok_iff.2 ⟨hagain run, ?_⟩
    rw [show (r.fill run).request = r.fillDefaults run from rfl, fill_fillDefaults hinstance run,
      stagingBucket, needsStaging_fillDefaults]
    split
    next => rfl
    next => rfl

/-- A request with two hosted files, so that only its data directory has to be staged. -/
def hostedFiles : JobRequest where
  projectId := "p1"
  instanceId := "inst"
  databaseId := "db"
  sessionFilePath := "gs://mine/session.json"
  sourceConnectionConfig := "gs://mine/source.json"

/-- The replay gives up the bucket in which the data directory lies. -/
theorem normalize_replayed_of_hostedFiles :
    ∃ n, hostedFiles.normalize "abc" = .ok n ∧ n.stagingBucketName = "smt-rr-gcs-abc" ∧
      n.request.gcsDataDirectory = "gs://smt-rr-gcs-abc/reverse-replication/data" ∧
      n.request.normalize "abc" =
        .ok { n with stagingRequired := false, stagingBucketName := "" } := by
  have hvalid : hostedFiles.violation? = none := by decide
  have hdata : hostedFiles.StagesOnlyData := by decide
  have h : hostedFiles.normalize "abc" = .ok (hostedFiles.fill "abc") :=
    normalize_eq_ok_iff.2 ⟨hvalid, rfl⟩
  refine ⟨hostedFiles.fill "abc", h, by decide, by decide, ?_⟩
  have hreplayed := (normalize_replayed h).2.2
  rw [if_pos hdata] at hreplayed
  exact hreplayed

end JobRequest

end ReverseReplication
