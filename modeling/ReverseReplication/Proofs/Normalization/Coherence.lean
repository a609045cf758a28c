import Mathlib.Data.List.Forall2
import ReverseReplication.Proofs.Normalization.Acceptance
import ReverseReplication.Proofs.Wiring

/-!
# What is derived from a request fits together

Whether there is a staging bucket, what it is called, and which paths lie in it is derived in
several places from the same fields of the request. `JobRequest.Coherent` says that the results
agree with each other and with what the caller gave. So the paths that the pipelines are handed are
all hosted, and those that are not the caller's lie in the staging bucket of the run
(`JobRequest.normalize_coherent`).
-/

namespace ReverseReplication

open ReverseReplication.Text (utf8)
open Json (Codec Slot Value)

/-! ## Change stream names -/

/-- The name is the given one with underscores in the place of the hyphens. -/
structure Sanitized (given name : String) : Prop where
  chars : List.Forall₂ (fun c d => d = if c = '-' then '_' else c) given.toList name.toList
  length_eq : name.length = given.length
  bytes_eq : (utf8 name).length = (utf8 given).length
  hyphen_free : '-' ∉ name.toList

/-- Whatever is given, the identifier that is made of it has the form of one. -/
theorem sanitized_streamIdentifier (given : String) : Sanitized given (streamIdentifier given) where
  chars := by
    rw [toList_streamIdentifier, List.forall₂_map_right_iff]
    exact List.forall₂_same.2 fun _ _ => rfl
  length_eq := by
    rw [← String.length_toList, toList_streamIdentifier, List.length_map, String.length_toList]
  bytes_eq := by
    rw [utf8, utf8, toList_streamIdentifier, List.flatMap_map, List.length_flatMap,
      List.length_flatMap]
    refine congrArg List.sum (List.map_congr_left fun c _ => ?_)
    split
    next h => rw [h]; decide
    next => rfl
  hyphen_free := hyphen_not_mem_streamIdentifier given

/-! ## Paths -/

/-- A path that the pipelines are handed, the one that the caller gave in its place, and the
parameters of the two pipelines that carry it. -/
structure HandedPath where
  given : String
  handed : String
  readerKey : String
  writerKey : String

/-- The paths that the pipelines of a request are handed. -/
def NormalizedRequest.handedPaths (n : NormalizedRequest) (r : JobRequest) : List HandedPath := [
  ⟨r.sessionFilePath, n.sessionFile, "sessionFilePath", "sessionFilePath"⟩,
  ⟨r.sourceConnectionConfig, n.sourceConnection, "sourceShardsFilePath", "sourceShardsFilePath"⟩,
  ⟨r.gcsDataDirectory, n.request.gcsDataDirectory, "gcsOutputDirectory", "GCSInputDirectoryPath"⟩]

/-- The parameters that have paths for values. -/
def Parameters.pathKeys : List String := [
  "sessionFilePath", "sourceShardsFilePath", "gcsOutputDirectory", "GCSInputDirectoryPath",
  "shardingCustomJarPath"]

/-- The paths among the parameters are hosted, and an archive with code comes with the name of a
class in it. -/
structure Parameters.Hosted (p : Parameters) : Prop where
  paths : ∀ key ∈ pathKeys, ∀ path, p.get? key = some path → JobRequest.UnderScheme path
  sharding : p.contains "shardingCustomJarPath" = p.contains "shardingCustomClassName"

namespace JobRequest

/-! ## The statement -/

/-- What was derived from the request for a run fits together. -/
structure Coherent (r : JobRequest) (run : RunId) (n : NormalizedRequest) : Prop where
  /-- Staging is required if the run puts a path of its own in the place of some path. -/
  staging : n.stagingRequired = true ↔ ∃ p ∈ n.handedPaths r, ¬UnderScheme p.given
  bucket : n.stagingBucketName = if n.stagingRequired then "smt-rr-gcs-" ++ run else ""
  generated : ∀ p ∈ n.handedPaths r, ¬UnderScheme p.given →
    ∃ object, p.handed = "gs://" ++ n.stagingBucketName ++ "/" ++ object
  supplied : ∀ p ∈ n.handedPaths r, UnderScheme p.given → p.handed = p.given
  changeStreamName : Sanitized
    (if r.changeStreamName = "" then "smt-rr-cs-" ++ run else r.changeStreamName)
    n.request.changeStreamName
  timerInterval : n.request.timerInterval.toInt = max 1 r.timerInterval.toInt
  /-- All other fields keep what they are given. -/
  kept : ∀ slot ∈ record.slots, slot.name ≠ "changeStreamName" → slot.name ≠ "timerInterval" →
    slot.write r ≠ .text "" → slot.write n.request = slot.write r

variable {r : JobRequest} {run : RunId}

/-! ## Staging -/

/-- A data directory that is accepted is hosted if it is named at all. -/
theorem gcsDataDirectory_ne_iff (h : r.violation? = none) :
    r.gcsDataDirectory ≠ "" ↔ UnderScheme r.gcsDataDirectory :=
  ⟨(gcsDataDirectory_of_accepted h).resolve_left, UnderScheme.ne_empty⟩

/-- Files are staged unless all three paths are hosted. -/
theorem needsStaging_iff (h : r.violation? = none) :
    r.needsStaging = true ↔ ¬UnderScheme r.sessionFilePath ∨
      ¬UnderScheme r.sourceConnectionConfig ∨ ¬UnderScheme r.gcsDataDirectory := by
  rw [needsStaging, Bool.not_eq_true', ← Bool.not_eq_true, Bool.and_eq_true, Bool.and_eq_true,
    decide_eq_true_eq, gcsDataDirectory_ne_iff h, isHosted_iff_underScheme,
    isHosted_iff_underScheme, and_assoc, not_and_or, not_and_or]

/-- A path that is not hosted is replaced by one in the bucket. -/
theorem hostedPath_generated {path : String} (h : ¬UnderScheme path) (bucket object : String) :
    hostedPath bucket path object = "gs://" ++ bucket ++ "/" ++ object :=
  if_neg (mt isHosted_iff_underScheme.1 h)

/-- A hosted path stays. -/
theorem hostedPath_supplied {path : String} (h : UnderScheme path) (bucket object : String) :
    hostedPath bucket path object = path :=
  if_pos (isHosted_iff_underScheme.2 h)

/-- A data directory that is not named lies in the staging bucket, which is there for its sake. -/
theorem gcsDataDirectory_generated (h : r.violation? = none) (run : RunId)
    (hgenerated : ¬UnderScheme r.gcsDataDirectory) :
    (r.fillDefaults run).gcsDataDirectory =
      "gs://" ++ r.stagingBucket run ++ "/" ++ "reverse-replication/data" := by
  have hempty : r.gcsDataDirectory = "" :=
    (gcsDataDirectory_of_accepted h).resolve_right hgenerated
  have hneeds : r.needsStaging = true := (needsStaging_iff h).2 (.inr (.inr hgenerated))
  rw [stagingBucket, if_pos hneeds]
  exact if_pos hempty

/-- A data directory that is given stays. -/
theorem gcsDataDirectory_supplied (h : r.violation? = none) (run : RunId)
    (hsupplied : UnderScheme r.gcsDataDirectory) :
    (r.fillDefaults run).gcsDataDirectory = r.gcsDataDirectory :=
  orElse_of_ne ((gcsDataDirectory_ne_iff h).2 hsupplied) _

/-! ## The other fields -/

/-- The timer interval becomes at least one second. -/
theorem toInt_timerInterval (r : JobRequest) (run : RunId) :
    (r.fillDefaults run).timerInterval.toInt = max 1 r.timerInterval.toInt := by
  show (if r.timerInterval < 1 then (1 : Int64) else r.timerInterval).toInt = _
  have hone : (1 : Int64).toInt = 1 := rfl
  split
  next h =>
    rw [Int64.lt_iff_toInt_lt, hone] at h
    omega
  next h =>
    rw [Int64.lt_iff_toInt_lt, hone] at h
    omega

/-- A text that is not written as empty is not replaced by the fallback. -/
theorem write_orElse {s : String} (h : Codec.text.write s ≠ .text "") (fallback : String) :
    Codec.text.write (orElse s fallback) = Codec.text.write s := by
  rw [orElse_of_ne]
  rintro rfl
  exact h rfl

/-- Filling in defaults keeps all that is written, apart from two members that have their own
rule. -/
theorem kept_fillDefaults (r : JobRequest) (run : RunId) :
    ∀ slot ∈ record.slots, slot.name ≠ "changeStreamName" → slot.name ≠ "timerInterval" →
      slot.write r ≠ .text "" → slot.write (r.fillDefaults run) = slot.write r := by
  simp only [record, List.forall_mem_cons, List.not_mem_nil, false_implies, implies_true, and_true]
  and_intros
  -- A field is not filled at all, or it is given and so not filled, or it is one of the two.
  all_goals
    intro hstream htimer hgiven
    first
    | rfl
    | exact write_orElse hgiven _
    | exact absurd rfl hstream
    | exact absurd rfl htimer

/-! ## What filling derives -/

/-- Filling in what an accepted request leaves out makes a coherent one. -/
theorem coherent_fill (h : r.violation? = none) (run : RunId) : r.Coherent run (r.fill run) where
  staging := by
    simp only [NormalizedRequest.handedPaths, List.exists_mem_cons_iff, List.not_mem_nil,
      false_and, exists_false, or_false]
    exact needsStaging_iff h
  bucket := rfl
  generated := by
    simp only [NormalizedRequest.handedPaths, List.forall_mem_cons]
    exact ⟨fun hlocal => ⟨_, hostedPath_generated hlocal _ _⟩,
      fun hlocal => ⟨_, hostedPath_generated hlocal _ _⟩,
      fun hnone => ⟨_, gcsDataDirectory_generated h run hnone⟩,
      fun _ hp => absurd hp List.not_mem_nil⟩
  supplied := by
    simp only [NormalizedRequest.handedPaths, List.forall_mem_cons]
    exact ⟨fun hhosted => hostedPath_supplied hhosted _ _,
      fun hhosted => hostedPath_supplied hhosted _ _, gcsDataDirectory_supplied h run,
      fun _ hp => absurd hp List.not_mem_nil⟩
  changeStreamName := sanitized_streamIdentifier _
  timerInterval := toInt_timerInterval r run
  kept := r.kept_fillDefaults run

end JobRequest

/-! ## Parameters -/

namespace NormalizedRequest

open Parameters

/-- The paths that the pipelines are handed are hosted, and custom sharding is given by a hosted
archive and a class in it, or not at all. -/
structure Hosted (n : NormalizedRequest) : Prop where
  sessionFile : JobRequest.UnderScheme n.sessionFile
  sourceConnection : JobRequest.UnderScheme n.sourceConnection
  gcsDataDirectory : JobRequest.UnderScheme n.request.gcsDataDirectory
  sharding : (n.request.shardingCustomJarPath = "" ∧ n.request.shardingCustomClassName = "") ∨
    (n.request.shardingCustomJarPath ≠ "" ∧ n.request.shardingCustomClassName ≠ "" ∧
      JobRequest.UnderScheme n.request.shardingCustomJarPath)

variable {n : NormalizedRequest}

/-- Both pipelines are handed the paths by the parameters that are to carry them. -/
theorem handedPaths_parameters (n : NormalizedRequest) (r : JobRequest) :
    ∀ p ∈ n.handedPaths r, n.readerParameters.get? p.readerKey = some p.handed ∧
      n.writerParameters.get? p.writerKey = some p.handed := by
  simp [handedPaths, readerParameters, writerParameters, get?_insertNonEmpty, Table.get?_ofList]

/-- If the paths of the request are hosted, so are those that the reader is given. -/
theorem Hosted.readerParameters (h : n.Hosted) : n.readerParameters.Hosted where
  paths key hkey path hpath := by
    simp only [pathKeys, List.mem_cons, List.not_mem_nil, or_false] at hkey
    rcases hkey with rfl | rfl | rfl | rfl | rfl
    all_goals
      simp [NormalizedRequest.readerParameters, get?_insertNonEmpty, Table.get?_ofList] at hpath
    · exact hpath ▸ h.sessionFile
    · exact hpath ▸ h.sourceConnection
    · exact hpath ▸ h.gcsDataDirectory
    · rcases h.sharding with ⟨hempty, -⟩ | ⟨-, -, hjar⟩
      · exact absurd hempty hpath.1
      · exact hpath.2 ▸ hjar
  sharding := by
    rcases h.sharding with ⟨hjar, hclass⟩ | ⟨hjar, hclass, -⟩
    all_goals
      simp [Table.contains, NormalizedRequest.readerParameters, get?_insertNonEmpty,
        Table.get?_ofList, hjar, hclass]

/-- If the paths of the request are hosted, so are those that the writer is given. -/
theorem Hosted.writerParameters (h : n.Hosted) : n.writerParameters.Hosted where
  paths key hkey path hpath := by
    simp only [pathKeys, List.mem_cons, List.not_mem_nil, or_false] at hkey
    rcases hkey with rfl | rfl | rfl | rfl | rfl
    all_goals simp [NormalizedRequest.writerParameters, Table.get?_ofList] at hpath
    · exact hpath ▸ h.sessionFile
    · exact hpath ▸ h.sourceConnection
    · exact hpath ▸ h.gcsDataDirectory
  sharding := by
    simp [Table.contains, NormalizedRequest.writerParameters, Table.get?_ofList]

end NormalizedRequest

namespace JobRequest

variable {r : JobRequest} {run : RunId}

/-- A path that is handed is the caller's, which is hosted, or lies in the staging bucket. -/
theorem Coherent.underScheme_handed {n : NormalizedRequest} (h : r.Coherent run n) :
    ∀ p ∈ n.handedPaths r, UnderScheme p.handed := by
  intro p hp
  by_cases hgiven : UnderScheme p.given
  · rw [h.supplied p hp hgiven]
    exact hgiven
  · obtain ⟨object, hobject⟩ := h.generated p hp hgiven
    refine ⟨n.stagingBucketName ++ "/" ++ object, ?_⟩
    rw [hobject]
    simp only [String.append_assoc]

/-- All paths are hosted once an accepted request is filled in. -/
theorem hosted_fill (h : r.violation? = none) (run : RunId) : (r.fill run).Hosted := by
  have hpaths := (coherent_fill h run).underScheme_handed
  simp only [NormalizedRequest.handedPaths, List.forall_mem_cons] at hpaths
  obtain ⟨hsession, hconnection, hdirectory, -⟩ := hpaths
  exact ⟨hsession, hconnection, hdirectory, sharding_of_accepted (r := r) h⟩

/-- What is derived from a request that is accepted fits together. The pipelines are handed the
paths that the run has decided on, all their paths are hosted, and an archive with code comes with
the name of a class in it. -/
theorem normalize_coherent {n : NormalizedRequest} (h : r.normalize run = .ok n) :
    r.Coherent run n ∧ ∀ location settings,
      let catalog := ({ n with location } : NormalizedRequest).catalog settings
      (∀ p ∈ n.handedPaths r,
        catalog.reader.parameters.get? p.readerKey = some p.handed ∧
          catalog.writer.parameters.get? p.writerKey = some p.handed) ∧
        catalog.reader.parameters.Hosted ∧ catalog.writer.parameters.Hosted := by
  obtain ⟨hvalid, rfl⟩ := normalize_eq_ok_iff.1 h
  have hhosted := hosted_fill hvalid run
  exact ⟨coherent_fill hvalid run, fun location settings =>
    ⟨(r.fill run).handedPaths_parameters r, hhosted.readerParameters, hhosted.writerParameters⟩⟩

/-- The session file is local, so the reader is handed a path in the staging bucket. -/
theorem normalize_coherent_of_sample :
    ∃ n, Sample.request.normalize "abc" = .ok n ∧ Sample.request.Coherent "abc" n ∧
      n.stagingBucketName = "smt-rr-gcs-abc" ∧
      (n.catalog Sample.settings).reader.parameters.get? "sessionFilePath" =
        some "gs://smt-rr-gcs-abc/session.json" := by
  have hvalid : Sample.request.violation? = none := by decide
  have h : Sample.request.normalize "abc" = .ok (Sample.request.fill "abc") :=
    normalize_eq_ok_iff.2 ⟨hvalid, rfl⟩
  have hcoherent := normalize_coherent h
  have hsession : (Sample.request.fill "abc").sessionFile = "gs://smt-rr-gcs-abc/session.json" := by
    decide
  refine ⟨Sample.request.fill "abc", h, hcoherent.1, by decide, ?_⟩
  rw [← hsession]
  exact ((hcoherent.2 "" Sample.settings).1 _ List.mem_cons_self).1

end JobRequest

end ReverseReplication
