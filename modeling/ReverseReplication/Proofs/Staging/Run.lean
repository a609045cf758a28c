import ReverseReplication.Proofs.ObjectPaths
import ReverseReplication.Proofs.Settlement.Conditions
import ReverseReplication.Proofs.Staging.Calls

/-!
# What the pipelines read is what the caller gave

Three parts of a run deal with the path of an input file: normalization writes the path that the
pipelines are given, the staging activity puts the file into the bucket under a name, and the object
store reads the path as a bucket and a name. They agree: after a run in calm that succeeds, the
object at the path that the pipelines were given holds the bytes of the local file, whatever the
bucket held before, and a file that the caller hosts is left to the caller
(`DisturbedWorld.provision_stages`).
-/

namespace ReverseReplication

open ReverseReplication.Text (Bytes)

/-! ## The path that the pipelines are given -/

/-- The path of an input file that the pipelines of a run are given. -/
def InputFile.hosted (file : InputFile) (r : JobRequest) (run : RunId) : String :=
  JobRequest.hostedPath (r.stagingBucket run) (file.path r) file.object

/-- Both pipelines are told where an input file is. -/
theorem InputFile.get?_parameter (file : InputFile) (r : JobRequest) (run : RunId)
    (settings : Settings) (role : PipelineRole) :
    (((r.fill run).catalog settings).pipeline role).parameters.get? file.parameter =
      some (file.hosted r run) := by
  cases role with
  | reader =>
    rw [(r.fill run).catalog_reader_parameters settings]
    cases file <;>
      simp [parameter, NormalizedRequest.readerParameters, Parameters.get?_insertNonEmpty,
        Table.get?_ofList] <;> rfl
  | writer =>
    rw [(r.fill run).catalog_writer_parameters settings]
    cases file <;>
      simp [parameter, NormalizedRequest.writerParameters, Table.get?_ofList] <;> rfl

/-- If a file is local, the run has to stage. -/
theorem InputFile.needsStaging {file : InputFile} {r : JobRequest}
    (hlocal : isHosted (file.path r) = false) : r.needsStaging = true := by
  cases file with
  | session =>
    rw [path] at hlocal
    simp [JobRequest.needsStaging, hlocal]
  | sourceConnection =>
    rw [path] at hlocal
    simp [JobRequest.needsStaging, hlocal]

/-- A local file is given by the path of its object in the staging bucket. -/
theorem InputFile.hosted_of_local {file : InputFile} {r : JobRequest} (run : RunId)
    (hlocal : isHosted (file.path r) = false) :
    file.hosted r run = ObjectPath.render ⟨stagingBucketOf run, file.object⟩ := by
  rw [hosted, JobRequest.hostedPath, if_neg (Bool.eq_false_iff.1 hlocal), JobRequest.stagingBucket,
    if_pos (needsStaging hlocal)]

/-- A path that is hosted already is the one that is given on. -/
theorem InputFile.hosted_of_hosted {file : InputFile} {r : JobRequest} (run : RunId)
    (hhosted : isHosted (file.path r) = true) : file.hosted r run = file.path r := by
  rw [hosted, JobRequest.hostedPath, if_pos hhosted]

/-- A run id without slashes makes the staging bucket a bucket that paths can name. -/
theorem named_stagingBucketOf {run : RunId} (hslash : '/' ∉ run.toList) (file : InputFile) :
    ObjectPath.Named ⟨stagingBucketOf run, file.object⟩ where
  bucket_ne := stagingBucketOf_ne_empty run
  slash_free := by
    show '/' ∉ (stagingBucketOf run).toList
    rw [stagingBucketOf, String.toList_append, List.mem_append, not_or]
    exact ⟨by decide, hslash⟩
  object_ne := by
    show file.object ≠ ""
    cases file <;> decide

/-! ## The object that is staged -/

/-- What is staged under the name of a local file is that file. -/
theorem InputFile.stagedAt {file : InputFile} {r : JobRequest} {run : RunId} {settings : Settings}
    {location : String} {files : FileSystem} {contents : Bytes}
    (hlocal : isHosted (file.path r) = false) (hfile : files (file.path r) = .ok contents) :
    (r.catalogAt run settings location).stagingStore.stagedAt files
      ⟨stagingBucketOf run, file.object⟩ = some contents := by
  have hrequired : (r.catalogAt run settings location).stagingStore.stagingRequired = true :=
    needsStaging hlocal
  have hbucket : (r.catalogAt run settings location).stagingStore.bucketName =
      stagingBucketOf run := if_pos hrequired
  have hstaged : ∀ object, (r.catalogAt run settings location).stagingStore.fileAt files
      (file.path r) object ⟨stagingBucketOf run, object⟩ = some contents := by
    intro object
    rw [StagingStore.fileAt, hbucket, if_pos ⟨hlocal, rfl⟩, hfile]
    rfl
  have hother : ∀ path object, file.object ≠ object →
      (r.catalogAt run settings location).stagingStore.fileAt files path object
        ⟨stagingBucketOf run, file.object⟩ = none := by
    intro path object hne
    rw [StagingStore.fileAt, if_neg]
    rintro ⟨-, hpath⟩
    exact hne (ObjectPath.mk.inj hpath).2
  rw [StagingStore.stagedAt, if_pos hrequired]
  cases file with
  | session =>
    rw [hother _ sourceConnectionObject (by decide), Option.none_or]
    exact hstaged sessionObject
  | sourceConnection =>
    have hsource : (r.catalogAt run settings location).stagingStore.fileAt files
        (r.catalogAt run settings location).stagingStore.sourceConnectionConfig
        sourceConnectionObject ⟨stagingBucketOf run, sourceConnectionObject⟩ = some contents :=
      hstaged sourceConnectionObject
    rw [show InputFile.sourceConnection.object = sourceConnectionObject from rfl, hsource]
    rfl

/-! ## Successful runs -/

/-- The path that the pipelines of the sample are given for its session file, which is local. -/
theorem Sample.hosted_session :
    InputFile.session.hosted Sample.request "abc" = "gs://smt-rr-gcs-abc/session.json" := by
  decide +kernel

namespace DisturbedWorld

/-- A local file is read at the path that the pipelines were given. -/
theorem reads_staged {d : DisturbedWorld} (hwithin : d.Within .calm) {r : JobRequest} {run : RunId}
    (hslash : '/' ∉ run.toList) {rollback : Bool} {settings : Settings} {startedAt : Instant}
    {p : Provisioned} (hok : (d.provision r run rollback settings startedAt).1 = .ok p)
    {file : InputFile} (hlocal : isHosted (file.path r) = false) :
    ∃ contents, d.world.files (file.path r) = .ok contents ∧
      ((d.provision r run rollback settings startedAt).2.world.perform
        (.readObject (file.hosted r run))).1 = .ok contents := by
  obtain ⟨location, -, hready, -, hafter⟩ := settled_of_ok hwithin hok
  have hreadable := JobRequest.readable_iff.1 hready.readable
  obtain ⟨contents, hfile⟩ : ∃ contents, d.world.files (file.path r) = .ok contents := by
    cases file with
    | session => exact hreadable.1 hlocal
    | sourceConnection => exact hreadable.2 hlocal
  obtain ⟨hcalm, -⟩ := provision_stays hwithin r run rollback settings startedAt
  generalize (d.provision r run rollback settings startedAt).2 = ended at hafter hcalm
  have hobject : ended.inventory.object? ⟨stagingBucketOf run, file.object⟩ = some contents := by
    rw [hafter, Catalog.settled_object?, StagingStore.object?_settle,
      InputFile.stagedAt hlocal hfile, Option.some_or]
  have hread : ended.inventory.perform (.readObject (file.hosted r run)) =
      .ok (contents, ended.inventory) := by
    rw [InputFile.hosted_of_local run hlocal]
    simp only [Inventory.perform, ObjectPath.parse?_render (named_stagingBucketOf hslash file),
      hobject]
  exact ⟨contents, hfile, ((hcalm.world.perform _).1.eq_of_performed hread).1⟩

/-- What is staged is what the pipelines read. After a run in calm that succeeds, an input file is
at the path that both pipelines were given: a local file has been put there as it is, and a hosted
one is where the caller has it, and nothing is written for it. -/
theorem provision_stages {d : DisturbedWorld} (hwithin : d.Within .calm) (r : JobRequest)
    {run : RunId} (hslash : '/' ∉ run.toList) (rollback : Bool) (settings : Settings)
    (startedAt : Instant) {p : Provisioned}
    (hok : (d.provision r run rollback settings startedAt).1 = .ok p) (file : InputFile) :
    let ended := d.provision r run rollback settings startedAt
    let made := events (r.provision run rollback settings startedAt) d
    ∃ path,
      (∀ role, (((r.fill run).catalog settings).pipeline role).parameters.get? file.parameter =
        some path) ∧
      (∀ e ∈ made, ∀ request, e.query.call? = some (.launch request) →
        request.parameters.get? file.parameter = some path) ∧
      (isHosted (file.path r) = false →
        ∃ contents, d.world.files (file.path r) = .ok contents ∧
          (ended.2.world.perform (.readObject path)).1 = .ok contents) ∧
      (isHosted (file.path r) = true → path = file.path r ∧
        ∀ e ∈ made, ∀ bucket contents,
          e.query.call? ≠ some (.writeObject bucket file.object contents)) := by
  intro ended made
  have hparameter := file.get?_parameter r run settings
  have hsends := (r.calls_provision run rollback settings startedAt).events d
  refine ⟨file.hosted r run, hparameter, ?_, fun hlocal => ?_, fun hhosted => ?_⟩
  · intro e he request hlaunch
    obtain ⟨role, hrole⟩ := hsends e he _ hlaunch
    rw [hrole]
    exact hparameter role
  · exact reads_staged hwithin hslash hok hlocal
  · refine ⟨InputFile.hosted_of_hosted run hhosted, ?_⟩
    intro e he bucket contents hwrite
    obtain ⟨-, file', hlocal, hobject⟩ := hsends e he _ hwrite
    rw [← InputFile.object_injective hobject, hhosted] at hlocal
    cases hlocal

/-- The bucket of the run has another session file at first. After the run, the session file that
the caller has given is read in its place. Nothing is written for the other file, which is
hosted. -/
theorem provision_stages_of_stale_bucket :
    let before := Sample.inventory.putObject "gs://smt-rr-gcs-abc/session.json" [1, 2, 3]
    let made := events (Sample.request.provision "abc" true Sample.settings .epoch)
      (Sample.world before [])
    (((Sample.world before []).provision Sample.request "abc" true Sample.settings .epoch).2.world
        |>.perform (.readObject "gs://smt-rr-gcs-abc/session.json")).1 = .ok [] ∧
      ∀ e ∈ made, ∀ bucket contents,
        e.query.call? ≠ some (.writeObject bucket sourceConnectionObject contents) := by
  intro before made
  obtain ⟨p, hok⟩ : ∃ p, (Sample.run before []).1 = .ok p :=
    Sample.exists_of_toBool (by decide +kernel)
  have hstages := provision_stages (Sample.within_nil before) Sample.request
    (show '/' ∉ "abc".toList by decide)
    true Sample.settings .epoch hok
  constructor
  · obtain ⟨path, hpath, -, hlocal, -⟩ := hstages .session
    have hname : path = "gs://smt-rr-gcs-abc/session.json" := by
      have hgiven := (hpath .reader).symm.trans (InputFile.get?_parameter ..)
      exact (Option.some.inj hgiven).trans Sample.hosted_session
    obtain ⟨contents, hfile, hread⟩ := hlocal (by decide)
    have hempty : contents = [] := (Except.ok.inj hfile).symm
    rw [hname, hempty] at hread
    exact hread
  · obtain ⟨path, -, -, -, hhosted⟩ := hstages .sourceConnection
    exact (hhosted (by decide)).2

end DisturbedWorld

end ReverseReplication
