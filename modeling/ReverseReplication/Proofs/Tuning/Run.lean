import ReverseReplication.Proofs.Config.Layers
import ReverseReplication.Proofs.Config.Templates
import ReverseReplication.Proofs.Failures.Turns
import ReverseReplication.Proofs.Normalization.Lookup
import ReverseReplication.Proofs.Tuning.Verdict

/-!
# Runs with completed tunings

The templates of a configuration that is loaded are hosted objects, and a request that is located
has a project and a location. So the tunings that a run completes have all that a launch needs, and
no run fails since something is missing (`Launch.make_resolve`): such a failure would be a
pipeline's own, and of those only what `Launch.Verdict` names is left.
-/

namespace ReverseReplication

/-! ## The configuration -/

namespace Config

variable {c : Config}

/-- A template that is accepted is not empty. -/
theorem ne_empty_of_validateTemplate {var path : String} (h : validateTemplate var path = .ok ()) :
    path ≠ "" := by
  obtain ⟨p, hp⟩ := validateTemplate_eq_ok_iff.1 h
  rintro rfl
  cases hp.isHosted

/-- A configuration that is accepted has both templates. -/
theorem templates_of_validate (h : c.validate = .ok ()) :
    c.templates.reader ≠ "" ∧ c.templates.writer ≠ "" := by
  unfold validate at h
  obtain ⟨_, -, htemplates⟩ := bind_eq_ok_iff.1 h
  obtain ⟨_, hreader, hwriter⟩ := bind_eq_ok_iff.1 htemplates
  exact ⟨ne_empty_of_validateTemplate hreader, ne_empty_of_validateTemplate hwriter⟩

/-- A configuration that is loaded has both templates. -/
theorem templates_of_load {files : FileSystem} {envFile? : Option String} {env : Environment}
    (h : load files envFile? env = .ok c) :
    c.templates.reader ≠ "" ∧ c.templates.writer ≠ "" :=
  templates_of_validate (validate_of_load h)

end Config

/-! ## The activities -/

/-- Nothing is missing in the tuning of a pipeline whose defaults and target are complete. -/
theorem Pipeline.Rejects.ne_missingField {p : Pipeline} {cause : ActivityError}
    (h : p.Rejects cause) (htemplate : p.defaults.templatePath ≠ "")
    (hproject : p.target.projectId ≠ "") (hlocation : p.target.location ≠ "")
    (context field : String) : cause ≠ .external context (.launch (.missingField field)) := by
  rintro rfl
  rcases h with ⟨_, hcause⟩ | ⟨tuning, e, hmake, hcause⟩
  · cases hcause
  · cases hcause
    have hverdict := Launch.verdict_resolve htemplate hproject hlocation tuning p.target.jobId
      p.target.suffix p.parameters
    exact hverdict.complete field hmake

namespace DisturbedWorld

/-- Where the templates are named, no run fails since something is missing. -/
theorem provision_not_missing {d : DisturbedWorld} {r : JobRequest} {run : RunId} {rollback : Bool}
    {settings : Settings} {startedAt : Instant} {e : SagaError}
    (hreader : settings.readerTemplate ≠ "") (hwriter : settings.writerTemplate ≠ "")
    (he : (d.provision r run rollback settings startedAt).1 = .error (.saga e))
    (context field : String) : e.cause ≠ .external context (.launch (.missingField field)) := by
  obtain ⟨-, ⟨-, hno⟩ | ⟨result, hunfolds, houtcome⟩⟩ :=
    d.unfolds_provision r run rollback settings startedAt
  · exact absurd he (hno e)
  · rw [(houtcome e).1 he] at hunfolds
    obtain ⟨turn, hturn, hside, hfailed⟩ := hunfolds.cause
    obtain ⟨n, hlocated, hcarries⟩ :=
      d.carriesOut_of_mem_turns r run rollback settings startedAt hturn
    obtain ⟨hproject, hlocation⟩ := JobRequest.placed_of_located hlocated
    have hreported := hcarries.reported rfl hside
    rw [hfailed] at hreported
    rcases hreported with ⟨-, hown⟩ | haccounted
    · have hrejects := hown e.cause rfl
      cases hkind : turn.kind with
      | launchReader =>
        rw [hkind] at hrejects
        exact hrejects.ne_missingField hreader hproject hlocation context field
      | launchWriter =>
        rw [hkind] at hrejects
        exact hrejects.ne_missingField hwriter hproject hlocation context field
      | _ =>
        rw [hkind] at hrejects
        cases hrejects
    · exact haccounted.ne_launch context _

end DisturbedWorld

/-- What a launch of a completed tuning can be refused for. In a run that is given a loaded
configuration, nothing is ever missing. -/
theorem Launch.make_resolve :
    (∀ (t : Tuning) (d : Tuning.Defaults) (projectId location label suffix : String)
        (parameters : Parameters), d.templatePath ≠ "" → projectId ≠ "" → location ≠ "" →
      Verdict t d projectId location parameters
        (make parameters (t.resolve d projectId location label suffix))) ∧
    (∀ files envFile? env c, Config.load files envFile? env = .ok c →
      (c.templates.reader ≠ "" ∧ c.templates.writer ≠ "") ∧
      ∀ (d : DisturbedWorld) r run readerSuffix writerSuffix startedAt e,
        (d.provision r run c.rollback.compensateOnFailure (c.settings readerSuffix writerSuffix)
          startedAt).1 = .error (.saga e) →
        ∀ context field, e.cause ≠ .external context (.launch (.missingField field))) ∧
    ∀ (w : World) (r : JobRequest) run n, ((r.locate run).run World.answer w).1 = .ok n →
      n.request.projectId ≠ "" ∧ n.location ≠ "" := by
  refine ⟨?_, ?_, ?_⟩
  · intro t d projectId location label suffix parameters htemplate hproject hlocation
    exact verdict_resolve htemplate hproject hlocation t label suffix parameters
  · intro files envFile? env c hload
    have htemplates := Config.templates_of_load hload
    refine ⟨htemplates, ?_⟩
    intro d r run readerSuffix writerSuffix startedAt e he context field
    exact DisturbedWorld.provision_not_missing htemplates.1 htemplates.2 he context field
  · intro w r run n hlocated
    exact JobRequest.placed_of_located hlocated

/-- The caller's bound is below the default number of workers. A run with the default configuration
fails at its first launch, and not since something is missing. -/
theorem Launch.make_resolve_of_bounded :
    let tuning : Tuning := { maxWorkers := 3 }
    let config : Config := {}
    let failing := [(.launch, .unavailable "down")]
    make .empty (tuning.resolve (.reader config.templates.reader) "p1" "us-central1" "abc" "r1") =
        .error (.workerBounds 5 3) ∧
      Config.load (fun _ => .error .notFound) none .empty = .ok config ∧
      (∃ e, ((Sample.world Sample.inventory failing).provision Sample.request "abc"
          config.rollback.compensateOnFailure (config.settings "r1" "w1") .epoch).1 =
            .error (.saga e) ∧
        ∀ context field, e.cause ≠ .external context (.launch (.missingField field))) ∧
      ∃ n, ((Sample.request.locate "abc").run World.answer
          (Sample.world Sample.inventory failing).world).1 = .ok n ∧
        n.request.projectId ≠ "" ∧ n.location ≠ "" := by
  intro tuning config failing
  have hload : Config.load (fun _ => .error .notFound) none .empty = .ok config := rfl
  obtain ⟨hmade, hconfig, hlocated⟩ := make_resolve
  obtain ⟨⟨hreader, -⟩, hrun⟩ := hconfig _ _ _ _ hload
  have hverdict := hmade tuning (.reader config.templates.reader) "p1" "us-central1" "abc" "r1"
    .empty hreader (by decide) (by decide)
  refine ⟨(hverdict.overbooked 5 3).2 ⟨⟨by decide, by decide⟩, rfl⟩, hload, ?_, ?_⟩
  · have hfailed : (Sample.sagaError? ((Sample.world Sample.inventory failing).provision
        Sample.request "abc" config.rollback.compensateOnFailure (config.settings "r1" "w1")
        .epoch).1).any (fun _ => true) = true := by decide +kernel
    obtain ⟨e, he, -⟩ := Sample.exists_of_sagaError? _ hfailed
    exact ⟨e, he, hrun _ _ _ _ _ _ e he⟩
  · obtain ⟨n, hn⟩ : ∃ n, ((Sample.request.locate "abc").run World.answer
        (Sample.world Sample.inventory failing).world).1 = .ok n := ⟨_, rfl⟩
    exact ⟨n, hn, hlocated _ _ _ n hn⟩

end ReverseReplication
