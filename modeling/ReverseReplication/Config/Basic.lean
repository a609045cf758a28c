import ReverseReplication.Json.Record
import ReverseReplication.Json.Variant

/-!
# Configuration

What is fixed for all runs: logging, whether a failed run is rolled back, where the pipeline
templates are, and how long staged files are kept.
-/

namespace ReverseReplication

open Json (Codec Record)

/-- The format of log lines. -/
inductive LogFormat where
  | text
  | json
  deriving DecidableEq, Repr, Inhabited

namespace LogFormat

def render : LogFormat → String
  | .text => "text"
  | .json => "json"

/-- The formats by their names. -/
def known : List (String × LogFormat) := [text, json].map fun f => (f.render, f)

def codec : Codec LogFormat := Json.Variants.codec ⟨known, render⟩

end LogFormat

namespace Config

/-- Which log lines are written, and how. -/
structure Logging where
  /-- A level, or a list of filter directives. -/
  level : String := "info"
  format : LogFormat := .text
  deriving DecidableEq, Repr, Inhabited

/-- What happens when a step of a run fails. -/
structure Rollback where
  /-- Are the steps that had completed undone? -/
  compensateOnFailure : Bool := true
  deriving DecidableEq, Repr, Inhabited

/-- Where the templates of the pipelines are. -/
structure Templates where
  reader : String :=
    "gs://dataflow-templates-us-central1/latest/flex/Spanner_Change_Streams_to_Sharded_File_Sink"
  writer : String := "gs://dataflow-templates-us-central1/latest/flex/GCS_to_Sourcedb"
  deriving DecidableEq, Repr, Inhabited

/-- How staged files are kept. -/
structure Staging where
  /-- Files are deleted after so many days; zero keeps them. -/
  ttlDays : UInt32 := 0
  deriving DecidableEq, Repr, Inhabited

end Config

/-- The configuration. -/
structure Config where
  logging : Config.Logging := {}
  rollback : Config.Rollback := {}
  templates : Config.Templates := {}
  staging : Config.Staging := {}
  deriving DecidableEq, Repr, Inhabited

namespace Config

def Logging.codec : Codec Logging :=
  Record.codec {
    title := "LoggingConfig"
    slots := [
      .required "level" .text level fun s c => { c with level := s },
      .required "format" LogFormat.codec format fun f c => { c with format := f }]
    blank := {}
    lenient := false }

def Rollback.codec : Codec Rollback :=
  Record.codec {
    title := "SagaConfig"
    slots := [.required "compensate_on_failure" .bool compensateOnFailure
      fun b c => { c with compensateOnFailure := b }]
    blank := {}
    lenient := false }

def Templates.codec : Codec Templates :=
  Record.codec {
    title := "TemplateConfig"
    slots := [
      .required "reader_template_path" .text reader fun s c => { c with reader := s },
      .required "writer_template_path" .text writer fun s c => { c with writer := s }]
    blank := {}
    lenient := false }

def Staging.codec : Codec Staging :=
  Record.codec {
    title := "StagingConfig"
    slots := [.required "bucket_ttl_days" .uint32 ttlDays fun n c => { c with ttlDays := n }]
    blank := {}
    lenient := false }

def codec : Codec Config :=
  Record.codec {
    title := "AppConfig"
    slots := [
      .required "logging" Logging.codec logging fun v c => { c with logging := v },
      .required "saga" Rollback.codec rollback fun v c => { c with rollback := v },
      .required "templates" Templates.codec templates fun v c => { c with templates := v },
      .required "staging" Staging.codec staging fun v c => { c with staging := v }]
    blank := {}
    lenient := false }

end Config

end ReverseReplication
