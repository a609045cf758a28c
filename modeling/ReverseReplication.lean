import ReverseReplication.Job.Normalize
import ReverseReplication.Job.Record
import ReverseReplication.Main
import ReverseReplication.Manager.Probe
import ReverseReplication.Pipeline.Launch
import ReverseReplication.Proofs.Accounting
import ReverseReplication.Proofs.Cancellation.Run
import ReverseReplication.Proofs.Command.Agreement
import ReverseReplication.Proofs.Commutation.Run
import ReverseReplication.Proofs.Config.Layers
import ReverseReplication.Proofs.Config.Variables
import ReverseReplication.Proofs.Dependence.Run
import ReverseReplication.Proofs.Events
import ReverseReplication.Proofs.Failures.Run
import ReverseReplication.Proofs.Footprint
import ReverseReplication.Proofs.Halting.Outputs
import ReverseReplication.Proofs.Halting.Run
import ReverseReplication.Proofs.Managers.Contract
import ReverseReplication.Proofs.Managers.Launcher
import ReverseReplication.Proofs.Managers.ObjectStore
import ReverseReplication.Proofs.Normalization.Coherence
import ReverseReplication.Proofs.Normalization.Lookup
import ReverseReplication.Proofs.Normalization.Replay
import ReverseReplication.Proofs.Ownership.Flags
import ReverseReplication.Proofs.Ownership.Repeated
import ReverseReplication.Proofs.Records.Resources
import ReverseReplication.Proofs.Records.Status
import ReverseReplication.Proofs.Repetition
import ReverseReplication.Proofs.Restoration
import ReverseReplication.Proofs.Retry
import ReverseReplication.Proofs.RoundTrip
import ReverseReplication.Proofs.Saga.Phases
import ReverseReplication.Proofs.Saga.Reversal
import ReverseReplication.Proofs.Saga.Trace
import ReverseReplication.Proofs.Settlement.Launched
import ReverseReplication.Proofs.Staging.Run
import ReverseReplication.Proofs.Tuning.Acceptance
import ReverseReplication.Proofs.Tuning.Completion
import ReverseReplication.Proofs.Tuning.Layout
import ReverseReplication.Proofs.Tuning.Run
import ReverseReplication.Proofs.Wiring
import ReverseReplication.Provision.ChangeFeed
import ReverseReplication.Provision.JobEntry
import ReverseReplication.Provision.MetadataStore
import ReverseReplication.Provision.Pipeline
import ReverseReplication.Provision.Run
import ReverseReplication.Provision.StagingStore
import ReverseReplication.Saga.Script
import ReverseReplication.Session
import ReverseReplication.Table
import ReverseReplication.World
