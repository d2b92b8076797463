import ContainerWarden.Api.Service
import ContainerWarden.Cli.Command
import ContainerWarden.EventLog.Storage
import ContainerWarden.EventStream
import ContainerWarden.Guard
import ContainerWarden.Handler.Recorder
import ContainerWarden.Instant
import ContainerWarden.Json.Printer
import ContainerWarden.Main
import ContainerWarden.Orphan
import ContainerWarden.Watcher.Timeline
import ContainerWarden.World
import ContainerWarden.Proofs.Metadata.Records
import ContainerWarden.Proofs.Plan.Interleaving
import ContainerWarden.Proofs.Orphan.Trace
import ContainerWarden.Proofs.Orphan.Confluence
import ContainerWarden.Proofs.Orphan.Calls
import ContainerWarden.Proofs.Orphan.Failures
import ContainerWarden.Proofs.Orphan.Residence
import ContainerWarden.Proofs.Duplicate.Selection
import ContainerWarden.Proofs.Duplicate.Trace
import ContainerWarden.Proofs.Duplicate.Fleet
import ContainerWarden.Proofs.Duplicate.LastInstance
import ContainerWarden.Proofs.Duplicate.Convergence
import ContainerWarden.Proofs.Watcher.Conservation
import ContainerWarden.Proofs.Watcher.Changes
import ContainerWarden.Proofs.Watcher.Reporting
import ContainerWarden.Proofs.Router.Delivery
import ContainerWarden.Proofs.Bootstrap.Ingestion
import ContainerWarden.Proofs.Api.Strangers
import ContainerWarden.Proofs.Status.Counters
import ContainerWarden.Proofs.Audit
import ContainerWarden.Proofs.Duplicate.Once
import ContainerWarden.Proofs.EventLog.Columns
import ContainerWarden.Proofs.EventLog.Storage
import ContainerWarden.Proofs.EventLog.Calls
import ContainerWarden.Proofs.Cadence.Growth
import ContainerWarden.Proofs.Guard.Rounds
import ContainerWarden.Proofs.Guard.Pace
import ContainerWarden.Proofs.Cadence.Quantity
import ContainerWarden.Proofs.Guard.Survival
import ContainerWarden.Proofs.Bootstrap.Abandonment
import ContainerWarden.Proofs.Sidecar.Release
import ContainerWarden.Proofs.Watcher.Spacing
import ContainerWarden.Proofs.Handler.Isolation
import ContainerWarden.Proofs.Orphan.Recognition
import ContainerWarden.Proofs.EventLog.Footprint
import ContainerWarden.Proofs.Number.Numeral
import ContainerWarden.Proofs.EventLog.Interference
