import O3k.Attachments.StuckRecord
import O3k.Compute.LiveReferences
import O3k.ConfigDrive.Recovery
import O3k.Coordination.FencingTokens
import O3k.Coordination.LeaseExclusivity
import O3k.Fabric.Agreement
import O3k.Fabric.PolicyRetry
import O3k.FlatNetwork.RemovalUnseen
import O3k.Gateways.Admission
import O3k.Journal.CommandAgreement
import O3k.Journal.ObservationRetry
import O3k.Lifecycle.AsAsked
import O3k.Lifecycle.Fingerprint
import O3k.Location.Reachability
import O3k.Metering.UsageReport
import O3k.Network.PlanWorkFence
import O3k.Placement.LegacyImport
import O3k.Placement.OperatorDrain
import O3k.Placement.Reconciliation
import O3k.Placement.Usage
import O3k.Policy.Sweeps
import O3k.Policy.Truth
import O3k.Operations.Terminalization
import O3k.Quota.LimitGeneration
import O3k.Quota.Scopes
import O3k.Restore.Exactness
import O3k.Scheduler.Constrained
import O3k.Storage.Agreement
import O3k.Transfers.Repetition
import O3k.Planning.Admissible
import O3k.Planning.Fingerprint
import O3k.Stateful.Frame
import O3k.Network.VniAllocation
import O3k.Network.AddressStore
