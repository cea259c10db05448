import CatalogBridge.Main
import CatalogBridge.Rehearsal.Edits
import CatalogBridge.Rehearsal.LoopStage
import CatalogBridge.Rehearsal.SyncStage
import CatalogBridge.Rehearsal.WatchStage
import CatalogBridge.Proofs.Cluster.Object
import CatalogBridge.Proofs.Reconcile.Order
import CatalogBridge.Proofs.Sync.Account
import CatalogBridge.Proofs.Sync.Change
import CatalogBridge.Proofs.Sync.Convergence
import CatalogBridge.Proofs.Sync.Idempotence
import CatalogBridge.Proofs.Sync.Isolation
import CatalogBridge.Proofs.Sync.Orphan
import CatalogBridge.Proofs.Sync.Outage
import CatalogBridge.Proofs.Sync.Stand
import CatalogBridge.Proofs.Watch.Attention
import CatalogBridge.Proofs.Backoff
import CatalogBridge.Proofs.Reconcile.Ledger
import CatalogBridge.Proofs.Reconcile.Handoff
import CatalogBridge.Proofs.Reconcile.Readiness
import CatalogBridge.Proofs.Reconcile.Provenance
import CatalogBridge.Proofs.Sync.Routing
import CatalogBridge.Proofs.Reconcile.Schedule
import CatalogBridge.Proofs.Reconcile.Shutdown
import CatalogBridge.Proofs.Sync.Frame
import CatalogBridge.Proofs.Sync.Backing
import CatalogBridge.Proofs.Sync.Reclaim
import CatalogBridge.Proofs.Name.Label
import CatalogBridge.Proofs.Reconcile.Survey
import CatalogBridge.Proofs.Watch.Pacing
import CatalogBridge.Proofs.Sync.Race
import CatalogBridge.Proofs.Consul.Request
import CatalogBridge.Proofs.Consul.Listing
import CatalogBridge.Proofs.Consul.Page
import CatalogBridge.Proofs.Consul.Refusal
import CatalogBridge.Proofs.Cluster.RouteDocument
import CatalogBridge.Proofs.Duration.Reading
import CatalogBridge.Proofs.Settings.Abort
import CatalogBridge.Proofs.Sync.Report
import CatalogBridge.Proofs.Watch.Ceiling
import CatalogBridge.Proofs.Consul.Index
import CatalogBridge.Proofs.Name.Route
