import ClusterOperator.Backoff
import ClusterOperator.Binary64
import ClusterOperator.Binary64.Numeral
import ClusterOperator.Binary64.Scaled
import ClusterOperator.Binary64.Shortest
import ClusterOperator.Binary64.Written
import ClusterOperator.BootObjects
import ClusterOperator.Cloud.Fault
import ClusterOperator.Cloud.Provisioning
import ClusterOperator.Cloud.Templates
import ClusterOperator.Cluster.Api
import ClusterOperator.Cluster.Kind
import ClusterOperator.Cluster.Object
import ClusterOperator.Cluster.Spec
import ClusterOperator.Cluster.Status
import ClusterOperator.Cluster.Update
import ClusterOperator.Config
import ClusterOperator.Deployment.Content
import ClusterOperator.Deployment.Definition
import ClusterOperator.Deployment.Orchestrator
import ClusterOperator.Duration
import ClusterOperator.Failure
import ClusterOperator.Gateway
import ClusterOperator.Instant
import ClusterOperator.Json.Basic
import ClusterOperator.Json.Canonical
import ClusterOperator.Json.Reader
import ClusterOperator.Json.Record
import ClusterOperator.Json.Tree
import ClusterOperator.Net.Block
import ClusterOperator.Net.Carving
import ClusterOperator.Net.Cidr
import ClusterOperator.Operator
import ClusterOperator.Pass.Context
import ClusterOperator.Pass.ResourceSet
import ClusterOperator.Pass.Step
import ClusterOperator.Program
import ClusterOperator.Proofs.Deployment.Course
import ClusterOperator.Proofs.Pass.Context
import ClusterOperator.Proofs.Retry
import ClusterOperator.Proofs.Status.Cell
import ClusterOperator.Proofs.Status.Conditions
import ClusterOperator.Proofs.Transcript
import ClusterOperator.Records.Diff
import ClusterOperator.Records.Reconcile
import ClusterOperator.Rehearsal.Cloud
import ClusterOperator.Rehearsal.Jobs
import ClusterOperator.Rehearsal.Records
import ClusterOperator.Rehearsal.Replies
import ClusterOperator.Rehearsal.Script
import ClusterOperator.Rehearsal.Store
import ClusterOperator.Rehearsal.World
import ClusterOperator.Retry
import ClusterOperator.Sha256
import ClusterOperator.Telemetry
import ClusterOperator.Text.Blank
import ClusterOperator.Text.Numeral
import ClusterOperator.Text.Printable
import ClusterOperator.Text.Quoted
import ClusterOperator.Watchdog.Agenda
import ClusterOperator.Watchdog.Crew
import ClusterOperator.Watchdog.Guard
import ClusterOperator.Watchdog.Pool
import ClusterOperator.Watchdog.Timetable
import ClusterOperator.Proofs.Deployment.Submissions
import ClusterOperator.Proofs.Backoff
import ClusterOperator.Proofs.Watchdog.Registrations
import ClusterOperator.Proofs.Status.Concurrent
import ClusterOperator.Proofs.Pass.Completion
import ClusterOperator.Proofs.Records.Reconcile
import ClusterOperator.Proofs.Pass.BootObjects
import ClusterOperator.Proofs.Pass.Progress
import ClusterOperator.Proofs.Pass.Readiness
import ClusterOperator.Proofs.Net.Block
import ClusterOperator.Proofs.Net.Carving
import ClusterOperator.Proofs.Json.Members
import ClusterOperator.Proofs.Json.Numbers
import ClusterOperator.Proofs.Json.Sameness
import ClusterOperator.Proofs.Json.Strings
import ClusterOperator.Proofs.Json.Readability
import ClusterOperator.Proofs.Json.Canonical
import ClusterOperator.Proofs.Deployment.Checksum
import ClusterOperator.Proofs.Deployment.Content
import ClusterOperator.Proofs.Deployment.Resubmissions
import ClusterOperator.Proofs.Net.FirstFit
import ClusterOperator.Proofs.Net.Packing
import ClusterOperator.Proofs.Watchdog.Lives
import ClusterOperator.Proofs.Watchdog.Shutdown
import ClusterOperator.Proofs.Json.MergePatch
import ClusterOperator.Proofs.Json.Record
import ClusterOperator.Proofs.Status.Documents
import ClusterOperator.Proofs.Status.Patch
import ClusterOperator.Proofs.Status.Swap
import ClusterOperator.Proofs.Status.Server
import ClusterOperator.Proofs.Records.Store
import ClusterOperator.Proofs.Ensures
import ClusterOperator.Proofs.Records.Convergence
import ClusterOperator.Proofs.Deployment.Pairs
import ClusterOperator.Proofs.Pass.World
import ClusterOperator.Proofs.Pass.Container
import ClusterOperator.Proofs.Pass.Courses
import ClusterOperator.Proofs.Pass.Steady
import ClusterOperator.Proofs.Pass.Journey
import ClusterOperator.Proofs.Deployment.Decisions
import ClusterOperator.Proofs.Pass.Phases
import ClusterOperator.Proofs.Pass.Accounts
import ClusterOperator.Proofs.Watchdog.Order
import ClusterOperator.Proofs.Watchdog.Places
import ClusterOperator.Proofs.Watchdog.Turns
import ClusterOperator.Proofs.Watchdog.Rounds
import ClusterOperator.Proofs.Records.Difference
import ClusterOperator.Proofs.Records.Calls
import ClusterOperator.Proofs.Pass.Endings
import ClusterOperator.Proofs.Pass.Upkeep
import ClusterOperator.Proofs.Pass.Blobs
import ClusterOperator.Proofs.Pass.Vanished
import ClusterOperator.Proofs.Pass.Keeping
import ClusterOperator.Proofs.Deployment.Outputs
import ClusterOperator.Proofs.Pass.Handover
import ClusterOperator.Proofs.Status.Attempts
import ClusterOperator.Proofs.Status.Contention
import ClusterOperator.Proofs.Status.Recording
import ClusterOperator.Proofs.Deployment.Requests
import ClusterOperator.Proofs.Net.Cidr
import ClusterOperator.Proofs.Deployment.Network
import ClusterOperator.Proofs.Json.RoundTrip
import ClusterOperator.Proofs.Deployment.Templates
import ClusterOperator.Proofs.Watchdog.Spots
import ClusterOperator.Proofs.Watchdog.Pacing
import ClusterOperator.Proofs.Watchdog.Guards
import ClusterOperator.Proofs.Watchdog.Reports
import ClusterOperator.Proofs.Watchdog.Asking
import ClusterOperator.Proofs.Watchdog.ScaleSets
import ClusterOperator.Proofs.Watchdog.Guarding
import ClusterOperator.Proofs.Retry.Scripts
import ClusterOperator.Proofs.Text.Numerals
import ClusterOperator.Proofs.Config
