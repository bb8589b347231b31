import NodeIdentity.Api.Address
import NodeIdentity.Api.Client
import NodeIdentity.Api.Objects
import NodeIdentity.Api.Repository
import NodeIdentity.Api.Route
import NodeIdentity.Api.Script
import NodeIdentity.Api.Server
import NodeIdentity.Api.Status
import NodeIdentity.Data.Dict
import NodeIdentity.Failure
import NodeIdentity.Format.Basic
import NodeIdentity.Format.Mismatch
import NodeIdentity.Format.Record
import NodeIdentity.Format.Scan
import NodeIdentity.Format.Schema
import NodeIdentity.HostRecords
import NodeIdentity.Json.Basic
import NodeIdentity.Json.Numeral
import NodeIdentity.Json.Passage
import NodeIdentity.Json.Pointer
import NodeIdentity.Json.Position
import NodeIdentity.Json.Reader
import NodeIdentity.Json.Token
import NodeIdentity.Json.Writer
import NodeIdentity.Main
import NodeIdentity.Manifest.Definition
import NodeIdentity.Manifest.FileTree
import NodeIdentity.Manifest.Generator
import NodeIdentity.Manifest.Yaml
import NodeIdentity.Metrics.Exposition
import NodeIdentity.Metrics.Measurement
import NodeIdentity.Number.Binary64
import NodeIdentity.Number.Decimal
import NodeIdentity.Operator.Agenda
import NodeIdentity.Operator.Controller
import NodeIdentity.Operator.LogFilter
import NodeIdentity.Operator.MetricsListener
import NodeIdentity.Operator.Startup
import NodeIdentity.Pass
import NodeIdentity.Proofs.Api.Addresses
import NodeIdentity.Proofs.Api.Agreement
import NodeIdentity.Proofs.Api.Execution
import NodeIdentity.Proofs.Api.LostUpdates
import NodeIdentity.Proofs.Api.PagedGates
import NodeIdentity.Proofs.Api.Pagination
import NodeIdentity.Proofs.Api.PlainCalls
import NodeIdentity.Proofs.Api.PlainServer
import NodeIdentity.Proofs.Api.Race
import NodeIdentity.Proofs.Api.Reconciliation
import NodeIdentity.Proofs.Api.Repository
import NodeIdentity.Proofs.Api.Requests
import NodeIdentity.Proofs.Api.Routing
import NodeIdentity.Proofs.Api.ServerAnswers
import NodeIdentity.Proofs.Api.ServerPages
import NodeIdentity.Proofs.Api.ServerVersions
import NodeIdentity.Proofs.Api.ServerView
import NodeIdentity.Proofs.Api.Upsert
import NodeIdentity.Proofs.Api.UpsertCounts
import NodeIdentity.Proofs.Api.VersionedServer
import NodeIdentity.Proofs.Data.Dict
import NodeIdentity.Proofs.Format.Admission
import NodeIdentity.Proofs.Format.Composition
import NodeIdentity.Proofs.Format.Conformance
import NodeIdentity.Proofs.Format.Reading
import NodeIdentity.Proofs.Format.RoundTrip
import NodeIdentity.Proofs.Format.Sorting
import NodeIdentity.Proofs.HostRecords.Assignments
import NodeIdentity.Proofs.HostRecords.HostList
import NodeIdentity.Proofs.HostRecords.NodeMaps
import NodeIdentity.Proofs.HostRecords.Resolution
import NodeIdentity.Proofs.HostRecords.SearchDomain
import NodeIdentity.Proofs.Json.Members
import NodeIdentity.Proofs.Manifest.Admission
import NodeIdentity.Proofs.Metrics.Counters
import NodeIdentity.Proofs.Operator.Accounting
import NodeIdentity.Proofs.Pass.CallOrder
import NodeIdentity.Proofs.Pass.ChildReports
import NodeIdentity.Proofs.Pass.Conduct
import NodeIdentity.Proofs.Pass.Course
import NodeIdentity.Proofs.Pass.Footprint
import NodeIdentity.Proofs.Pass.Gates
import NodeIdentity.Proofs.Pass.Identity
import NodeIdentity.Proofs.Pass.Independence
import NodeIdentity.Proofs.Pass.Outcome
import NodeIdentity.Proofs.Pass.Publication
import NodeIdentity.Proofs.Pass.Readiness
import NodeIdentity.Proofs.Pass.Records
import NodeIdentity.Proofs.Pass.Repetition
import NodeIdentity.Proofs.Pass.Reservations
import NodeIdentity.Proofs.Pass.Settling
import NodeIdentity.Proofs.Pass.StatusTold
import NodeIdentity.Proofs.Pass.Synchronization
import NodeIdentity.Proofs.Resource.Child
import NodeIdentity.Proofs.Resource.Chosen
import NodeIdentity.Proofs.Resource.Documents
import NodeIdentity.Proofs.Resource.Encoding
import NodeIdentity.Proofs.Resource.Marking
import NodeIdentity.Proofs.Resource.Ownership
import NodeIdentity.Proofs.Resource.RoundTrip
import NodeIdentity.Proofs.Status.Changes
import NodeIdentity.Proofs.Status.Comparison
import NodeIdentity.Proofs.Status.Conditions
import NodeIdentity.Proofs.Status.History
import NodeIdentity.Proofs.Status.Times
import NodeIdentity.Proofs.Status.Transitions
import NodeIdentity.Proofs.Status.Updater
import NodeIdentity.Proofs.Status.Updates
import NodeIdentity.Proofs.Store.Execution
import NodeIdentity.Proofs.Store.Lockstep
import NodeIdentity.Proofs.Store.Memory
import NodeIdentity.Proofs.Store.Upserts
import NodeIdentity.Readiness
import NodeIdentity.Report
import NodeIdentity.ReservationPlan
import NodeIdentity.Resource.Catalog
import NodeIdentity.Resource.Child
import NodeIdentity.Resource.Condition
import NodeIdentity.Resource.Dns
import NodeIdentity.Resource.IPReservation
import NodeIdentity.Resource.Kind
import NodeIdentity.Resource.Metadata
import NodeIdentity.Resource.NetConfig
import NodeIdentity.Resource.NodeSet
import NodeIdentity.Status.State
import NodeIdentity.Status.Updater
import NodeIdentity.Store.Faults
import NodeIdentity.Store.Memory
import NodeIdentity.Store.Peers
import NodeIdentity.Store.Script
import NodeIdentity.Text.Alphanumeric
import NodeIdentity.Text.Blank
import NodeIdentity.Text.CaseTable
import NodeIdentity.Text.FormEncoded
import NodeIdentity.Text.Lines
import NodeIdentity.Text.Lowercase
import NodeIdentity.Text.Quoted
import NodeIdentity.Text.Visibility
