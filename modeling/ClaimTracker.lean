import ClaimTracker.Age
import ClaimTracker.Api
import ClaimTracker.Api.Lister
import ClaimTracker.Api.ObjectList
import ClaimTracker.Cluster
import ClaimTracker.ClusterObject
import ClaimTracker.CommandLine.Arguments
import ClaimTracker.CommandLine.Execution
import ClaimTracker.CommandLine.Invocation
import ClaimTracker.CommandLine.Parameter
import ClaimTracker.CommandLine.SocketAddress
import ClaimTracker.ConfigMap
import ClaimTracker.Cycle
import ClaimTracker.Date
import ClaimTracker.Double
import ClaimTracker.Durable
import ClaimTracker.Instant
import ClaimTracker.Instant.Parser
import ClaimTracker.Inventory
import ClaimTracker.Json.Basic
import ClaimTracker.Json.Form
import ClaimTracker.Json.Lexer
import ClaimTracker.Json.Reader
import ClaimTracker.Json.Skip
import ClaimTracker.Json.Token
import ClaimTracker.Json.Value
import ClaimTracker.Keep
import ClaimTracker.Keep.Address
import ClaimTracker.Keep.Bucket
import ClaimTracker.Keep.Choice
import ClaimTracker.Keep.Database
import ClaimTracker.Keep.Disk
import ClaimTracker.Keep.Slot
import ClaimTracker.Listing
import ClaimTracker.Main
import ClaimTracker.Metadata
import ClaimTracker.Metrics
import ClaimTracker.NamespaceConfig
import ClaimTracker.NamespaceConfig.Form
import ClaimTracker.NamespacePlan
import ClaimTracker.Overview
import ClaimTracker.Proofs.Cycle.Durability
import ClaimTracker.Proofs.Cycle.Forgetting
import ClaimTracker.Proofs.Durable.Restore
import ClaimTracker.Proofs.Inventory.Contents
import ClaimTracker.Proofs.Inventory.Isolation
import ClaimTracker.Proofs.Listing.Requests
import ClaimTracker.Record
import ClaimTracker.Record.Form
import ClaimTracker.Registry
import ClaimTracker.ResourceType
import ClaimTracker.Schedule
import ClaimTracker.Settings
import ClaimTracker.Snapshot
import ClaimTracker.Tally
import ClaimTracker.Text.Blank
import ClaimTracker.Text.Digits
import ClaimTracker.Text.Percent
import ClaimTracker.Text.Quoted
import ClaimTracker.Text.Uppercase
import ClaimTracker.Text.Utf8
import ClaimTracker.Watch
import ClaimTracker.Watch.Notice
import ClaimTracker.Proofs.Cycle.Visits
import ClaimTracker.Proofs.Cycle.Report
import ClaimTracker.Proofs.Cycle.Steady
import ClaimTracker.Proofs.NamespacePlan.Declarations
import ClaimTracker.Proofs.Cycle.Distinct
import ClaimTracker.Proofs.Inventory.Disjoint
import ClaimTracker.Proofs.Cycle.FailureIsolation
import ClaimTracker.Proofs.Cycle.Precedence
import ClaimTracker.Proofs.Cycle.Orphans
import ClaimTracker.Proofs.Registry.Feed
import ClaimTracker.Proofs.Metrics.Tallies
import ClaimTracker.Proofs.Metrics.Gauges
import ClaimTracker.Proofs.Inventory.Separate
import ClaimTracker.Proofs.NamespacePlan.Reordering
import ClaimTracker.Proofs.Cycle.Alike
import ClaimTracker.Proofs.Cycle.Reordering
import ClaimTracker.Proofs.Cycle.ConfigOrder
import ClaimTracker.Proofs.Durable.Course
import ClaimTracker.Proofs.Durable.PointInTime
import ClaimTracker.Proofs.Durable.Serialized
import ClaimTracker.Proofs.Metrics.Sums
import ClaimTracker.Proofs.Registry.Sightings
import ClaimTracker.Proofs.Cycle.Accounts
import ClaimTracker.Proofs.Inventory.Enrichment
import ClaimTracker.Proofs.Inventory.References
import ClaimTracker.Proofs.Cycle.Interim
import ClaimTracker.Proofs.Cycle.Boundaries
import ClaimTracker.Proofs.NamespacePlan.Pass
import ClaimTracker.Proofs.NamespacePlan.Exactness
import ClaimTracker.Proofs.Cycle.Lapse
import ClaimTracker.Proofs.Json.Refusal
import ClaimTracker.Proofs.Snapshot.Malformed
import ClaimTracker.Proofs.Durable.Restoring
import ClaimTracker.Proofs.Durable.Stability
import ClaimTracker.Proofs.Json.Size
import ClaimTracker.Proofs.Snapshot.Size
import ClaimTracker.Proofs.Durable.Limits
import ClaimTracker.Proofs.Text.Blank
import ClaimTracker.Proofs.ResourceType.Segments
import ClaimTracker.Proofs.ResourceType.Lists
import ClaimTracker.Proofs.Registry.Order
import ClaimTracker.Proofs.Json.Node
import ClaimTracker.Proofs.Json.Verdict
import ClaimTracker.Proofs.Json.Members
import ClaimTracker.Proofs.Json.Records
import ClaimTracker.Proofs.Json.Changes
import ClaimTracker.Proofs.Json.Spelling
import ClaimTracker.Proofs.Snapshot.Variants
import ClaimTracker.Proofs.Inventory.Commuting
import ClaimTracker.Proofs.Keep.Agreement
import ClaimTracker.Proofs.ClusterObject
import ClaimTracker.Proofs.Listing.Offsets
import ClaimTracker.Proofs.Age
import ClaimTracker.Proofs.Durable.Canonical
