import GuardedGateway.Gateway.Layers
import GuardedGateway.Lifecycle.Daemon
import GuardedGateway.Logging.Filter
import GuardedGateway.Logging.Start
import GuardedGateway.Main
import GuardedGateway.Proofs.Cluster.View
import GuardedGateway.Proofs.Dispatch.Decision
import GuardedGateway.Proofs.Isolation.Tenants
import GuardedGateway.Proofs.Dispatch.Duration
import GuardedGateway.Proofs.Dispatch.Records
import GuardedGateway.Proofs.Http.Preemption
import GuardedGateway.Proofs.Cluster.Blotting
import GuardedGateway.Proofs.Dispatch.Observation
import GuardedGateway.Proofs.Tool.Arguments
import GuardedGateway.Proofs.Isolation.Secrets
import GuardedGateway.Proofs.Storage.Tree
import GuardedGateway.Proofs.Text.Pieces
import GuardedGateway.Proofs.Storage.Places
import GuardedGateway.Proofs.Storage.FreshName
import GuardedGateway.Proofs.Storage.Progress
import GuardedGateway.Proofs.Storage.Rotation
import GuardedGateway.Proofs.Storage.Outcomes
import GuardedGateway.Proofs.Storage.Days
import GuardedGateway.Proofs.Storage.DayNames
import GuardedGateway.Proofs.Storage.Search
import GuardedGateway.Proofs.Json.Reading
import GuardedGateway.Proofs.Dispatch.Authorization
import GuardedGateway.Proofs.Json.Containment
import GuardedGateway.Proofs.Guard.Redaction
import GuardedGateway.Proofs.Dispatch.Phases
import GuardedGateway.Proofs.Dispatch.Release
import GuardedGateway.Proofs.Dispatch.Agreement
import GuardedGateway.Proofs.Dispatch.Sessions
import GuardedGateway.Proofs.Json.Members
import GuardedGateway.Proofs.Mcp.Replies
import GuardedGateway.Proofs.Settings.Reloading
import GuardedGateway.Proofs.Isolation.History
import GuardedGateway.Proofs.Text.Encoding
import GuardedGateway.Proofs.Json.Scalars
import GuardedGateway.Proofs.Json.RoundTrip
import GuardedGateway.Proofs.Json.TypedReading
import GuardedGateway.Proofs.Tool.Outputs
import GuardedGateway.Proofs.Mcp.Surfaces
import GuardedGateway.Proofs.Cluster.Representable
import GuardedGateway.Proofs.Dispatch.Envelope
import GuardedGateway.Proofs.Tool.Waiting
import GuardedGateway.Proofs.Dispatch.Race
import GuardedGateway.Proofs.Json.Lists
import GuardedGateway.Proofs.Mcp.Lists
import GuardedGateway.Proofs.Audit.Failures
import GuardedGateway.Proofs.Dispatch.Accounting
import GuardedGateway.Proofs.Cluster.Selection
import GuardedGateway.Proofs.Isolation.Instrumentation
import GuardedGateway.Proofs.Isolation.Selectors
import GuardedGateway.Proofs.Trace.Traceparent
import GuardedGateway.Proofs.Trace.Continuity
import GuardedGateway.Proofs.Lifecycle.Delivery
import GuardedGateway.Proofs.Json.OneLine
import GuardedGateway.Proofs.Audit.Lines
import GuardedGateway.Proofs.Isolation.Locality
import GuardedGateway.Proofs.Text.Tail
import GuardedGateway.Proofs.Tool.Questions
import GuardedGateway.Proofs.Dispatch.NotFound
import GuardedGateway.Proofs.Tool.Checks
import GuardedGateway.Proofs.Isolation.Accessible
import GuardedGateway.Proofs.Http.BodyLimit
import GuardedGateway.Proofs.Http.RequestIds
import GuardedGateway.Proofs.Guard.Scrubbing
import GuardedGateway.Proofs.Guard.Allowlist
import GuardedGateway.Proofs.Guard.OutputBound
import GuardedGateway.Proofs.Trace.Grammar
import GuardedGateway.Proofs.Cluster.Terms
import GuardedGateway.Proofs.Tool.Stripping
import GuardedGateway.Proofs.Dispatch.KeyOrder
import GuardedGateway.Proofs.Dispatch.RequiredArguments
