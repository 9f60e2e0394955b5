import GpuSidecar.Core.Http.Message
import GpuSidecar.Core.Http.Reads
import GpuSidecar.Core.Json.Value
import GpuSidecar.Core.List.Best
import GpuSidecar.Core.List.Count
import GpuSidecar.Core.List.Distinct
import GpuSidecar.Core.List.Least
import GpuSidecar.Core.List.Reorder
import GpuSidecar.Core.List.RunningMax
import GpuSidecar.Core.List.Sorted
import GpuSidecar.Core.List.Window
import GpuSidecar.Core.List.Winner
import GpuSidecar.Core.Map.LeastOut
import GpuSidecar.Core.Map.RangeOrder
import GpuSidecar.Core.Number.Double
import GpuSidecar.Core.Number.Extended
import GpuSidecar.Core.Number.Interpolation
import GpuSidecar.Core.Order.Matching
import GpuSidecar.Core.Pool.Ledger
import GpuSidecar.Core.Ring.Buffer
import GpuSidecar.Core.Run.Guarded
import GpuSidecar.Core.Run.Indexed
import GpuSidecar.Core.Run.Keyed
import GpuSidecar.Core.Signal.Smoothing
import GpuSidecar.Core.Text.Decimal
import GpuSidecar.Core.Text.Scan
import GpuSidecar.Core.Time.Duration
import GpuSidecar.Core.Word.Int64
import GpuSidecar.Models.Cache.Convergence
import GpuSidecar.Models.Cache.Directory
import GpuSidecar.Models.Cache.Events
import GpuSidecar.Models.Cache.Eviction
import GpuSidecar.Models.Cache.Explicit
import GpuSidecar.Models.Cache.Freshness
import GpuSidecar.Models.Cache.Index
import GpuSidecar.Models.Cache.Native
import GpuSidecar.Models.Cache.Provider
import GpuSidecar.Models.Cache.Readers
import GpuSidecar.Models.Cache.Refinement
import GpuSidecar.Models.Cache.StalePeriods
import GpuSidecar.Models.Cache.Trust
import GpuSidecar.Models.Dataplane.Conservation
import GpuSidecar.Models.Dataplane.Discipline
import GpuSidecar.Models.Dataplane.Dispatch
import GpuSidecar.Models.Dataplane.Fifo
import GpuSidecar.Models.Dataplane.Proxy
import GpuSidecar.Models.Dataplane.Queue
import GpuSidecar.Models.Dataplane.Quiescence
import GpuSidecar.Models.Dataplane.Relay
import GpuSidecar.Models.Dataplane.Snapshot
import GpuSidecar.Models.Dataplane.Transparency
import GpuSidecar.Models.Dataplane.Wakeup
import GpuSidecar.Models.Dataplane.Work
import GpuSidecar.Models.Engine.Adapters
import GpuSidecar.Models.Engine.Attribution
import GpuSidecar.Models.Engine.Audit
import GpuSidecar.Models.Engine.Availability
import GpuSidecar.Models.Engine.Churn
import GpuSidecar.Models.Engine.DrainEndpoint
import GpuSidecar.Models.Engine.Evidence
import GpuSidecar.Models.Engine.History
import GpuSidecar.Models.Engine.Host
import GpuSidecar.Models.Engine.Memory
import GpuSidecar.Models.Engine.Neutrality
import GpuSidecar.Models.Engine.Outages
import GpuSidecar.Models.Engine.Percentiles
import GpuSidecar.Models.Engine.Readiness
import GpuSidecar.Models.Engine.RecentLog
import GpuSidecar.Models.Engine.Recording
import GpuSidecar.Models.Engine.Reported
import GpuSidecar.Models.Engine.Restarts
import GpuSidecar.Models.Engine.ScoreHistory
import GpuSidecar.Models.Engine.Stability
import GpuSidecar.Models.Engine.Supervisor
import GpuSidecar.Models.Engine.WorkerLog
import GpuSidecar.Models.Engine.Workers
import GpuSidecar.Models.Hops.Correlation
import GpuSidecar.Models.Hops.Reply
import GpuSidecar.Models.Hops.Retry
import GpuSidecar.Models.Hops.TwoHop
import GpuSidecar.Models.Hops.WholeBody
import GpuSidecar.Models.Lifecycle.Confirmation
import GpuSidecar.Models.Lifecycle.Control
import GpuSidecar.Models.Lifecycle.Drain
import GpuSidecar.Models.Lifecycle.FreeMemory
import GpuSidecar.Models.Lifecycle.History
import GpuSidecar.Models.Lifecycle.Machine
import GpuSidecar.Models.Routing.Agreement
import GpuSidecar.Models.Routing.Alternatives
import GpuSidecar.Models.Routing.Breakdown
import GpuSidecar.Models.Routing.Commitment
import GpuSidecar.Models.Routing.EventLog
import GpuSidecar.Models.Routing.Fidelity
import GpuSidecar.Models.Routing.Forward
import GpuSidecar.Models.Routing.Gateway
import GpuSidecar.Models.Routing.Isolation
import GpuSidecar.Models.Routing.Monotone
import GpuSidecar.Models.Routing.Optimal
import GpuSidecar.Models.Routing.Policy
import GpuSidecar.Models.Routing.Polling
import GpuSidecar.Models.Routing.Pressure
import GpuSidecar.Models.Routing.Prompt
import GpuSidecar.Models.Routing.Publishing
import GpuSidecar.Models.Routing.Registry
import GpuSidecar.Models.Routing.RoundRobin
import GpuSidecar.Models.Routing.ServiceRate
import GpuSidecar.Models.Routing.Trace
import GpuSidecar.Models.Runtime.Exposition
import GpuSidecar.Models.Runtime.LineOrder
import GpuSidecar.Models.Runtime.Metrics
import GpuSidecar.Models.Runtime.NonFinite
import GpuSidecar.Models.Runtime.Prometheus
import GpuSidecar.Models.Runtime.Quantile
import GpuSidecar.Models.Runtime.UnknownBounds
import GpuSidecar.Models.Sidecar.Admission
import GpuSidecar.Models.Sidecar.CachePlane
import GpuSidecar.Models.Sidecar.WarmPrefix
import GpuSidecar.Models.Sidecar.WireContract
import GpuSidecar.Models.Trajectory.Delivery
import GpuSidecar.Models.Trajectory.Emitter
import GpuSidecar.Models.Trajectory.Shipment
