import ApiObservatory.Foundation.Run
import ApiObservatory.Foundation.Rows
import ApiObservatory.Foundation.Window
import ApiObservatory.Foundation.ReadCommitted
import ApiObservatory.Models.Events
import ApiObservatory.Repositories.NotificationDelivery
import ApiObservatory.Notification.Lifecycle
import ApiObservatory.Notification.Statements
import ApiObservatory.Notification.DeadLetters
import ApiObservatory.Notification.InboxStatus
import ApiObservatory.Notification.Intake
import ApiObservatory.Notification.Batch
import ApiObservatory.Outbox.Publisher
import ApiObservatory.Outbox.Publication
import ApiObservatory.Outbox.Fencing
import ApiObservatory.Foundation.UniqueIndex
import ApiObservatory.Models.Incidents
import ApiObservatory.Repositories.Incidents
import ApiObservatory.Incidents.Transactions
import ApiObservatory.Incidents.ActiveKey
import ApiObservatory.Foundation.Json
import ApiObservatory.Models.Sources
import ApiObservatory.Repositories.ContractSchema
import ApiObservatory.Models.Contracts
import ApiObservatory.Repositories.ContractDrift
import ApiObservatory.ContractDrift.Baselines
import ApiObservatory.ContractDrift.Candidate
import ApiObservatory.ContractDrift.Report
import ApiObservatory.ContractDrift.History
import ApiObservatory.ContractDrift.Transactions
import ApiObservatory.ContractDrift.Overlap
import ApiObservatory.Foundation.Latch
import ApiObservatory.Health.Reconcile
import ApiObservatory.Platform.CircuitBreaker
import ApiObservatory.Health.Calls
import ApiObservatory.Health.Automaton
import ApiObservatory.Health.LateSamples
import ApiObservatory.Jobs.Probes
import ApiObservatory.Jobs.Recovery
import ApiObservatory.Jobs.Outage
import ApiObservatory.Repositories.SourceRegistry
import ApiObservatory.Scheduling.Registry
import ApiObservatory.Sources.Routes
import ApiObservatory.Sources.Schedule
import ApiObservatory.Foundation.Closure
import ApiObservatory.Security.Casbin
import ApiObservatory.Security.RoleGuard
import ApiObservatory.Foundation.Text
import ApiObservatory.Security.Jwt
import ApiObservatory.Security.TokenKinds
import ApiObservatory.Models.Users
import ApiObservatory.Repositories.Users
import ApiObservatory.Users.Routes
import ApiObservatory.Users.Confinement
import ApiObservatory.Auth.Routes
import ApiObservatory.Auth.Superadmin
import ApiObservatory.Auth.RefreshTokens
import ApiObservatory.Users.Assignment
import ApiObservatory.Users.LastAdmin
import ApiObservatory.Health.Transactions
import ApiObservatory.Health.Overlap
import ApiObservatory.Models.Observations
import ApiObservatory.Repositories.Observations
import ApiObservatory.Observations.Isolation
import ApiObservatory.Foundation.Noninterference
import ApiObservatory.Foundation.Alike
import ApiObservatory.Foundation.Lru
import ApiObservatory.Platform.ObservationCache
import ApiObservatory.Observations.Routes
import ApiObservatory.Observations.CacheIsolation
import ApiObservatory.Analytics.Routes
import ApiObservatory.Analytics.Isolation
import ApiObservatory.ContractDrift.Routes
import ApiObservatory.ContractDrift.TenantIsolation
import ApiObservatory.Platform.IpAddress
import ApiObservatory.Platform.Urls
import ApiObservatory.Repositories.UrlValidation
import ApiObservatory.Jobs.Rebinding
import ApiObservatory.Platform.Breakers
import ApiObservatory.Platform.BreakerOverlap
import ApiObservatory.Foundation.Tasks
import ApiObservatory.Platform.Bulkhead
import ApiObservatory.Platform.BulkheadSafety
import ApiObservatory.RateLimiting.TokenBucket
import ApiObservatory.RateLimiting.Fallback
import ApiObservatory.Foundation.DoublyLinked
import ApiObservatory.Platform.LruObservationCache
import ApiObservatory.Platform.LruRefinement
import ApiObservatory.Observations.Coherence
import ApiObservatory.Observations.Interleaving
import ApiObservatory.Observations.StaleReads
import ApiObservatory.Platform.RedisLock
import ApiObservatory.Platform.BackgroundWorkers
import ApiObservatory.Platform.WorkerSafety
import ApiObservatory.Foundation.PackedBits
import ApiObservatory.Fetch.UrlSeen
import ApiObservatory.Foundation.BinaryHeap
import ApiObservatory.Jobs.PriorityQueue
import ApiObservatory.Transformations.Pipeline
import ApiObservatory.Transformations.Deduplication
import ApiObservatory.Storage.Events
import ApiObservatory.Storage.EventLifecycle
import ApiObservatory.Observations.Upsert
import ApiObservatory.Foundation.Keyset
import ApiObservatory.Observations.CursorPagination
import ApiObservatory.Observations.Responses
import ApiObservatory.Jobs.Ingestion
import ApiObservatory.Notification.MalformedRecords
import ApiObservatory.Notification.Requests
import ApiObservatory.Agent.Review
import ApiObservatory.Foundation.Clock
import ApiObservatory.Foundation.RollingWindow
import ApiObservatory.Foundation.Keyed
import ApiObservatory.Platform.Retry
import ApiObservatory.RateLimiting.SlidingWindow
import ApiObservatory.Foundation.Refill
import ApiObservatory.RateLimiting.TokenBucketLaw
import ApiObservatory.RateLimiting.RetryAfter
import ApiObservatory.Platform.Backoff
import ApiObservatory.Platform.Resilience
import ApiObservatory.Jobs.Retries
import ApiObservatory.Jobs.Peek
import ApiObservatory.Repositories.PublicTargets
import ApiObservatory.Observations.Timestamps
import ApiObservatory.Sources.Patch
import ApiObservatory.Users.FailedRequests
import ApiObservatory.Notification.Configuration
import ApiObservatory.Foundation.Refractory
import ApiObservatory.Notification.Cooldown
import ApiObservatory.Foundation.Glob
import ApiObservatory.Observations.ListCache
import ApiObservatory.Observations.SourceFilter
import ApiObservatory.Observations.CursorDecoding
import ApiObservatory.Foundation.Joined
import ApiObservatory.ContractDrift.Flattening
import ApiObservatory.ContractDrift.Rearranging
import ApiObservatory.ContractDrift.Removals
import ApiObservatory.ContractDrift.DottedKeys
import ApiObservatory.Security.AbuseDetection
import ApiObservatory.Transformations.Validation
import ApiObservatory.Reporting.Freshness
import ApiObservatory.Dashboard.Sessions
import ApiObservatory.Guardrails.ServiceBoundaries
import ApiObservatory.Foundation.JsonOrder
import ApiObservatory.Analytics.Payloads
import ApiObservatory.Foundation.AsyncLock
import ApiObservatory.Outbox.Producer
import ApiObservatory.Mcp.Logins
import ApiObservatory.Foundation.Lines
import ApiObservatory.Dashboard.MetricsParser
import ApiObservatory.Dashboard.CounterLabels
