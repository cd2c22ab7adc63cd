import GatewayRealtime.Lib.OrderedMap
import GatewayRealtime.Lib.Multimap
import GatewayRealtime.Lib.ParseInt
import GatewayRealtime.Lib.Run
import GatewayRealtime.Lib.EventLoop
import GatewayRealtime.Lib.StableSort
import GatewayRealtime.Lib.Keyed
import GatewayRealtime.Lib.Buffer
import GatewayRealtime.Lib.FixedWindow
import GatewayRealtime.Lib.Double
import GatewayRealtime.Lib.Timespan
import GatewayRealtime.Types
import GatewayRealtime.EventRecord
import GatewayRealtime.EventStore
import GatewayRealtime.EventStoreInv
import GatewayRealtime.Delivery
import GatewayRealtime.Database
import GatewayRealtime.RefreshToken
import GatewayRealtime.Auth
import GatewayRealtime.RefreshFailure
import GatewayRealtime.KeyRotation
import GatewayRealtime.TokenExpiry
import GatewayRealtime.Signatures
import GatewayRealtime.RateLimit
import GatewayRealtime.LimitWindow
import GatewayRealtime.Permission
import GatewayRealtime.Session
import GatewayRealtime.Dto
import GatewayRealtime.Handlers
import GatewayRealtime.StreamFrame
import GatewayRealtime.Gateway
import GatewayRealtime.Dispatch
import GatewayRealtime.Loop
import GatewayRealtime.Tenants
import GatewayRealtime.Forbidden
import GatewayRealtime.Handling
import GatewayRealtime.Steps
import GatewayRealtime.Registered
import GatewayRealtime.GatewayInv
import GatewayRealtime.Zombie
import GatewayRealtime.Create
import GatewayRealtime.Partition
import GatewayRealtime.DispatchFailure
import GatewayRealtime.Cancellation
import GatewayRealtime.Recipients
import GatewayRealtime.Index
import GatewayRealtime.RecordStep
import GatewayRealtime.Outcome
import GatewayRealtime.PerUserLimit
import GatewayRealtime.Capacity
import GatewayRealtime.Counters
import GatewayRealtime.Completion
import GatewayRealtime.Expiry
import GatewayRealtime.Frames
import GatewayRealtime.Lib.Turns
import GatewayRealtime.Uploads
import GatewayRealtime.Retry
import GatewayRealtime.Lifecycle
import GatewayRealtime.Finality
import GatewayRealtime.Acknowledge
import GatewayRealtime.Isolation
import GatewayRealtime.Attached
import GatewayRealtime.Lib.Replica
import GatewayRealtime.Directory
import GatewayRealtime.Presence
import GatewayRealtime.Watched
import GatewayRealtime.Visits
import GatewayRealtime.NotificationParser
import GatewayRealtime.ProviderCache
import GatewayRealtime.ProviderTenant
import GatewayRealtime.ProviderTimers
import GatewayRealtime.Lib.Rewrite
import GatewayRealtime.PlainText
import GatewayRealtime.Lib.Embedding
import GatewayRealtime.Notification
import GatewayRealtime.NotificationMail
import GatewayRealtime.Outward
import GatewayRealtime.Services
import GatewayRealtime.Server
import GatewayRealtime.ServerMail
import GatewayRealtime.Journal
import GatewayRealtime.CatchUp
import GatewayRealtime.TokenGrants
import GatewayRealtime.Wire
import GatewayRealtime.TokenCheck
import GatewayRealtime.Entrance
import GatewayRealtime.Vouched
import GatewayRealtime.Pulse
import GatewayRealtime.Heartbeat
import GatewayRealtime.Admission
import GatewayRealtime.Grants
