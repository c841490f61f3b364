import Codaze.Accounts.AccessToken
import Codaze.Accounts.Attached
import Codaze.Accounts.AuthInvalid
import Codaze.Accounts.Block
import Codaze.Accounts.BlockFields
import Codaze.Accounts.BlockReasons
import Codaze.Accounts.Candidates
import Codaze.Accounts.Coherence
import Codaze.Accounts.Deleted
import Codaze.Accounts.Detached
import Codaze.Accounts.Disk
import Codaze.Accounts.Dropped
import Codaze.Accounts.FailureTimes
import Codaze.Accounts.Files
import Codaze.Accounts.Interrupted
import Codaze.Accounts.KeptFiles
import Codaze.Accounts.LeastInFlight
import Codaze.Accounts.Lifecycle
import Codaze.Accounts.Load
import Codaze.Accounts.Operations
import Codaze.Accounts.PoolAdvice
import Codaze.Accounts.Reading
import Codaze.Accounts.Record
import Codaze.Accounts.RescanFrame
import Codaze.Accounts.RoundRobin
import Codaze.Accounts.RoutingTruth
import Codaze.Accounts.Selection
import Codaze.Accounts.SyncCoherence
import Codaze.Accounts.SyncPlan
import Codaze.Accounts.SyncSafety
import Codaze.Accounts.Tokens
import Codaze.App.Durability
import Codaze.App.Models
import Codaze.App.Restart
import Codaze.App.Revalidation
import Codaze.Failover.AttachedTokens
import Codaze.Failover.Connect
import Codaze.Failover.Deletion
import Codaze.Failover.DiskLock
import Codaze.Failover.DiskOrder
import Codaze.Failover.FileCauses
import Codaze.Failover.Gateway
import Codaze.Failover.Invalidated
import Codaze.Failover.Invalidation
import Codaze.Failover.Moves
import Codaze.Failover.Occupancy
import Codaze.Failover.Refresh
import Codaze.Failover.Rejections
import Codaze.Failover.Request
import Codaze.Failover.RescanFrame
import Codaze.Failover.RotatedTokens
import Codaze.Failover.Settlements
import Codaze.Failover.SingleFlight
import Codaze.Failover.StaleToken
import Codaze.Failover.Steps
import Codaze.Failover.StoredTokens
import Codaze.Failover.Termination
import Codaze.Failover.Verdicts
import Codaze.Foundation.Amortized
import Codaze.Foundation.Balance
import Codaze.Foundation.Edits
import Codaze.Foundation.EventStream
import Codaze.Foundation.Fields
import Codaze.Foundation.FileNames
import Codaze.Foundation.HashMap
import Codaze.Foundation.HeaderFlow
import Codaze.Foundation.Headers
import Codaze.Foundation.Histories
import Codaze.Foundation.Incremental
import Codaze.Foundation.Indexed
import Codaze.Foundation.Json
import Codaze.Foundation.JsonText
import Codaze.Foundation.Machine
import Codaze.Foundation.Provenance
import Codaze.Foundation.Runs
import Codaze.Foundation.Text
import Codaze.Foundation.Utf8
import Codaze.Responses.Chunking
import Codaze.Responses.ClientView
import Codaze.Responses.ErrorSemantics
import Codaze.Responses.EventFailure
import Codaze.Responses.EventRelay
import Codaze.Responses.GatewayErrors
import Codaze.Responses.Lossless
import Codaze.Responses.ManagedStream
import Codaze.Responses.OpenaiErrors
import Codaze.Responses.Relay
import Codaze.Responses.Rendering
import Codaze.Responses.RequestRejection
import Codaze.Responses.ResponseHeaders
import Codaze.Responses.RetryTimes
import Codaze.Responses.Secrecy
import Codaze.Responses.SequenceNumbers
import Codaze.Responses.SseState
import Codaze.Responses.StreamSettlement
import Codaze.Upstream.CallerHeaders
import Codaze.Upstream.Idempotence
import Codaze.Upstream.InstallationId
import Codaze.Upstream.Isolation
import Codaze.Upstream.Normalization
import Codaze.Upstream.NormalizationEquality
import Codaze.Upstream.NormalizationFrame
import Codaze.Upstream.NormalizationRules
import Codaze.Upstream.Requests
import Codaze.Upstream.SemanticRetry
import Codaze.Upstream.SessionSourceOverride
import Codaze.Websocket.Accounting
import Codaze.Websocket.Delivery
import Codaze.Websocket.DescribedStatus
import Codaze.Websocket.Errors
import Codaze.Websocket.Message
import Codaze.Websocket.Protocol
import Codaze.Websocket.Rounds
import Codaze.Websocket.Session
import Codaze.Websocket.Transparency
import Codaze.Websocket.TransportAgreement
import Codaze.Websocket.Upload
