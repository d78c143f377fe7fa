import MessageManagement.ApiKeys
import MessageManagement.ApiReplies
import MessageManagement.ApiRequests
import MessageManagement.Bootstrap
import MessageManagement.ClaimPublishable
import MessageManagement.ConsumerReadiness
import MessageManagement.Convergence
import MessageManagement.CreateMessage
import MessageManagement.DlqHeaders
import MessageManagement.DlqProvenance
import MessageManagement.DlqRedrive
import MessageManagement.DlqRoundTrip
import MessageManagement.EventFormat
import MessageManagement.FailedTerminal
import MessageManagement.HandleMessage
import MessageManagement.IndexReadiness
import MessageManagement.Library.Base64Url
import MessageManagement.Library.Collection
import MessageManagement.Library.Hex
import MessageManagement.Library.IsoDate
import MessageManagement.Library.Json
import MessageManagement.Library.Keyset
import MessageManagement.Library.Numbers
import MessageManagement.Library.OffsetPages
import MessageManagement.Library.Overwrite
import MessageManagement.Library.PartitionedLog
import MessageManagement.Library.Pattern
import MessageManagement.Library.Properties
import MessageManagement.Library.SearchCluster
import MessageManagement.Library.Separated
import MessageManagement.Library.Text
import MessageManagement.Library.Timers
import MessageManagement.Library.Transition
import MessageManagement.ListMessages
import MessageManagement.ListPage
import MessageManagement.LockOwner
import MessageManagement.LoneReindex
import MessageManagement.Message
import MessageManagement.NoMessageLost
import MessageManagement.OutboxInspection
import MessageManagement.OutboxLifecycle
import MessageManagement.OutboxRedrive
import MessageManagement.OutboxRepository
import MessageManagement.Pipeline
import MessageManagement.PublishAttempts
import MessageManagement.Publisher
import MessageManagement.PublisherDrain
import MessageManagement.PublisherLoop
import MessageManagement.PublisherService
import MessageManagement.Recovery
import MessageManagement.RedriveCommands
import MessageManagement.RedriveLoop
import MessageManagement.Reindex
import MessageManagement.RejectedPublishes
import MessageManagement.RuntimeConfig
import MessageManagement.SavedValues
import MessageManagement.SearchAgreement
import MessageManagement.SearchIndexer
import MessageManagement.SearchPages
import MessageManagement.Verbatim
import MessageManagement.WholeSystem
