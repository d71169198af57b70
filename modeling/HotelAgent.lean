import HotelAgent.Lib.Run
import HotelAgent.Lib.Table
import HotelAgent.Lib.Text
import HotelAgent.Lib.Json.Syntax
import HotelAgent.Lib.Json.Scan
import HotelAgent.Lib.Json.RoundTrip
import HotelAgent.Lib.Json.Loaded
import HotelAgent.Core.Models
import HotelAgent.Core.Db
import HotelAgent.Kafka.Events
import HotelAgent.Kafka.Consumer
import HotelAgent.Api.Auth
import HotelAgent.Kafka.Delivery
import HotelAgent.Api.Access
import HotelAgent.Api.Bookings
import HotelAgent.Api.BookingInvariants
import HotelAgent.Api.BookingRaces
import HotelAgent.Lib.ReadModifyWrite
import HotelAgent.Api.Serializers
import HotelAgent.Api.VoiceSessions
import HotelAgent.Services.VoiceAgent
import HotelAgent.Services.Conversation
import HotelAgent.Api.ServiceRequests
import HotelAgent.Api.RequestAccess
import HotelAgent.Api.SessionRaces
import HotelAgent.Api.Transcripts
import HotelAgent.Api.Consumers
import HotelAgent.Kafka.Handlers
import HotelAgent.Api.EventFlow
import HotelAgent.Api.RequestCreation
import HotelAgent.Api.RequestOwnership
import HotelAgent.Api.RequestEvents
import HotelAgent.Api.RequestReplay
import HotelAgent.Api.Endpoints
import HotelAgent.Api.GuestIsolation
import HotelAgent.Api.AnonymousAccess
import HotelAgent.Api.SpokenRequests
import HotelAgent.Api.Conversations
import HotelAgent.Api.Registration
import HotelAgent.Api.CleanFailures
import HotelAgent.Api.Replicas
import HotelAgent.Lib.Replication
import HotelAgent.Lib.Sha256
import HotelAgent.Lib.Cache
import HotelAgent.Lib.FixedWindow
import HotelAgent.Core.RateLimit
import HotelAgent.Core.RateWindows
import HotelAgent.Core.RateRaces
import HotelAgent.Core.ForgedHeaders
import HotelAgent.Api.OwnWrites
import HotelAgent.Lib.Channels
import HotelAgent.Api.Sockets
import HotelAgent.Api.Pushes
import HotelAgent.Api.RequestFinish
import HotelAgent.Api.RequestClaims
import HotelAgent.Api.Rest
import HotelAgent.Api.Publishes
import HotelAgent.Api.KafkaOutage
import HotelAgent.Api.SessionGauge
import HotelAgent.Lib.Utf8
import HotelAgent.Kafka.Retries
import HotelAgent.Kafka.DeadLetters
import HotelAgent.Kafka.AuditTrail
import HotelAgent.Api.Lockout
import HotelAgent.Api.LockoutRaces
import HotelAgent.Lib.Occurrences
import HotelAgent.Services.SpokenText
import HotelAgent.Services.Extraction
import HotelAgent.Api.EventOrder
import HotelAgent.Api.Producers
import HotelAgent.Services.HandedOn
import HotelAgent.Api.SpokenRows
import HotelAgent.Api.InHouse
import HotelAgent.Api.ManualRequests
import HotelAgent.Api.RequestFields
import HotelAgent.Api.SessionEnds
import HotelAgent.Api.Accounting
import HotelAgent.Api.Frames
import HotelAgent.Api.SocketTokens
import HotelAgent.Services.GuestLines
import HotelAgent.Api.BookingChecks
import HotelAgent.Api.SessionCreation
import HotelAgent.Api.Urgency
import HotelAgent.Core.RateExpiry
import HotelAgent.Lib.SlidingWindow
import HotelAgent.Core.RateSliding
import HotelAgent.Core.RatePaths
import HotelAgent.Lib.Regex
import HotelAgent.Services.BlockScan
import HotelAgent.Api.StatusGauge
import HotelAgent.Api.RoomCache
import HotelAgent.Api.Mailboxes
import HotelAgent.Api.Statements
import HotelAgent.Api.Standing
import HotelAgent.Api.SessionStream
import HotelAgent.Api.RegistrationRaces
import HotelAgent.Api.GuestConversations
import HotelAgent.Api.CompletionNotices
import HotelAgent.Lib.Keyspaces
import HotelAgent.Api.SharedCache
import HotelAgent.Kafka.ConsumerLoop
import HotelAgent.Lib.Potential
import HotelAgent.Kafka.Feedback
import HotelAgent.Kafka.Backlog
import HotelAgent.Api.SessionLives
import HotelAgent.Api.ErrorEnvelopes
import HotelAgent.Lib.Noninterference
import HotelAgent.Api.GuestViews
import HotelAgent.Api.GuestRuns
import HotelAgent.Api.Analytics
