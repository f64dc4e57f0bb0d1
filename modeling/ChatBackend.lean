import ChatBackend.Auth.DoubleSpend
import ChatBackend.Auth.RevocationFinality
import ChatBackend.Auth.EmailTokenSafety
import ChatBackend.Chat.GroupOwnership
import ChatBackend.Chat.SendPlacement
import ChatBackend.Chat.DeletionFinality
import ChatBackend.Chat.DirectRooms
import ChatBackend.Chat.DirectRoomPairs
import ChatBackend.Chat.ClosedDirectRooms
import ChatBackend.Chat.MembershipAuthorization
import ChatBackend.Ws.Subscriptions
import ChatBackend.Ws.PushAudience
import ChatBackend.Ws.ClosedConnections
import ChatBackend.Ws.BusOverlap
import ChatBackend.Ws.FailedSubscriptions
import ChatBackend.Ws.SingleUseTickets
import ChatBackend.Ws.RecentSigns
import ChatBackend.Ws.PresenceEvents
import ChatBackend.Http.SlidingWindow
import ChatBackend.Migrations.MigrationOrder
import ChatBackend.Chat.MessageIntegrity
import ChatBackend.Chat.Confidentiality
import ChatBackend.Chat.SendingOrder
import ChatBackend.Chat.MessageEvents
import ChatBackend.Ws.RoomSpellings
import ChatBackend.Http.GuardedRoutes
import ChatBackend.Auth.GraceWindow
import ChatBackend.Auth.ActiveTokens
import ChatBackend.Auth.FailedRefresh
import ChatBackend.Auth.ResetFailures
import ChatBackend.Chat.GroupCreation
import ChatBackend.Chat.MembershipRace
import ChatBackend.Chat.LastMessage
import ChatBackend.Chat.ReadPointers
import ChatBackend.Http.RetryAfter
import ChatBackend.Ws.Dispatch
import ChatBackend.Http.OriginChecks
import ChatBackend.Http.AddressedIds
import ChatBackend.Chat.StoredAttachments
import ChatBackend.Crypto.SortableIds
import ChatBackend.Http.RefreshCookie
import ChatBackend.Auth.AccountIsolation
import ChatBackend.Ws.Hub
import ChatBackend.Ws.ClusterRefinement
import ChatBackend.Chat.IdempotentSends
import ChatBackend.Auth.AccessTokens
import ChatBackend.Effects.Inlining
import ChatBackend.Effects.Hosting
import ChatBackend.Http.Api
import ChatBackend.Http.ApiRefinement
import ChatBackend.Http.ApiConfidentiality
