import TurbocableServer.Connection.OutboundTeardown
import TurbocableServer.Pubsub.IdentifierRoutes
import TurbocableServer.Gateway.Authorization
import TurbocableServer.Connection.Truncation
import TurbocableServer.Connection.WireSession
import TurbocableServer.Connection.SubscribeAnswers
import TurbocableServer.Gateway.Bookkeeping
import TurbocableServer.Gateway.Unsubscribing
import TurbocableServer.Connection.Admission
import TurbocableServer.Connection.RegistryLocks
import TurbocableServer.Presence.Cleanup
import TurbocableServer.Presence.Reflection
import TurbocableServer.Pubsub.ReplayConsumer
import TurbocableServer.Protocol.StreamKeys
import TurbocableServer.Connection.FanoutEffects
import TurbocableServer.Pubsub.Payloads
import TurbocableServer.Auth.KeyUpdates
import TurbocableServer.Gateway.ReplayPermits
import TurbocableServer.Gateway.FedNode
import TurbocableServer.Gateway.RoamingClient
import TurbocableServer.Gateway.Shutdown
import TurbocableServer.Presence.Lease
import TurbocableServer.Gateway.CutOff
