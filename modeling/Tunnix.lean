import Tunnix.Client.ReconnectBudget
import Tunnix.Library.Channel
import Tunnix.Client.Relay
import Tunnix.Client.RelayResponse
import Tunnix.Client.RelayEnd
import Tunnix.Client.RelayNotice
import Tunnix.Server.TcpRelay
import Tunnix.Server.TcpReports
import Tunnix.Server.TargetFailure
import Tunnix.Server.UploadEnd
import Tunnix.Library.Source
import Tunnix.System.Composition
import Tunnix.Client.RelayCalm
import Tunnix.Server.TcpCalm
import Tunnix.System.Link
import Tunnix.System.HalfClose
import Tunnix.System.Uplink
import Tunnix.System.OneRelay
import Tunnix.System.SessionReset
import Tunnix.Server.PtyRelay
import Tunnix.Server.Producer
import Tunnix.System.Downlink
import Tunnix.Server.PtyTeardown
import Tunnix.Client.Handler
import Tunnix.Client.HttpProxy
import Tunnix.Client.Socks5
import Tunnix.Client.EntryPoints
import Tunnix.Client.HttpRequest
import Tunnix.Client.OwnHost
import Tunnix.Crypto
import Tunnix.System.Nonces
import Tunnix.Server.PushRelay
import Tunnix.Server.Registry
import Tunnix.Server.RegistryExact
import Tunnix.Client.Dispatch
import Tunnix.Client.DispatchExact
import Tunnix.Library.Framing
import Tunnix.Library.Text
import Tunnix.Encoding
import Tunnix.Client.SseLoop
import Tunnix.Server.SseStream
import Tunnix.System.SseRoundTrip
import Tunnix.Config
import Tunnix.Server.Reload
import Tunnix.Client.Reload
import Tunnix.System.CommandLine
import Tunnix.System.QuietReload
import Tunnix.Library.Watch
import Tunnix.System.LastEdit
import Tunnix.Client.Rotation
import Tunnix.Library.Notify
import Tunnix.System.StreamRotation
import Tunnix.System.Generations
import Tunnix.Client.PullSession
import Tunnix.Server.Grammar
import Tunnix.Client.PushSession
import Tunnix.System.PushConfirm
import Tunnix.Library.Timeline
import Tunnix.Server.SseWatchdog
import Tunnix.Client.DispatchStall
import Tunnix.Client.RelayHalves
import Tunnix.Client.RelayPoll
import Tunnix.Client.HttpExact
import Tunnix.Library.Forwarder
import Tunnix.Library.Outlets
import Tunnix.Server.Forwarding
import Tunnix.Server.SendToClient
import Tunnix.System.QueueExact
import Tunnix.Client.Targets
import Tunnix.Library.Utf8Encode
import Tunnix.Library.Codec
import Tunnix.Wire
import Tunnix.Client.Handshake
import Tunnix.System.SocksTarget
import Tunnix.Archive
import Tunnix.System.ArchiveStream
import Tunnix.Client.ExecSession
import Tunnix.Library.Feed
import Tunnix.Library.Pacing
import Tunnix.Server.SendBudget
import Tunnix.Library.Ending
import Tunnix.Server.TcpEnds
import Tunnix.Server.PushEnds
import Tunnix.Client.RelayRests
import Tunnix.Server.PtyOutput
import Tunnix.Server.PtyWriter
import Tunnix.System.RemoteExec
import Tunnix.System.PullTransfer
import Tunnix.System.PushTransfer
import Tunnix.Sealing
import Tunnix.System.SealedStream
import Tunnix.Library.Pattern
import Tunnix.Server.Routing
import Tunnix.Server.Endpoint
import Tunnix.Server.EndpointRecord
import Tunnix.Server.EndpointIsolation
import Tunnix.Server.EndpointAnswers
import Tunnix.Server.PullArchive
import Tunnix.Server.PullEnds
import Tunnix.System.Keepalive
import Tunnix.Client.Proxy
