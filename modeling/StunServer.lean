import StunServer.Lib.Tlv
import StunServer.Lib.Loop
import StunServer.Core.StunClientLogic
import StunServer.Core.StunClientTests
import StunServer.Spec.Client
import StunServer.Proofs.FastHash
import StunServer.Proofs.DataStream
import StunServer.Results.Coverage
import StunServer.Results.Routing
import StunServer.Results.Signature
import StunServer.Results.RateLimiter
import StunServer.Results.DatagramCharges
import StunServer.Results.Isolation
import StunServer.Results.TcpServer
import StunServer.Results.Classification
import StunServer.Results.FastHash
import StunServer.Results.Polling
import StunServer.Results.Sweep
import StunServer.Results.Verdicts
import StunServer.Results.AddressValues
import StunServer.Results.Writers
import StunServer.Results.TypedRoundTrip
import StunServer.Results.LengthField
import StunServer.Results.BytesNeeded
import StunServer.Results.Fingerprint
import StunServer.Results.AccessorReads
import StunServer.Results.CredentialCopies
import StunServer.Results.ListenSockets
import StunServer.Results.DataStream
import StunServer.Results.Buffer
import StunServer.Results.TcpClient
import StunServer.Results.TcpSchedule
import StunServer.Results.SampleAuthProvider
import StunServer.Results.AuthReferences
import StunServer.Results.TransactionId
import StunServer.Results.Configuration
import StunServer.Results.Whitespace
import StunServer.Results.NumericOptions
import StunServer.Results.HashWidth
import StunServer.Results.UdpServer
import StunServer.Results.SocketThreads
import StunServer.Spec.UdpNetwork
import StunServer.Results.UdpClient
import StunServer.Results.RateEpochs
import StunServer.Results.TcpThreads
import StunServer.Results.StreamProgress
import StunServer.Results.TcpNetwork
import StunServer.Results.SampleAuthServer
